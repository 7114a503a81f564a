import UubangIot.Lib.ByteMemory
import UubangIot.Lib.Transition

/-!
# The memory pool

`memorypool.c` over byte memory: a chunk is the header at its first byte, its user area and a
footer that holds the header's address. The descriptors of the blocks lie in front of them and are
records here. The build is for 64-bit Windows: pointers and `mem_size_t` have eight bytes and
`long` has four. A function has no result when it leaves the memory or its loop does not end.
-/

namespace UubangIot.MemoryPool

open ByteMemory

/-! ## Sizes -/

/-- `MP_CHUNKHEADER`. -/
def chunkHeader : Nat := 32
/-- `MP_CHUNKEND`. -/
def chunkEnd : Nat := 8
/-- `sizeof(_MP_Memory)`. -/
def sizeofMemory : Nat := 64
/-- `sizeof(long)`. -/
def sizeofLong : Nat := 4

/-- Addition of `mem_size_t`. -/
def add64 (a b : Nat) : Nat := (a + b) % 2 ^ 64
/-- Subtraction of `mem_size_t`. -/
def sub64 (a b : Nat) : Nat := (a + 2 ^ 64 - b) % 2 ^ 64

/-- `MP_ALIGN_SIZE`. -/
def mpAlignSize (n : Nat) : Nat := sub64 (add64 n sizeofLong) ((sizeofLong - 1) &&& n)

/-- `total_needed_size`. -/
def totalNeededSize (wantsize : Nat) : Nat :=
  mpAlignSize (add64 (add64 wantsize chunkHeader) chunkEnd)

/-! ## Chunks -/

/-- `alloc_mem` of a chunk. -/
def allocMem (memory : Heap) (chunk : Nat) : Option Nat := memory.load chunk 8
/-- `prev` of a chunk. -/
def prev (memory : Heap) (chunk : Nat) : Option Nat := memory.load (chunk + 8) 8
/-- `next` of a chunk. -/
def next (memory : Heap) (chunk : Nat) : Option Nat := memory.load (chunk + 16) 8
/-- `is_free` of a chunk. -/
def isFree (memory : Heap) (chunk : Nat) : Option Nat := memory.load (chunk + 24) 4

/-- `alloc_mem = …`. -/
def setAllocMem (memory : Heap) (chunk size : Nat) : Option Heap := memory.store chunk 8 size
/-- `prev = …`. -/
def setPrev (memory : Heap) (chunk link : Nat) : Option Heap :=
  memory.store (chunk + 8) 8 link
/-- `next = …`. -/
def setNext (memory : Heap) (chunk link : Nat) : Option Heap :=
  memory.store (chunk + 16) 8 link
/-- `is_free = …`. -/
def setIsFree (memory : Heap) (chunk flag : Nat) : Option Heap :=
  memory.store (chunk + 24) 4 flag

/-- The footer that ends at an address. -/
def footer (memory : Heap) (stop : Nat) : Option Nat := memory.load (stop - chunkEnd) 8
/-- Write the footer that ends at an address. -/
def setFooter (memory : Heap) (stop chunk : Nat) : Option Heap :=
  memory.store (stop - chunkEnd) 8 chunk

/-- `MP_DLINKLIST_INS_FRT`. -/
def mpDlinklistInsFrt (memory : Heap) (head x : Nat) : Option (Heap × Nat) := do
  let memory ← setPrev memory x 0
  let memory ← setNext memory x head
  if head = 0 then return (memory, x)
  else
    let memory ← setPrev memory head x
    return (memory, x)

/-- `MP_DLINKLIST_DEL`. -/
def mpDlinklistDel (memory : Heap) (head x : Nat) : Option (Heap × Nat) := do
  let before ← prev memory x
  let after ← next memory x
  if before = 0 then
    if after = 0 then return (memory, after)
    else
      let memory ← setPrev memory after 0
      return (memory, after)
  else
    let memory ← setNext memory before after
    let after ← next memory x
    if after = 0 then return (memory, head)
    else
      let before ← prev memory x
      let memory ← setPrev memory after before
      return (memory, head)

/-! ## Blocks -/

/-- `_MP_Memory`. -/
structure MPMemory where
  /-- `start`. -/
  start : Nat
  /-- `id`. -/
  id : Nat
  /-- `mem_pool_size`. -/
  memPoolSize : Nat
  /-- `alloc_mem`. -/
  allocMem : Nat
  /-- `alloc_prog_mem`. -/
  allocProgMem : Nat
  /-- `free_list`. -/
  freeList : Nat
  /-- `alloc_list`. -/
  allocList : Nat
  deriving DecidableEq, Repr

/-- The address after the block. -/
def MPMemory.stop (mm : MPMemory) : Nat := mm.start + mm.memPoolSize

/-- `MemoryPool`, with the memory it manages. -/
structure Pool where
  /-- `last_id`. -/
  lastId : Nat
  /-- `auto_extend`. -/
  autoExtend : Bool
  /-- `mem_pool_size`. -/
  memPoolSize : Nat
  /-- `total_mem_pool_size`. -/
  totalMemPoolSize : Nat
  /-- `max_mem_pool_size`. -/
  maxMemPoolSize : Nat
  /-- `mlist`. -/
  mlist : List MPMemory
  /-- The memory. -/
  memory : Heap

/-- `MP_INIT_MEMORY_STRUCT`. -/
def mpInitMemoryStruct (memory : Heap) (mm : MPMemory) (memSz : Nat) :
    Option (Heap × MPMemory) := do
  let memory ← setIsFree memory mm.start 1
  let memory ← setAllocMem memory mm.start memSz
  let memory ← setPrev memory mm.start 0
  let memory ← setNext memory mm.start 0
  return (memory, { mm with
    memPoolSize := memSz, allocMem := 0, allocProgMem := 0, freeList := mm.start, allocList := 0 })

/-- A descriptor in memory from `malloc`; its other fields are written by
`MP_INIT_MEMORY_STRUCT`. -/
def MPMemory.fresh (s id : Nat) : MPMemory := ⟨s + sizeofMemory, id, 0, 0, 0, 0, 0⟩

/-- `extend_memory_list`, after `malloc` has returned `s`. -/
def extendMemoryList (mp : Pool) (newMemSz s : Nat) : Option Pool := do
  let (memory, mm) ← mpInitMemoryStruct mp.memory (.fresh s mp.lastId) newMemSz
  return { mp with memory, mlist := mm :: mp.mlist, lastId := (mp.lastId + 1) % 2 ^ 32 }

/-- `find_memory_list`. -/
def findMemoryList (mp : Pool) (p : Nat) : Option MPMemory :=
  mp.mlist.find? fun mm => mm.start ≤ p && p < mm.start + mp.memPoolSize

/-! ## Allocation -/

/-- `while (_free)` of `MemoryPoolAlloc`: the first chunk of the list that is large enough. -/
def findChunk (memory : Heap) (need : Nat) : (fuel : Nat) → (free : Nat) → Option (Option Nat)
  | 0, _ => none
  | fuel + 1, free =>
    if free = 0 then some none
    else do
      let size ← allocMem memory free
      if need ≤ size then return some free
      else
        let free ← next memory free
        findChunk memory need fuel free

/-- `*_free = *_not_free` and on: the header and the footer of the rest of a chunk. -/
def copyChunk (memory : Heap) (notFree free need : Nat) : Option Heap := do
  let size ← allocMem memory notFree
  let before ← prev memory notFree
  let after ← next memory notFree
  let flag ← isFree memory notFree
  let memory ← setAllocMem memory free size
  let memory ← setPrev memory free before
  let memory ← setNext memory free after
  let memory ← setIsFree memory free flag
  let size ← allocMem memory free
  let memory ← setAllocMem memory free (sub64 size need)
  let size ← allocMem memory free
  setFooter memory (free + size) free

/-- `if (_free->next) _free->next->prev = _free`. -/
def linkBack (memory : Heap) (free : Nat) : Option Heap := do
  let after ← next memory free
  if after = 0 then return memory else setPrev memory after free

/-- "update free_list": the neighbours of the old chunk are linked to the new one. -/
def updateFreeList (memory : Heap) (freeList free : Nat) : Option (Heap × Nat) := do
  let before ← prev memory free
  if before = 0 then
    let memory ← linkBack memory free
    return (memory, free)
  else
    let memory ← setNext memory before free
    let memory ← linkBack memory free
    return (memory, freeList)

/-- `_not_free->is_free = 0` and on: the header and the footer of the allocated part. -/
def markAllocated (memory : Heap) (notFree need : Nat) : Option Heap := do
  let memory ← setIsFree memory notFree 0
  let memory ← setAllocMem memory notFree need
  setFooter memory (notFree + need) notFree

/-- The front of a free chunk becomes a chunk of its own, the rest takes its place in the free
list. -/
def splitChunk (memory : Heap) (freeList notFree need : Nat) : Option (Heap × Nat) := do
  let free := notFree + need
  let memory ← copyChunk memory notFree free need
  let (memory, freeList) ← updateFreeList memory freeList free
  let memory ← markAllocated memory notFree need
  return (memory, freeList)

/-- A free chunk is allocated whole. -/
def wholeChunk (memory : Heap) (freeList notFree : Nat) : Option (Heap × Nat) := do
  let (memory, freeList) ← mpDlinklistDel memory freeList notFree
  let memory ← setIsFree memory notFree 0
  return (memory, freeList)

/-- A part of a free chunk that is large enough when the rest holds more than a header and a
footer, else all of it. -/
def cutChunk (memory : Heap) (freeList free size need : Nat) : Option (Heap × Nat) :=
  if chunkHeader + chunkEnd < sub64 size need then splitChunk memory freeList free need
  else wholeChunk memory freeList free

/-- Allocate from a free chunk that is large enough. -/
def takeChunk (memory : Heap) (mm : MPMemory) (free need : Nat) :
    Option (Heap × MPMemory × Nat) := do
  let size ← allocMem memory free
  let (memory, freeList) ← cutChunk memory mm.freeList free size need
  let (memory, allocList) ← mpDlinklistInsFrt memory mm.allocList free
  let size ← allocMem memory free
  return (memory, { mm with
    freeList, allocList, allocMem := add64 mm.allocMem size
    allocProgMem := add64 mm.allocProgMem (sub64 (sub64 size chunkHeader) chunkEnd) },
    free + chunkHeader)

/-- A block in the search of `MemoryPoolAlloc`; one without so much unallocated memory is passed
over. -/
def searchBlock (memPoolSize need : Nat) (memory : Heap) (mm : MPMemory) :
    Option (Option Nat) :=
  if sub64 memPoolSize mm.allocMem < need then some none
  else findChunk memory need (mm.memPoolSize + 1) mm.freeList

/-- `while (mm)` of `MemoryPoolAlloc`: the memory, the blocks and the pointer, or nothing found. -/
def findFreeChunk (memPoolSize need : Nat) (memory : Heap) :
    List MPMemory → Option (Option (Heap × List MPMemory × Nat))
  | [] => some none
  | mm :: rest => do
    let found ← searchBlock memPoolSize need memory mm
    match found with
    | some free =>
      let (memory, mm, p) ← takeChunk memory mm free need
      return some (memory, mm :: rest, p)
    | none =>
      let later ← findFreeChunk memPoolSize need memory rest
      return later.map fun (memory, rest, p) => (memory, mm :: rest, p)

/-- `add_mem_sz`. -/
def addMemSz (mp : Pool) : Nat :=
  let addMemSz := sub64 mp.maxMemPoolSize mp.memPoolSize
  if mp.memPoolSize ≤ addMemSz then mp.memPoolSize else addMemSz

/-- `FIND_FREE_CHUNK` and on: search the blocks and extend the pool, with the answers of `malloc`
(an address, or NULL). The result is the pool and the pointer, or NULL. -/
def allocLoop (need : Nat) (mp : Pool) (mallocs : List (Option Nat)) :
    Option (Pool × Option Nat) := do
  let found ← findFreeChunk mp.memPoolSize need mp.memory mp.mlist
  match found with
  | some (memory, mlist, p) => return ({ mp with memory, mlist }, some p)
  | none =>
    if mp.autoExtend = false ∨ mp.maxMemPoolSize ≤ mp.totalMemPoolSize then return (mp, none)
    else
      match mallocs with
      | [] => none
      | none :: _ => return (mp, none)
      | some s :: mallocs =>
        let added := addMemSz mp
        let mp ← extendMemoryList mp added s
        allocLoop need { mp with totalMemPoolSize := add64 mp.totalMemPoolSize added } mallocs

/-- `MemoryPoolAlloc`. -/
def memoryPoolAlloc (mp : Pool) (wantsize : Nat) (mallocs : List (Option Nat)) :
    Option (Pool × Option Nat) :=
  if wantsize = 0 then some (mp, none)
  else if mp.memPoolSize < totalNeededSize wantsize then some (mp, none)
  else allocLoop (totalNeededSize wantsize) mp mallocs

/-! ## Release -/

/-- `while (p0->is_free)` of `merge_free_chunk`: the first chunk of the free run that ends at
`p0`, where `p1` is the chunk after `p0`. -/
def mergeBackLoop (memory : Heap) (start : Nat) : (fuel p0 p1 : Nat) → Option Nat
  | 0, _, _ => none
  | fuel + 1, p0, p1 => do
    let flag ← isFree memory p0
    if flag = 0 then return p1
    else if p0 ≤ start + chunkEnd + chunkHeader then return p0
    else
      let before ← footer memory p0
      mergeBackLoop memory start fuel before p0

/-- The second loop of `merge_free_chunk`: free chunks before the limit go into `p1`. -/
def mergeForwardLoop (limit p1 : Nat) :
    (fuel : Nat) → (memory : Heap) → (freeList p0 : Nat) → Option (Heap × Nat)
  | 0, _, _, _ => none
  | fuel + 1, memory, freeList, p0 =>
    if limit ≤ p0 then some (memory, freeList)
    else do
      let flag ← isFree memory p0
      if flag = 0 then return (memory, freeList)
      else
        let (memory, freeList) ← mpDlinklistDel memory freeList p0
        let own ← allocMem memory p1
        let size ← allocMem memory p0
        let memory ← setAllocMem memory p1 (add64 own size)
        let size ← allocMem memory p0
        mergeForwardLoop limit p1 fuel memory freeList (p0 + size)

/-- `merge_free_chunk`. -/
def mergeFreeChunk (mp : Pool) (memory : Heap) (mm : MPMemory) (c : Nat) :
    Option (Heap × MPMemory) := do
  let p1 ← mergeBackLoop memory mm.start (mm.memPoolSize + 1) c c
  let size ← allocMem memory p1
  let (memory, freeList) ← mergeForwardLoop (mm.start + mp.memPoolSize) p1 (mm.memPoolSize + 1)
    memory mm.freeList (p1 + size)
  let size ← allocMem memory p1
  let memory ← setFooter memory (p1 + size) p1
  return (memory, { mm with freeList })

/-- `MemoryPoolFree` before `merge_free_chunk`: the chunk goes from the allocated to the free
list. -/
def releaseChunk (memory : Heap) (mm : MPMemory) (ck : Nat) : Option (Heap × MPMemory) := do
  let (memory, allocList) ← mpDlinklistDel memory mm.allocList ck
  let (memory, freeList) ← mpDlinklistInsFrt memory mm.freeList ck
  let memory ← setIsFree memory ck 1
  let size ← allocMem memory ck
  return (memory, { mm with
    freeList, allocList, allocMem := sub64 mm.allocMem size
    allocProgMem := sub64 mm.allocProgMem (sub64 (sub64 size chunkHeader) chunkEnd) })

/-- The block `MemoryPoolFree` takes a pointer to belong to. -/
def blockOf (mp : Pool) (p : Nat) : Option MPMemory :=
  if mp.autoExtend then findMemoryList mp p else mp.mlist.head?

/-- Write a descriptor back. -/
def updateBlock (mlist : List MPMemory) (mm : MPMemory) : List MPMemory :=
  mlist.map fun other => if other.start = mm.start then mm else other

/-- `MemoryPoolFree` of a pointer that is not NULL. -/
def memoryPoolFree (mp : Pool) (p : Nat) : Option Pool := do
  let mm ← blockOf mp p
  let (memory, mm) ← releaseChunk mp.memory mm (p - chunkHeader)
  let (memory, mm) ← mergeFreeChunk mp memory mm (p - chunkHeader)
  return { mp with memory, mlist := updateBlock mp.mlist mm }

/-! ## The pool as a whole -/

/-- `while (mm)` of `MemoryPoolClear`. -/
def clearLoop (memory : Heap) : List MPMemory → Option (Heap × List MPMemory)
  | [] => some (memory, [])
  | mm :: rest => do
    let (memory, mm) ← mpInitMemoryStruct memory mm mm.memPoolSize
    let (memory, rest) ← clearLoop memory rest
    return (memory, mm :: rest)

/-- `MemoryPoolClear`. -/
def memoryPoolClear (mp : Pool) : Option Pool := do
  let (memory, mlist) ← clearLoop mp.memory mp.mlist
  return { mp with memory, mlist }

/-- `MemoryPoolInit`, after `malloc` has returned `s` for the first block. `auto_extend` is written
only for a pool that may grow. -/
def memoryPoolInit (maxmempoolsize mempoolsize : Nat) (uninitialised : Bool) (s : Nat)
    (byte : Nat → UInt8) : Option Pool := do
  if maxmempoolsize < mempoolsize then none
  else
    let (memory, mm) ← mpInitMemoryStruct ⟨byte, 0, 2 ^ 64⟩ (.fresh s 0) mempoolsize
    return { lastId := 1
             autoExtend := if mempoolsize < maxmempoolsize then true else uninitialised
             memPoolSize := mempoolsize, totalMemPoolSize := mempoolsize
             maxMemPoolSize := maxmempoolsize, mlist := [mm], memory }

/-- `GetTotalMemory`. -/
def getTotalMemory (mp : Pool) : Nat := mp.totalMemPoolSize

/-- `GetUsedMemory`. -/
def getUsedMemory (mp : Pool) : Nat :=
  mp.mlist.foldl (fun totalAlloc mm => add64 totalAlloc mm.allocMem) 0

/-! ## Runs -/

/-- The memory that `malloc` gave for a block, its descriptor in front. -/
def MPMemory.Apart (first second : MPMemory) : Prop :=
  first.stop ≤ second.start - sizeofMemory ∨ second.stop ≤ first.start - sizeofMemory

instance (first second : MPMemory) : Decidable (first.Apart second) :=
  inferInstanceAs (Decidable (_ ∨ _))

/-- `malloc` gives memory inside the address space, and to no two blocks the same. -/
def Placed (mlist : List MPMemory) : Prop :=
  (∀ mm ∈ mlist, sizeofMemory < mm.start ∧ mm.stop ≤ 2 ^ 64) ∧ mlist.Pairwise MPMemory.Apart

instance (mlist : List MPMemory) : Decidable (Placed mlist) :=
  inferInstanceAs (Decidable (_ ∧ _))

/-- The blocks at the answers of `malloc`, the last one first. -/
def answered (mp : Pool) (mallocs : List (Option Nat)) : List MPMemory :=
  (mallocs.filterMap id).reverse.map fun s =>
    { MPMemory.fresh s 0 with memPoolSize := addMemSz mp }

/-- A pool and the allocations that live in it, each with the size it was requested with. -/
structure PoolState where
  /-- The pool. -/
  mp : Pool
  /-- The pointers and their sizes. -/
  live : List (Nat × Nat)

/-- A call of the pool's interface. -/
inductive PoolCall
  /-- `MemoryPoolAlloc`, with the answers of `malloc`. -/
  | alloc (wantsize : Nat) (mallocs : List (Option Nat))
  /-- `MemoryPoolFree` of an allocated pointer. -/
  | free (p : Nat)
  /-- `MemoryPoolClear`. -/
  | clear

/-- The state after a call. `malloc` gives memory that is not in use, and a pointer that is not
allocated is not freed. -/
def PoolState.call (state : PoolState) : PoolCall → Option PoolState
  | .alloc wantsize mallocs =>
    if Placed (answered state.mp mallocs ++ state.mp.mlist) then do
      let (mp, p) ← memoryPoolAlloc state.mp wantsize mallocs
      return ⟨mp, (p.toList.map fun p => (p, wantsize)) ++ state.live⟩
    else none
  | .free p =>
    if p ∈ state.live.map Prod.fst then do
      let mp ← memoryPoolFree state.mp p
      return ⟨mp, state.live.filter fun allocation => allocation.1 ≠ p⟩
    else none
  | .clear => do
    let mp ← memoryPoolClear state.mp
    return ⟨mp, []⟩

/-- The pool under the calls of its interface. -/
def poolSystem : Transition.System PoolState PoolCall := ⟨PoolState.call⟩

end UubangIot.MemoryPool
