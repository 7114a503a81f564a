import UubangIot.Verif.PoolContents

/-!
# The pool as a store

What the pool is for: a store of allocations, each with a size of its own and the bytes its client
has written there. The clients of the pool write into their allocations between its calls. Every run
of the pool and its clients is one of the store under the calls that the run shows (`storeCalls`),
and a client reads what it has written last.
-/

namespace UubangIot.MemoryPool

open ByteMemory DoublyLinked Transition

/-! ## The store -/

/-- An allocation as its client knows it. -/
structure Item where
  /-- The size it was requested with. -/
  size : Nat
  /-- The bytes that were written. -/
  byte : Nat → Option UInt8

/-- The live allocations by their pointers. -/
abbrev Store := Nat → Option Item

/-- A call of a store. -/
inductive StoreCall
  /-- An allocation that was not live is. -/
  | alloc (p size : Nat)
  /-- A live allocation is so no more. -/
  | free (p : Nat)
  /-- No allocation is live. -/
  | clear
  /-- A byte of a live allocation is written. -/
  | write (p offset : Nat) (byte : UInt8)

/-- The item with a byte written. -/
def Item.write (item : Item) (offset : Nat) (byte : UInt8) : Item :=
  { item with byte := Function.update item.byte offset (some byte) }

/-- The byte that was written is read. -/
@[simp]
theorem Item.write_byte_self (item : Item) (offset : Nat) (byte : UInt8) :
    (item.write offset byte).byte offset = some byte := Function.update_self _ _ _

/-- The other bytes are kept. -/
theorem Item.write_byte_of_ne {item : Item} {offset other : Nat} {byte : UInt8}
    (differ : other ≠ offset) : (item.write offset byte).byte other = item.byte other :=
  Function.update_of_ne differ _ _

/-- The store after a call. -/
def Store.call (store : Store) : StoreCall → Option Store
  | .alloc p size =>
    if (store p).isSome then none
    else some (Function.update store p (some ⟨size, fun _ => none⟩))
  | .free p => if (store p).isSome then some (Function.update store p none) else none
  | .clear => some fun _ => none
  | .write p offset byte =>
    (store p).bind fun item =>
      if offset < item.size then some (Function.update store p (some (item.write offset byte)))
      else none

/-- A store under its calls. -/
def storeSystem : System Store StoreCall := ⟨Store.call⟩

/-! ## The pool and its clients -/

/-- A call of the pool, or a byte that a client writes. -/
inductive ClientCall
  /-- A call of the pool's interface. -/
  | pool (call : PoolCall)
  /-- `p[offset] = byte`. -/
  | write (p offset : Nat) (byte : UInt8)

/-- The pool after a call or a write. A client writes into its own allocation. -/
def PoolState.clientCall (state : PoolState) : ClientCall → Option PoolState
  | .pool call => state.call call
  | .write p offset byte =>
    if ∃ allocation ∈ state.live, allocation.1 = p ∧ offset < allocation.2 then
      (state.mp.memory.store (p + offset) 1 byte.toNat).map fun memory =>
        { state with mp := { state.mp with memory } }
    else none

/-- The pool and its clients. -/
def clientSystem : System PoolState ClientCall := ⟨PoolState.clientCall⟩

/-- The calls of the store that a call shows: a request that is served is an allocation. -/
def storeCalls (state : PoolState) : ClientCall → List StoreCall
  | .pool (.alloc wantsize mallocs) =>
    match memoryPoolAlloc state.mp wantsize mallocs with
    | some (_, some p) => [.alloc p wantsize]
    | _ => []
  | .pool (.free p) => [.free p]
  | .pool .clear => [.clear]
  | .write p offset byte => [.write p offset byte]

/-- The requests of a client do not wrap. -/
def ClientUnwrapped (state : PoolState) : ClientCall → Prop
  | .pool call => Unwrapped state call
  | .write _ _ _ => True

/-- The live allocations are those of the store, and their clients may read and write all their
bytes; what is read is what was written, where something was. -/
structure Represents (state : PoolState) (store : Store) : Prop where
  /-- The live allocations. -/
  live : ∀ p size, (p, size) ∈ state.live ↔ ∃ item, store p = some item ∧ item.size = size
  /-- Reading. -/
  read : ∀ p item offset, store p = some item → offset < item.size →
    ∃ byte, state.mp.memory.load (p + offset) 1 = some (UInt8.toNat byte) ∧
      ∀ written, item.byte offset = some written → written = byte
  /-- Writing. -/
  write : ∀ p item offset byte, store p = some item → offset < item.size →
    (state.clientCall (.write p offset byte)).isSome

/-- The store holds the bytes of the memory. -/
structure Tracks (state : PoolState) (store : Store) : Prop where
  /-- The live allocations. -/
  live : ∀ p size, (p, size) ∈ state.live ↔ ∃ item, store p = some item ∧ item.size = size
  /-- The bytes that were written. -/
  bytes : ∀ p item offset byte, store p = some item → offset < item.size →
    item.byte offset = some byte → state.mp.memory.byte (p + offset) = byte

section

variable {state next : PoolState} {store : Store} {blocks : List (MPMemory × List Piece)}
  {p q offset wantsize : Nat} {mallocs : List (Option Nat)}

/-- The bytes of a live allocation lie where they may be accessed. -/
theorem Kept.admits {allocation : Nat × Nat} (kept : Kept state blocks)
    (live : allocation ∈ state.live) (inside : offset < allocation.2) :
    state.mp.memory.Admits (allocation.1 + offset) 1 := by
  obtain ⟨piece, member, pointer, enough⟩ := kept.booked.homes allocation live
  obtain ⟨block, known, taken'⟩ := mem_allTaken.mp member
  have bounds := (kept.sound.order.order block known).within taken'
  have opened := (kept.sound.order.reach block known).opened
  exact opened.admits (by omega) (by omega)

/-- Bytes of two live allocations are two bytes. -/
theorem Kept.disjoint {first second : Nat × Nat} {i j : Nat} (kept : Kept state blocks)
    (live : first ∈ state.live) (live' : second ∈ state.live) (inside : i < first.2)
    (inside' : j < second.2) (same : first.1 + i = second.1 + j) : first = second := by
  obtain ⟨piece, member, pointer, enough⟩ := kept.booked.homes first live
  obtain ⟨another, member', pointer', enough'⟩ := kept.booked.homes second live'
  obtain ⟨block, known, taken'⟩ := mem_allTaken.mp member
  obtain ⟨block', known', taken''⟩ := mem_allTaken.mp member'
  have sides := kept.sound.order.separate known known' (mem_of_taken taken') (mem_of_taken taken'')
  have one : piece = another := by
    rcases sides with equal | apart
    · exact equal
    · omega
  have pointers : first.1 = second.1 := by rw [pointer, pointer', one]
  exact List.inj_on_of_nodup_map kept.booked.distinct live live' pointers

/-- A store that holds the bytes of the memory is represented by the pool. -/
theorem Tracks.represents (tracks : Tracks state store) (kept : Kept state blocks) :
    Represents state store where
  live := tracks.live
  read p item offset found inside := by
    have live : (p, item.size) ∈ state.live := (tracks.live p item.size).mpr ⟨item, found, rfl⟩
    have admits : state.mp.memory.Admits (p + offset) 1 := kept.admits live inside
    refine ⟨state.mp.memory.byte (p + offset), ?_, fun written was => ?_⟩
    · rw [Heap.load_of_admits admits]
      simp [Heap.value, numberAt]
    · exact (tracks.bytes p item offset written found inside was).symm
  write p item offset byte found inside := by
    have live : (p, item.size) ∈ state.live := (tracks.live p item.size).mpr ⟨item, found, rfl⟩
    have admits : state.mp.memory.Admits (p + offset) 1 := kept.admits live inside
    rw [PoolState.clientCall, if_pos ⟨_, live, rfl, inside⟩, Heap.store_of_admits admits]
    rfl

/-! ## Calls of the store -/

/-- A store has an item for every live pointer and no other. -/
theorem Tracks.isSome_iff (tracks : Tracks state store) :
    (store p).isSome ↔ p ∈ state.live.map Prod.fst := by
  rw [Option.isSome_iff_exists, List.mem_map]
  constructor
  · rintro ⟨item, found⟩
    exact ⟨(p, item.size), (tracks.live p item.size).mpr ⟨item, found, rfl⟩, rfl⟩
  · rintro ⟨⟨pointer, size⟩, member, rfl⟩
    obtain ⟨item, found, -⟩ := (tracks.live pointer size).mp member
    exact ⟨item, found⟩

/-- Nothing is allocated: the user areas are the same. -/
theorem Tracks.same (tracks : Tracks state store) (kept : Kept state blocks)
    (live : next.live = state.live)
    (agrees : Heap.Agrees (Areas (allTaken blocks)) state.mp.memory next.mp.memory) :
    Tracks next store where
  live p size := by
    rw [live]
    exact tracks.live p size
  bytes p item offset byte found inside written := by
    have member : (p, item.size) ∈ state.live := (tracks.live p item.size).mpr ⟨item, found, rfl⟩
    have place : Areas (allTaken blocks) (p + offset) := kept.areas member inside
    rw [agrees.byte _ place]
    exact tracks.bytes p item offset byte found inside written

/-- An allocation of a pointer that is not live. -/
theorem Tracks.alloc (tracks : Tracks state store) (kept : Kept state blocks)
    (live : next.live = (p, wantsize) :: state.live) (fresh : p ∉ state.live.map Prod.fst)
    (agrees : Heap.Agrees (Areas (allTaken blocks)) state.mp.memory next.mp.memory) :
    ∃ store', store.call (.alloc p wantsize) = some store' ∧ Tracks next store' := by
  have none : ¬(store p).isSome := fun some => fresh (tracks.isSome_iff.mp some)
  refine ⟨Function.update store p (some ⟨wantsize, fun _ => Option.none⟩), if_neg none,
    fun q size => ?_, fun q item offset byte found inside written => ?_⟩
  · rw [live, List.mem_cons]
    by_cases same : q = p
    · subst same
      have absent : (q, size) ∉ state.live := fun member => fresh (List.mem_map_of_mem member)
      simp [absent, eq_comm]
    · rw [Function.update_of_ne same, ← tracks.live q size]
      simp [same]
  · by_cases same : q = p
    · subst same
      rw [Function.update_self] at found
      obtain rfl := Option.some.inj found
      simp at written
    · rw [Function.update_of_ne same] at found
      have member : (q, item.size) ∈ state.live := (tracks.live q item.size).mpr ⟨item, found, rfl⟩
      have place : Areas (allTaken blocks) (q + offset) := kept.areas member inside
      rw [agrees.byte _ place]
      exact tracks.bytes q item offset byte found inside written

/-- A release of a live pointer. -/
theorem Tracks.free (tracks : Tracks state store) (member : p ∈ state.live.map Prod.fst)
    (live : next.live = state.live.filter fun allocation => allocation.1 ≠ p)
    (bytes : ∀ allocation ∈ state.live, allocation.1 ≠ p → ∀ offset < allocation.2,
      next.mp.memory.byte (allocation.1 + offset) =
        state.mp.memory.byte (allocation.1 + offset)) :
    ∃ store', store.call (.free p) = some store' ∧ Tracks next store' := by
  refine ⟨Function.update store p none, if_pos (tracks.isSome_iff.mpr member),
    fun q size => ?_, fun q item offset byte found inside written => ?_⟩
  · rw [live, List.mem_filter]
    by_cases same : q = p
    · subst same
      simp
    · rw [Function.update_of_ne same, tracks.live q size]
      simp [same]
  · by_cases same : q = p
    · subst same
      rw [Function.update_self] at found
      contradiction
    · rw [Function.update_of_ne same] at found
      have member : (q, item.size) ∈ state.live := (tracks.live q item.size).mpr ⟨item, found, rfl⟩
      rw [bytes (q, item.size) member same offset inside]
      exact tracks.bytes q item offset byte found inside written

/-- A write of a client into its allocation. -/
theorem Tracks.write {size : Nat} {byte : UInt8} (tracks : Tracks state store)
    (kept : Kept state blocks) (member : (p, size) ∈ state.live) (inside : offset < size)
    (live : next.live = state.live)
    (memory : next.mp.memory = state.mp.memory.put (p + offset) 1 byte.toNat) :
    ∃ store', store.call (.write p offset byte) = some store' ∧ Tracks next store' := by
  obtain ⟨item, found, rfl⟩ := (tracks.live p size).mp member
  refine ⟨Function.update store p (some (item.write offset byte)), ?_, fun q size => ?_,
    fun q other offset' byte' found' inside' written => ?_⟩
  · rw [Store.call, found, Option.bind_some, if_pos inside]
  · rw [live, tracks.live q size]
    by_cases same : q = p
    · subst same
      simp [found, Item.write]
    · rw [Function.update_of_ne same]
  · have size : (q, other.size) ∈ state.live := by
      by_cases same : q = p
      · subst same
        rw [Function.update_self] at found'
        obtain rfl := Option.some.inj found'
        exact member
      · rw [Function.update_of_ne same] at found'
        exact (tracks.live q other.size).mpr ⟨other, found', rfl⟩
    rw [memory]
    by_cases place : q + offset' = p + offset
    · -- the byte that is written
      obtain ⟨rfl, -⟩ := Prod.mk.inj (kept.disjoint size member inside' inside place)
      obtain rfl : offset' = offset := by omega
      rw [Function.update_self] at found'
      obtain rfl := Option.some.inj found'
      rw [Item.write_byte_self] at written
      obtain rfl := Option.some.inj written
      simp [Heap.put]
    · rw [Heap.put_byte_of_outside (by omega)]
      by_cases same : q = p
      · subst same
        rw [Function.update_self] at found'
        obtain rfl := Option.some.inj found'
        have other : offset' ≠ offset := fun equal => place (by rw [equal])
        rw [Item.write_byte_of_ne other] at written
        exact tracks.bytes q item offset' byte' found inside' written
      · rw [Function.update_of_ne same] at found'
        exact tracks.bytes q other offset' byte' found' inside' written

/-! ## Runs -/

variable {label : ClientCall}

/-- A run of the store that is one call. -/
theorem storeSystem_run_one {store' : Store} {call : StoreCall}
    (called : store.call call = some store') : storeSystem.run store [call] = some store' := by
  rw [System.run_cons]
  exact ⟨store', called, rfl⟩

/-- `MemoryPoolFree` in a run leaves the bytes of the other live allocations alone. -/
theorem Even.free_bytes (even : Even state blocks) (live : p ∈ state.live.map Prod.fst)
    (stepped : state.call (.free p) = some next) {allocation : Nat × Nat}
    (member : allocation ∈ state.live) (other : allocation.1 ≠ p) (inside : offset < allocation.2) :
    next.mp.memory.byte (allocation.1 + offset) =
      state.mp.memory.byte (allocation.1 + offset) := by
  obtain ⟨mm, found, within, whole⟩ := even.found live
  have kept := even.kept
  obtain ⟨front, mm', left, chunk, size, right, back, rfl, rfl, within'⟩ := kept.home live
  have own : (mm', left ++ ⟨chunk, size, false⟩ :: right) ∈
      front ++ (mm', left ++ ⟨chunk, size, false⟩ :: right) :: back := by simp
  have known := blockOf_mem found
  rw [kept.sound.mlist] at known
  obtain ⟨⟨mm'', pieces⟩, knownIn, rfl⟩ := List.mem_map.mp known
  obtain ⟨rfl, -⟩ := Prod.mk.inj (kept.sound.order.unique knownIn own within within')
  rw [PoolState.call, if_pos live] at stepped
  obtain ⟨mp', done, stepped⟩ := Option.bind_eq_some_iff.mp stepped
  obtain rfl := Option.some.inj stepped
  have agrees := memoryPoolFree_areas kept.sound found (.inl whole) done
  apply agrees.byte
  -- the other allocation is another piece of the block or lies in another block
  obtain ⟨piece, among, pointer, enough⟩ := kept.booked.homes allocation member
  obtain ⟨block, blockIn, taken'⟩ := mem_allTaken.mp among
  have area : Areas (taken block.2) (allocation.1 + offset) :=
    ⟨piece, taken', by omega, by omega⟩
  have withinBlock : Within block.1 (allocation.1 + offset) :=
    (kept.sound.order.order block blockIn).areas_within area
  by_cases place : Within mm'' (allocation.1 + offset)
  · left
    obtain rfl := kept.sound.order.unique blockIn own withinBlock place
    refine ⟨piece, ?_, by omega, by omega⟩
    have differ : piece ≠ ⟨chunk, size, false⟩ := by
      rintro rfl
      exact other pointer
    have parts : taken (left ++ ⟨chunk, size, false⟩ :: right) =
        taken left ++ ⟨chunk, size, false⟩ :: taken right := by simp [taken]
    dsimp only at taken'
    rw [parts] at taken'
    rcases List.mem_append.mp taken' with member | member
    · exact List.mem_append_left _ member
    · rcases List.mem_cons.mp member with same | member
      · exact absurd same differ
      · exact List.mem_append_right _ member
  · right
    rw [Within] at place
    rw [Beyond]
    omega

/-- A write of a client leaves the pool in order. -/
theorem Even.write (even : Even state blocks) {allocation : Nat × Nat} {number : Nat}
    (member : allocation ∈ state.live) (inside : offset < allocation.2) :
    Even { state with mp := { state.mp with
      memory := state.mp.memory.put (allocation.1 + offset) 1 number } } blocks := by
  have area : Areas (allTaken blocks) (allocation.1 + offset) := even.kept.areas member inside
  have agrees : Heap.Agrees (fun place => ¬Areas (allTaken blocks) place) state.mp.memory
      (state.mp.memory.put (allocation.1 + offset) 1 number) := by
    refine Heap.agrees_put fun place away => ?_
    have differ : place ≠ allocation.1 + offset := by
      rintro rfl
      exact away area
    omega
  have kept : Kept { state with mp := { state.mp with
      memory := state.mp.memory.put (allocation.1 + offset) 1 number } } blocks :=
    ⟨even.kept.sound.write agrees, even.kept.booked⟩
  exact even.same kept ⟨rfl, rfl, rfl⟩ rfl

/-- A request in a run, as the store sees it. -/
theorem Even.alloc_tracked (even : Even state blocks) (tracks : Tracks state store)
    (unwrapped : Unwrapped state (.alloc wantsize mallocs))
    (stepped : state.call (.alloc wantsize mallocs) = some next) :
    ∃ blocks' store', Even next blocks' ∧
      storeSystem.run store (storeCalls state (.pool (.alloc wantsize mallocs))) = some store' ∧
      Tracks next store' := by
  obtain ⟨blocks', even', -⟩ := even.alloc unwrapped stepped
  have kept := even.kept
  rw [Unwrapped, chunkHeader, chunkEnd, sizeofLong] at unwrapped
  have short : wantsize + 44 < 2 ^ 64 := by omega
  rw [PoolState.call] at stepped
  by_cases placed : Placed (answered state.mp mallocs ++ state.mp.mlist)
  · rw [if_pos placed] at stepped
    obtain ⟨⟨mp', result⟩, done, stepped⟩ := Option.bind_eq_some_iff.mp stepped
    obtain rfl := Option.some.inj stepped
    have agrees := memoryPoolAlloc_areas kept.sound short placed done
    cases result with
    | none =>
      refine ⟨blocks', store, even', ?_, tracks.same kept rfl agrees⟩
      simp [storeCalls, done]
    | some p =>
      have distinct := even'.kept.booked.distinct
      have fresh : p ∉ state.live.map Prod.fst := (List.nodup_cons.mp distinct).1
      have allocated : ∃ store', store.call (.alloc p wantsize) = some store' ∧
          Tracks ⟨mp', (p, wantsize) :: state.live⟩ store' := tracks.alloc kept rfl fresh agrees
      obtain ⟨store', called, tracks'⟩ := allocated
      refine ⟨blocks', store', even', ?_, tracks'⟩
      rw [storeCalls, done]
      exact storeSystem_run_one called
  · rw [if_neg placed] at stepped
    contradiction

/-- One call of the pool or write of a client is a run of the store under the calls it shows. -/
theorem Even.tracked (even : Even state blocks) (tracks : Tracks state store)
    (unwrapped : ClientUnwrapped state label) (stepped : state.clientCall label = some next) :
    ∃ blocks' store', Even next blocks' ∧
      storeSystem.run store (storeCalls state label) = some store' ∧ Tracks next store' := by
  cases label with
  | pool call =>
    cases call with
    | alloc wantsize mallocs => exact even.alloc_tracked tracks unwrapped stepped
    | free p =>
      have live : p ∈ state.live.map Prod.fst := by
        by_contra dead
        rw [PoolState.clientCall, PoolState.call, if_neg dead] at stepped
        contradiction
      obtain ⟨later, blocks', done, even', -⟩ := even.free live
      obtain rfl := Option.some.inj (done.symm.trans stepped)
      have remains : later.live = state.live.filter fun allocation => allocation.1 ≠ p := by
        rw [PoolState.call, if_pos live] at done
        obtain ⟨mp', -, done⟩ := Option.bind_eq_some_iff.mp done
        rw [← Option.some.inj done]
      obtain ⟨store', called, tracks'⟩ := tracks.free live remains
        fun allocation member other offset inside => even.free_bytes live done member other inside
      exact ⟨blocks', store', even', storeSystem_run_one called, tracks'⟩
    | clear =>
      obtain ⟨later, blocks', done, kept, config, places, -⟩ := even.kept.clear
      obtain rfl := Option.some.inj (done.symm.trans stepped)
      have remains : later.live = [] := by
        obtain ⟨mp', -, done⟩ := Option.bind_eq_some_iff.mp done
        rw [← Option.some.inj done]
      refine ⟨blocks', fun _ => none, even.same kept config places, storeSystem_run_one rfl, ?_⟩
      refine ⟨fun p size => ?_, fun p item offset byte found => by simp at found⟩
      simp [remains]
  | write p offset byte =>
    rw [PoolState.clientCall] at stepped
    by_cases own : ∃ allocation ∈ state.live, allocation.1 = p ∧ offset < allocation.2
    · rw [if_pos own] at stepped
      obtain ⟨⟨pointer, size⟩, member, rfl, inside⟩ := own
      dsimp only at stepped inside
      have admits : state.mp.memory.Admits (pointer + offset) 1 := even.kept.admits member inside
      rw [Heap.store_of_admits admits, Option.map_some] at stepped
      obtain rfl := Option.some.inj stepped
      have written : ∃ store', store.call (.write pointer offset byte) = some store' ∧
          Tracks { state with mp := { state.mp with
            memory := state.mp.memory.put (pointer + offset) 1 byte.toNat } } store' :=
        tracks.write even.kept member inside rfl rfl
      obtain ⟨store', called, tracks'⟩ := written
      exact ⟨blocks, store', even.write member inside, storeSystem_run_one called, tracks'⟩
    · rw [if_neg own] at stepped
      contradiction

/-- The calls that a run has shown are a run of the store, which holds the bytes of the memory. -/
def Backed (now : PoolState × List StoreCall) : Prop :=
  ∃ blocks store, Even now.1 blocks ∧ storeSystem.run (fun _ => none) now.2 = some store ∧
    Tracks now.1 store

/-- Every step keeps the run of the store. -/
theorem Backed.step {now later : PoolState × List StoreCall}
    (unwrapped : ClientUnwrapped now.1 label) (backed : Backed now)
    (stepped : (clientSystem.observed storeCalls).step now label = some later) : Backed later := by
  obtain ⟨blocks, store, even, reached, tracks⟩ := backed
  obtain ⟨called, shown⟩ := System.observed_step.mp stepped
  obtain ⟨blocks', store', even', run, tracks'⟩ := even.tracked tracks unwrapped called
  refine ⟨blocks', store', even', ?_, tracks'⟩
  rw [shown, System.run_append_eq, reached]
  exact run

/-- In every run of a pool with blocks of one size and its clients, the calls the run has shown are
a run of the store, and the pool represents the store they lead to. -/
theorem pool_refines_store (maxmempoolsize mempoolsize s : Nat) (uninitialised : Bool)
    (byte : Nat → UInt8)
    (ratio : maxmempoolsize = mempoolsize ∨ 2 * mempoolsize ≤ maxmempoolsize)
    (room : chunkHeader + chunkEnd ≤ mempoolsize) (fits : maxmempoolsize < 2 ^ 64)
    (positive : 0 < s) (inside : s + sizeofMemory + mempoolsize ≤ 2 ^ 64) :
    ∃ mp, memoryPoolInit maxmempoolsize mempoolsize uninitialised s byte = some mp ∧
      ∀ calls,
        (clientSystem.observed storeCalls).Meets (fun now => ClientUnwrapped now.1)
          (⟨mp, []⟩, []) calls →
        (clientSystem.observed storeCalls).Always
          (fun now => ∃ store, storeSystem.run (fun _ => none) now.2 = some store ∧
            Represents now.1 store) (⟨mp, []⟩, []) calls := by
  obtain ⟨mp, blocks, made, even, -⟩ :=
    even_made uninitialised byte ratio room fits positive inside
  refine ⟨mp, made, fun calls meets => ?_⟩
  have start : Backed (⟨mp, []⟩, []) := by
    refine ⟨blocks, fun _ => none, even, rfl, fun p size => ?_, fun p item offset byte found => ?_⟩
    · simp
    · simp at found
  refine System.always_of_meets (fun now backed => ?_) (fun _ _ _ => Backed.step) start meets
  obtain ⟨blocks, store, even, reached, tracks⟩ := backed
  exact ⟨store, reached, tracks.represents even.kept⟩

end

/-- Two requests, a write and a release in a pool of one block. -/
theorem pool_refines_store_small :
    ∃ mp, memoryPoolInit 1000 1000 false 4096 (fun _ => 0) = some mp ∧
      (clientSystem.observed storeCalls).Always
        (fun now => ∃ store, storeSystem.run (fun _ => none) now.2 = some store ∧
          Represents now.1 store) (⟨mp, []⟩, [])
        [.pool (.alloc 100 []), .write 4192 3 7, .pool (.alloc 7 []), .pool (.free 4192)] := by
  obtain ⟨mp, made, refines⟩ := pool_refines_store 1000 1000 4096 false (fun _ => 0) (.inl rfl)
    (by decide) (by decide) (by decide) (by decide)
  have first : 100 + chunkHeader + chunkEnd + sizeofLong < 2 ^ 64 := by decide
  have second : 7 + chunkHeader + chunkEnd + sizeofLong < 2 ^ 64 := by decide
  exact ⟨mp, made, refines _ ⟨first, fun _ _ => ⟨trivial, fun _ _ => ⟨second, fun _ _ =>
    ⟨trivial, fun _ _ => trivial⟩⟩⟩⟩⟩

end UubangIot.MemoryPool
