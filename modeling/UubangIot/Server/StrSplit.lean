import UubangIot.Lib.CheckedArray
import UubangIot.Server.Text

/-!
# `StrSplit` on memory

`StrSplit.c` and `String.c` with their indices, allocations and copies. `strSplit` of the texts is what
the handlers see of it. A read or a write outside of its array ends the call, and so does a field whose
`malloc` fails; the `malloc` of the vector is not tested, and a vector that was not allocated has no
place to write to.
-/

namespace UubangIot.StrSplit

/-- The ways a call ends without a vector. -/
inductive SplitStop
  /-- An access outside of an array. -/
  | fault
  /-- `return NULL`. -/
  | null
  deriving DecidableEq, Repr

/-- What the calls of `malloc` answer: for the vector whether it is allocated, for each field NULL or
memory with some content. -/
structure Mallocs where
  /-- `malloc(sizeof(char*)*j)`. -/
  vector : Bool
  /-- `malloc(sizeof(char)*(k+1))` for a field. -/
  field : Nat → Option (Nat → UInt8)

/-- Read an element. -/
def readAt (array : List α) (index : Nat) : Except SplitStop α :=
  (array[index]?).elim (.error .fault) .ok

/-- Write an element. -/
def writeAt (array : List α) (index : Nat) (value : α) : Except SplitStop (List α) :=
  (CheckedArray.store array index value).elim (.error .fault) .ok

/-- The loop of `Stringcut` with a number of rounds left, and the terminator after it. -/
def stringcutLoop (str : Bytes) (m : Nat) : Nat → Nat → Bytes → Except SplitStop Bytes
  | 0, i, des => writeAt des (i - m) 0
  | rounds + 1, i, des => do
    let c ← readAt str i
    let des ← writeAt des (i - m) c
    stringcutLoop str m rounds (i + 1) des

/-- `Stringcut` — copy `str[m..n]`, both ends included. -/
def stringcut (str : Bytes) (m : Nat) (n : Int) (des : Bytes) : Except SplitStop Bytes :=
  stringcutLoop str m (n + 1 - m).toNat m des

/-- The first pass of `StrSplit`: `j` counts the delimiters. -/
def countLoop (srcStr : Bytes) (delim : UInt8) : Nat → Nat → Nat → Except SplitStop Nat
  | 0, _, j => .ok j
  | rounds + 1, i, j => do
    let c ← readAt srcStr i
    countLoop srcStr delim rounds (i + 1) (if c = delim then j + 1 else j)

/-- The second pass: `k` bytes stand before `i` in the field `l`, which begins at `m`. -/
def cutLoop (mallocs : Mallocs) (srcStr : Bytes) (delim : UInt8) :
    Nat → Nat → Nat → Nat → Nat → List (Option Bytes) → Except SplitStop (List (Option Bytes))
  | 0, _, _, _, _, outStr => .ok outStr
  | rounds + 1, i, k, l, m, outStr => do
    let c ← readAt srcStr i
    if c ≠ delim then cutLoop mallocs srcStr delim rounds (i + 1) (k + 1) l m outStr
    else
      let outStr ← writeAt outStr l ((mallocs.field l).map fun bytes => (List.range (k + 1)).map bytes)
      let field ← ((mallocs.field l).map fun bytes => (List.range (k + 1)).map bytes).elim
        (.error .null) .ok
      let cut ← stringcut srcStr m ((i : Int) - 1) field
      cutLoop mallocs srcStr delim rounds (i + 1) 0 (l + 1) (i + 1) (outStr.set l (some cut))

/-- `StrSplit` — `outBufferLen` and the vector, whose places hold the fields' allocations. -/
def strSplitMemory (mallocs : Mallocs) (srcStr : Bytes) (srcStrLen : Nat) (delim : UInt8) :
    Except SplitStop (Nat × List (Option Bytes)) := do
  let j ← countLoop srcStr delim srcStrLen 0 0
  let outStr := if mallocs.vector then List.replicate j none else []
  let outStr ← cutLoop mallocs srcStr delim srcStrLen 0 0 0 0 outStr
  return (j, outStr)

end UubangIot.StrSplit
