import Mathlib.Data.List.Basic
import Mathlib.Data.Nat.ModEq
import Mathlib.Logic.Function.Basic

/-!
# Ring buffers

A queue in an array: items are written at the rear and read at the front, both wrap at the end of
the array, and the number of items is kept beside them. While a ring is sound it is the queue of
its contents: writing appends to them and reading takes the first of them.
-/

namespace RingBuffer

/-- An array with the two ends of the queue in it. -/
structure Buffer (α : Type) where
  /-- The array. -/
  slots : Nat → α
  /-- Where the next item is read. -/
  front : Nat
  /-- Where the next item is written. -/
  rear : Nat
  /-- The number of items. -/
  size : Nat
  /-- The length of the array. -/
  capacity : Nat

namespace Buffer

variable {α : Type} {ring : Buffer α} {item : α}

/-- A ring without items. -/
def empty (filler : α) (capacity : Nat) : Buffer α := ⟨fun _ => filler, 0, 0, 0, capacity⟩

/-- Write an item at the rear. -/
def push (ring : Buffer α) (item : α) : Buffer α :=
  { ring with
    slots := Function.update ring.slots ring.rear item
    rear := (ring.rear + 1) % ring.capacity
    size := ring.size + 1 }

/-- The item at the front. -/
def first (ring : Buffer α) : α := ring.slots ring.front

/-- Step over the item at the front. -/
def pop (ring : Buffer α) : Buffer α :=
  { ring with front := (ring.front + 1) % ring.capacity, size := ring.size - 1 }

/-- The items from the front to the rear. -/
def contents (ring : Buffer α) : List α :=
  (List.range ring.size).map fun i => ring.slots ((ring.front + i) % ring.capacity)

/-- There are no more items than slots, and the rear is as many slots behind the front as there
are items. -/
structure Sound (ring : Buffer α) : Prop where
  /-- No more items than slots. -/
  fits : ring.size ≤ ring.capacity
  /-- The front is a slot. -/
  inside : ring.front < ring.capacity
  /-- The place of the rear. -/
  rear : ring.rear = (ring.front + ring.size) % ring.capacity

/-- An empty buffer of a positive capacity is sound. -/
theorem sound_empty {filler : α} {capacity : Nat} (positive : 0 < capacity) :
    (empty filler capacity).Sound := by
  refine ⟨Nat.zero_le _, positive, ?_⟩
  exact (Nat.mod_eq_of_lt positive).symm

/-- Two places less than the capacity apart are different slots. -/
theorem mod_ne {capacity start near far : Nat} (before : near < far) (below : far < capacity) :
    (start + near) % capacity ≠ (start + far) % capacity := by
  intro same
  have divides : capacity ∣ (start + far) - (start + near) :=
    (Nat.modEq_iff_dvd' (by omega)).mp same
  have gap : (start + far) - (start + near) = far - near := by omega
  rw [gap] at divides
  have := Nat.le_of_dvd (by omega) divides
  omega

/-- Writing keeps a ring sound when it is not full. -/
theorem Sound.push (sound : ring.Sound) (room : ring.size < ring.capacity) :
    (ring.push item).Sound := by
  refine ⟨room, sound.inside, ?_⟩
  dsimp only [Buffer.push]
  rw [sound.rear, Nat.mod_add_mod, Nat.add_assoc]

/-- Reading keeps a ring sound when it is not empty. -/
theorem Sound.pop (sound : ring.Sound) (some : 0 < ring.size) : ring.pop.Sound := by
  have fits := sound.fits
  have inside := sound.inside
  refine ⟨?_, ?_, ?_⟩
  · dsimp only [Buffer.pop]
    omega
  · exact Nat.mod_lt _ (by omega)
  · dsimp only [Buffer.pop]
    rw [sound.rear, Nat.mod_add_mod]
    congr 1
    omega

/-- Writing appends to the contents. -/
theorem Sound.contents_push (sound : ring.Sound) (room : ring.size < ring.capacity) :
    (ring.push item).contents = ring.contents ++ [item] := by
  have old : (List.range ring.size).map (fun i =>
      Function.update ring.slots ring.rear item ((ring.front + i) % ring.capacity)) =
        ring.contents := by
    refine List.map_congr_left fun i member => ?_
    have below := List.mem_range.mp member
    refine Function.update_of_ne ?_ _ _
    rw [sound.rear]
    exact mod_ne below room
  have last : Function.update ring.slots ring.rear item
      ((ring.front + ring.size) % ring.capacity) = item := by
    rw [← sound.rear]
    exact Function.update_self _ _ _
  dsimp only [contents, Buffer.push]
  rw [List.range_succ, List.map_append, old, List.map_singleton, last]
  rfl

/-- Reading takes the first of the contents. -/
theorem Sound.contents_pop (sound : ring.Sound) (some : 0 < ring.size) :
    ring.contents = ring.first :: ring.pop.contents := by
  obtain ⟨count, size⟩ : ∃ count, ring.size = count + 1 := ⟨ring.size - 1, by omega⟩
  have head : (ring.front + 0) % ring.capacity = ring.front := Nat.mod_eq_of_lt sound.inside
  have rest : (List.range count).map (fun i =>
      ring.slots ((ring.front + (i + 1)) % ring.capacity)) = ring.pop.contents := by
    dsimp only [contents, Buffer.pop]
    rw [size, Nat.add_sub_cancel]
    refine List.map_congr_left fun i _ => ?_
    rw [Nat.mod_add_mod, Nat.add_assoc, Nat.add_comm 1 i]
  rw [contents, size, List.range_succ_eq_map, List.map_cons, List.map_map, head]
  exact congrArg _ rest

end Buffer

end RingBuffer
