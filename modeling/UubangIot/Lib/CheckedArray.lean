import Mathlib.Data.List.Basic

/-!
# Arrays of a fixed size with checked writes

A write past the end of an array has no result. `storeAll` writes one element after another, as a
copy loop does; it succeeds exactly when all of them have a place, and then the rest of the array is
as it was.
-/

namespace CheckedArray

variable {α : Type}

/-- Write one element. -/
def store (array : List α) (index : Nat) (value : α) : Option (List α) :=
  if index < array.length then some (array.set index value) else none

/-- Write elements one after another from an index on. -/
def storeAll : List α → Nat → List α → Option (List α)
  | array, _, [] => some array
  | array, index, value :: rest =>
    (store array index value).bind fun array => storeAll array (index + 1) rest

/-- A write inside the array. -/
theorem store_inside {array : List α} {index : Nat} (inside : index < array.length) (value : α) :
    store array index value = some (array.set index value) := if_pos inside

/-- A write outside of it. -/
theorem store_outside {array : List α} {index : Nat} (outside : array.length ≤ index) (value : α) :
    store array index value = none := if_neg (Nat.not_lt.mpr outside)

/-- Elements that all have a place. -/
theorem storeAll_inside (values : List α) {array : List α} {index : Nat}
    (inside : index + values.length ≤ array.length) :
    storeAll array index values =
      some (array.take index ++ values ++ array.drop (index + values.length)) := by
  induction values generalizing array index with
  | nil => simp [storeAll]
  | cons value rest ih =>
    rw [List.length_cons] at inside
    have here : index < array.length := by omega
    have later : index + 1 + rest.length ≤ (array.set index value).length := by
      rw [List.length_set]
      omega
    have front : (array.set index value).take (index + 1) = array.take index ++ [value] := by
      have size : (array.take index).length = index := by
        rw [List.length_take]
        omega
      rw [List.set_eq_take_append_cons_drop, if_pos here, List.take_append, size,
        List.take_of_length_le (by omega)]
      simp
    have back : (array.set index value).drop (index + 1 + rest.length) =
        array.drop (index + (rest.length + 1)) := by
      rw [List.drop_set_of_lt (by omega), Nat.add_assoc, Nat.add_comm 1]
    rw [storeAll, store_inside here, Option.bind_some, ih later, front, back, List.length_cons]
    simp

/-- Elements of which the last have none. -/
theorem storeAll_outside {values : List α} (some_value : values ≠ []) {array : List α} {index : Nat}
    (outside : array.length < index + values.length) : storeAll array index values = none := by
  induction values generalizing array index with
  | nil => contradiction
  | cons value rest ih =>
    rw [List.length_cons] at outside
    rw [storeAll]
    by_cases here : index < array.length
    · rw [store_inside here, Option.bind_some]
      apply ih
      · rintro rfl
        simp at outside
        omega
      · rw [List.length_set]
        omega
    · rw [store_outside (Nat.not_lt.mp here)]
      rfl

/-- Elements written from the front of an array. -/
theorem storeAll_front {values array : List α} (fits : values.length ≤ array.length) :
    storeAll array 0 values = some (values ++ array.drop values.length) := by
  have inside : 0 + values.length ≤ array.length := by omega
  rw [storeAll_inside values inside]
  simp

/-- They can be written exactly when the array has room for them. -/
theorem storeAll_isSome {values array : List α} :
    (storeAll array 0 values).isSome = true ↔ values.length ≤ array.length := by
  constructor
  · intro done
    by_contra long
    have some_value : values ≠ [] := by
      rintro rfl
      simp at long
    have failed : storeAll array 0 values = none := storeAll_outside some_value (by omega)
    rw [failed] at done
    contradiction
  · intro fits
    rw [storeAll_front fits]
    rfl

end CheckedArray
