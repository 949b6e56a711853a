import Mathlib.Data.List.Basic
import Mathlib.Logic.Function.Basic

set_option autoImplicit false

/-!
# Rings of slots

A buffer of `size` slots that is written at one index and read at another, without a count.
-/

namespace ApmSdk.RingBuffer

variable {Item : Type}

def next (size index : Nat) : Nat := if index + 1 = size then 0 else index + 1

-- The queue lies in the slots from `take` on, and `put` is the slot behind it.
structure Holds (size : Nat) (slots : Nat → Item) (take put : Nat) (queue : List Item) : Prop where
  inside : take < size
  room : queue.length < size
  behind : put = (take + queue.length) % size
  items : ∀ index (within : index < queue.length),
    slots ((take + index) % size) = queue[index]

theorem next_eq {size index : Nat} (inside : index < size) : next size index = (index + 1) % size := by
  unfold next
  split
  next last => rw [last, Nat.mod_self]
  next more => exact (Nat.mod_eq_of_lt (by omega)).symm

theorem mod_ne_of_lt {size start first second : Nat} (order : first < second)
    (within : second < first + size) : (start + first) % size ≠ (start + second) % size := by
  intro same
  have divides : size ∣ (start + second) - (start + first) :=
    Nat.dvd_of_mod_eq_zero (Nat.sub_mod_eq_zero_of_mod_eq same.symm)
  have gap := Nat.le_of_dvd (by omega) divides
  omega

section Rules

variable {size take put : Nat} {slots : Nat → Item} {queue : List Item}

theorem Holds.put_lt (holds : Holds size slots take put queue) : put < size := by
  rw [holds.behind]
  exact Nat.mod_lt _ (Nat.lt_of_le_of_lt (Nat.zero_le _) holds.inside)

theorem Holds.empty {index : Nat} (inside : index < size) : Holds size slots index index [] where
  inside := inside
  room := Nat.lt_of_le_of_lt (Nat.zero_le _) inside
  behind := (Nat.mod_eq_of_lt inside).symm
  items _ within := absurd within (Nat.not_lt_zero _)

theorem Holds.push (holds : Holds size slots take put queue) (item : Item)
    (spare : queue.length + 1 < size) :
    Holds size (Function.update slots put item) take (next size put) (queue ++ [item]) where
  inside := holds.inside
  room := by simpa using spare
  behind := by
    rw [next_eq holds.put_lt, holds.behind, Nat.mod_add_mod, List.length_append,
      List.length_singleton, Nat.add_assoc]
  items index within := by
    rw [List.length_append, List.length_singleton] at within
    by_cases older : index < queue.length
    · have apart : (take + index) % size ≠ put := by
        rw [holds.behind]
        exact mod_ne_of_lt older (by omega)
      rw [Function.update_of_ne apart, holds.items index older, List.getElem_append_left older]
    · obtain rfl : index = queue.length := by omega
      rw [← holds.behind, Function.update_self, List.getElem_concat_length rfl]

theorem Holds.pop {item : Item} (holds : Holds size slots take put (item :: queue)) :
    slots take = item ∧ Holds size slots (next size take) put queue := by
  have first := holds.items 0 (Nat.succ_pos _)
  rw [Nat.add_zero, Nat.mod_eq_of_lt holds.inside] at first
  have positive : 0 < size := Nat.lt_of_le_of_lt (Nat.zero_le _) holds.inside
  have room := holds.room
  rw [List.length_cons] at room
  refine ⟨first, ?_, by omega, ?_, ?_⟩
  case refine_1 =>
    rw [next_eq holds.inside]
    exact Nat.mod_lt _ positive
  case refine_2 =>
    rw [next_eq holds.inside, holds.behind, Nat.mod_add_mod, List.length_cons]
    exact congrArg (· % size) (by omega)
  case refine_3 =>
    intro index within
    have item := holds.items (index + 1) (by simpa using within)
    rw [next_eq holds.inside, Nat.mod_add_mod, Nat.add_assoc, Nat.add_comm 1 index]
    simpa using item

theorem Holds.same_iff (holds : Holds size slots take put queue) : take = put ↔ queue = [] := by
  constructor
  · intro same
    by_contra some
    have positive : 0 < queue.length := List.length_pos_iff.mpr some
    have room := holds.room
    have apart : (take + 0) % size ≠ (take + queue.length) % size :=
      mod_ne_of_lt positive (by omega)
    rw [← holds.behind, Nat.add_zero, Nat.mod_eq_of_lt holds.inside] at apart
    exact apart same
  · rintro rfl
    rw [holds.behind]
    exact (Nat.mod_eq_of_lt holds.inside).symm

-- One item more than the ring can tell from none.
theorem Holds.overrun (holds : Holds size slots take put queue) (full : queue.length + 1 = size) :
    next size put = take := by
  rw [next_eq holds.put_lt, holds.behind, Nat.mod_add_mod, Nat.add_assoc, full, Nat.add_mod_right]
  exact Nat.mod_eq_of_lt holds.inside

end Rules

end ApmSdk.RingBuffer
