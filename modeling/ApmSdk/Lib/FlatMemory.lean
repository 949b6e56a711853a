import Mathlib.Logic.Function.Basic

set_option autoImplicit false

/-!
# Memory with one address space

Lists of values taken out of consecutive addresses and put into them.
-/

namespace ApmSdk.FlatMemory

variable {A : Type}

def load (memory : Nat → A) (address count : Nat) : List A :=
  (List.range' address count).map memory

def store (memory : Nat → A) : Nat → List A → Nat → A
  | _, [] => memory
  | address, value :: rest => store (Function.update memory address value) (address + 1) rest

@[simp] theorem length_load (memory : Nat → A) (address count : Nat) :
    (load memory address count).length = count := by
  simp [load]

@[simp] theorem load_zero (memory : Nat → A) (address : Nat) : load memory address 0 = [] := rfl

theorem load_succ (memory : Nat → A) (address count : Nat) :
    load memory address (count + 1) = memory address :: load memory (address + 1) count := rfl

theorem load_add (memory : Nat → A) (address first second : Nat) :
    load memory address (first + second) =
      load memory address first ++ load memory (address + first) second := by
  rw [load, load, load, ← List.map_append, List.range'_append_1]

theorem take_load (memory : Nat → A) (address : Nat) {count whole : Nat} (within : count ≤ whole) :
    (load memory address whole).take count = load memory address count := by
  obtain ⟨rest, rfl⟩ := Nat.exists_eq_add_of_le within
  rw [load_add, List.take_left' (length_load memory address count)]

theorem load_congr {memory other : Nat → A} {address count : Nat}
    (same : ∀ index < count, memory (address + index) = other (address + index)) :
    load memory address count = load other address count := by
  induction count generalizing address with
  | zero => rfl
  | succ count ih =>
    have rest : ∀ index < count,
        memory (address + 1 + index) = other (address + 1 + index) := by
      intro index inside
      rw [Nat.add_right_comm]
      exact same (index + 1) (Nat.succ_lt_succ inside)
    have head : memory address = other address := same 0 (Nat.succ_pos count)
    rw [load_succ, load_succ, ih rest, head]

theorem getElem?_load (memory : Nat → A) (address : Nat) {count index : Nat}
    (inside : index < count) :
    (load memory address count)[index]? = some (memory (address + index)) := by
  simp [load, inside]

theorem store_append (memory : Nat → A) (address : Nat) (first second : List A) :
    store memory address (first ++ second) =
      store (store memory address first) (address + first.length) second := by
  induction first generalizing memory address with
  | nil => rfl
  | cons value rest ih =>
    have further : address + (rest.length + 1) = address + 1 + rest.length := by omega
    simp only [List.cons_append, store, ih, List.length_cons, further]

theorem store_outside (memory : Nat → A) {address place : Nat} (values : List A)
    (outside : place < address ∨ address + values.length ≤ place) :
    store memory address values place = memory place := by
  induction values generalizing memory address with
  | nil => rfl
  | cons value rest ih =>
    simp only [List.length_cons] at outside
    have other : place ≠ address := by omega
    rw [store, ih _ (by omega), Function.update_of_ne other]

theorem store_inside (memory : Nat → A) (address : Nat) {values : List A} {index : Nat} {value : A}
    (there : values[index]? = some value) :
    store memory address values (address + index) = value := by
  induction values generalizing memory address index with
  | nil => simp at there
  | cons head rest ih =>
    cases index with
    | zero =>
      have first : head = value := by simpa using there
      rw [Nat.add_zero, store, store_outside _ _ (by omega), Function.update_self, first]
    | succ index =>
      have later : rest[index]? = some value := by simpa using there
      have further : address + (index + 1) = address + 1 + index := by omega
      rw [store, further, ih _ _ later]

/-- What has been stored is what a load finds. -/
theorem load_store (memory : Nat → A) (address : Nat) (values : List A) :
    load (store memory address values) address values.length = values := by
  apply List.ext_getElem?
  intro index
  by_cases inside : index < values.length
  · rw [getElem?_load _ _ inside, List.getElem?_eq_getElem inside]
    exact congrArg some (store_inside _ _ (List.getElem?_eq_getElem inside))
  · rw [List.getElem?_eq_none (by simpa using inside), List.getElem?_eq_none (by simpa using inside)]

end ApmSdk.FlatMemory
