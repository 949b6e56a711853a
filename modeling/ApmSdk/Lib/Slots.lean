import Mathlib.Data.Finset.Card

set_option autoImplicit false

/-!
# First-free allocation

A table of slots, each free or held by an owner, of which an allocation takes the lowest free one
below a limit.
-/

namespace ApmSdk.Slots

variable {Owner : Type}

def firstFree (limit : Nat) (slots : Nat → Option Owner) : Option Nat :=
  (List.range limit).find? fun slot => (slots slot).isNone

def free (limit : Nat) (slots : Nat → Option Owner) : Finset Nat :=
  (Finset.range limit).filter fun slot => (slots slot).isNone = true

def freeCount (limit : Nat) (slots : Nat → Option Owner) : Nat := (free limit slots).card

@[simp] theorem mem_free {limit slot : Nat} {slots : Nat → Option Owner} :
    slot ∈ free limit slots ↔ slot < limit ∧ slots slot = none := by
  simp [free]

theorem firstFree_mem {limit slot : Nat} {slots : Nat → Option Owner}
    (found : firstFree limit slots = some slot) : slot ∈ free limit slots := by
  have empty := List.find?_some found
  have listed := List.mem_of_find?_eq_some found
  exact mem_free.mpr ⟨List.mem_range.mp listed, Option.isNone_iff_eq_none.mp empty⟩

theorem firstFree_lt {limit slot : Nat} {slots : Nat → Option Owner}
    (found : firstFree limit slots = some slot) : slot < limit :=
  (mem_free.mp (firstFree_mem found)).1

theorem firstFree_free {limit slot : Nat} {slots : Nat → Option Owner}
    (found : firstFree limit slots = some slot) : slots slot = none :=
  (mem_free.mp (firstFree_mem found)).2

theorem firstFree_eq_none {limit : Nat} {slots : Nat → Option Owner} :
    firstFree limit slots = none ↔ freeCount limit slots = 0 := by
  rw [freeCount, Finset.card_eq_zero, Finset.eq_empty_iff_forall_notMem]
  simp [firstFree, Option.ne_none_iff_exists', Option.isNone_iff_eq_none]

theorem exists_firstFree {limit : Nat} {slots : Nat → Option Owner}
    (room : 0 < freeCount limit slots) : ∃ slot, firstFree limit slots = some slot := by
  cases found : firstFree limit slots with
  | none => exact absurd (firstFree_eq_none.mp found) (by omega)
  | some slot => exact ⟨slot, rfl⟩

/-- A slot that is taken is one free slot less. -/
theorem freeCount_take {limit slot : Nat} {slots : Nat → Option Owner} (owner : Owner)
    (open_ : slot ∈ free limit slots) :
    freeCount limit (Function.update slots slot (some owner)) + 1 = freeCount limit slots := by
  have fewer : free limit (Function.update slots slot (some owner)) =
      (free limit slots).erase slot := by
    ext other
    by_cases same : other = slot <;> simp [same]
  rw [freeCount, fewer, Finset.card_erase_add_one open_, freeCount]

/-- A slot that is released is one free slot more. -/
theorem freeCount_release {limit slot : Nat} {slots : Nat → Option Owner} {owner : Owner}
    (within : slot < limit) (held : slots slot = some owner) :
    freeCount limit (Function.update slots slot none) = freeCount limit slots + 1 := by
  have more : free limit (Function.update slots slot none) =
      insert slot (free limit slots) := by
    ext other
    by_cases same : other = slot <;> simp [same, within]
  have taken : slot ∉ free limit slots := by simp [held]
  rw [freeCount, more, Finset.card_insert_of_notMem taken, freeCount]

theorem freeCount_empty (limit : Nat) {slots : Nat → Option Owner}
    (empty : ∀ slot < limit, slots slot = none) : freeCount limit slots = limit := by
  have all : free limit slots = Finset.range limit := by
    ext slot
    simpa using empty slot
  rw [freeCount, all, Finset.card_range]

/-- What is held is not handed out again. -/
theorem firstFree_update_held {limit slot other : Nat} {slots : Nat → Option Owner}
    {owner holder : Owner} (found : firstFree limit slots = some slot)
    (held : slots other = some holder) :
    Function.update slots slot (some owner) other = some holder := by
  have differs : other ≠ slot := by
    intro same
    rw [same, firstFree_free found] at held
    cases held
  rw [Function.update_of_ne differs, held]

end ApmSdk.Slots
