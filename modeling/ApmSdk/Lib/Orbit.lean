import Mathlib.Data.Finset.Card

set_option autoImplicit false

/-!
# Orbits of a partial step

The elements met by following a partial function from a start. Inside a finite set the orbit ends
exactly when it meets no element twice.
-/

namespace ApmSdk.Orbit

variable {α : Type}

-- The element met after `count` steps, while there is one.
def orbit (next : α → Option α) (start : Option α) : Nat → Option α
  | 0 => start
  | count + 1 => (orbit next start count).bind next

def Ends (next : α → Option α) (start : Option α) : Prop := ∃ count, orbit next start count = none

/-- No element is met twice. -/
def Once (next : α → Option α) (start : Option α) : Prop :=
  ∀ i j element, orbit next start i = some element → orbit next start j = some element → i = j

variable {next : α → Option α} {start : Option α}

theorem orbit_none_of_le {i j : Nat} (ended : orbit next start i = none) (later : i ≤ j) :
    orbit next start j = none := by
  induction later with
  | refl => exact ended
  | step _ ih => rw [orbit, ih, Option.bind_none]

theorem orbit_add_congr {i j : Nat} (same : orbit next start i = orbit next start j) (k : Nat) :
    orbit next start (i + k) = orbit next start (j + k) := by
  induction k with
  | zero => exact same
  | succ k ih =>
    rw [← Nat.add_assoc, ← Nat.add_assoc, orbit, ih, ← orbit]

theorem orbit_periodic {i j : Nat} {element : α} (first : orbit next start i = some element)
    (second : orbit next start j = some element) (before : i < j) (rounds : Nat) :
    orbit next start (i + rounds * (j - i)) = some element := by
  induction rounds with
  | zero => simpa using first
  | succ rounds ih =>
    have again := orbit_add_congr (second.trans ih.symm) (j - i)
    have there : j + (j - i) = i + (j - i) + (j - i) := by omega
    rw [Nat.succ_mul, ← Nat.add_assoc, ← again, there]
    have shifted := orbit_add_congr (first.trans second.symm) (j - i)
    have here : i + (j - i) = j := by omega
    rw [here] at shifted ⊢
    rw [← shifted, second]

/-- An orbit that stays inside a finite set ends exactly when it meets nothing twice. -/
theorem ends_iff_once (inside : Finset α)
    (stays : ∀ i element, orbit next start i = some element → element ∈ inside) :
    Ends next start ↔ Once next start := by
  constructor
  · rintro ⟨count, ended⟩ i j element first second
    have forward : ∀ i j, orbit next start i = some element →
        orbit next start j = some element → ¬ i < j := by
      intro i j first second before
      have again := orbit_periodic first second before count
      have late : count ≤ i + count * (j - i) :=
        Nat.le_add_left_of_le (Nat.le_mul_of_pos_right _ (by omega))
      rw [orbit_none_of_le ended late] at again
      cases again
    exact Nat.le_antisymm (Nat.not_lt.mp (forward j i second first))
      (Nat.not_lt.mp (forward i j first second))
  · intro once
    by_contra endless
    have some_ : ∀ i, ∃ element, orbit next start i = some element := by
      intro i
      exact Option.ne_none_iff_exists'.mp fun ended => endless ⟨i, ended⟩
    choose met meets using some_
    obtain ⟨i, _, j, _, apart, same⟩ :=
      Finset.exists_ne_map_eq_of_card_lt_of_maps_to
        (s := Finset.range (inside.card + 1)) (t := inside) (f := met)
        (by simp) fun i _ => stays i _ (meets i)
    exact apart (once i j (met i) (meets i) (same ▸ meets j))

end ApmSdk.Orbit
