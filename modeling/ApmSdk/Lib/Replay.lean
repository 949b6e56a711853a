import ApmSdk.Lib.FlatMemory

set_option autoImplicit false

/-!
# Histories of a memory

What loads and stores, some of them interrupted, may have found in a memory that nothing else
changes.
-/

namespace ApmSdk.FlatMemory

variable {A : Type}

inductive Operation (A : Type) where
  | read (address count : Nat) (values : List A)
  | write (address count : Nat) (values : List A)
  -- a write that has stopped somewhere, and has spoilt so much of what comes next
  | cut (address spoils : Nat) (values : List A)
  deriving DecidableEq, Repr

inductive Operation.Performs (memory : Nat → A) : Operation A → (Nat → A) → Prop
  | read (address count : Nat) :
      Performs memory (.read address count (load memory address count)) memory
  | write (address : Nat) {count : Nat} {values : List A} (whole : values.length = count) :
      Performs memory (.write address count values) (store memory address values)
  | cut (address kept : Nat) {values spoilt : List A}
      (within : kept + spoilt.length ≤ values.length) :
      Performs memory (.cut address spoilt.length values)
        (store memory address (values.take kept ++ spoilt))

-- The second memory is one that the operations, one after another, can leave of the first.
def Replays : (Nat → A) → List (Operation A) → (Nat → A) → Prop
  | memory, [], after => after = memory
  | memory, operation :: rest, after =>
      ∃ between, operation.Performs memory between ∧ Replays between rest after

theorem replays_append {memory after : Nat → A} {first second : List (Operation A)} :
    Replays memory (first ++ second) after ↔
      ∃ between, Replays memory first between ∧ Replays between second after := by
  induction first generalizing memory with
  | nil => simp [Replays]
  | cons operation rest ih =>
    simp only [List.cons_append, Replays, ih]
    constructor
    next =>
      rintro ⟨next, performs, between, replays, further⟩
      exact ⟨between, ⟨next, performs, replays⟩, further⟩
    next =>
      rintro ⟨between, ⟨next, performs, replays⟩, further⟩
      exact ⟨next, performs, between, replays, further⟩

/-- The operation may store something at this place. -/
def Operation.Stores (place : Nat) : Operation A → Prop
  | .read _ _ _ => False
  | .write address _ values => address ≤ place ∧ place < address + values.length
  | .cut address _ values => address ≤ place ∧ place < address + values.length

theorem Operation.Performs.elsewhere {memory after : Nat → A} {operation : Operation A}
    (performs : operation.Performs memory after) {place : Nat}
    (elsewhere : ¬ operation.Stores place) : after place = memory place := by
  cases performs with
  | read => rfl
  | write address =>
    apply store_outside
    simp only [Stores] at elsewhere
    omega
  | cut address kept within =>
    apply store_outside
    simp only [Stores] at elsewhere
    rw [List.length_append, List.length_take]
    omega

theorem Replays.elsewhere {memory after : Nat → A} {past : List (Operation A)}
    (replays : Replays memory past after) {place : Nat}
    (elsewhere : ∀ operation ∈ past, ¬ operation.Stores place) : after place = memory place := by
  induction past generalizing memory with
  | nil => rw [replays]
  | cons operation rest ih =>
    obtain ⟨between, performs, further⟩ := replays
    rw [ih further fun later member => elsewhere later (List.mem_cons_of_mem _ member)]
    exact performs.elsewhere (elsewhere operation (List.mem_cons_self ..))

/-- What a read finds at a place is what the last write to it has put there. -/
theorem Replays.read_written {memory after : Nat → A} {earlier between later : List (Operation A)}
    {address count first many : Nat} {values found : List A}
    (replays : Replays memory (earlier ++ .write address count values ::
      (between ++ .read first many found :: later)) after)
    {place : Nat} (written : address ≤ place ∧ place < address + count)
    (asked : first ≤ place ∧ place < first + many)
    (elsewhere : ∀ operation ∈ between, ¬ operation.Stores place) :
    found[place - first]? = values[place - address]? := by
  obtain ⟨before, _, _, write, rest⟩ := replays_append.mp replays
  obtain ⟨atRead, same, _, read, _⟩ := replays_append.mp rest
  cases write with
  | @write _ _ _ whole =>
    cases read
    have inside : place - address < values.length := by omega
    have there := store_inside before address (List.getElem?_eq_getElem inside)
    have split : first + (place - first) = place := by omega
    rw [Nat.add_sub_cancel' written.1] at there
    rw [getElem?_load _ _ (by omega), split, same.elsewhere elsewhere, there,
      List.getElem?_eq_getElem inside]

end ApmSdk.FlatMemory
