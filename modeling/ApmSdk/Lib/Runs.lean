import Mathlib.Data.List.Induction
import Mathlib.Logic.Function.Iterate

set_option autoImplicit false

/-!
# Guarded runs

A machine is a partial step function on states. A run is a list of labels the
machine accepts one after another, each of them meeting a guard on the state it
is taken from.
-/

namespace ApmSdk.Runs

variable {State Label : Type}

-- States reached from `start`, with the labels taken, when every step meets `guard`.
inductive Run (step : State → Label → Option State) (guard : State → Label → Prop)
    (start : State) : List Label → State → Prop
  | nil : Run step guard start [] start
  | snoc {labels : List Label} {before after : State} {label : Label} :
      Run step guard start labels before → guard before label →
      step before label = some after → Run step guard start (labels ++ [label]) after

/-- The guard that admits every step. -/
def free : State → Label → Prop := fun _ _ => True

instance (state : State) (label : Label) : Decidable (free state label) := instDecidableTrue

section Rules

variable {step : State → Label → Option State} {guard : State → Label → Prop} {start : State}

theorem Run.invariant (inv : State → Prop) (initial : inv start)
    (preserved : ∀ before label after, inv before → guard before label →
      step before label = some after → inv after)
    {labels : List Label} {state : State} (run : Run step guard start labels state) :
    inv state := by
  induction run with
  | nil => exact initial
  | snoc _ admitted taken held => exact preserved _ _ _ held admitted taken

theorem Run.weaken {wider : State → Label → Prop}
    (implied : ∀ state label, guard state label → wider state label)
    {labels : List Label} {state : State} (run : Run step guard start labels state) :
    Run step wider start labels state := by
  induction run with
  | nil => exact .nil
  | snoc _ admitted taken shorter => exact shorter.snoc (implied _ _ admitted) taken

theorem Run.append {first second : List Label} {middle final : State}
    (left : Run step guard start first middle) (right : Run step guard middle second final) :
    Run step guard start (first ++ second) final := by
  induction right with
  | nil => simpa using left
  | snoc _ admitted taken joined =>
    rw [← List.append_assoc]
    exact joined.snoc admitted taken

theorem Run.unsnoc {labels : List Label} {label : Label} {state : State}
    (run : Run step guard start (labels ++ [label]) state) :
    ∃ before, Run step guard start labels before ∧ guard before label ∧
      step before label = some state := by
  generalize whole : labels ++ [label] = all at run
  cases run with
  | nil => simp at whole
  | snoc shorter admitted taken =>
    obtain ⟨rfl, last⟩ := List.append_inj' whole rfl
    obtain rfl := List.singleton_inj.mp last
    exact ⟨_, shorter, admitted, taken⟩

theorem Run.split {first second : List Label} {state : State}
    (run : Run step guard start (first ++ second) state) :
    ∃ middle, Run step guard start first middle ∧ Run step guard middle second state := by
  induction second using List.reverseRecOn generalizing state with
  | nil => exact ⟨state, by simpa using run, .nil⟩
  | append_singleton rest label ih =>
    rw [← List.append_assoc] at run
    obtain ⟨before, shorter, admitted, taken⟩ := run.unsnoc
    obtain ⟨middle, left, right⟩ := ih shorter
    exact ⟨middle, left, right.snoc admitted taken⟩

theorem Run.uncons {label : Label} {labels : List Label} {state : State}
    (run : Run step guard start (label :: labels) state) :
    ∃ next, guard start label ∧ step start label = some next ∧
      Run step guard next labels state := by
  have joined : Run step guard start ([label] ++ labels) state := run
  obtain ⟨next, first, rest⟩ := joined.split
  have single : Run step guard start ([] ++ [label]) next := first
  obtain ⟨before, none, admitted, taken⟩ := single.unsnoc
  generalize empty : ([] : List Label) = labels at none
  cases none with
  | nil => exact ⟨next, admitted, taken, rest⟩
  | snoc => simp at empty

theorem Run.cons {label : Label} {labels : List Label} {next state : State}
    (admitted : guard start label) (taken : step start label = some next)
    (run : Run step guard next labels state) : Run step guard start (label :: labels) state :=
  (Run.nil.snoc admitted taken).append run

theorem Run.unique {labels : List Label} {first second : State}
    (left : Run step guard start labels first) (right : Run step guard start labels second) :
    first = second := by
  induction left generalizing second with
  | nil =>
    generalize empty : ([] : List Label) = labels at right
    cases right with
    | nil => rfl
    | snoc => simp at empty
  | snoc _ _ taken ih =>
    obtain ⟨before, run, _, other⟩ := right.unsnoc
    obtain rfl := ih run
    exact Option.some.inj (taken.symm.trans other)

/-- A run that ends where `goal` holds and does not start there enters it at some step. -/
theorem Run.entry (goal : State → Prop) {labels : List Label} {state : State}
    (run : Run step guard start labels state) (outside : ¬ goal start) (inside : goal state) :
    ∃ earlier label later before after, earlier ++ label :: later = labels ∧
      Run step guard start earlier before ∧ guard before label ∧
      step before label = some after ∧ ¬ goal before ∧ goal after := by
  induction run with
  | nil => exact absurd inside outside
  | @snoc shorter before after label run admitted taken ih =>
    by_cases sooner : goal before
    · obtain ⟨earlier, entering, later, s, t, split, rest⟩ := ih sooner
      exact ⟨earlier, entering, later ++ [label], s, t, by simp [← split], rest⟩
    · exact ⟨shorter, label, [], before, after, rfl, run, admitted, taken, sooner, inside⟩

end Rules

section Calls

variable {step : State → Label → State} {fine : State → Label → Prop}

/-- Every label meets `fine` on the state that it is applied to. -/
def Each (step : State → Label → State) (fine : State → Label → Prop) :
    State → List Label → Prop
  | _, [] => True
  | state, label :: rest => fine state label ∧ Each step fine (step state label) rest

instance [∀ state label, Decidable (fine state label)] (state : State) (labels : List Label) :
    Decidable (Each step fine state labels) := by
  induction labels generalizing state with
  | nil => exact instDecidableTrue
  | cons label rest ih =>
    exact @instDecidableAnd (fine state label) (Each step fine (step state label) rest) _ (ih _)

/-- Where `fine` is what a label needs to keep `right`, it is what a list of them needs. -/
theorem right_throughout_iff_each {right : State → Prop}
    (kept_iff : ∀ state label, right state → (right (step state label) ↔ fine state label))
    {start : State} (initial : right start) (labels : List Label) :
    (∀ earlier, earlier <+: labels → right (earlier.foldl step start)) ↔
      Each step fine start labels := by
  induction labels generalizing start with
  | nil => simp [Each, initial]
  | cons label rest ih =>
    constructor
    · intro throughout
      have next : right (step start label) := by
        have first := throughout [label] (by simp)
        simpa using first
      refine ⟨(kept_iff start label initial).mp next, (ih next).mp fun earlier within => ?_⟩
      have longer := throughout (label :: earlier) (by simpa using within)
      simpa using longer
    · rintro ⟨first, others⟩ earlier within
      have next : right (step start label) := (kept_iff start label initial).mpr first
      cases earlier with
      | nil => exact initial
      | cons head tail =>
        obtain ⟨rfl, further⟩ := List.cons_prefix_cons.mp within
        exact (ih next).mpr others tail further

end Calls

-- Every way to go on comes to `goal`, and none stops before.
inductive Inevitable (step : State → Label → Option State) (guard : State → Label → Prop)
    (goal : State → Prop) : State → Prop
  | now {state : State} : goal state → Inevitable step guard goal state
  | later {state : State} :
      (∃ label next, guard state label ∧ step state label = some next) →
      (∀ label next, guard state label → step state label = some next →
        Inevitable step guard goal next) → Inevitable step guard goal state

theorem Inevitable.of_measure {step : State → Label → Option State}
    {guard : State → Label → Prop} {goal inv : State → Prop} (measure : State → Nat)
    (goes : ∀ state, inv state → ¬ goal state →
      ∃ label next, guard state label ∧ step state label = some next)
    (decreases : ∀ state label next, inv state → ¬ goal state → guard state label →
      step state label = some next → inv next ∧ (¬ goal next → measure next < measure state))
    {state : State} (held : inv state) : Inevitable step guard goal state := by
  generalize bound : measure state = size
  induction size using Nat.strongRecOn generalizing state with
  | ind size ih =>
    by_cases reached : goal state
    · exact .now reached
    · refine .later (goes state held reached) fun label next admitted taken => ?_
      obtain ⟨held', smaller⟩ := decreases state label next held reached admitted taken
      by_cases done : goal next
      · exact .now done
      · exact ih (measure next) (bound ▸ smaller done) held' rfl

/-- The state after a list of labels, when the machine accepts each under the guard. -/
def execute (step : State → Label → Option State) (guard : State → Label → Prop)
    [∀ state label, Decidable (guard state label)] : State → List Label → Option State
  | state, [] => some state
  | state, label :: rest =>
      if guard state label then
        match step state label with
        | some next => execute step guard next rest
        | none => none
      else none

theorem Run.of_execute (step : State → Label → Option State) (guard : State → Label → Prop)
    [∀ state label, Decidable (guard state label)] {start final : State} {labels : List Label}
    (reached : execute step guard start labels = some final) :
    Run step guard start labels final := by
  induction labels generalizing start with
  | nil =>
    obtain rfl := Option.some.inj reached
    exact .nil
  | cons label rest ih =>
    simp only [execute] at reached
    split at reached
    · next admitted =>
      split at reached
      · next next taken =>
        exact .cons admitted taken (ih reached)
      · cases reached
    · cases reached

/-- The state a list of labels leads to, once it is known that the machine accepts them. -/
def final (step : State → Label → Option State) (guard : State → Label → Prop)
    [∀ state label, Decidable (guard state label)] (start : State) (labels : List Label)
    (accepted : (execute step guard start labels).isSome = true) : State :=
  (execute step guard start labels).get accepted

theorem Run.final (step : State → Label → Option State) (guard : State → Label → Prop)
    [∀ state label, Decidable (guard state label)] (start : State) (labels : List Label)
    (accepted : (execute step guard start labels).isSome = true) :
    Run step guard start labels (final step guard start labels accepted) :=
  Run.of_execute step guard (Option.some_get accepted).symm

section Iterates

variable {next : State → State} {good goal : State → Prop}

end Iterates

end ApmSdk.Runs
