import Mathlib.Data.Option.Basic

set_option autoImplicit false

/-!
# Traces of machines with outputs

A machine that may refuse a label and may show something when it takes one, and when two of its
states cannot be told apart by what they show.
-/

namespace ApmSdk.Traces

variable {State Label Output : Type}

/-- What is shown along the labels, if each of them is accepted. -/
def trace (step : State → Label → Option (State × Option Output)) :
    State → List Label → Option (List Output)
  | _, [] => some []
  | state, label :: rest =>
      match step state label with
      | some (next, output) => (trace step next rest).map (output.toList ++ ·)
      | none => none

def Indistinguishable (step : State → Label → Option (State × Option Output))
    (first second : State) : Prop :=
  ∀ labels, trace step first labels = trace step second labels

/-- Two answers to a label: both refuse, or both show the same and go to related states. -/
inductive Agree (related : State → State → Prop) :
    Option (State × Option Output) → Option (State × Option Output) → Prop
  | refuse : Agree related none none
  | accept {first second : State} (output : Option Output) :
      related first second → Agree related (some (first, output)) (some (second, output))

/-- The labels lead from one state to another. -/
inductive Path (step : State → Label → Option (State × Option Output)) :
    State → List Label → State → Prop
  | nil (state : State) : Path step state [] state
  | cons {state next final : State} {label : Label} {labels : List Label} (output : Option Output) :
      step state label = some (next, output) → Path step next labels final →
      Path step state (label :: labels) final

section Rules

variable {step : State → Label → Option (State × Option Output)}

theorem Path.append {state middle final : State} {first second : List Label}
    (left : Path step state first middle) (right : Path step middle second final) :
    Path step state (first ++ second) final := by
  induction left with
  | nil => exact right
  | cons output taken _ ih => exact .cons output taken (ih right)

theorem Path.single {state next : State} {label : Label} {output : Option Output}
    (taken : step state label = some (next, output)) : Path step state [label] next :=
  .cons output taken (.nil next)

/-- A label shows the same in both states and leads to two that cannot be told apart. -/
theorem Indistinguishable.next {first second first' second' : State} {label : Label}
    {left right : Option Output} (same : Indistinguishable step first second)
    (taken : step first label = some (first', left))
    (taken' : step second label = some (second', right)) :
    left = right ∧ Indistinguishable step first' second' := by
  have shown : left.toList = right.toList := by
    simpa [trace, taken, taken'] using same [label]
  have outputs : left = right := by
    cases left <;> cases right <;> simp_all
  refine ⟨outputs, fun labels => ?_⟩
  have whole := same (label :: labels)
  simp only [trace, taken, taken', outputs] at whole
  exact Option.map_injective (fun _ _ equal => List.append_cancel_left equal) whole

end Rules

end ApmSdk.Traces
