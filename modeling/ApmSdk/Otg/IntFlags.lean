import ApmSdk.Lib.FlagRegister
import ApmSdk.Lib.Runs

set_option autoImplicit false

/-!
# The endpoint interrupts of the OTG device

DOEPINT and DIEPINT with the passes of `USBD_OutEndpointIsrHandler` and
`USBD_InEndpointIsrHandler`, one access to a register at a time; the hardware may set any flag
between two of them.
-/

namespace ApmSdk.Otg

open Runs FlagRegister

def clearOutEpIntStatus (doepint raised interrupt : BitVec 32) : BitVec 32 :=
  orAssign doepint raised interrupt

def clearInEpIntStatus (diepint raised interrupt : BitVec 32) : BitVec 32 :=
  orAssign diepint raised interrupt

def clearChannelIntFlag (hchint raised interrupt : BitVec 32) : BitVec 32 :=
  orAssign hchint raised interrupt

inductive Direction where
  | outward
  | inward
  deriving DecidableEq, Repr

-- One `if` of a handler: the flag it reads, whether it clears it and whether it calls.
structure Check where
  bit : Nat
  clears : Bool
  calls : Bool
  deriving DecidableEq, Repr

/-- TSFCMP, SETPCMP, EPDIS, RXOTDIS and RXBSP. -/
def outChecks : List Check :=
  [⟨0, true, true⟩, ⟨3, true, true⟩, ⟨1, true, false⟩, ⟨4, true, false⟩, ⟨6, true, false⟩]

/-- TSFCMP, TXFE, EPDIS, TO, IEPNAKE and ITXEMP; TXFE is not cleared. -/
def inChecks : List Check :=
  [⟨0, true, true⟩, ⟨7, false, true⟩, ⟨1, true, false⟩, ⟨3, true, false⟩, ⟨6, true, false⟩,
    ⟨4, true, false⟩]

def Direction.checks : Direction → List Check
  | .outward => outChecks
  | .inward => inChecks

/-- The flags of transfer-complete and, for OUT, of SETUP-complete events. -/
def Direction.events : Direction → List Nat
  | .outward => [0, 3]
  | .inward => [0]

structure Target where
  direction : Direction
  ep : Nat
  check : Check
  deriving DecidableEq, Repr

-- `reading` and `writing` are the two halves of the or-assignment that clears a flag.
inductive Phase where
  | testing
  | reading (target : Target)
  | writing (target : Target) (value : BitVec 32)
  | calling (target : Target)
  deriving DecidableEq, Repr

/-- The registers and the handler; the last two count the times a flag was newly set and the
calls made for it. -/
structure Isr where
  register : Direction → Nat → BitVec 32
  phase : Phase
  todo : List Target
  raised : Direction → Nat → Nat → Nat
  called : Direction → Nat → Nat → Nat

inductive IsrLabel where
  | raise (direction : Direction) (ep : Nat) (bit : Fin 32)
  | enter (direction : Direction) (epIntNum : BitVec 16)
  | cpu
  deriving DecidableEq

def counted (counts : Direction → Nat → Nat → Nat) (direction : Direction) (ep bit : Nat) :
    Direction → Nat → Nat → Nat :=
  fun d e b => if d = direction ∧ e = ep ∧ b = bit then counts d e b + 1 else counts d e b

def stored (registers : Direction → Nat → BitVec 32) (direction : Direction) (ep : Nat)
    (value : BitVec 32) : Direction → Nat → BitVec 32 :=
  fun d e => if d = direction ∧ e = ep then value else registers d e

/-- The loop over the endpoints, with its tests in their order. -/
def scheduled (direction : Direction) (epIntNum : BitVec 16) : List Target :=
  (List.range 16).flatMap fun ep =>
    if epIntNum.getLsbD ep then direction.checks.map (⟨direction, ep, ·⟩) else []

def Isr.test (isr : Isr) (target : Target) (rest : List Target) : Isr :=
  { isr with
    todo := rest
    phase :=
      if (isr.register target.direction target.ep).getLsbD target.check.bit then
        if target.check.clears then .reading target
        else if target.check.calls then .calling target else .testing
      else .testing }

def isrStep (isr : Isr) : IsrLabel → Option Isr
  | .raise direction ep bit =>
      let register := isr.register direction ep
      some { isr with
        register := stored isr.register direction ep (register ||| BitVec.twoPow 32 bit)
        raised := if register.getLsbD bit then isr.raised
          else counted isr.raised direction ep bit }
  | .enter direction epIntNum =>
      if isr.phase = .testing ∧ isr.todo = [] then
        some { isr with todo := scheduled direction epIntNum }
      else none
  | .cpu =>
      match isr.phase with
      | .testing =>
          match isr.todo with
          | [] => none
          | target :: rest => some (isr.test target rest)
      | .reading target =>
          let register := isr.register target.direction target.ep
          some { isr with
            phase := .writing target (register ||| BitVec.twoPow 32 target.check.bit) }
      | .writing target value =>
          let register := isr.register target.direction target.ep
          some { isr with
            register := stored isr.register target.direction target.ep (written register value)
            phase := if target.check.calls then .calling target else .testing }
      | .calling target =>
          some { isr with
            called := counted isr.called target.direction target.ep target.check.bit
            phase := .testing }

/-- Nothing is pending and no handler runs. -/
def Isr.quiet : Isr where
  register := fun _ _ => 0
  phase := .testing
  todo := []
  raised := fun _ _ _ => 0
  called := fun _ _ _ => 0

/-- When a flag is about to be cleared no other event of the same endpoint is pending. -/
def Alone (isr : Isr) : IsrLabel → Prop
  | .cpu =>
      match isr.phase with
      | .reading target => ∀ bit ∈ target.direction.events, bit ≠ target.check.bit →
          (isr.register target.direction target.ep).getLsbD bit = false
      | _ => True
  | _ => True

instance (isr : Isr) (label : IsrLabel) : Decidable (Alone isr label) := by
  unfold Alone
  split
  · split <;> infer_instance
  · infer_instance

/-! ## What is owed -/

def Phase.owes (direction : Direction) (ep bit : Nat) : Phase → Nat
  | .calling target =>
      if target.direction = direction ∧ target.ep = ep ∧ target.check.bit = bit then 1 else 0
  | _ => 0

theorem Phase.owes_testing (direction : Direction) (ep bit : Nat) :
    Phase.testing.owes direction ep bit = 0 := rfl

theorem Phase.owes_calling (target : Target) (direction : Direction) (ep bit : Nat) :
    (Phase.calling target).owes direction ep bit =
      if target.direction = direction ∧ target.ep = ep ∧ target.check.bit = bit then 1 else 0 :=
  rfl

/-- The events of a flag that no call has been made for yet. -/
def Isr.owed (isr : Isr) (direction : Direction) (ep bit : Nat) : Nat :=
  ((isr.register direction ep).getLsbD bit).toNat + isr.phase.owes direction ep bit

theorem check_of_event {direction : Direction} {check : Check}
    (listed : check ∈ direction.checks) (event : check.bit ∈ direction.events) :
    check.clears = true ∧ check.calls = true := by
  have each : ∀ check ∈ direction.checks, check.bit ∈ direction.events →
      check.clears = true ∧ check.calls = true := by
    cases direction <;> decide
  exact each check listed event

theorem check_of_bit {direction : Direction} {first second : Check}
    (left : first ∈ direction.checks) (right : second ∈ direction.checks)
    (same : first.bit = second.bit) : first = second := by
  have each : ∀ first ∈ direction.checks, ∀ second ∈ direction.checks,
      first.bit = second.bit → first = second := by
    cases direction <;> decide
  exact each first left second right same

theorem listed_scheduled {direction : Direction} {epIntNum : BitVec 16} {target : Target}
    (member : target ∈ scheduled direction epIntNum) :
    target.check ∈ target.direction.checks := by
  obtain ⟨ep, _, inside⟩ := List.mem_flatMap.mp member
  split at inside
  · obtain ⟨check, listed, rfl⟩ := List.mem_map.mp inside
    exact listed
  · cases inside

/-- What the handler is about to do agrees with the register it has read. -/
def Phase.Fits (isr : Isr) : Phase → Prop
  | .testing => True
  | .reading target => target.check ∈ target.direction.checks ∧ target.check.clears = true ∧
      (isr.register target.direction target.ep).getLsbD target.check.bit = true
  | .writing target value => target.check ∈ target.direction.checks ∧
      (isr.register target.direction target.ep).getLsbD target.check.bit = true ∧
      value.getLsbD target.check.bit = true ∧
      ∀ bit ∈ target.direction.events, bit ≠ target.check.bit → value.getLsbD bit = false
  | .calling target => target.check ∈ target.direction.checks

structure Isr.Kept (isr : Isr) : Prop where
  listed : ∀ target ∈ isr.todo, target.check ∈ target.direction.checks
  fits : isr.phase.Fits isr
  events : ∀ direction ep, ∀ bit ∈ direction.events,
    isr.raised direction ep bit = isr.called direction ep bit + isr.owed direction ep bit

theorem getLsbD_stored (registers : Direction → Nat → BitVec 32) (direction : Direction)
    (ep : Nat) (value : BitVec 32) (d : Direction) (e bit : Nat) :
    (stored registers direction ep value d e).getLsbD bit =
      if d = direction ∧ e = ep then value.getLsbD bit else (registers d e).getLsbD bit := by
  unfold stored
  split <;> rfl

theorem getLsbD_raise (registers : Direction → Nat → BitVec 32) (direction : Direction)
    (ep : Nat) (bit : Fin 32) (d : Direction) (e b : Nat) :
    (stored registers direction ep (registers direction ep ||| BitVec.twoPow 32 bit) d e).getLsbD b =
      ((registers d e).getLsbD b || decide (d = direction ∧ e = ep ∧ bit = b)) := by
  rw [getLsbD_stored, getLsbD_twoPow_or _ bit.isLt]
  by_cases here : d = direction ∧ e = ep
  · obtain ⟨rfl, rfl⟩ := here
    simp
  · have other : ¬ (d = direction ∧ e = ep ∧ bit = b) := fun same => here ⟨same.1, same.2.1⟩
    simp [here, other]

theorem Isr.Kept.raise {isr : Isr} (kept : isr.Kept) (direction : Direction) (ep : Nat)
    (bit : Fin 32) {next : Isr} (taken : isrStep isr (.raise direction ep bit) = some next) :
    next.Kept := by
  obtain rfl := Option.some.inj taken
  constructor
  · exact kept.listed
  · have fits := kept.fits
    dsimp only
    cases phase : isr.phase with
    | testing => trivial
    | reading target =>
      rw [phase] at fits
      obtain ⟨listed, clears, pending⟩ := fits
      exact ⟨listed, clears, by rw [getLsbD_raise, pending, Bool.true_or]⟩
    | writing target value =>
      rw [phase] at fits
      obtain ⟨listed, pending, named⟩ := fits
      exact ⟨listed, by rw [getLsbD_raise, pending, Bool.true_or], named⟩
    | calling target =>
      rw [phase] at fits
      exact fits
  · intro d e b event
    have before := kept.events d e b event
    dsimp only [Isr.owed] at before ⊢
    rw [getLsbD_raise]
    by_cases here : d = direction ∧ e = ep ∧ bit = b
    · obtain ⟨rfl, rfl, rfl⟩ := here
      cases pending : (isr.register d e).getLsbD bit with
      | true =>
        simp only [pending, if_true, Bool.true_or] at before ⊢
        exact before
      | false =>
        simp only [pending, Bool.false_eq_true, if_false, counted, true_and, if_true,
          decide_true, Bool.or_true, Bool.toNat_true, Bool.toNat_false] at before ⊢
        omega
    · have same : (if (isr.register direction ep).getLsbD bit = true then isr.raised
          else counted isr.raised direction ep bit) d e b = isr.raised d e b := by
        split
        · rfl
        · simp only [counted]
          rw [if_neg fun other => here ⟨other.1, other.2.1, other.2.2.symm⟩]
      rw [same, before]
      simp [here]

theorem Isr.Kept.test {isr : Isr} (kept : isr.Kept) {target : Target} {rest : List Target}
    (idle : isr.phase = .testing) (next : isr.todo = target :: rest) :
    (isr.test target rest).Kept := by
  have listed := kept.listed target (by simp [next])
  constructor
  · intro later member
    exact kept.listed later (by rw [next]; exact List.mem_cons_of_mem _ member)
  · simp only [Isr.test]
    split_ifs with pending clears calls
    · exact ⟨listed, clears, pending⟩
    · exact listed
    · trivial
    · trivial
  · intro d e b event
    have before := kept.events d e b event
    simp only [Isr.owed, idle, Phase.owes_testing, Isr.test] at before ⊢
    rw [before]
    split_ifs with pending clears calls
    · rfl
    · -- a flag that is not cleared is no event
      have other : ¬ (target.direction = d ∧ target.ep = e ∧ target.check.bit = b) := by
        rintro ⟨rfl, rfl, rfl⟩
        exact clears (check_of_event listed event).1
      rw [Phase.owes_calling, if_neg other]
    · rfl
    · rfl

theorem Isr.Kept.read {isr : Isr} (kept : isr.Kept) {target : Target}
    (reading : isr.phase = .reading target)
    (alone : ∀ bit ∈ target.direction.events, bit ≠ target.check.bit →
      (isr.register target.direction target.ep).getLsbD bit = false) :
    Isr.Kept
      { isr with
        phase := .writing target
          (isr.register target.direction target.ep ||| BitVec.twoPow 32 target.check.bit) } := by
  have fits := kept.fits
  rw [reading] at fits
  obtain ⟨listed, _, pending⟩ := fits
  have within : target.check.bit < 32 := BitVec.lt_of_getLsbD pending
  constructor
  · exact kept.listed
  · refine ⟨listed, pending, ?_, fun bit event other => ?_⟩
    · rw [getLsbD_twoPow_or _ within]
      simp
    · rw [getLsbD_twoPow_or _ within, alone bit event other]
      simpa using other.symm
  · intro d e b event
    have before := kept.events d e b event
    rw [Isr.owed, reading] at before
    exact before

theorem Isr.Kept.write {isr : Isr} (kept : isr.Kept) {target : Target} {value : BitVec 32}
    (writing : isr.phase = .writing target value) :
    Isr.Kept
      { isr with
        register := stored isr.register target.direction target.ep
          (written (isr.register target.direction target.ep) value)
        phase := if target.check.calls then .calling target else .testing } := by
  have fits := kept.fits
  rw [writing] at fits
  obtain ⟨listed, pending, named, others⟩ := fits
  constructor
  · exact kept.listed
  · dsimp only
    split
    · exact listed
    · trivial
  · intro d e b event
    have before : isr.raised d e b = isr.called d e b + ((isr.register d e).getLsbD b).toNat := by
      simpa [Isr.owed, writing, Phase.owes] using kept.events d e b event
    simp only [Isr.owed, getLsbD_stored]
    rw [before]
    by_cases here : d = target.direction ∧ e = target.ep
    · obtain ⟨rfl, rfl⟩ := here
      rw [if_pos ⟨rfl, rfl⟩, getLsbD_written]
      by_cases same : b = target.check.bit
      · -- the flag is cleared and its call is owed instead
        subst same
        rw [if_pos (check_of_event listed event).2, Phase.owes_calling, pending, named]
        simp
      · have left : value.getLsbD b = false := others b event same
        have other : target.check.bit ≠ b := fun eq => same eq.symm
        split <;> simp [Phase.owes_calling, Phase.owes_testing, left, other]
    · have elsewhere (bit : Nat) :
          ¬ (target.direction = d ∧ target.ep = e ∧ bit = b) := by
        rintro ⟨rfl, rfl, _⟩
        exact here ⟨rfl, rfl⟩
      rw [if_neg here]
      split <;>
        simp only [Phase.owes_calling, Phase.owes_testing, elsewhere, if_false, Nat.add_zero]

theorem Isr.Kept.call {isr : Isr} (kept : isr.Kept) {target : Target}
    (calling : isr.phase = .calling target) :
    Isr.Kept
      { isr with
        called := counted isr.called target.direction target.ep target.check.bit
        phase := .testing } := by
  constructor
  · exact kept.listed
  · trivial
  · intro d e b event
    have before := kept.events d e b event
    simp only [Isr.owed, calling, Phase.owes_calling, Phase.owes_testing, counted,
      Nat.add_zero] at before ⊢
    by_cases here : d = target.direction ∧ e = target.ep ∧ b = target.check.bit
    · obtain ⟨rfl, rfl, rfl⟩ := here
      simp only [true_and, if_true] at before ⊢
      omega
    · have elsewhere : ¬ (target.direction = d ∧ target.ep = e ∧ target.check.bit = b) := by
        rintro ⟨rfl, rfl, rfl⟩
        exact here ⟨rfl, rfl, rfl⟩
      rw [if_neg elsewhere] at before
      rw [if_neg here]
      omega

/-- What a step of the handler does, by its phase. -/
theorem cpu_cases {before after : Isr} (taken : isrStep before .cpu = some after) :
    (∃ target rest, before.phase = .testing ∧ before.todo = target :: rest ∧
      after = before.test target rest) ∨
    (∃ target, before.phase = .reading target ∧ after = { before with
      phase := .writing target
        (before.register target.direction target.ep ||| BitVec.twoPow 32 target.check.bit) }) ∨
    (∃ target value, before.phase = .writing target value ∧ after = { before with
      register := stored before.register target.direction target.ep
        (written (before.register target.direction target.ep) value)
      phase := if target.check.calls then .calling target else .testing }) ∨
    ∃ target, before.phase = .calling target ∧ after = { before with
      called := counted before.called target.direction target.ep target.check.bit
      phase := .testing } := by
  simp only [isrStep] at taken
  cases phase : before.phase with
  | testing =>
    simp only [phase] at taken
    cases todo : before.todo with
    | nil => simp [todo] at taken
    | cons target rest =>
      simp only [todo, Option.some.injEq] at taken
      exact .inl ⟨target, rest, rfl, rfl, taken.symm⟩
  | reading target =>
    simp only [phase, Option.some.injEq] at taken
    exact .inr (.inl ⟨target, rfl, taken.symm⟩)
  | writing target value =>
    simp only [phase, Option.some.injEq] at taken
    exact .inr (.inr (.inl ⟨target, value, rfl, taken.symm⟩))
  | calling target =>
    simp only [phase, Option.some.injEq] at taken
    exact .inr (.inr (.inr ⟨target, rfl, taken.symm⟩))

theorem Isr.Kept.step {before after : Isr} {label : IsrLabel} (kept : before.Kept)
    (alone : Alone before label) (taken : isrStep before label = some after) : after.Kept := by
  cases label with
  | raise direction ep bit => exact kept.raise direction ep bit taken
  | enter direction epIntNum =>
    simp only [isrStep, Option.ite_none_right_eq_some, Option.some.injEq] at taken
    obtain ⟨⟨idle, _⟩, rfl⟩ := taken
    constructor
    · exact fun target => listed_scheduled
    · rw [idle]
      trivial
    · exact kept.events
  | cpu =>
    rcases cpu_cases taken with ⟨target, rest, phase, todo, rfl⟩ | ⟨target, phase, rfl⟩ |
      ⟨target, value, phase, rfl⟩ | ⟨target, phase, rfl⟩
    · exact kept.test phase todo
    · simp only [Alone, phase] at alone
      exact kept.read phase alone
    · exact kept.write phase
    · exact kept.call phase

theorem kept_quiet : Isr.quiet.Kept := by
  constructor
  · intro target member
    cases member
  · trivial
  · intro direction ep bit _
    simp [Isr.quiet, Isr.owed, Phase.owes]

theorem reached_kept {labels : List IsrLabel} {s : Isr}
    (run : Run isrStep Alone Isr.quiet labels s) : s.Kept :=
  run.invariant Isr.Kept kept_quiet fun _ _ _ kept alone taken => kept.step alone taken

/-! ## A pass -/

/-- A flag that was pending when its test was still to come has been called for, or will be
before the pass ends. -/
inductive Due (target : Target) (calls : Nat) (isr : Isr) : Prop
  | waiting : target ∈ isr.todo →
      (isr.register target.direction target.ep).getLsbD target.check.bit = true → Due target calls isr
  | reading : isr.phase = .reading target → Due target calls isr
  | writing (value : BitVec 32) : isr.phase = .writing target value → Due target calls isr
  | calling : isr.phase = .calling target → Due target calls isr
  | called : calls < isr.called target.direction target.ep target.check.bit → Due target calls isr

theorem called_le {before after : Isr} {label : IsrLabel}
    (taken : isrStep before label = some after) (direction : Direction) (ep bit : Nat) :
    before.called direction ep bit ≤ after.called direction ep bit := by
  cases label with
  | raise d e b =>
    obtain rfl := Option.some.inj taken
    exact Nat.le_refl _
  | enter d epIntNum =>
    simp only [isrStep, Option.ite_none_right_eq_some, Option.some.injEq] at taken
    obtain ⟨_, rfl⟩ := taken
    exact Nat.le_refl _
  | cpu =>
    rcases cpu_cases taken with ⟨target, rest, _, _, rfl⟩ | ⟨target, _, rfl⟩ |
      ⟨target, value, _, rfl⟩ | ⟨target, _, rfl⟩
    · exact Nat.le_refl _
    · exact Nat.le_refl _
    · exact Nat.le_refl _
    · simp only [counted]
      split
      · omega
      · exact Nat.le_refl _

theorem Due.cpu {target : Target} {calls : Nat} {before after : Isr}
    (due : Due target calls before) (kept : before.Kept)
    (listed : target.check ∈ target.direction.checks)
    (event : target.check.bit ∈ target.direction.events)
    (floor : calls ≤ before.called target.direction target.ep target.check.bit)
    (taken : isrStep before .cpu = some after) : Due target calls after := by
  have ⟨clears, calls_⟩ := check_of_event listed event
  have fits := kept.fits
  rcases cpu_cases taken with ⟨tested, rest, phase, todo, rfl⟩ | ⟨current, phase, rfl⟩ |
    ⟨current, value, phase, rfl⟩ | ⟨current, phase, rfl⟩
  · cases due with
    | waiting member pending =>
      rw [todo] at member
      rcases List.mem_cons.mp member with rfl | later
      · exact .reading (by simp [Isr.test, pending, clears])
      · exact .waiting later pending
    | called more => exact .called more
    | reading now => simp [phase] at now
    | writing value now => simp [phase] at now
    | calling now => simp [phase] at now
  · cases due with
    | waiting member pending => exact .waiting member pending
    | called more => exact .called more
    | reading now =>
      obtain rfl : current = target := by simpa [phase] using now
      exact .writing _ rfl
    | writing value now => simp [phase] at now
    | calling now => simp [phase] at now
  · rw [phase] at fits
    obtain ⟨other, _, named, others⟩ := fits
    cases due with
    | waiting member pending =>
      by_cases here : target.direction = current.direction ∧ target.ep = current.ep
      · by_cases same : target.check.bit = current.check.bit
        · -- the flag that is being cleared is the one that was waiting
          have checks : target.check = current.check :=
            check_of_bit listed (by rw [here.1]; exact other) same
          obtain rfl : current = target := by
            cases current
            cases target
            simp_all
          exact .calling (by simp [calls_])
        · have spared : value.getLsbD target.check.bit = false :=
            others _ (by rw [← here.1]; exact event) same
          refine .waiting member ?_
          rw [getLsbD_stored, if_pos here, getLsbD_written, spared, ← here.1, ← here.2, pending]
          rfl
      · refine .waiting member ?_
        rw [getLsbD_stored, if_neg here]
        exact pending
    | called more => exact .called more
    | reading now => simp [phase] at now
    | writing value now =>
      obtain ⟨rfl, _⟩ : current = target ∧ _ := by simpa [phase] using now
      exact .calling (by simp [calls_])
    | calling now => simp [phase] at now
  · cases due with
    | waiting member pending => exact .waiting member pending
    | called more =>
      exact .called (Nat.lt_of_lt_of_le more (called_le taken _ _ _))
    | reading now => simp [phase] at now
    | writing value now => simp [phase] at now
    | calling now =>
      obtain rfl : current = target := by simpa [phase] using now
      refine .called ?_
      simp only [counted, true_and, if_true]
      omega

theorem Due.step {target : Target} {calls : Nat} {before after : Isr} {label : IsrLabel}
    (due : Due target calls before) (kept : before.Kept)
    (listed : target.check ∈ target.direction.checks)
    (event : target.check.bit ∈ target.direction.events)
    (floor : calls ≤ before.called target.direction target.ep target.check.bit)
    (taken : isrStep before label = some after) : Due target calls after := by
  cases label with
  | raise direction ep bit =>
    obtain rfl := Option.some.inj taken
    cases due with
    | waiting member pending =>
      refine .waiting member ?_
      rw [getLsbD_raise, pending, Bool.true_or]
    | reading now => exact .reading now
    | writing value now => exact .writing value now
    | calling now => exact .calling now
    | called more => exact .called more
  | enter direction epIntNum =>
    simp only [isrStep, Option.ite_none_right_eq_some, Option.some.injEq] at taken
    obtain ⟨⟨idle, none⟩, rfl⟩ := taken
    cases due with
    | waiting member _ => simp [none] at member
    | reading now => simp [idle] at now
    | writing value now => simp [idle] at now
    | calling now => simp [idle] at now
    | called more => exact .called more
  | cpu => exact due.cpu kept listed event floor taken

/-- A flag that is pending while its test is still to come is called for before the handler
has no more to do. -/
theorem called_in_pass {s t : Isr} {labels : List IsrLabel} {target : Target} (kept : s.Kept)
    (run : Run isrStep Alone s labels t) (member : target ∈ s.todo)
    (event : target.check.bit ∈ target.direction.events)
    (pending : (s.register target.direction target.ep).getLsbD target.check.bit = true)
    (ended : t.phase = .testing ∧ t.todo = []) :
    s.called target.direction target.ep target.check.bit <
      t.called target.direction target.ep target.check.bit := by
  have listed := kept.listed target member
  have due := run.invariant
    (fun u => u.Kept ∧ s.called target.direction target.ep target.check.bit ≤
      u.called target.direction target.ep target.check.bit ∧
      Due target (s.called target.direction target.ep target.check.bit) u)
    ⟨kept, Nat.le_refl _, .waiting member pending⟩
    fun _ _ _ ⟨held, floor, due⟩ alone taken =>
      ⟨held.step alone taken, Nat.le_trans floor (called_le taken _ _ _),
        due.step held listed event floor taken⟩
  cases due.2.2 with
  | waiting member _ => simp [ended.2] at member
  | reading now => simp [ended.1] at now
  | writing value now => simp [ended.1] at now
  | calling now => simp [ended.1] at now
  | called more => exact more

theorem mem_scheduled {direction : Direction} {epIntNum : BitVec 16} {ep bit : Nat}
    (within : ep < 16) (named : epIntNum.getLsbD ep = true) (event : bit ∈ direction.events) :
    ∃ target ∈ scheduled direction epIntNum,
      target.direction = direction ∧ target.ep = ep ∧ target.check.bit = bit := by
  have each : ∀ bit ∈ direction.events, ∃ check ∈ direction.checks, check.bit = bit := by
    cases direction <;> decide
  obtain ⟨check, listed, rfl⟩ := each bit event
  refine ⟨⟨direction, ep, check⟩, ?_, rfl, rfl, rfl⟩
  apply List.mem_flatMap.mpr
  refine ⟨ep, List.mem_range.mpr within, ?_⟩
  rw [if_pos named]
  exact List.mem_map.mpr ⟨check, listed, rfl⟩

def Phase.left : Phase → Nat
  | .testing => 0
  | .reading _ => 3
  | .writing _ _ => 2
  | .calling _ => 1

/-- Left alone, the handler comes to an end. -/
theorem pass_ends (s : Isr) : ∃ count t,
    Run isrStep free s (List.replicate count .cpu) t ∧ t.phase = .testing ∧ t.todo = [] := by
  induction steps_eq : 4 * s.todo.length + s.phase.left using Nat.strongRecOn
    generalizing s with
  | ind steps ih =>
    by_cases ended : s.phase = .testing ∧ s.todo = []
    · exact ⟨0, s, .nil, ended⟩
    · have moves : ∃ next, isrStep s .cpu = some next ∧
          4 * next.todo.length + next.phase.left < steps := by
        rw [← steps_eq]
        cases phase : s.phase with
        | testing =>
          cases todo : s.todo with
          | nil => exact absurd ⟨phase, todo⟩ ended
          | cons target rest =>
            refine ⟨s.test target rest, by simp only [isrStep, phase, todo], ?_⟩
            have small (phase : Phase) : phase.left ≤ 3 := by cases phase <;> simp [Phase.left]
            have bound := small (s.test target rest).phase
            simp only [Isr.test, List.length_cons] at bound ⊢
            omega
        | reading target =>
          refine ⟨_, by simp only [isrStep, phase]; rfl, ?_⟩
          simp [Phase.left]
        | writing target value =>
          refine ⟨_, by simp only [isrStep, phase]; rfl, ?_⟩
          dsimp only
          split <;> simp [Phase.left]
        | calling target =>
          refine ⟨_, by simp only [isrStep, phase]; rfl, ?_⟩
          simp [Phase.left]
      obtain ⟨next, taken, fewer⟩ := moves
      obtain ⟨count, t, run, idle⟩ := ih _ fewer next rfl
      exact ⟨count + 1, t, .cons trivial taken run, idle⟩

/-! ## Events and calls -/

/-- Every event has had its call or is owed it, a pass comes to an end, and over an endpoint
whose event is pending it makes the call. -/
structure Served (s : Isr) : Prop where
  counted : ∀ direction ep, ∀ bit ∈ direction.events,
    s.raised direction ep bit = s.called direction ep bit + s.owed direction ep bit
  ends : ∃ count t, Run isrStep free s (List.replicate count .cpu) t ∧
    t.phase = .testing ∧ t.todo = []
  passes : ∀ direction epIntNum entered labels t,
    isrStep s (.enter direction epIntNum) = some entered → Run isrStep Alone entered labels t →
    t.phase = .testing ∧ t.todo = [] →
    ∀ ep < 16, epIntNum.getLsbD ep = true → ∀ bit ∈ direction.events,
      (s.register direction ep).getLsbD bit = true →
        s.called direction ep bit < t.called direction ep bit

/-- An acknowledgement is exact when no other flag is pending, and no event is lost as long as
none is acknowledged while another one of its endpoint is pending. -/
theorem events_served {labels : List IsrLabel} {s : Isr}
    (run : Run isrStep Alone Isr.quiet labels s) :
    (∀ register raised flags : BitVec 32,
      (clearOutEpIntStatus register raised flags = written (register ||| raised) flags ↔
        register &&& ~~~flags = 0) ∧
      (clearInEpIntStatus register raised flags = written (register ||| raised) flags ↔
        register &&& ~~~flags = 0) ∧
      (clearChannelIntFlag register raised flags = written (register ||| raised) flags ↔
        register &&& ~~~flags = 0)) ∧
    Served s := by
  constructor
  · intro register raised flags
    have exactly := orAssign_exact_iff register raised flags
    exact ⟨exactly, exactly, exactly⟩
  · have kept := reached_kept run
    constructor
    · exact kept.events
    · exact pass_ends s
    · intro direction epIntNum entered later t taken pass ended ep within named bit event pending
      have next := kept.step (show Alone s (.enter direction epIntNum) from trivial) taken
      simp only [isrStep, Option.ite_none_right_eq_some, Option.some.injEq] at taken
      obtain ⟨_, rfl⟩ := taken
      obtain ⟨target, member, rfl, rfl, rfl⟩ := mem_scheduled within named event
      have called := called_in_pass next pass member event pending ended
      exact called

/-- A SETUP packet completes, and the handler serves it. -/
def oneSetup : List IsrLabel :=
  [.raise .outward 0 3, .enter .outward 1] ++ List.replicate 8 .cpu

theorem oneSetup_accepted : (execute isrStep Alone .quiet oneSetup).isSome = true := by decide

theorem oneSetup_served : Served (final isrStep Alone .quiet oneSetup oneSetup_accepted) :=
  (events_served (Run.final isrStep Alone .quiet oneSetup oneSetup_accepted)).2

/-- The status stage of a transfer and the next SETUP packet complete before the handler
acknowledges the first of them. -/
def bothPending : List IsrLabel :=
  [.raise .outward 0 0, .raise .outward 0 3, .enter .outward 1] ++ List.replicate 4 .cpu

theorem bothPending_accepted : (execute isrStep free .quiet bothPending).isSome = true := by
  decide

theorem setup_lost :
    ¬ ∀ (labels : List IsrLabel) (s : Isr), Run isrStep free .quiet labels s → Served s := by
  intro served
  have kept := served _ _ (Run.final isrStep free .quiet bothPending bothPending_accepted)
  exact absurd (kept.counted .outward 0 3 (by decide)) (by decide)

end ApmSdk.Otg
