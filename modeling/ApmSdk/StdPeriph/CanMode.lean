import Mathlib.Data.List.Basic
import Mathlib.Data.Nat.Find

set_option autoImplicit false

/-!
# The mode of the CAN controller

`CAN_OperatingMode`, for everything that the successive reads of MSTS can show.
-/

namespace ApmSdk.StdPeriph

-- INITFLG and SLEEPFLG of MSTS.
structure CanModeFlags where
  initflg : Bool
  sleepflg : Bool
  deriving DecidableEq, Repr

-- INITREQ and SLEEPREQ of MCTRL.
structure CanModeRequest where
  initreq : Bool
  sleepreq : Bool
  deriving DecidableEq, Repr

/-- A condition on the two flags that has been evaluated. INITFLG is read first, and SLEEPFLG only
if INITFLG leaves the condition open. -/
structure ModeCheck where
  holds : Bool
  initflg : Bool
  sleepflg : Option Bool
  deriving DecidableEq, Repr

namespace ModeCheck

def reads (check : ModeCheck) : Nat := if check.sleepflg.isSome then 2 else 1

-- `first (INITFLG) && second (SLEEPFLG)`, from the register read number `read` on.
def both (first second : Bool → Bool) (answers : Nat → CanModeFlags) (read : Nat) : ModeCheck :=
  let initflg := (answers read).initflg
  if first initflg then
    let sleepflg := (answers (read + 1)).sleepflg
    ⟨second sleepflg, initflg, some sleepflg⟩
  else ⟨false, initflg, none⟩

-- `first (INITFLG) || second (SLEEPFLG)`.
def either (first second : Bool → Bool) (answers : Nat → CanModeFlags) (read : Nat) : ModeCheck :=
  let initflg := (answers read).initflg
  if first initflg then ⟨true, initflg, none⟩
  else
    let sleepflg := (answers (read + 1)).sleepflg
    ⟨second sleepflg, initflg, some sleepflg⟩

end ModeCheck

-- `CAN_OPERATING_MODE_T`.
inductive CanOperatingMode where
  | init
  | normal
  | sleep
  deriving DecidableEq, Repr

/-- What is left of `time_out` when the loop ends, the read that comes next and the checks of the
loop condition. -/
structure ModeWait where
  timeOut : Nat
  read : Nat
  polls : List ModeCheck

/-- What a call returns, the requests that it has made, what is left of `time_out`, the checks of
the loop condition and the check behind the loop. -/
structure ModeRun where
  states : Nat
  request : CanModeRequest
  timeOut : Nat
  polls : List ModeCheck
  test : ModeCheck
  deriving DecidableEq, Repr

namespace CanOperatingMode

def request : CanOperatingMode → CanModeRequest
  | init => ⟨true, false⟩
  | normal => ⟨false, false⟩
  | sleep => ⟨false, true⟩

/-- The condition on the flags that keeps the loop waiting. -/
def waits : CanOperatingMode → (Nat → CanModeFlags) → Nat → ModeCheck
  | init => .both (· != true) (· != false)
  | normal => .either (· != false) (· != false)
  | sleep => .both (· != false) (· != true)

/-- The condition for the success. -/
def succeeds : CanOperatingMode → (Nat → CanModeFlags) → Nat → ModeCheck
  | init => .both (· == true) (· == false)
  | normal => .either (· == false) (· == false)
  | sleep => .both (· == false) (· == true)

-- The flags are read before `time_out` is looked at.
def waitLoop (check : Nat → ModeCheck) : (timeOut read : Nat) → ModeWait
  | 0, read => ⟨0, read + (check read).reads, [check read]⟩
  | timeOut + 1, read =>
      let poll := check read
      if poll.holds then
        let rest := waitLoop check timeOut (read + poll.reads)
        { rest with polls := poll :: rest.polls }
      else ⟨timeOut + 1, read + poll.reads, [poll]⟩

-- `time_out` at first.
def pollLimit : Nat := 0x0000FFFF

end CanOperatingMode

-- `CAN_OperatingMode`.
def canOperatingMode (mode : CanOperatingMode) (answers : Nat → CanModeFlags) : ModeRun :=
  let wait := CanOperatingMode.waitLoop (mode.waits answers) CanOperatingMode.pollLimit 0
  let test := mode.succeeds answers wait.read
  ⟨if test.holds then 1 else 0, mode.request, wait.timeOut, wait.polls, test⟩

/-! ## What has to hold -/

def CanOperatingMode.flags : CanOperatingMode → CanModeFlags
  | init => ⟨true, false⟩
  | normal => ⟨false, false⟩
  | sleep => ⟨false, true⟩

-- The last value that was read of SLEEPFLG.
def lastSleepflg (checks : List ModeCheck) : Option Bool :=
  (checks.filterMap ModeCheck.sleepflg).getLast?

/-- The success is told with the flags of the mode as the last that were read (each check reads
INITFLG), and the failure when no poll is left and none has seen the mode. -/
structure ModeRun.Truthful (mode : CanOperatingMode) (run : ModeRun) : Prop where
  success : run.states = 1 → run.test.initflg = mode.flags.initflg ∧
    lastSleepflg (run.polls ++ [run.test]) = some mode.flags.sleepflg
  failure : run.states = 0 → run.timeOut = 0 ∧
    ∀ poll ∈ run.polls.take CanOperatingMode.pollLimit,
      ¬(poll.initflg = mode.flags.initflg ∧ poll.sleepflg = some mode.flags.sleepflg)

namespace CanOperatingMode

variable (mode : CanOperatingMode) (answers : Nat → CanModeFlags)

def pollRead : Nat → Nat
  | 0 => 0
  | poll + 1 => pollRead poll + (mode.waits answers (pollRead poll)).reads

/-- Two reads in a row show the mode. -/
def Shows (read : Nat) : Prop :=
  (answers read).initflg = mode.flags.initflg ∧
    (answers (read + 1)).sleepflg = mode.flags.sleepflg

-- Two reads in a row show neither flag as the mode has it.
def Opposite (read : Nat) : Prop :=
  (answers read).initflg ≠ mode.flags.initflg ∧
    (answers (read + 1)).sleepflg ≠ mode.flags.sleepflg

/-- The flags were both wrong at each poll, or they were so until a poll that the mode follows. -/
def Settles : Prop :=
  (∀ poll < pollLimit, mode.Opposite answers (mode.pollRead answers poll)) ∨
    ∃ poll < pollLimit, (∀ earlier < poll, mode.Opposite answers (mode.pollRead answers earlier)) ∧
      ¬mode.Opposite answers (mode.pollRead answers poll) ∧
      mode.Shows answers (mode.pollRead answers (poll + 1))

/-- INITFLG stays clear behind the poll that has met the normal mode, or no poll met it and both
flags are set behind the last. -/
def Stays : Prop :=
  (∃ poll ≤ pollLimit, (∀ earlier < poll, ¬normal.Shows answers (normal.pollRead answers earlier)) ∧
    normal.Shows answers (normal.pollRead answers poll) ∧
    (answers (normal.pollRead answers (poll + 1))).initflg = false) ∨
  (∀ poll < pollLimit, ¬normal.Shows answers (normal.pollRead answers poll)) ∧
    (answers (normal.pollRead answers (pollLimit + 1))).initflg = true ∧
    (answers (normal.pollRead answers (pollLimit + 1) + 1)).sleepflg = true

def Tells : Prop :=
  match mode with
  | init | sleep => mode.Settles answers
  | normal => Stays answers

/-! ## The loop -/

def poll (number : Nat) : ModeCheck := mode.waits answers (mode.pollRead answers number)

/-- The loop ends with the poll `last`. -/
structure Ends (last : Nat) : Prop where
  within : last ≤ pollLimit
  waiting : ∀ earlier < last, (mode.poll answers earlier).holds = true
  left : last < pollLimit → (mode.poll answers last).holds = false

variable {mode answers}

/-- From any poll on, the loop goes through the polls that hold to the first that does not. -/
theorem waitLoop_eq (timeOut number waited : Nat) (within : waited ≤ timeOut)
    (waiting : ∀ earlier < waited, (mode.poll answers (number + earlier)).holds = true)
    (left : waited < timeOut → (mode.poll answers (number + waited)).holds = false) :
    waitLoop (mode.waits answers) timeOut (mode.pollRead answers number) =
      ⟨timeOut - waited, mode.pollRead answers (number + waited + 1),
        (List.range' number (waited + 1)).map (mode.poll answers)⟩ := by
  induction timeOut generalizing number waited with
  | zero =>
    obtain rfl := Nat.le_zero.mp within
    rfl
  | succ timeOut ih =>
    cases waited with
    | zero =>
      have ended : (mode.waits answers (mode.pollRead answers number)).holds = false :=
        left (Nat.succ_pos timeOut)
      simp [waitLoop, ended, poll, pollRead]
    | succ waited =>
      have holds : (mode.waits answers (mode.pollRead answers number)).holds = true :=
        waiting 0 (Nat.succ_pos waited)
      have shift : ∀ further, number + 1 + further = number + (further + 1) := by
        intro further
        omega
      have rest := ih (number + 1) waited (by omega)
        (fun earlier before => by rw [shift]; exact waiting _ (by omega))
        (fun more => by rw [shift]; exact left (by omega))
      simp only [pollRead] at rest
      rw [List.range'_succ, List.map_cons, Nat.add_sub_add_right, ← shift]
      simp only [waitLoop, holds, if_true, rest, poll, pollRead]

variable (mode answers) in
theorem exists_ends : ∃ last, mode.Ends answers last := by
  classical
  by_cases leaves : ∃ last, last < pollLimit ∧ (mode.poll answers last).holds = false
  · obtain ⟨inside, ended⟩ := Nat.find_spec leaves
    refine ⟨Nat.find leaves, Nat.le_of_lt inside, fun earlier before => ?_, fun _ => ended⟩
    have stays := Nat.find_min leaves before
    simpa [Nat.lt_trans before inside] using stays
  · refine ⟨pollLimit, le_rfl, fun earlier before => ?_, fun more => absurd more (Nat.lt_irrefl _)⟩
    by_contra ended
    exact leaves ⟨earlier, before, by simpa using ended⟩

theorem canOperatingMode_eq {last : Nat} (ends : mode.Ends answers last) :
    canOperatingMode mode answers =
      let test := mode.succeeds answers (mode.pollRead answers (last + 1))
      ⟨if test.holds then 1 else 0, mode.request, pollLimit - last,
        (List.range (last + 1)).map (mode.poll answers), test⟩ := by
  have run := waitLoop_eq pollLimit 0 last ends.within
    (fun earlier before => by rw [Nat.zero_add]; exact ends.waiting earlier before)
    (fun more => by rw [Nat.zero_add]; exact ends.left more)
  rw [← List.range_eq_range', Nat.zero_add, pollRead] at run
  rw [canOperatingMode, run]

/-! ## The checks -/

-- `INIT` and `SLEEP` wait for one of the two flags only.
theorem waits_iff_opposite (settling : mode ≠ normal) (read : Nat) :
    (mode.waits answers read).holds = true ↔ mode.Opposite answers read := by
  cases mode with
  | normal => exact absurd rfl settling
  | init | sleep =>
    rw [waits, ModeCheck.both, Opposite]
    cases (answers read).initflg <;> cases (answers (read + 1)).sleepflg <;> decide

theorem waits_iff_not_shows (read : Nat) :
    (normal.waits answers read).holds = true ↔ ¬normal.Shows answers read := by
  rw [waits, ModeCheck.either, Shows]
  cases (answers read).initflg <;> cases (answers (read + 1)).sleepflg <;> decide

theorem not_seen_of_waits {read : Nat} (holds : (mode.waits answers read).holds = true) :
    ¬((mode.waits answers read).initflg = mode.flags.initflg ∧
      (mode.waits answers read).sleepflg = some mode.flags.sleepflg) := by
  revert holds
  cases mode with
  | normal =>
    rw [waits, ModeCheck.either]
    cases (answers read).initflg <;> cases (answers (read + 1)).sleepflg <;> decide
  | init | sleep =>
    rw [waits, ModeCheck.both]
    cases (answers read).initflg <;> cases (answers (read + 1)).sleepflg <;> decide

theorem succeeds_iff_shows (settling : mode ≠ normal) (read : Nat) :
    (mode.succeeds answers read).holds = true ↔ mode.Shows answers read := by
  cases mode with
  | normal => exact absurd rfl settling
  | init | sleep =>
    rw [succeeds, ModeCheck.both, Shows]
    cases (answers read).initflg <;> cases (answers (read + 1)).sleepflg <;> decide

theorem succeeds_eq (settling : mode ≠ normal) {read : Nat} (shown : mode.Shows answers read) :
    mode.succeeds answers read = ⟨true, mode.flags.initflg, some mode.flags.sleepflg⟩ := by
  revert shown
  cases mode with
  | normal => exact absurd rfl settling
  | init | sleep =>
    rw [succeeds, ModeCheck.both, Shows]
    cases (answers read).initflg <;> cases (answers (read + 1)).sleepflg <;> decide

/-! ## Whole calls -/

theorem unseen_of_ends (ends : mode.Ends answers pollLimit) :
    ∀ poll ∈ ((List.range (pollLimit + 1)).map (mode.poll answers)).take pollLimit,
      ¬(poll.initflg = mode.flags.initflg ∧ poll.sleepflg = some mode.flags.sleepflg) := by
  intro poll member
  rw [← List.map_take, List.take_range, Nat.min_eq_left (Nat.le_succ _)] at member
  obtain ⟨number, before, rfl⟩ := List.mem_map.mp member
  exact not_seen_of_waits (ends.waiting number (List.mem_range.mp before))

/-- A call that fails has to have run out of polls. -/
theorem failed_truthful_iff {last : Nat} (ends : mode.Ends answers last)
    (failed : (mode.succeeds answers (mode.pollRead answers (last + 1))).holds = false) :
    (canOperatingMode mode answers).Truthful mode ↔ last = pollLimit := by
  rw [canOperatingMode_eq ends]
  constructor
  · intro truthful
    have none_left := (truthful.failure (by simp [failed])).1
    have within := ends.within
    dsimp only at none_left
    omega
  · rintro rfl
    refine ⟨fun success => ?_, fun _ => ?_⟩
    · simp [failed] at success
    · dsimp only
      exact ⟨Nat.sub_self pollLimit, unseen_of_ends ends⟩

theorem settling_truthful_iff (settling : mode ≠ normal) {last : Nat}
    (ends : mode.Ends answers last) : (canOperatingMode mode answers).Truthful mode ↔
      last = pollLimit ∨ mode.Shows answers (mode.pollRead answers (last + 1)) := by
  by_cases shown : mode.Shows answers (mode.pollRead answers (last + 1))
  · rw [canOperatingMode_eq ends]
    refine iff_of_true ⟨fun _ => ?_, fun failed => ?_⟩ (Or.inr shown)
    · simp [succeeds_eq settling shown, lastSleepflg]
    · simp [succeeds_eq settling shown] at failed
  · have failed : (mode.succeeds answers (mode.pollRead answers (last + 1))).holds = false := by
      simpa using mt (succeeds_iff_shows settling _).mp shown
    rw [failed_truthful_iff ends failed]
    exact (or_iff_left shown).symm

/-- The last value of SLEEPFLG that a wait for the normal mode has read is a zero only if its last
poll shows the mode: a zero in an earlier poll would have ended it. -/
theorem lastSleepflg_iff_shows {last : Nat} (ends : normal.Ends answers last) :
    lastSleepflg ((List.range (last + 1)).map (normal.poll answers)) = some false ↔
      normal.Shows answers (normal.pollRead answers last) := by
  constructor
  · intro zero
    by_contra missed
    have holds := (waits_iff_not_shows _).mpr missed
    obtain ⟨check, member, read⟩ := List.mem_filterMap.mp (List.mem_of_getLast? zero)
    obtain ⟨number, before, rfl⟩ := List.mem_map.mp member
    have waiting : (normal.poll answers number).holds = true := by
      rcases Nat.lt_succ_iff_lt_or_eq.mp (List.mem_range.mp before) with earlier | rfl
      · exact ends.waiting number earlier
      · exact holds
    revert waiting read
    rw [poll, waits, ModeCheck.either]
    cases (answers (normal.pollRead answers number)).initflg <;>
      cases (answers (normal.pollRead answers number + 1)).sleepflg <;> decide
  · rintro ⟨initflg, sleepflg⟩
    have seen : (normal.poll answers last).sleepflg = some false := by
      simp_all [poll, waits, ModeCheck.either, flags]
    simp [lastSleepflg, List.range_succ, seen]

theorem normal_truthful_iff {last : Nat} (ends : normal.Ends answers last) :
    (canOperatingMode normal answers).Truthful normal ↔
      (normal.Shows answers (normal.pollRead answers last) ∧
        (answers (normal.pollRead answers (last + 1))).initflg = false) ∨
      (last = pollLimit ∧ (answers (normal.pollRead answers (last + 1))).initflg = true ∧
        (answers (normal.pollRead answers (last + 1) + 1)).sleepflg = true) := by
  rw [← lastSleepflg_iff_shows ends]
  cases initflg : (answers (normal.pollRead answers (last + 1))).initflg with
  | false =>
    -- SLEEPFLG is not read again.
    have test : normal.succeeds answers (normal.pollRead answers (last + 1)) =
        ⟨true, false, none⟩ := by simp [succeeds, ModeCheck.either, initflg]
    rw [canOperatingMode_eq ends]
    constructor
    · intro truthful
      have read := (truthful.success (by simp [test])).2
      exact Or.inl ⟨by simpa [test, lastSleepflg, flags] using read, rfl⟩
    · rintro (⟨read, -⟩ | ⟨-, set, -⟩)
      · refine ⟨fun _ => ?_, fun failed => ?_⟩
        · simpa [test, lastSleepflg, flags] using read
        · simp [test] at failed
      · cases set
  | true =>
    cases sleepflg : (answers (normal.pollRead answers (last + 1) + 1)).sleepflg with
    | false =>
      have test : normal.succeeds answers (normal.pollRead answers (last + 1)) =
          ⟨true, true, some false⟩ := by simp [succeeds, ModeCheck.either, initflg, sleepflg]
      rw [canOperatingMode_eq ends]
      constructor
      · intro truthful
        have read := (truthful.success (by simp [test])).1
        simp [test, flags] at read
      · rintro (⟨-, clear⟩ | ⟨-, -, set⟩)
        · cases clear
        · cases set
    | true =>
      have failed : (normal.succeeds answers (normal.pollRead answers (last + 1))).holds = false :=
        by simp [succeeds, ModeCheck.either, initflg, sleepflg]
      rw [failed_truthful_iff ends failed]
      simp

theorem Ends.unique {first second : Nat} (one : mode.Ends answers first)
    (other : mode.Ends answers second) : first = second := by
  rcases Nat.lt_trichotomy first second with before | same | before
  · have ended := one.left (Nat.lt_of_lt_of_le before other.within)
    rw [other.waiting first before] at ended
    cases ended
  · exact same
  · have ended := other.left (Nat.lt_of_lt_of_le before one.within)
    rw [one.waiting second before] at ended
    cases ended

theorem runs_out_iff {last : Nat} (ends : mode.Ends answers last) :
    (∀ number < pollLimit, (mode.poll answers number).holds = true) ↔ last = pollLimit := by
  constructor
  · intro always
    exact ends.unique ⟨Nat.le_refl _, always, fun more => absurd more (Nat.lt_irrefl _)⟩
  · rintro rfl
    exact ends.waiting

theorem settles_iff (settling : mode ≠ normal) {last : Nat} (ends : mode.Ends answers last) :
    mode.Settles answers ↔
      last = pollLimit ∨ mode.Shows answers (mode.pollRead answers (last + 1)) := by
  have opposite : ∀ number, mode.Opposite answers (mode.pollRead answers number) ↔
      (mode.poll answers number).holds = true :=
    fun number => (waits_iff_opposite settling _).symm
  simp only [Settles, opposite, runs_out_iff ends]
  constructor
  · rintro (out | ⟨number, within, earlier, ended, shown⟩)
    · exact Or.inl out
    · obtain rfl := ends.unique ⟨Nat.le_of_lt within, earlier, fun _ => by simpa using ended⟩
      exact Or.inr shown
  · rintro (out | shown)
    · exact Or.inl out
    · rcases Nat.lt_or_eq_of_le ends.within with within | out
      · exact Or.inr ⟨last, within, ends.waiting, by simp [ends.left within], shown⟩
      · exact Or.inl out

theorem stays_iff {last : Nat} (ends : normal.Ends answers last) : Stays answers ↔
    (normal.Shows answers (normal.pollRead answers last) ∧
      (answers (normal.pollRead answers (last + 1))).initflg = false) ∨
    (last = pollLimit ∧ (answers (normal.pollRead answers (last + 1))).initflg = true ∧
      (answers (normal.pollRead answers (last + 1) + 1)).sleepflg = true) := by
  have missed : ∀ number, ¬normal.Shows answers (normal.pollRead answers number) ↔
      (normal.poll answers number).holds = true := fun number => (waits_iff_not_shows _).symm
  simp only [Stays, missed, runs_out_iff ends]
  constructor
  · rintro (⟨number, within, earlier, shown, clear⟩ | ⟨rfl, set⟩)
    · have ended : (normal.poll answers number).holds = false := by
        simpa using mt (missed number).mpr (not_not.mpr shown)
      obtain rfl := ends.unique ⟨within, earlier, fun _ => ended⟩
      exact Or.inl ⟨shown, clear⟩
    · exact Or.inr ⟨rfl, set⟩
  · rintro (⟨shown, clear⟩ | ⟨rfl, set⟩)
    · exact Or.inl ⟨last, ends.within, ends.waiting, shown, clear⟩
    · exact Or.inr ⟨rfl, set⟩

end CanOperatingMode

/-- `CAN_OperatingMode` tells the truth exactly when the flags settle, or stay, as its loops and
tests expect. -/
theorem canOperatingMode_truthful_iff (mode : CanOperatingMode) (answers : Nat → CanModeFlags) :
    (canOperatingMode mode answers).Truthful mode ↔ mode.Tells answers := by
  obtain ⟨last, ends⟩ := mode.exists_ends answers
  cases mode with
  | normal =>
    exact (CanOperatingMode.normal_truthful_iff ends).trans (CanOperatingMode.stays_iff ends).symm
  | init | sleep =>
    have settling := CanOperatingMode.settling_truthful_iff (by decide) ends
    exact settling.trans (CanOperatingMode.settles_iff (by decide) ends).symm

-- The initialisation is not acknowledged yet at the first poll, and is given up.
theorem init_gives_up : ¬ ∀ (mode : CanOperatingMode) (answers : Nat → CanModeFlags),
    (canOperatingMode mode answers).Truthful mode := by
  intro truthful
  have none_left := ((truthful .init fun _ => ⟨false, false⟩).failure rfl).1
  cases none_left

end ApmSdk.StdPeriph
