import ApmSdk.Usbd.Endpoint
import ApmSdk.Usbh.Port

set_option autoImplicit false

/-!
# The start-up of mass storage

The handlers of `usbh_class_msc.c` from TEST UNIT READY on, for any results of the SCSI commands,
which the application supplies.
-/

namespace ApmSdk.Usbh

open Runs
open Usbd (Byte)

-- `USBH_MSC_STATE_T`.
inductive MscState where
  | resetBot
  | testUnitReady
  | readCapacity10
  | modeSense6
  | requestSense
  | botTransfer
  | appState
  | unrecoveredState
  deriving DecidableEq, Repr

-- What a SCSI command returns.
inductive BotStatus where
  | busy
  | ok
  | fail
  | phaseError
  deriving DecidableEq, Repr

/-- The fields of `g_MSCInfo` that the start-up uses, and the states of the host. -/
structure MscInfo where
  curMSCState : MscState
  preMSCState : MscState
  errorCnt : Byte
  curHostState : HostState
  preHostState : HostState
  -- `errorState` is `USBH_ERROR_UNRECOVERED`.
  unrecovered : Bool
  deriving DecidableEq, Repr

def mscErrorRetryCnt : Byte := 10

namespace MscInfo

def configHostState (info : MscInfo) (state : HostState) : MscInfo :=
  { info with preHostState := info.curHostState, curHostState := state }

def configClassCoreState (info : MscInfo) (state : MscState) : MscInfo :=
  let info := info.configHostState .classCore
  { info with preMSCState := info.curMSCState, curMSCState := state }

def errorHandler (info : MscInfo) : MscInfo :=
  let info := { info with errorCnt := info.errorCnt + 1 }
  if info.errorCnt < mscErrorRetryCnt then info.configClassCoreState .requestSense
  else { info with errorCnt := 0, curMSCState := .unrecoveredState }

/-- The handlers of the three commands, up to the state that follows. -/
def commandHandler (next : MscState) (info : MscInfo) : BotStatus → MscInfo
  | .ok => { info with errorCnt := 0 }.configClassCoreState next
  | .fail => info.errorHandler
  | .phaseError => info.configClassCoreState .unrecoveredState
  | .busy => info

def testUnitReadyHandler : MscInfo → BotStatus → MscInfo := commandHandler .readCapacity10

def readCapacity10Handler : MscInfo → BotStatus → MscInfo := commandHandler .modeSense6

def modeSense6Handler : MscInfo → BotStatus → MscInfo := commandHandler .appState

-- `errorCnt` is kept, and the state is set without the macro.
def requestSenseHandler (info : MscInfo) : BotStatus → MscInfo
  | .ok => { info with curMSCState := .testUnitReady }
  | .fail => info.errorHandler
  | .phaseError => info.configClassCoreState .unrecoveredState
  | .busy => info

def unrecoveredStateHandler (info : MscInfo) : MscInfo := { info with unrecovered := true }

end MscInfo

/-! ## The system -/

inductive ScsiCommand where
  | testUnitReady
  | readCapacity10
  | modeSense6
  | requestSense
  deriving DecidableEq, Repr

/-- The class, with the results of the commands so far, the latest first. -/
structure MscStart where
  info : MscInfo
  log : List (ScsiCommand × BotStatus)
  deriving DecidableEq, Repr

namespace MscStart

-- `USBH_MSC_ClassInitHandler` and the class requests lead here.
def initial : MscStart :=
  ⟨⟨.testUnitReady, .resetBot, 0, .classCore, .classReq, false⟩, []⟩

/-- `USBH_MSC_CoreHandler`, as long as the application leaves the states alone; the label is what
the command of the state returns. -/
def step (start : MscStart) (result : BotStatus) : Option MscStart :=
  match start.info.curMSCState with
  | .testUnitReady =>
      some ⟨start.info.testUnitReadyHandler result, (.testUnitReady, result) :: start.log⟩
  | .readCapacity10 =>
      some ⟨start.info.readCapacity10Handler result, (.readCapacity10, result) :: start.log⟩
  | .modeSense6 =>
      some ⟨start.info.modeSense6Handler result, (.modeSense6, result) :: start.log⟩
  | .requestSense =>
      some ⟨start.info.requestSenseHandler result, (.requestSense, result) :: start.log⟩
  | .unrecoveredState => some { start with info := start.info.unrecoveredStateHandler }
  | .appState => some start
  | .resetBot | .botTransfer => none

end MscStart

/-! ## What has to hold -/

/-- The FAIL results of a command since it passed. -/
def outstanding (command : ScsiCommand) : List (ScsiCommand × BotStatus) → Nat
  | [] => 0
  | (issued, result) :: earlier =>
      if issued = command then
        match result with
        | .ok => 0
        | .fail => outstanding command earlier + 1
        | .phaseError | .busy => outstanding command earlier
      else outstanding command earlier

namespace MscStart

/-- The application is reached by the three commands in their order, and a phase error ends the
start-up. -/
structure Ordered (start : MscStart) : Prop where
  ordered : start.info.curMSCState = .appState →
    List.Sublist [(.modeSense6, .ok), (.readCapacity10, .ok), (.testUnitReady, .ok)] start.log
  phase : ∀ command, (command, .phaseError) ∈ start.log →
    start.info.curMSCState = .unrecoveredState

/-- Besides, no command goes on failing. -/
structure Bounded (start : MscStart) : Prop extends start.Ordered where
  retries : start.info.curMSCState ≠ .unrecoveredState →
    ∀ command, outstanding command start.log ≤ mscErrorRetryCnt.toNat

/-- TEST UNIT READY does not pass while ten FAIL results of a later command are outstanding. -/
def Meets (start : MscStart) (result : BotStatus) : Prop :=
  start.info.curMSCState = .testUnitReady → result = .ok →
    outstanding .readCapacity10 start.log < mscErrorRetryCnt.toNat ∧
    outstanding .modeSense6 start.log < mscErrorRetryCnt.toNat

end MscStart

/-! ## The counter -/

section Outstanding

variable {command other : ScsiCommand} {log : List (ScsiCommand × BotStatus)}

@[simp] theorem outstanding_other (apart : other ≠ command) (result : BotStatus) :
    outstanding command ((other, result) :: log) = outstanding command log := by
  simp [outstanding, apart]

@[simp] theorem outstanding_ok : outstanding command ((command, .ok) :: log) = 0 := by
  simp [outstanding]

@[simp] theorem outstanding_fail :
    outstanding command ((command, .fail) :: log) = outstanding command log + 1 := by
  simp [outstanding]

@[simp] theorem outstanding_busy (issued : ScsiCommand) :
    outstanding command ((issued, .busy) :: log) = outstanding command log := by
  by_cases same : issued = command <;> simp [outstanding, same]

theorem outstanding_le_succ (issued : ScsiCommand) (result : BotStatus) :
    outstanding command ((issued, result) :: log) ≤ outstanding command log + 1 := by
  by_cases same : issued = command
  · subst same
    cases result <;> simp [outstanding]
  · simp [same]

end Outstanding

/-- An error is retried by way of REQUEST SENSE, or it is the last one. -/
theorem MscInfo.errorHandler_cases (info : MscInfo) (few : info.errorCnt.toNat < 10) :
    (info.errorHandler.curMSCState = .requestSense ∧
      info.errorHandler.errorCnt.toNat = info.errorCnt.toNat + 1 ∧
      info.errorCnt.toNat + 1 < 10) ∨
    info.errorHandler.curMSCState = .unrecoveredState := by
  have next : (info.errorCnt + 1).toNat = info.errorCnt.toNat + 1 := by
    rw [UInt8.toNat_add]
    exact Nat.mod_eq_of_lt (by simp; omega)
  unfold errorHandler
  dsimp only
  by_cases retry : info.errorCnt + 1 < mscErrorRetryCnt
  · rw [if_pos retry]
    rw [UInt8.lt_iff_toNat_lt, next] at retry
    exact .inl ⟨rfl, next, retry⟩
  · rw [if_neg retry]
    exact .inr rfl

namespace MscStart

/-! ## The order -/

/-- What has passed when the start-up stands at a state. -/
def Passed (log : List (ScsiCommand × BotStatus)) : MscState → Prop
  | .testUnitReady | .requestSense => True
  | .readCapacity10 => List.Sublist [(.testUnitReady, .ok)] log
  | .modeSense6 => List.Sublist [(.readCapacity10, .ok), (.testUnitReady, .ok)] log
  | .appState =>
      List.Sublist [(.modeSense6, .ok), (.readCapacity10, .ok), (.testUnitReady, .ok)] log
  | .resetBot | .botTransfer | .unrecoveredState => False

def Going (start : MscStart) : Prop :=
  start.info.curMSCState = .unrecoveredState ∨
    Passed start.log start.info.curMSCState ∧ ∀ command, (command, .phaseError) ∉ start.log

variable {start : MscStart}

theorem Going.ordered (going : start.Going) : start.Ordered := by
  rcases going with given | ⟨passed, phase⟩
  · refine ⟨fun state => ?_, fun _ _ => given⟩
    rw [given] at state
    cases state
  · refine ⟨fun state => ?_, fun command member => absurd member (phase command)⟩
    rw [state] at passed
    exact passed

theorem Passed.cons {log : List (ScsiCommand × BotStatus)} {state : MscState}
    (passed : Passed log state) (latest : ScsiCommand × BotStatus) :
    Passed (latest :: log) state := by
  cases state with
  | testUnitReady | requestSense => exact trivial
  | readCapacity10 | modeSense6 | appState => exact List.Sublist.cons _ passed
  | resetBot | botTransfer | unrecoveredState => exact passed

/-- An error leads to REQUEST SENSE or to the end, whatever the counter. -/
theorem errorHandler_going {info : MscInfo} {log : List (ScsiCommand × BotStatus)}
    (phase : ∀ command, (command, .phaseError) ∉ log) : Going ⟨info.errorHandler, log⟩ := by
  unfold MscInfo.errorHandler
  dsimp only
  by_cases retry : info.errorCnt + 1 < mscErrorRetryCnt
  · rw [if_pos retry]
    exact .inr ⟨trivial, phase⟩
  · rw [if_neg retry]
    exact .inl rfl

theorem command_going {info : MscInfo} {log : List (ScsiCommand × BotStatus)}
    (passed : Passed log info.curMSCState) (phase : ∀ command, (command, .phaseError) ∉ log)
    (issued : ScsiCommand) (next : MscState) (reached : Passed ((issued, .ok) :: log) next)
    (result : BotStatus) : Going ⟨info.commandHandler next result, (issued, result) :: log⟩ := by
  cases result with
  | busy => exact .inr ⟨passed.cons _, fun command member => phase command (by simpa using member)⟩
  | ok => exact .inr ⟨reached, fun command member => phase command (by simpa using member)⟩
  | fail => exact errorHandler_going fun command member => phase command (by simpa using member)
  | phaseError => exact .inl rfl

theorem requestSense_going {info : MscInfo} {log : List (ScsiCommand × BotStatus)}
    (passed : Passed log info.curMSCState) (phase : ∀ command, (command, .phaseError) ∉ log)
    (result : BotStatus) :
    Going ⟨info.requestSenseHandler result, (.requestSense, result) :: log⟩ := by
  cases result with
  | busy => exact .inr ⟨passed.cons _, fun command member => phase command (by simpa using member)⟩
  | ok => exact .inr ⟨trivial, fun command member => phase command (by simpa using member)⟩
  | fail => exact errorHandler_going fun command member => phase command (by simpa using member)
  | phaseError => exact .inl rfl

theorem step_eq (start : MscStart) (result : BotStatus) :
    (start.info.curMSCState = .testUnitReady ∧ start.step result =
      some ⟨start.info.testUnitReadyHandler result, (.testUnitReady, result) :: start.log⟩) ∨
    (start.info.curMSCState = .readCapacity10 ∧ start.step result =
      some ⟨start.info.readCapacity10Handler result, (.readCapacity10, result) :: start.log⟩) ∨
    (start.info.curMSCState = .modeSense6 ∧ start.step result =
      some ⟨start.info.modeSense6Handler result, (.modeSense6, result) :: start.log⟩) ∨
    (start.info.curMSCState = .requestSense ∧ start.step result =
      some ⟨start.info.requestSenseHandler result, (.requestSense, result) :: start.log⟩) ∨
    (start.info.curMSCState = .unrecoveredState ∧
      start.step result = some { start with info := start.info.unrecoveredStateHandler }) ∨
    (start.info.curMSCState = .appState ∧ start.step result = some start) ∨
    start.step result = none := by
  unfold step
  cases state : start.info.curMSCState <;> simp

theorem step_going {result : BotStatus} {after : MscStart} (going : start.Going)
    (taken : start.step result = some after) : after.Going := by
  rcases start.step_eq result with ⟨state, step⟩ | ⟨state, step⟩ | ⟨state, step⟩ |
    ⟨state, step⟩ | ⟨state, step⟩ | ⟨state, step⟩ | step
  all_goals
    rw [step] at taken
  · obtain rfl := Option.some.inj taken
    obtain ⟨passed, phase⟩ := going.resolve_left (by simp [state])
    exact command_going passed phase _ _ (by simp [Passed]) result
  · obtain rfl := Option.some.inj taken
    obtain ⟨passed, phase⟩ := going.resolve_left (by simp [state])
    refine command_going passed phase _ _ ?_ result
    rw [state] at passed
    exact passed.cons_cons _
  · obtain rfl := Option.some.inj taken
    obtain ⟨passed, phase⟩ := going.resolve_left (by simp [state])
    refine command_going passed phase _ _ ?_ result
    rw [state] at passed
    exact passed.cons_cons _
  · obtain rfl := Option.some.inj taken
    obtain ⟨passed, phase⟩ := going.resolve_left (by simp [state])
    exact requestSense_going passed phase result
  · obtain rfl := Option.some.inj taken
    exact .inl state
  · obtain rfl := Option.some.inj taken
    exact going
  · cases taken

/-! ## The retries -/

/-- The counts of a state that is not given up. -/
def Counts (log : List (ScsiCommand × BotStatus)) : MscState → Prop
  | .testUnitReady => outstanding .requestSense log = 0
  | .readCapacity10 => outstanding .requestSense log = 0 ∧ outstanding .testUnitReady log = 0 ∧
      outstanding .readCapacity10 log < 10 ∧ outstanding .modeSense6 log < 10
  | .modeSense6 => outstanding .requestSense log = 0 ∧ outstanding .testUnitReady log = 0 ∧
      outstanding .modeSense6 log < 10
  | .requestSense | .appState | .resetBot | .botTransfer | .unrecoveredState => True

structure Live (start : MscStart) : Prop where
  counts : Counts start.log start.info.curMSCState
  few : start.info.errorCnt.toNat < 10
  testUnitReady : outstanding .testUnitReady start.log ≤ start.info.errorCnt.toNat
  requestSense : outstanding .requestSense start.log ≤ start.info.errorCnt.toNat
  readCapacity10 : outstanding .readCapacity10 start.log ≤ 10
  modeSense6 : outstanding .modeSense6 start.log ≤ 10

def Sound (start : MscStart) : Prop :=
  start.info.curMSCState = .unrecoveredState ∨ start.Live

theorem Live.retries (live : start.Live) (command : ScsiCommand) :
    outstanding command start.log ≤ 10 := by
  have few := live.few
  cases command with
  | testUnitReady => exact Nat.le_trans live.testUnitReady (Nat.le_of_lt few)
  | readCapacity10 => exact live.readCapacity10
  | modeSense6 => exact live.modeSense6
  | requestSense => exact Nat.le_trans live.requestSense (Nat.le_of_lt few)

theorem Live.busy (live : start.Live) (issued : ScsiCommand) :
    Live ⟨start.info, (issued, .busy) :: start.log⟩ where
  counts := by
    have counts := live.counts
    unfold Counts at counts ⊢
    simpa only [outstanding_busy] using counts
  few := live.few
  testUnitReady := by simpa using live.testUnitReady
  requestSense := by simpa using live.requestSense
  readCapacity10 := by simpa using live.readCapacity10
  modeSense6 := by simpa using live.modeSense6

theorem Live.error (live : start.Live) (issued : ScsiCommand)
    (capacity : outstanding .readCapacity10 ((issued, .fail) :: start.log) ≤ 10)
    (mode : outstanding .modeSense6 ((issued, .fail) :: start.log) ≤ 10) :
    Sound ⟨start.info.errorHandler, (issued, .fail) :: start.log⟩ := by
  rcases start.info.errorHandler_cases live.few with ⟨state, count, few⟩ | given
  · refine .inr ⟨?_, ?_, ?_, ?_, capacity, mode⟩
    · rw [state]
      exact trivial
    · rw [count]
      exact few
    · rw [count]
      exact Nat.le_trans (outstanding_le_succ _ _) (Nat.succ_le_succ live.testUnitReady)
    · rw [count]
      exact Nat.le_trans (outstanding_le_succ _ _) (Nat.succ_le_succ live.requestSense)
  · exact .inl given

theorem Live.pass (issued : ScsiCommand) (next : MscState)
    (counts : Counts ((issued, .ok) :: start.log) next)
    (unit : outstanding .testUnitReady ((issued, .ok) :: start.log) = 0)
    (sense : outstanding .requestSense ((issued, .ok) :: start.log) = 0)
    (capacity : outstanding .readCapacity10 ((issued, .ok) :: start.log) ≤ 10)
    (mode : outstanding .modeSense6 ((issued, .ok) :: start.log) ≤ 10) :
    Sound ⟨start.info.commandHandler next .ok, (issued, .ok) :: start.log⟩ :=
  .inr ⟨counts, Nat.zero_lt_succ 9, Nat.le_of_eq unit, Nat.le_of_eq sense, capacity, mode⟩

theorem Live.testUnitReady_sound (live : start.Live)
    (state : start.info.curMSCState = .testUnitReady) {result : BotStatus}
    (meets : start.Meets result) :
    Sound ⟨start.info.testUnitReadyHandler result, (.testUnitReady, result) :: start.log⟩ := by
  have counts := live.counts
  rw [state] at counts
  have sense : outstanding .requestSense start.log = 0 := counts
  cases result with
  | busy => exact .inr (live.busy .testUnitReady)
  | ok =>
    have room : outstanding .readCapacity10 start.log < 10 ∧
        outstanding .modeSense6 start.log < 10 := meets state rfl
    refine Live.pass .testUnitReady .readCapacity10 ?_ (by simp) (by simpa using sense) ?_ ?_
    · exact ⟨by simpa using sense, by simp, by simpa using room.1, by simpa using room.2⟩
    · simpa using live.readCapacity10
    · simpa using live.modeSense6
  | fail =>
    exact live.error .testUnitReady (by simpa using live.readCapacity10)
      (by simpa using live.modeSense6)
  | phaseError => exact .inl rfl

theorem Live.readCapacity10_sound (live : start.Live)
    (state : start.info.curMSCState = .readCapacity10) (result : BotStatus) :
    Sound ⟨start.info.readCapacity10Handler result, (.readCapacity10, result) :: start.log⟩ := by
  have counts := live.counts
  rw [state] at counts
  obtain ⟨sense, unit, capacity, mode⟩ := counts
  cases result with
  | busy => exact .inr (live.busy .readCapacity10)
  | ok =>
    exact Live.pass .readCapacity10 .modeSense6
      ⟨by simpa using sense, by simpa using unit, by simpa using mode⟩ (by simpa using unit)
      (by simpa using sense) (by simp) (by simpa using live.modeSense6)
  | fail =>
    refine live.error .readCapacity10 ?_ (by simpa using live.modeSense6)
    rw [outstanding_fail]
    exact capacity
  | phaseError => exact .inl rfl

theorem Live.modeSense6_sound (live : start.Live)
    (state : start.info.curMSCState = .modeSense6) (result : BotStatus) :
    Sound ⟨start.info.modeSense6Handler result, (.modeSense6, result) :: start.log⟩ := by
  have counts := live.counts
  rw [state] at counts
  obtain ⟨sense, unit, mode⟩ := counts
  cases result with
  | busy => exact .inr (live.busy .modeSense6)
  | ok =>
    exact Live.pass .modeSense6 .appState trivial (by simpa using unit) (by simpa using sense)
      (by simpa using live.readCapacity10) (by simp)
  | fail =>
    refine live.error .modeSense6 (by simpa using live.readCapacity10) ?_
    rw [outstanding_fail]
    exact mode
  | phaseError => exact .inl rfl

theorem Live.requestSense_sound (live : start.Live) (result : BotStatus) :
    Sound ⟨start.info.requestSenseHandler result, (.requestSense, result) :: start.log⟩ := by
  cases result with
  | busy => exact .inr (live.busy .requestSense)
  | ok =>
    refine .inr ⟨outstanding_ok, live.few, ?_, ?_, ?_, ?_⟩
    · simpa [MscInfo.requestSenseHandler] using live.testUnitReady
    · simp
    · simpa using live.readCapacity10
    · simpa using live.modeSense6
  | fail =>
    exact live.error .requestSense (by simpa using live.readCapacity10)
      (by simpa using live.modeSense6)
  | phaseError => exact .inl rfl

theorem step_sound {result : BotStatus} {after : MscStart} (sound : start.Sound)
    (meets : start.Meets result) (taken : start.step result = some after) : after.Sound := by
  rcases start.step_eq result with ⟨state, step⟩ | ⟨state, step⟩ | ⟨state, step⟩ |
    ⟨state, step⟩ | ⟨state, step⟩ | ⟨state, step⟩ | step
  all_goals
    rw [step] at taken
  · obtain rfl := Option.some.inj taken
    exact (sound.resolve_left (by simp [state])).testUnitReady_sound state meets
  · obtain rfl := Option.some.inj taken
    exact (sound.resolve_left (by simp [state])).readCapacity10_sound state result
  · obtain rfl := Option.some.inj taken
    exact (sound.resolve_left (by simp [state])).modeSense6_sound state result
  · obtain rfl := Option.some.inj taken
    exact (sound.resolve_left (by simp [state])).requestSense_sound result
  · obtain rfl := Option.some.inj taken
    exact .inl state
  · obtain rfl := Option.some.inj taken
    exact sound
  · cases taken

theorem Sound.bounded (sound : start.Sound) (going : start.Going) : start.Bounded :=
  ⟨going.ordered, fun alive command => (sound.resolve_left alive).retries command⟩

theorem not_bounded (command : ScsiCommand) (alive : start.info.curMSCState = .requestSense)
    (many : 10 < outstanding command start.log) : ¬ start.Bounded := by
  intro bounded
  have few := bounded.retries (by simp [alive]) command
  exact absurd many (Nat.not_lt.mpr few)

/-- A step that does not meet the condition makes room for one FAIL too many. -/
theorem exceeded {result : BotStatus} (broken : ¬ start.Meets result) :
    ∃ more last, Run step free start (result :: more) last ∧ ¬ last.Bounded := by
  simp only [Meets, Classical.not_imp] at broken
  obtain ⟨state, rfl, full⟩ := broken
  have unit : start.step .ok =
      some ⟨start.info.testUnitReadyHandler .ok, (.testUnitReady, .ok) :: start.log⟩ := by
    rw [step, state]
  by_cases capacity : outstanding .readCapacity10 start.log < 10
  · have mode : 10 ≤ outstanding .modeSense6 start.log := by
      by_contra room
      exact full ⟨capacity, Nat.not_le.mp room⟩
    refine ⟨[.ok, .fail], _, .cons trivial unit (.cons trivial rfl (.cons trivial rfl .nil)), ?_⟩
    refine not_bounded .modeSense6 rfl ?_
    simpa [Nat.lt_succ_iff] using mode
  · refine ⟨[.fail], _, .cons trivial unit (.cons trivial rfl .nil), ?_⟩
    refine not_bounded .readCapacity10 rfl ?_
    have many : 10 ≤ outstanding .readCapacity10 start.log := Nat.not_lt.mp capacity
    simpa [Nat.lt_succ_iff] using many

/-- The order holds in every run; the retries are bounded in every run that meets the condition,
and a step that does not meet it can be followed by an eleventh FAIL. -/
theorem start_up_bounded {results : List BotStatus} {start : MscStart}
    (run : Run step free initial results start) :
    start.Ordered ∧ (Run step Meets initial results start → start.Bounded ∧
      ∀ result, ¬ start.Meets result →
        ∃ more last, Run step free start (result :: more) last ∧ ¬ last.Bounded) := by
  have initially : initial.Going :=
    .inr ⟨trivial, fun _ member => absurd member List.not_mem_nil⟩
  have going : start.Going :=
    run.invariant Going initially fun _ _ _ going _ taken => step_going going taken
  refine ⟨going.ordered, fun meeting => ⟨?_, fun _ broken => exceeded broken⟩⟩
  have initially : initial.Live :=
    ⟨rfl, by decide, Nat.le_refl _, Nat.le_refl _, Nat.zero_le _, Nat.zero_le _⟩
  have sound : start.Sound :=
    meeting.invariant Sound (.inr initially)
      fun _ _ _ sound meets taken => step_sound sound meets taken
  exact sound.bounded going

-- TEST UNIT READY passes and READ CAPACITY fails, time after time.
def cycles (count : Nat) : List BotStatus := (List.replicate count [.ok, .fail, .ok]).flatten

instance (start : MscStart) (result : BotStatus) : Decidable (start.Meets result) :=
  inferInstanceAs (Decidable (_ → _ → _))

theorem tenCycles_accepted : (execute step Meets initial (cycles 10)).isSome = true := by
  decide +kernel

theorem tenCycles_bounded : (final step Meets initial (cycles 10) tenCycles_accepted).Bounded :=
  have run := Run.final step Meets initial (cycles 10) tenCycles_accepted
  ((start_up_bounded (run.weaken fun _ _ _ => trivial)).2 run).1

theorem elevenCycles_accepted : (execute step free initial (cycles 11)).isSome = true := by
  decide +kernel

theorem capacity_fails_on : ¬ ∀ results start, Run step free initial results start →
    start.Bounded := by
  intro always
  have bounded := always _ _ (Run.final step free initial (cycles 11) elevenCycles_accepted)
  exact absurd (bounded.retries (by decide +kernel) .readCapacity10) (by decide +kernel)

end MscStart

end ApmSdk.Usbh
