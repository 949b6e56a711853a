import ApmSdk.Lib.Runs
import ApmSdk.Usbh.StdReq

set_option autoImplicit false

/-!
# Control transfers of the host

The engine behind `USBH_ControlXferHandler` of `usbh_dataXfer.c`, which is polled until it has
taken a transfer through its stages, and the protocol it is to follow.
-/

namespace ApmSdk.Usbh

open Runs
open Usbd (Byte)

-- `USBH_URB_STATUS_T`.
inductive UrbStatus where
  | idle
  | noReady
  | stall
  | error
  | ping
  | ok
  deriving DecidableEq, Repr

-- `USBH_CTRL_XFER_STATE_T`.
inductive XferState where
  | setup
  | dataOut
  | dataIn
  | statusOut
  | statusIn
  | waitUrb
  deriving DecidableEq, Repr

-- `USBH_CTRL_STATE_T`.
inductive CtrlState where
  | setup
  | dataIn
  | dataOut
  | statusIn
  | statusOut
  | error
  | stall
  | complete
  deriving DecidableEq, Repr

/-- `s_curXferState` and `s_preXferState`, the fields of `g_usbHost.control` that the engine
uses, and the `urbStatus` of its two channels. -/
structure Control where
  curXferState : XferState
  preXferState : XferState
  ctrlState : CtrlState
  errCnt : Byte
  inUrb : UrbStatus
  outUrb : UrbStatus
  deriving DecidableEq, Repr

inductive Stage where
  | setup
  | dataOut
  | dataIn
  | statusOut
  | statusIn
  deriving DecidableEq, Repr

/-- A stage that a channel has been started for, with the bytes it is to transfer. -/
structure Started where
  stage : Stage
  len : Nat
  deriving DecidableEq, Repr

def ctrlXferErrorCnt : Byte := 2

/-! ## The handlers of `USBH_CtrlStateHandler` -/

/-- What the handlers that start a stage have in common. -/
def Control.startOut (control : Control) (ctrlState : CtrlState) : Control :=
  { control with
    ctrlState := ctrlState
    outUrb := .idle
    preXferState := control.curXferState
    curXferState := .waitUrb }

def Control.startIn (control : Control) (ctrlState : CtrlState) : Control :=
  { control with
    ctrlState := ctrlState
    inUrb := .idle
    preXferState := control.curXferState
    curXferState := .waitUrb }

def ctrlXferSetup (control : Control) : Control × Option Started :=
  (control.startOut .setup, some ⟨.setup, 8⟩)

def ctrlXferOutData (reqData : HostReqData) (control : Control) : Control × Option Started :=
  (control.startOut .dataOut, some ⟨.dataOut, reqData.wLength⟩)

def ctrlXferInData (reqData : HostReqData) (control : Control) : Control × Option Started :=
  (control.startIn .dataIn, some ⟨.dataIn, reqData.wLength⟩)

def ctrlXferOutStatus (control : Control) : Control × Option Started :=
  (control.startOut .statusOut, some ⟨.statusOut, 0⟩)

def ctrlXferInStatus (control : Control) : Control × Option Started :=
  (control.startIn .statusIn, some ⟨.statusIn, 0⟩)

/-- The status of the channel that was started last. -/
def Control.urbStatus (control : Control) : UrbStatus :=
  if control.preXferState = .dataIn ∨ control.preXferState = .statusIn then control.inUrb
  else control.outUrb

def ctrlXferWaitUrbState (reqData : HostReqData) (control : Control) : Control :=
  match control.urbStatus with
  | .ok =>
      match control.preXferState with
      | .setup =>
          { control with
            curXferState :=
              if reqData.dirIn then if reqData.wLength ≠ 0 then .dataIn else .statusOut
              else if reqData.wLength ≠ 0 then .dataOut else .statusIn }
      | .dataOut => { control with curXferState := .statusIn }
      | .dataIn => { control with curXferState := .statusOut }
      | .statusOut => { control with curXferState := .setup, ctrlState := .complete }
      | .statusIn => { control with curXferState := .setup, ctrlState := .complete }
      | .waitUrb => control
  | .error =>
      let control :=
        if control.errCnt < ctrlXferErrorCnt then
          { control with errCnt := control.errCnt + 1, curXferState := .setup }
        else { control with errCnt := control.errCnt + 1, ctrlState := .error }
      -- no break: the case of a stall follows
      { control with ctrlState := .stall, curXferState := .setup }
  | .stall => { control with ctrlState := .stall, curXferState := .setup }
  | .noReady =>
      if control.preXferState = .dataOut then { control with curXferState := .dataOut }
      else control
  | .idle => control
  | .ping => control

-- The state after the call, which has the returned value as its `ctrlState`.
def controlXferHandler (reqData : HostReqData) (control : Control) : Control × Option Started :=
  match control.curXferState with
  | .setup => ctrlXferSetup control
  | .dataOut => ctrlXferOutData reqData control
  | .dataIn => ctrlXferInData reqData control
  | .statusOut => ctrlXferOutStatus control
  | .statusIn => ctrlXferInStatus control
  | .waitUrb => (ctrlXferWaitUrbState reqData control, none)

/-! ## The protocol -/

inductive Result where
  | progress
  | complete
  | stall
  | error
  deriving DecidableEq, Repr

def CtrlState.result : CtrlState → Result
  | .complete => .complete
  | .stall => .stall
  | .error => .error
  | _ => .progress

/-- The stage of a transfer, whether it has been started, and the errors of the transfer. -/
structure Protocol where
  stage : Stage
  waiting : Bool
  errors : Nat
  deriving DecidableEq, Repr

def Protocol.rest : Protocol := ⟨.setup, false, 0⟩

/-- A data stage in the direction of the request if there are data, then a status stage in the
other direction, IN without data. -/
def Stage.next (reqData : HostReqData) : Stage → Option Stage
  | .setup =>
      if reqData.wLength = 0 then some .statusIn
      else if reqData.dirIn then some .dataIn
      else some .dataOut
  | .dataOut => some .statusIn
  | .dataIn => some .statusOut
  | .statusOut => none
  | .statusIn => none

def Stage.len (reqData : HostReqData) : Stage → Nat
  | .setup => 8
  | .dataOut => reqData.wLength
  | .dataIn => reqData.wLength
  | .statusOut => 0
  | .statusIn => 0

def Protocol.call (reqData : HostReqData) (outcome : UrbStatus) (protocol : Protocol) :
    Protocol × Option Started × Result :=
  if protocol.waiting then
    match outcome with
    | .ok =>
        match protocol.stage.next reqData with
        | some stage => (⟨stage, false, protocol.errors⟩, none, .progress)
        | none => (.rest, none, .complete)
    | .noReady => ({ protocol with waiting := false }, none, .progress)
    | .stall => (.rest, none, .stall)
    | .error =>
        if protocol.errors < ctrlXferErrorCnt.toNat then
          (⟨.setup, false, protocol.errors + 1⟩, none, .progress)
        else (.rest, none, .error)
    | .idle => (protocol, none, .progress)
    | .ping => (protocol, none, .progress)
  else
    ({ protocol with waiting := true },
      some ⟨protocol.stage, protocol.stage.len reqData⟩, .progress)

/-! ## Runs -/

/-- The engine with the request of the transfer in progress, and where the protocol is. -/
structure Transfers where
  control : Control
  request : Option HostReqData
  protocol : Protocol
  deriving DecidableEq, Repr

inductive TransferLabel where
  | request (reqData : HostReqData)
  /-- A channel handler leaves the outcome of its transfer. -/
  | urb (dirIn : Bool) (status : UrbStatus)
  | call
  deriving DecidableEq, Repr

def Stage.isIn : Stage → Bool
  | .dataIn => true
  | .statusIn => true
  | _ => false

/-- The outcome that the stage in progress has. -/
def Transfers.outcome (state : Transfers) : UrbStatus :=
  if state.protocol.stage.isIn then state.control.inUrb else state.control.outUrb

def transferStep (state : Transfers) : TransferLabel → Option Transfers
  | .request reqData =>
      match state.request with
      | some _ => none
      | none =>
          some { state with
            request := some reqData
            control := { state.control with ctrlState := .setup } }
  | .urb dirIn status =>
      some { state with
        control :=
          if dirIn then { state.control with inUrb := status }
          else { state.control with outUrb := status } }
  | .call =>
      match state.request with
      | none => none
      | some reqData =>
          let control := (controlXferHandler reqData state.control).1
          some {
            control := control
            request := if control.ctrlState.result = .progress then some reqData else none
            protocol := (state.protocol.call reqData state.outcome).1 }

/-- Before the first transfer. -/
def Transfers.initial : Transfers where
  control := ⟨.setup, .setup, .setup, 0, .idle, .idle⟩
  request := none
  protocol := .rest

/-- The next call starts the stage and returns the result that the protocol has. -/
def Follows (state : Transfers) : Prop :=
  ∀ reqData, state.request = some reqData →
    (controlXferHandler reqData state.control).2 =
        (state.protocol.call reqData state.outcome).2.1 ∧
      (controlXferHandler reqData state.control).1.ctrlState.result =
        (state.protocol.call reqData state.outcome).2.2

/-- A call does what the protocol does, and so does the one after it. -/
def FollowsOn (state : Transfers) : TransferLabel → Prop
  | .call => Follows state ∧ ∀ next, transferStep state .call = some next → Follows next
  | _ => True

/-- No stage ends in an error, only an OUT data stage is told to wait, and no request for IN
data has none. -/
def Plain (state : Transfers) : TransferLabel → Prop
  | .call => state.protocol.waiting = true →
      match state.outcome with
      | .error => False
      | .noReady => state.protocol.stage = .dataOut
      | .ok => state.protocol.stage = .setup →
          ∀ reqData ∈ state.request, ¬ (reqData.dirIn = true ∧ reqData.wLength = 0)
      | _ => True
  | _ => True

instance (state : Transfers) (label : TransferLabel) : Decidable (Plain state label) := by
  unfold Plain
  split
  · split <;> infer_instance
  · infer_instance

/-! ## The engine against the protocol -/

def Stage.xferState : Stage → XferState
  | .setup => .setup
  | .dataOut => .dataOut
  | .dataIn => .dataIn
  | .statusOut => .statusOut
  | .statusIn => .statusIn

inductive Matches (control : Control) : Protocol → Prop
  | ready (stage : Stage) (current : control.curXferState = stage.xferState) :
      Matches control ⟨stage, false, 0⟩
  | waiting (stage : Stage) (current : control.curXferState = .waitUrb)
      (previous : control.preXferState = stage.xferState)
      (progress : control.ctrlState.result = .progress) : Matches control ⟨stage, true, 0⟩

theorem Matches.of_fields {control other : Control} {protocol : Protocol}
    (related : Matches control protocol) (current : other.curXferState = control.curXferState)
    (previous : other.preXferState = control.preXferState)
    (progress : control.ctrlState.result = .progress → other.ctrlState.result = .progress) :
    Matches other protocol := by
  cases related with
  | ready stage at_stage => exact .ready stage (current.trans at_stage)
  | waiting stage waits started returned =>
    exact .waiting stage (current.trans waits) (previous.trans started) (progress returned)

theorem urbStatus_of_started {control : Control} {stage : Stage}
    (started : control.preXferState = stage.xferState) :
    control.urbStatus = if stage.isIn then control.inUrb else control.outUrb := by
  cases stage <;> simp [Control.urbStatus, started, Stage.xferState, Stage.isIn]

theorem controlXferHandler_starts {control : Control} {stage : Stage} (reqData : HostReqData)
    (due : control.curXferState = stage.xferState) :
    (controlXferHandler reqData control).2 = some ⟨stage, stage.len reqData⟩ ∧
      Matches (controlXferHandler reqData control).1 ⟨stage, true, 0⟩ ∧
      (controlXferHandler reqData control).1.urbStatus = .idle := by
  unfold controlXferHandler
  cases stage <;> simp only [due, Stage.xferState] <;>
    refine ⟨rfl, .waiting _ rfl due rfl, ?_⟩ <;>
    simp [ctrlXferSetup, ctrlXferOutData, ctrlXferInData, ctrlXferOutStatus, ctrlXferInStatus,
      Control.startOut, Control.startIn, Control.urbStatus, due, Stage.xferState]

-- What `Plain` asks of the outcome of a stage.
def PlainOutcome (reqData : HostReqData) (stage : Stage) : UrbStatus → Prop
  | .error => False
  | .noReady => stage = .dataOut
  | .ok => stage = .setup → ¬ (reqData.dirIn = true ∧ reqData.wLength = 0)
  | _ => True

/-- A plain outcome of the stage in progress takes the engine where it takes the protocol. -/
theorem ctrlXferWaitUrbState_matches {control : Control} {stage : Stage} {reqData : HostReqData}
    (waits : control.curXferState = .waitUrb) (started : control.preXferState = stage.xferState)
    (returned : control.ctrlState.result = .progress)
    (plain : PlainOutcome reqData stage control.urbStatus) :
    let after := ctrlXferWaitUrbState reqData control
    let expected := Protocol.call reqData control.urbStatus ⟨stage, true, 0⟩
    expected.2.1 = none ∧ after.ctrlState.result = expected.2.2 ∧ Matches after expected.1 := by
  have unchanged : Matches control ⟨stage, true, 0⟩ := .waiting stage waits started returned
  cases outcome : control.urbStatus with
  | idle => simpa [ctrlXferWaitUrbState, Protocol.call, outcome, returned] using unchanged
  | ping => simpa [ctrlXferWaitUrbState, Protocol.call, outcome, returned] using unchanged
  | error => exact absurd plain (by simp [outcome, PlainOutcome])
  | stall =>
    simp only [ctrlXferWaitUrbState, Protocol.call, outcome]
    exact ⟨rfl, rfl, .ready .setup rfl⟩
  | noReady =>
    obtain rfl : stage = .dataOut := by simpa only [outcome, PlainOutcome] using plain
    simp only [ctrlXferWaitUrbState, Protocol.call, outcome, started, Stage.xferState]
    exact ⟨rfl, returned, .ready .dataOut rfl⟩
  | ok =>
    have data : stage = .setup → ¬ (reqData.dirIn = true ∧ reqData.wLength = 0) := by
      simpa only [outcome, PlainOutcome] using plain
    cases stage with
    | setup =>
      simp only [ctrlXferWaitUrbState, Protocol.call, outcome, started, Stage.xferState,
        Stage.next]
      by_cases empty : reqData.wLength = 0
      · have out : reqData.dirIn = false := by simpa [empty] using data rfl
        simpa [empty, out, returned] using Matches.ready .statusIn rfl
      · cases dir : reqData.dirIn
        · simpa [empty, dir, returned] using Matches.ready .dataOut rfl
        · simpa [empty, dir, returned] using Matches.ready .dataIn rfl
    | dataOut =>
      simp only [ctrlXferWaitUrbState, Protocol.call, outcome, started, Stage.xferState,
        Stage.next]
      exact ⟨rfl, returned, .ready .statusIn rfl⟩
    | dataIn =>
      simp only [ctrlXferWaitUrbState, Protocol.call, outcome, started, Stage.xferState,
        Stage.next]
      exact ⟨rfl, returned, .ready .statusOut rfl⟩
    | statusOut =>
      simp only [ctrlXferWaitUrbState, Protocol.call, outcome, started, Stage.xferState,
        Stage.next]
      exact ⟨rfl, rfl, .ready .setup rfl⟩
    | statusIn =>
      simp only [ctrlXferWaitUrbState, Protocol.call, outcome, started, Stage.xferState,
        Stage.next]
      exact ⟨rfl, rfl, .ready .setup rfl⟩

theorem Protocol.quiet_of_waiting {reqData : HostReqData} {outcome : UrbStatus} {stage : Stage}
    {errors : Nat} (waiting : (Protocol.call reqData outcome ⟨stage, true, errors⟩).1.waiting = true) :
    outcome = .idle ∨ outcome = .ping := by
  cases outcome with
  | idle => exact .inl rfl
  | ping => exact .inr rfl
  | ok =>
    simp only [Protocol.call, ↓reduceIte] at waiting
    split at waiting <;> cases waiting
  | noReady => cases waiting
  | stall => cases waiting
  | error =>
    simp only [Protocol.call, ↓reduceIte] at waiting
    split at waiting <;> cases waiting

/-! ## One step -/

theorem outcome_of_started {state : Transfers} {stage : Stage}
    (started : state.control.preXferState = stage.xferState)
    (at_stage : state.protocol.stage = stage) : state.outcome = state.control.urbStatus := by
  rw [Transfers.outcome, at_stage, urbStatus_of_started started]

/-- The statuses that are left to be seen by the next call. -/
def Transfers.Related (state : Transfers) : Prop := Matches state.control state.protocol

theorem plain_iff {state : Transfers} {reqData : HostReqData} {stage : Stage}
    (request : state.request = some reqData) (protocol : state.protocol = ⟨stage, true, 0⟩) :
    Plain state .call ↔ PlainOutcome reqData stage state.outcome := by
  cases outcome : state.outcome <;>
    simp [Plain, PlainOutcome, protocol, outcome, request]

theorem follows_of_plain {state : Transfers} (related : state.Related)
    (plain : Plain state .call) : Follows state := by
  intro reqData request
  unfold Transfers.Related at related
  generalize same : state.protocol = protocol at related
  cases related with
  | ready stage due =>
    obtain ⟨started, next, _⟩ := controlXferHandler_starts reqData due
    refine ⟨by rw [started]; rfl, ?_⟩
    cases next with
    | waiting _ _ _ progress => exact progress
  | waiting stage waits started returned =>
    have outcome := outcome_of_started started (congrArg Protocol.stage same)
    rw [plain_iff request same, outcome] at plain
    obtain ⟨none, result, _⟩ :=
      ctrlXferWaitUrbState_matches waits started returned plain
    rw [controlXferHandler, waits, outcome]
    exact ⟨none.symm, result⟩

theorem transferStep_call {state next : Transfers}
    (taken : transferStep state .call = some next) :
    ∃ reqData, state.request = some reqData ∧
      next.control = (controlXferHandler reqData state.control).1 ∧
      next.protocol = (state.protocol.call reqData state.outcome).1 ∧
      next.request = if next.control.ctrlState.result = .progress then some reqData else none := by
  rw [transferStep] at taken
  split at taken
  · cases taken
  · next reqData request =>
    obtain rfl := Option.some.inj taken
    exact ⟨reqData, request, rfl, rfl, rfl⟩

/-- A call leaves nothing to the next one but to start a stage or to go on waiting. -/
theorem Transfers.Related.call {state next : Transfers} (related : state.Related)
    (plain : Plain state .call) (taken : transferStep state .call = some next) :
    next.Related ∧ Plain next .call := by
  obtain ⟨reqData, request, control, protocol, _⟩ := transferStep_call taken
  unfold Transfers.Related at related ⊢
  rw [control, protocol]
  generalize same : state.protocol = before at related
  cases related with
  | ready stage due =>
    obtain ⟨_, waiting, idle⟩ := controlXferHandler_starts reqData due
    refine ⟨waiting, fun _ => ?_⟩
    have outcome : next.outcome = .idle := by
      rw [← idle, ← control]
      have started : next.control.preXferState = stage.xferState := by
        cases waiting with
        | waiting _ _ started _ => rw [control, started]
      exact outcome_of_started started (by rw [protocol, same]; rfl)
    rw [outcome]
    trivial
  | waiting stage waits started returned =>
    have outcome := outcome_of_started started (congrArg Protocol.stage same)
    rw [plain_iff request same, outcome] at plain
    obtain ⟨_, _, matched⟩ := ctrlXferWaitUrbState_matches waits started returned plain
    rw [controlXferHandler, waits] at control ⊢
    rw [outcome]
    refine ⟨matched, fun stillWaiting => ?_⟩
    rw [protocol, same, outcome] at stillWaiting
    have silent (status : UrbStatus) (quiet : status = .idle ∨ status = .ping)
        (seen : state.control.urbStatus = status) : next.outcome = status := by
      have same_control : next.control = state.control := by
        rcases quiet with rfl | rfl <;> simp only [control, ctrlXferWaitUrbState, seen]
      have same_stage : next.protocol.stage = stage := by
        rcases quiet with rfl | rfl <;> rw [protocol, same, outcome, seen] <;> rfl
      rw [Transfers.outcome, same_control, same_stage, ← urbStatus_of_started started, seen]
    have quiet := Protocol.quiet_of_waiting stillWaiting
    rw [silent _ quiet rfl]
    rcases quiet with idle | ping
    · rw [idle]
      trivial
    · rw [ping]
      trivial

theorem Transfers.Related.step {state next : Transfers} {label : TransferLabel}
    (related : state.Related) (plain : Plain state label)
    (taken : transferStep state label = some next) : next.Related := by
  cases label with
  | request reqData =>
    simp only [transferStep] at taken
    split at taken
    · cases taken
    · obtain rfl := Option.some.inj taken
      exact Matches.of_fields related rfl rfl fun _ => rfl
  | urb dirIn status =>
    obtain rfl := Option.some.inj taken
    cases dirIn
    · exact Matches.of_fields related rfl rfl id
    · exact Matches.of_fields related rfl rfl id
  | call => exact (related.call plain taken).1

theorem initial_related : Transfers.initial.Related := Matches.ready .setup rfl

theorem related_of_run {labels : List TransferLabel} {state : Transfers}
    (run : Run transferStep Plain .initial labels state) : state.Related :=
  run.invariant Transfers.Related initial_related
    fun _ _ _ related plain taken => related.step plain taken

/-- Any other outcome shows, in this call or in the next. -/
theorem not_followsOn {state : Transfers} (related : state.Related)
    (requested : state.request.isSome = true) (unusual : ¬ Plain state .call) :
    ¬ FollowsOn state .call := by
  rintro ⟨follows, onward⟩
  obtain ⟨reqData, request⟩ := Option.isSome_iff_exists.mp requested
  unfold Transfers.Related at related
  generalize same : state.protocol = protocol at related
  cases related with
  | ready stage due => exact unusual fun waiting => by simp [same] at waiting
  | waiting stage waits started returned =>
    have outcome := outcome_of_started started (congrArg Protocol.stage same)
    rw [plain_iff request same, outcome] at unusual
    have result := (follows reqData request).2
    have handled : controlXferHandler reqData state.control =
        (ctrlXferWaitUrbState reqData state.control, none) := by
      rw [controlXferHandler, waits]
    rw [handled, same, outcome] at result
    have next := onward _ (by simp only [transferStep, request]; rfl)
    rw [handled, same, outcome] at next
    cases seen : state.control.urbStatus with
    | idle => exact unusual (by rw [seen]; trivial)
    | ping => exact unusual (by rw [seen]; trivial)
    | stall => exact unusual (by rw [seen]; trivial)
    | error => simp [ctrlXferWaitUrbState, seen, Protocol.call, ctrlXferErrorCnt,
        CtrlState.result] at result
    | noReady =>
      have notDataOut : stage ≠ .dataOut := fun dataOut => unusual (by rw [seen]; exact dataOut)
      have stays : ctrlXferWaitUrbState reqData state.control = state.control := by
        cases stage <;> simp_all [ctrlXferWaitUrbState, Stage.xferState]
      simp only [stays, seen, returned, Protocol.call, ↓reduceIte] at next
      have started := (next reqData rfl).1
      rw [handled] at started
      simp [Protocol.call] at started
    | ok =>
      obtain ⟨rfl, dirIn, empty⟩ :
          stage = .setup ∧ reqData.dirIn = true ∧ reqData.wLength = 0 := by
        simpa [seen, PlainOutcome] using unusual
      have goes : ctrlXferWaitUrbState reqData state.control =
          { state.control with curXferState := .statusOut } := by
        simp [ctrlXferWaitUrbState, seen, started, Stage.xferState, dirIn, empty]
      simp only [goes, seen, returned, Protocol.call, Stage.next, empty, ↓reduceIte] at next
      have started := (next reqData rfl).1
      simp [controlXferHandler, ctrlXferOutStatus, Protocol.call] at started

theorem followsOn_iff {state next : Transfers} {label : TransferLabel} (related : state.Related)
    (taken : transferStep state label = some next) : FollowsOn state label ↔ Plain state label := by
  constructor
  · intro follows
    by_contra unusual
    cases label with
    | request => exact unusual trivial
    | urb => exact unusual trivial
    | call =>
      obtain ⟨_, request, _⟩ := transferStep_call taken
      exact not_followsOn related (by rw [request]; rfl) unusual follows
  · intro plain
    cases label with
    | request => trivial
    | urb => trivial
    | call =>
      refine ⟨follows_of_plain related plain, fun after called => ?_⟩
      obtain ⟨related', plain'⟩ := related.call plain called
      exact follows_of_plain related' plain'

/-- In every run of plain outcomes all calls have followed the protocol, and the calls after
which this stays so are those that find a plain outcome. -/
theorem calls_follow {labels : List TransferLabel} {state : Transfers}
    (run : Run transferStep Plain .initial labels state) :
    (∀ earlier label later before, labels = earlier ++ label :: later →
      Run transferStep Plain .initial earlier before → FollowsOn before label) ∧
    ∀ label next, transferStep state label = some next →
      (FollowsOn state label ↔ Plain state label) := by
  constructor
  · rintro earlier label later before rfl sofar
    obtain ⟨middle, reached, rest⟩ := run.split
    obtain rfl := sofar.unique reached
    obtain ⟨next, plain, taken, _⟩ := rest.uncons
    exact (followsOn_iff (related_of_run sofar) taken).mpr plain
  · intro label next taken
    exact followsOn_iff (related_of_run run) taken

def getDeviceDesc : HostReqData := standardGetDescriptor .device 0 8

/-- A transfer with IN data, up to its last call. -/
def deviceDescTransfer : List TransferLabel :=
  [.request getDeviceDesc, .call, .call, .urb false .ok, .call, .call, .urb true .ok, .call,
    .call, .urb false .ok]

theorem deviceDescTransfer_accepted :
    (execute transferStep Plain .initial deviceDescTransfer).isSome = true := by
  decide +kernel

def beforeComplete : Transfers :=
  final transferStep Plain .initial deviceDescTransfer deviceDescTransfer_accepted

theorem beforeComplete_call : (transferStep beforeComplete .call).isSome = true := by
  decide +kernel

theorem deviceDesc_followed : FollowsOn beforeComplete .call :=
  ((calls_follow (Run.final transferStep Plain .initial _ deviceDescTransfer_accepted)).2 .call _
    (Option.some_get beforeComplete_call).symm).mpr (by decide +kernel)

def setupError : List TransferLabel :=
  [.request getDeviceDesc, .call, .urb false .error]

theorem setupError_accepted :
    (execute transferStep free .initial setupError).isSome = true := by
  decide +kernel

/-- The first transaction error of a transfer is returned as a stall. -/
theorem error_stalls :
    ¬ ∀ (labels : List TransferLabel) (state : Transfers),
      Run transferStep free .initial labels state → FollowsOn state .call := by
  intro follows
  have followed := follows _ _ (Run.final transferStep free .initial _ setupError_accepted)
  have result := (followed.1 getDeviceDesc (by decide +kernel)).2
  exact absurd result (by decide +kernel)

end ApmSdk.Usbh
