import ApmSdk.Usbh.Session

set_option autoImplicit false

/-!
# What an enumeration comes to

The device is never more than one request ahead of the host, whatever the bus loses, and when the
host takes it for configured the two agree on all that was exchanged.
-/

namespace ApmSdk.Usbh

open Runs
open Usbd (Byte Memory)
open Otg (Device Descriptors Ep0Action Ep0Object fewDescriptors)

variable {room : Room}

/-! ## The transfer in progress -/

section Transfer

variable (config : Config) (firmware : Firmware room) (session : Session)

/-- What the request of the state was for is in its buffer. -/
def Session.Got : Prop :=
  ∀ buffer ∈ session.enum.enumState.buffer,
    Holds session.enum.memory buffer (firmware.fetched session.enum.enumState)

/-- What is known when a stage is due. -/
def Session.Reached : Stage → Prop
  | .setup => True
  | .dataIn => session.enum.enumState.buffer.isSome ∧
      Took config firmware session.enum.enumState session.dev
  | .dataOut => False
  | .statusIn => session.enum.enumState.buffer = none ∧
      Took config firmware session.enum.enumState session.dev
  | .statusOut => session.enum.enumState.buffer.isSome ∧
      Accepted config firmware session.enum.enumState session.dev ∧ session.Got firmware

/-- What is known when a stage has been passed. -/
def Session.Passed : Stage → Prop
  | .setup => Took config firmware session.enum.enumState session.dev
  | .dataOut => False
  | .dataIn => session.enum.enumState.buffer.isSome ∧
      Accepted config firmware session.enum.enumState session.dev ∧ session.Got firmware
  | .statusIn => session.enum.enumState.buffer = none ∧
      Accepted config firmware session.enum.enumState session.dev
  | .statusOut => session.enum.enumState.buffer.isSome ∧
      Accepted config firmware session.enum.enumState session.dev ∧ session.Got firmware

/-- A stage that has been started. -/
structure Control.Begun (control : Control) (stage : Stage) : Prop where
  waits : control.curXferState = .waitUrb
  previous : control.preXferState = stage.xferState
  progress : control.ctrlState.result = .progress

inductive Session.Phase : Stage → Prop
  | due (stage : Stage) (current : session.control.curXferState = stage.xferState)
      (free : session.pending = none) (reached : session.Reached config firmware stage) :
      Session.Phase stage
  | under (stage : Stage) (begun : session.control.Begun stage)
      (busy : session.pending = some stage)
      (lingers : session.control.urbStatus = .idle ∨ session.control.urbStatus = .noReady ∨
        session.control.urbStatus = .ping)
      (reached : session.Reached config firmware stage) : Session.Phase stage
  | ended (stage : Stage) (begun : session.control.Begun stage) (free : session.pending = none)
      (outcome : session.control.urbStatus = .ok ∧ session.Passed config firmware stage ∨
        session.control.urbStatus = .stall ∨ session.control.urbStatus = .error) :
      Session.Phase stage

end Transfer

def EnumState.order : List EnumState :=
  [.idle, .getDevDesc, .setAddr, .getFullDevDesc, .getCfgDesc, .getFullCfgDesc,
    .getMfcStringDesc, .getProductStringDesc, .getSerialNumStringDesc, .setConfiguration,
    .configuredOk]

-- The states that an enumeration comes through before the state.
def EnumState.passed (state : EnumState) : List EnumState := order.takeWhile (· ≠ state)

theorem EnumState.passed_next {state : EnumState} (unfinished : state ≠ .configuredOk) :
    state.next.passed = state.passed ++ [state] := by
  cases state with
  | configuredOk => exact absurd rfl unfinished
  | _ => rfl

/-- The addresses that the host uses when it comes to a state. -/
def Addresses (config : Config) (enum : Enum) : EnumState → Prop
  | .idle | .getDevDesc =>
      enum.outAddress = 0 ∧ enum.inAddress = 0 ∧ enum.devAddress = config.defaultAddress
  | .setAddr => enum.outAddress = config.defaultAddress &&& 0x7F ∧
      enum.inAddress = config.defaultAddress &&& 0x7F ∧ enum.devAddress = config.defaultAddress
  | _ => enum.outAddress = config.configuredAddress ∧ enum.inAddress = config.configuredAddress ∧
      enum.devAddress = config.configuredAddress

/-- What holds at every moment. -/
structure Session.Inv (config : Config) (firmware : Firmware room) (session : Session) : Prop where
  abreast : Abreast config firmware session.enum.enumState session.dev
  knows : Knows firmware session.enum.memory session.enum.enumState
  granted : ∀ earlier ∈ session.enum.enumState.passed, Granted config firmware earlier
  addresses : Addresses config session.enum session.enum.enumState
  quiet : session.enum.xferState = .start →
    session.control.curXferState = .setup ∧ session.pending = none
  busy : session.enum.xferState = .waiting →
    session.enum.enumState.request config session.enum.memory = some session.enum.reqData ∧
      ∃ stage, session.Phase config firmware stage
  inProgress : session.enum.xferState ≠ .ok

/-! ## A poll -/

section Poll

variable {config : Config} {firmware : Firmware room} {session : Session}

theorem Session.Attached.inv (attached : session.Attached config firmware) :
    session.Inv config firmware := by
  obtain ⟨enumState, xferState, addresses, devAddress, engine, pending, earlier, reset⟩ := attached
  constructor
  case abreast =>
    rw [enumState, reset]
    exact .inl ⟨rfl, rfl⟩
  case knows =>
    rw [enumState]
    exact nofun
  case granted =>
    rw [enumState]
    exact nofun
  case addresses =>
    rw [enumState]
    exact ⟨addresses.1, addresses.2, devAddress⟩
  case quiet => exact fun _ => ⟨engine, pending⟩
  case busy =>
    intro waiting
    rw [xferState] at waiting
    cases waiting
  case inProgress =>
    rw [xferState]
    nofun

/-- A state without a request is left at once. -/
theorem enumHandler_silent {enum : Enum} (ctrlState : CtrlState)
    (none : enum.enumState.request config enum.memory = .none) (start : enum.xferState = .start) :
    enumHandler config ctrlState enum = { enum with enumState := enum.enumState.next } := by
  cases state : enum.enumState with
  | idle => simp [enumHandler, state, idleHandler, EnumState.next]
  | configuredOk =>
    obtain ⟨⟩ := enum
    simp_all [enumHandler, EnumState.next]
  | getSerialNumStringDesc =>
    rw [state, EnumState.request] at none
    split at none
    next => cases none
    next absent =>
      simp [enumHandler, state, getSerialNumStringHandler, absent, start, EnumState.next]
  | _ =>
    rw [state] at none
    cases none

theorem Knows.silent {memory : Memory Buffer} {state : EnumState}
    (knows : Knows firmware memory state) (none : state.request config memory = .none) :
    Knows firmware memory state.next := by
  cases state with
  | getSerialNumStringDesc => exact knows
  | idle => exact nofun
  | configuredOk => exact knows
  | _ => cases none

theorem Abreast.silent {memory : Memory Buffer} {state : EnumState} {dev : Device}
    (abreast : Abreast config firmware state dev) (none : state.request config memory = .none) :
    Abreast config firmware state.next dev := by
  cases state with
  | getSerialNumStringDesc => exact abreast.elim .inl .inl
  | idle => exact abreast.elim .inl .inl
  | configuredOk => exact abreast
  | _ => cases none

theorem Granted.silent {memory : Memory Buffer} {state : EnumState}
    (knows : Knows firmware memory state) (none : state.request config memory = .none) :
    Granted config firmware state := by
  cases state with
  | getSerialNumStringDesc =>
    intro present
    have index := knows.device (by simp [Firmware.known]) (by decide : 16 < 18)
    rw [EnumState.request] at none
    split at none
    next => cases none
    next absent => exact absurd (index.trans_ne present) absent
  | idle => trivial
  | configuredOk => trivial
  | _ => cases none

theorem granted_next {state : EnumState} (unfinished : state ≠ .configuredOk)
    (earlier : ∀ earlier ∈ state.passed, Granted config firmware earlier)
    (granted : Granted config firmware state) :
    ∀ earlier ∈ state.next.passed, Granted config firmware earlier := by
  rw [EnumState.passed_next unfinished]
  intro other among
  obtain before | same := List.mem_append.mp among
  · exact earlier other before
  · obtain rfl := List.mem_singleton.mp same
    exact granted

theorem Session.poll_silent
    (none : session.enum.enumState.request config session.enum.memory = .none)
    (start : session.enum.xferState = .start) :
    session.poll config =
      { session with
        enum := { session.enum with enumState := session.enum.enumState.next } } := by
  simp [Session.poll, start, enumHandler_silent _ none start]

theorem Session.Inv.start_of_silent (inv : session.Inv config firmware)
    (none : session.enum.enumState.request config session.enum.memory = .none) :
    session.enum.xferState = .start := by
  cases xfer : session.enum.xferState with
  | start => rfl
  | waiting =>
    have requests := (inv.busy xfer).1
    rw [none] at requests
    cases requests
  | ok => exact absurd xfer inv.inProgress

theorem Session.Inv.silent (inv : session.Inv config firmware)
    (none : session.enum.enumState.request config session.enum.memory = .none) :
    (session.poll config).Inv config firmware := by
  have start := inv.start_of_silent none
  rw [Session.poll_silent none start]
  constructor
  case abreast => exact inv.abreast.silent none
  case knows => exact inv.knows.silent none
  case granted =>
    by_cases finished : session.enum.enumState = .configuredOk
    · have granted := inv.granted
      simpa [finished, EnumState.next] using granted
    · exact granted_next finished inv.granted (Granted.silent inv.knows none)
  case addresses =>
    have addresses := inv.addresses
    cases state : session.enum.enumState with
    | idle => simpa [Addresses, state, EnumState.next] using addresses
    | getSerialNumStringDesc => simpa [Addresses, state, EnumState.next] using addresses
    | configuredOk => simpa [Addresses, state, EnumState.next] using addresses
    | _ =>
      rw [state] at none
      cases none
  case quiet => exact inv.quiet
  case busy =>
    intro waiting
    exact absurd (start.symm.trans waiting) (by simp)
  case inProgress => exact inv.inProgress

theorem Session.poll_start {reqData : HostReqData}
    (requests : session.enum.enumState.request config session.enum.memory = some reqData)
    (start : session.enum.xferState = .start) :
    session.poll config =
      { session with
        enum := { session.enum with reqData := reqData, xferState := .waiting }
        control := { session.control with ctrlState := .setup } } := by
  simp [Session.poll, start, enumHandler_request requests, enumRequest_start start]

theorem Session.Inv.start {reqData : HostReqData} (inv : session.Inv config firmware)
    (requests : session.enum.enumState.request config session.enum.memory = some reqData)
    (start : session.enum.xferState = .start) : (session.poll config).Inv config firmware := by
  obtain ⟨current, free⟩ := inv.quiet start
  rw [Session.poll_start requests start]
  constructor
  case abreast => exact inv.abreast
  case knows => exact inv.knows
  case granted => exact inv.granted
  case addresses =>
    have addresses := inv.addresses
    cases state : session.enum.enumState <;> simpa [Addresses, state] using addresses
  case quiet => exact nofun
  case busy => exact fun _ => ⟨requests, .setup, .due .setup current free trivial⟩
  case inProgress => exact nofun

theorem Session.poll_waiting (waiting : session.enum.xferState = .waiting)
    (requests : session.enum.enumState.request config session.enum.memory =
      some session.enum.reqData) :
    session.poll config =
      { session with
        enum := enumHandler config
          (controlXferHandler session.enum.reqData session.control).1.ctrlState session.enum
        control := (controlXferHandler session.enum.reqData session.control).1
        pending := match (controlXferHandler session.enum.reqData session.control).2 with
          | some started => some started.stage
          | none => session.pending } := by
  have requesting :
      (session.enum.enumState.request config session.enum.memory).isSome = true := by
    rw [requests]
    rfl
  exact if_pos ⟨waiting, requesting⟩

theorem controlXferHandler_waitUrb {reqData : HostReqData} {control : Control}
    (waits : control.curXferState = .waitUrb) :
    controlXferHandler reqData control = (ctrlXferWaitUrbState reqData control, none) := by
  simp only [controlXferHandler, waits]

/-- A call that ends nothing leaves the enumeration as it is. -/
theorem Session.Inv.progress {stage : Stage} {control : Control} {pending : Option Stage}
    (inv : session.Inv config firmware) (waiting : session.enum.xferState = .waiting)
    (phase : { session with control := control, pending := pending }.Phase config firmware stage) :
    { session with control := control, pending := pending }.Inv config firmware where
  abreast := inv.abreast
  knows := inv.knows
  granted := inv.granted
  addresses := inv.addresses
  quiet start := absurd (waiting.symm.trans start) nofun
  busy _ := ⟨(inv.busy waiting).1, stage, phase⟩
  inProgress := inv.inProgress

theorem Session.Inv.poll_progress {control : Control} {pending : Option Stage}
    (inv : session.Inv config firmware) (waiting : session.enum.xferState = .waiting)
    (polled : session.poll config =
      { session with
        enum := enumHandler config control.ctrlState session.enum
        control := control
        pending := pending })
    (progress : control.ctrlState.result = .progress) :
    session.poll config = { session with control := control, pending := pending } := by
  rw [polled, enumHandler_request (inv.busy waiting).1, enumRequest_progress waiting progress]

/-- The call that starts a stage. -/
theorem Session.Inv.poll_due {stage : Stage} (inv : session.Inv config firmware)
    (waiting : session.enum.xferState = .waiting)
    (current : session.control.curXferState = stage.xferState) :
    ∃ control : Control, control.Begun stage ∧ control.urbStatus = .idle ∧
      session.poll config = { session with control := control, pending := some stage } := by
  obtain ⟨started, related, idle⟩ := controlXferHandler_starts session.enum.reqData current
  have polled := Session.poll_waiting waiting (inv.busy waiting).1
  rw [started] at polled
  cases related with
  | waiting _ waits previous progress =>
    exact ⟨_, ⟨waits, previous, progress⟩, idle, inv.poll_progress waiting polled progress⟩

theorem Session.Inv.due {stage : Stage} (inv : session.Inv config firmware)
    (waiting : session.enum.xferState = .waiting)
    (current : session.control.curXferState = stage.xferState)
    (reached : session.Reached config firmware stage) :
    (session.poll config).Inv config firmware := by
  obtain ⟨control, begun, idle, polled⟩ := inv.poll_due waiting current
  rw [polled]
  exact inv.progress waiting (.under stage begun rfl (.inl idle) reached)

theorem ctrlXferWaitUrbState_lingers {stage : Stage} {reqData : HostReqData} {control : Control}
    (previous : control.preXferState = stage.xferState) (other : stage ≠ .dataOut)
    (lingers : control.urbStatus = .idle ∨ control.urbStatus = .noReady ∨
      control.urbStatus = .ping) : ctrlXferWaitUrbState reqData control = control := by
  have notOut : control.preXferState ≠ .dataOut := by
    rw [previous]
    cases stage <;> first | exact absurd rfl other | nofun
  obtain idle | noReady | ping := lingers
  · simp only [ctrlXferWaitUrbState, idle]
  · simp only [ctrlXferWaitUrbState, noReady, if_neg notOut]
  · simp only [ctrlXferWaitUrbState, ping]

theorem ctrlXferWaitUrbState_fails {reqData : HostReqData} {control : Control}
    (fails : control.urbStatus = .stall ∨ control.urbStatus = .error) :
    (ctrlXferWaitUrbState reqData control).ctrlState = .stall ∧
      (ctrlXferWaitUrbState reqData control).curXferState = .setup := by
  obtain stall | error := fails
  · simp only [ctrlXferWaitUrbState, stall, and_self]
  · simp only [ctrlXferWaitUrbState, error, and_self]

theorem Session.Inv.under {stage : Stage} (inv : session.Inv config firmware)
    (waiting : session.enum.xferState = .waiting) (begun : session.control.Begun stage)
    (busy : session.pending = some stage)
    (lingers : session.control.urbStatus = .idle ∨ session.control.urbStatus = .noReady ∨
      session.control.urbStatus = .ping)
    (reached : session.Reached config firmware stage) :
    (session.poll config).Inv config firmware := by
  have other : stage ≠ .dataOut := by
    rintro rfl
    exact reached
  have polled := Session.poll_waiting waiting (inv.busy waiting).1
  rw [controlXferHandler_waitUrb begun.waits,
    ctrlXferWaitUrbState_lingers begun.previous other lingers] at polled
  rw [inv.poll_progress waiting polled begun.progress]
  exact inv.progress waiting (.under stage begun busy lingers reached)

theorem Session.Inv.fails {stage : Stage} (inv : session.Inv config firmware)
    (waiting : session.enum.xferState = .waiting) (begun : session.control.Begun stage)
    (free : session.pending = none)
    (fails : session.control.urbStatus = .stall ∨ session.control.urbStatus = .error) :
    (session.poll config).Inv config firmware := by
  have requests := (inv.busy waiting).1
  have polled := Session.poll_waiting waiting requests
  obtain ⟨stalled, current⟩ := @ctrlXferWaitUrbState_fails session.enum.reqData _ fails
  rw [controlXferHandler_waitUrb begun.waits, stalled, enumHandler_request requests,
    enumRequest_failed waiting (by decide) (by decide)] at polled
  rw [polled]
  constructor
  case abreast => exact inv.abreast
  case knows => exact inv.knows
  case granted => exact inv.granted
  case addresses =>
    have addresses := inv.addresses
    cases state : session.enum.enumState <;> simpa [Addresses, state] using addresses
  case quiet => exact fun _ => ⟨current, free⟩
  case busy => exact nofun
  case inProgress => exact nofun

/-- What a stage that has been passed makes due. -/
theorem Session.Passed.reached {stage next : Stage} (inv : session.Inv config firmware)
    (waiting : session.enum.xferState = .waiting) (passed : session.Passed config firmware stage)
    (follows : stage.next session.enum.reqData = some next) :
    session.Reached config firmware next := by
  have reads := request_reads inv.knows (inv.busy waiting).1
  cases stage with
  | setup =>
    split at reads
    next receives =>
      obtain rfl : Stage.dataIn = next := by simpa [Stage.next, reads] using follows
      exact ⟨receives, passed⟩
    next silent =>
      obtain rfl : Stage.statusIn = next := by simpa [Stage.next, reads] using follows
      exact ⟨by simpa using silent, passed⟩
  | dataOut => exact passed.elim
  | dataIn =>
    obtain rfl := Option.some.inj follows
    exact passed
  | statusIn => cases follows
  | statusOut => cases follows

/-- What a request has come to when its last stage has been passed. -/
theorem Session.Passed.accepted {stage : Stage} {reqData : HostReqData}
    (passed : session.Passed config firmware stage) (last : stage.next reqData = none) :
    Accepted config firmware session.enum.enumState session.dev ∧ session.Got firmware := by
  cases stage with
  | setup =>
    simp only [Stage.next] at last
    split at last
    next => cases last
    next => split at last <;> cases last
  | dataOut => exact passed.elim
  | dataIn => cases last
  | statusIn =>
    refine ⟨passed.2, fun buffer receives => ?_⟩
    rw [passed.1] at receives
    cases receives
  | statusOut => exact passed.2

theorem Addresses.complete {enum : Enum} {state : EnumState}
    (addresses : Addresses config enum state) (unfinished : state ≠ .configuredOk) :
    Addresses config (state.complete config enum) state.next := by
  have masked := configured_masked config
  cases state with
  | configuredOk => exact absurd rfl unfinished
  | getDevDesc =>
    obtain ⟨_, _, device⟩ := addresses
    exact ⟨congrArg (· &&& 0x7F) device, congrArg (· &&& 0x7F) device, device⟩
  | setAddr => exact ⟨masked, masked, rfl⟩
  | _ => exact addresses

/-- The call that sees a stage passed: it makes the next one due or completes the request. -/
theorem Session.Inv.poll_passed {stage : Stage} (inv : session.Inv config firmware)
    (waiting : session.enum.xferState = .waiting) (begun : session.control.Begun stage)
    (ok : session.control.urbStatus = .ok) :
    (∃ next control, stage.next session.enum.reqData = some next ∧
      control.curXferState = next.xferState ∧
      session.poll config = { session with control := control }) ∨
    ∃ control, stage.next session.enum.reqData = none ∧ control.curXferState = .setup ∧
      session.poll config =
        { session with
          enum := session.enum.enumState.complete config { session.enum with xferState := .start }
          control := control } := by
  have requests := (inv.busy waiting).1
  have reads := request_reads inv.knows requests
  have plain : PlainOutcome session.enum.reqData stage session.control.urbStatus := by
    rw [ok]
    rintro - ⟨dirIn, empty⟩
    split at reads
    next => exact reads.2 empty
    next => exact absurd (reads.1.symm.trans dirIn) nofun
  obtain ⟨-, result, related⟩ :=
    ctrlXferWaitUrbState_matches begun.waits begun.previous begun.progress plain
  have polled := Session.poll_waiting waiting requests
  rw [controlXferHandler_waitUrb begun.waits] at polled
  rw [ok] at result related
  cases follows : stage.next session.enum.reqData with
  | some next =>
    simp only [Protocol.call, if_true, follows] at result related
    cases related with
    | ready _ current =>
      exact .inl ⟨next, _, rfl, current, inv.poll_progress waiting polled result⟩
  | none =>
    simp only [Protocol.call, if_true, follows] at result related
    rw [enumHandler_request requests, enumRequest_complete waiting result] at polled
    cases related with
    | ready _ current => exact .inr ⟨_, rfl, current, polled⟩

theorem Session.Inv.unfinished (inv : session.Inv config firmware)
    (waiting : session.enum.xferState = .waiting) : session.enum.enumState ≠ .configuredOk := by
  intro finished
  have requests := (inv.busy waiting).1
  rw [finished] at requests
  cases requests

theorem Session.Inv.completes {control : Control} (inv : session.Inv config firmware)
    (waiting : session.enum.xferState = .waiting) (free : session.pending = none)
    (accepted : Accepted config firmware session.enum.enumState session.dev)
    (got : session.Got firmware) (current : control.curXferState = .setup) :
    { session with
      enum := session.enum.enumState.complete config { session.enum with xferState := .start }
      control := control }.Inv config firmware := by
  obtain ⟨state, xfer⟩ :=
    complete_enumState (inv.busy waiting).1 { session.enum with xferState := .start }
  have unfinished := inv.unfinished waiting
  constructor
  case abreast =>
    simp only [state]
    exact .inl accepted.settled
  case knows =>
    simp only [state]
    exact Knows.complete inv.knows got
  case granted =>
    simp only [state]
    exact granted_next unfinished inv.granted accepted.granted
  case addresses =>
    simp only [state]
    refine Addresses.complete ?_ unfinished
    have addresses := inv.addresses
    cases state : session.enum.enumState <;> simpa [Addresses, state] using addresses
  case quiet => exact fun _ => ⟨current, free⟩
  case busy =>
    simp only [xfer]
    exact nofun
  case inProgress =>
    simp only [xfer]
    exact nofun

theorem Session.Inv.passed {stage : Stage} (inv : session.Inv config firmware)
    (waiting : session.enum.xferState = .waiting) (begun : session.control.Begun stage)
    (free : session.pending = none) (ok : session.control.urbStatus = .ok)
    (passed : session.Passed config firmware stage) :
    (session.poll config).Inv config firmware := by
  obtain ⟨next, control, follows, current, polled⟩ | ⟨control, last, current, polled⟩ :=
    inv.poll_passed waiting begun ok
  · have reached := passed.reached inv waiting follows
    rw [polled]
    exact inv.progress waiting (.due next current free reached)
  · obtain ⟨accepted, got⟩ := passed.accepted last
    rw [polled]
    exact inv.completes waiting free accepted got current

theorem Session.Inv.poll (inv : session.Inv config firmware) :
    (session.poll config).Inv config firmware := by
  cases requests : session.enum.enumState.request config session.enum.memory with
  | none => exact inv.silent requests
  | some reqData =>
    cases xfer : session.enum.xferState with
    | start => exact inv.start requests xfer
    | ok => exact absurd xfer inv.inProgress
    | waiting =>
      obtain ⟨_, stage, phase⟩ := inv.busy xfer
      cases phase with
      | due current free reached => exact inv.due xfer current reached
      | under begun busy lingers reached => exact inv.under xfer begun busy lingers reached
      | ended begun free outcome =>
        obtain ⟨ok, passed⟩ | fails := outcome
        · exact inv.passed xfer begun free ok passed
        · exact inv.fails xfer begun free fails

end Poll

/-! ## A move of the bus -/

section Bus

variable {config : Config} {firmware : Firmware room} {session : Session} {stage : Stage}

/-- A channel is busy with a stage of the request in progress. -/
theorem Session.Inv.pending (inv : session.Inv config firmware)
    (busy : session.pending = some stage) :
    session.enum.xferState = .waiting ∧ session.control.Begun stage ∧
      session.Reached config firmware stage := by
  cases xfer : session.enum.xferState with
  | start =>
    have free := (inv.quiet xfer).2
    rw [busy] at free
    cases free
  | ok => exact absurd xfer inv.inProgress
  | waiting =>
    obtain ⟨_, other, phase⟩ := inv.busy xfer
    cases phase with
    | due _ free => cases busy.symm.trans free
    | ended _ free => cases busy.symm.trans free
    | under begun same _ reached =>
      obtain rfl := Option.some.inj (busy.symm.trans same)
      exact ⟨rfl, begun, reached⟩

theorem Session.hear_urbStatus (begun : session.control.Begun stage) (answer : Session.Answer) :
    (session.hear stage answer).control.urbStatus = answer.status := by
  have previous : (session.hear stage answer).control.preXferState = stage.xferState := by
    simp only [Session.hear]
    split <;> exact begun.previous
  rw [urbStatus_of_started previous]
  cases stage <;> rfl

theorem Control.Begun.hear (begun : session.control.Begun stage) (answer : Session.Answer) :
    (session.hear stage answer).control.Begun stage := by
  obtain ⟨waits, previous, progress⟩ := begun
  cases stage <;> exact ⟨waits, previous, progress⟩

theorem Session.hear_nothing (answer : Session.Answer) (nothing : answer.bytes = []) :
    (session.hear stage answer).enum = session.enum := by
  have unwritten : ∀ buffer, session.enum.memory.write ⟨buffer, 0⟩ [] = session.enum.memory := by
    intro buffer
    funext obj index
    simp [Memory.write]
  simp only [Session.hear, nothing, unwritten]
  split <;> rfl

theorem Session.Inv.hear {answer : Session.Answer} {pending : Option Stage}
    (inv : session.Inv config firmware) (busy : session.pending = some stage)
    (abreast : Abreast config firmware session.enum.enumState answer.dev)
    (phase : { session.hear stage answer with pending := pending }.Phase config firmware stage) :
    { session.hear stage answer with pending := pending }.Inv config firmware := by
  obtain ⟨waiting, begun, reached⟩ := inv.pending busy
  have requests := (inv.busy waiting).1
  constructor
  case abreast => exact abreast
  case knows =>
    simp only [Session.hear]
    split
    next buffer receives => exact inv.knows.write receives _
    next => exact inv.knows
  case granted => exact inv.granted
  case addresses =>
    have addresses := inv.addresses
    simp only [Session.hear]
    cases state : session.enum.enumState <;> simpa [Addresses, state] using addresses
  case quiet => exact fun start => absurd (waiting.symm.trans start) (by simp)
  case busy =>
    refine fun _ => ⟨?_, stage, phase⟩
    simp only [Session.hear]
    split
    next buffer receives => exact (request_write receives 0 _).trans requests
    next => exact requests
  case inProgress => exact inv.inProgress

theorem Firmware.action_reads {state : EnumState} (receives : state.buffer.isSome) :
    ∃ obj count, firmware.action state = .inData obj count ∧
      (firmware.content obj).take count = firmware.fetched state := by
  have taken : ∀ obj count,
      (firmware.content obj).take (min count (available firmware.descriptors obj)) =
        (firmware.content obj).take count := by
    intro obj count
    rw [← firmware.length, ← List.take_take, List.take_length]
  cases state with
  | idle => cases receives
  | setAddr => cases receives
  | setConfiguration => cases receives
  | configuredOk => cases receives
  | _ => exact ⟨_, _, rfl, taken ..⟩

theorem Firmware.action_silent {state : EnumState} (silent : state.buffer = none) :
    firmware.action state = .txStatus := by
  cases state <;> first | rfl | cases silent

/-- What is heard after SETUP. -/
theorem Session.answer_cases {answer : Session.Answer}
    (reached : session.Reached config firmware stage) (later : stage ≠ .setup)
    (answered : session.answer firmware stage = some answer) :
    answer.dev = session.dev ∧ (answer.status = .stall ∨
      answer.status = .ok ∧ Accepted config firmware session.enum.enumState session.dev ∧
        answer.bytes =
          if stage = .dataIn then firmware.fetched session.enum.enumState else []) := by
  have whole : ∀ {action : Ep0Action} {bytes : List Byte}, session.dev.ep0 = [action] →
      action ≠ .stall → firmware.serves stage action = some bytes →
      answer = ⟨.ok, bytes, session.dev⟩ := by
    intro action bytes alone served serves
    cases stage with
    | setup => exact absurd rfl later
    | _ => simpa [Session.answer, alone, served.symm, serves, eq_comm] using answered
  have stalled : session.dev.ep0 = [.stall] → answer = ⟨.stall, [], session.dev⟩ := by
    intro alone
    cases stage with
    | setup => exact absurd rfl later
    | _ => simpa [Session.answer, alone, eq_comm] using answered
  have reads : session.enum.enumState.buffer.isSome →
      Accepted config firmware session.enum.enumState session.dev →
      stage = .dataIn ∨ stage = .statusOut →
      answer = ⟨.ok, if stage = .dataIn then firmware.fetched session.enum.enumState else [],
        session.dev⟩ := by
    intro receives accepted data
    obtain ⟨obj, count, action, fetched⟩ := firmware.action_reads receives
    obtain rfl | rfl := data
    · exact whole accepted.ep0 (by simp [action]) (by simp [action, Firmware.serves, fetched])
    · exact whole accepted.ep0 (by simp [action]) (by simp [action, Firmware.serves])
  cases stage with
  | setup => exact absurd rfl later
  | dataOut => exact reached.elim
  | dataIn =>
    obtain ⟨receives, accepted | refused⟩ := reached
    · obtain rfl := reads receives accepted (.inl rfl)
      exact ⟨rfl, .inr ⟨rfl, accepted, rfl⟩⟩
    · obtain rfl := stalled refused.2
      exact ⟨rfl, .inl rfl⟩
  | statusIn =>
    obtain ⟨silent, accepted | refused⟩ := reached
    · have action := firmware.action_silent silent
      obtain rfl := whole accepted.ep0 (by simp [action]) (by rw [action]; rfl)
      exact ⟨rfl, .inr ⟨rfl, accepted, rfl⟩⟩
    · obtain rfl := stalled refused.2
      exact ⟨rfl, .inl rfl⟩
  | statusOut =>
    obtain ⟨receives, accepted, _⟩ := reached
    obtain rfl := reads receives accepted (.inr rfl)
    exact ⟨rfl, .inr ⟨rfl, accepted, rfl⟩⟩

theorem Session.answer_setup {answer : Session.Answer} (inv : session.Inv config firmware)
    (waiting : session.enum.xferState = .waiting)
    (answered : session.answer firmware .setup = some answer) :
    answer.status = .ok ∧ answer.bytes = [] ∧
      Took config firmware session.enum.enumState answer.dev ∧
      Abreast config firmware session.enum.enumState answer.dev := by
  simp only [Session.answer, Option.ite_none_right_eq_some, Option.some.injEq] at answered
  obtain ⟨_, rfl⟩ := answered
  exact ⟨rfl, rfl, setup_took inv.knows inv.abreast (inv.busy waiting).1⟩

/-- Whatever the device answers, it stays in step. -/
theorem Session.Inv.answer_abreast {answer : Session.Answer} (inv : session.Inv config firmware)
    (waiting : session.enum.xferState = .waiting)
    (reached : session.Reached config firmware stage)
    (answered : session.answer firmware stage = some answer) :
    Abreast config firmware session.enum.enumState answer.dev := by
  by_cases first : stage = .setup
  next =>
    subst first
    exact (Session.answer_setup inv waiting answered).2.2.2
  next =>
    rw [(Session.answer_cases reached first answered).1]
    exact inv.abreast

/-- A stage that takes place is passed unless the device stalls it. -/
theorem Session.Inv.heard {answer : Session.Answer} (inv : session.Inv config firmware)
    (waiting : session.enum.xferState = .waiting)
    (reached : session.Reached config firmware stage)
    (answered : session.answer firmware stage = some answer) :
    answer.status = .stall ∨
      answer.status = .ok ∧ (session.hear stage answer).Passed config firmware stage := by
  by_cases first : stage = .setup
  next =>
    subst first
    obtain ⟨ok, _, took, _⟩ := Session.answer_setup inv waiting answered
    exact .inr ⟨ok, took⟩
  next =>
    obtain ⟨same, stall | ⟨ok, accepted, bytes⟩⟩ := Session.answer_cases reached first answered
    · exact .inl stall
    refine .inr ⟨ok, ?_⟩
    rw [← same] at accepted
    cases stage with
    | setup => exact absurd rfl first
    | dataOut => exact reached.elim
    | statusIn => exact ⟨reached.1, accepted⟩
    | dataIn =>
      refine ⟨reached.1, accepted, fun buffer receives => ?_⟩
      have here : session.enum.enumState.buffer = some buffer := receives
      simp only [Session.hear, here, bytes, if_true]
      exact Holds.written session.enum.memory buffer _
    | statusOut =>
      refine ⟨reached.1, accepted, ?_⟩
      have unchanged : (session.hear .statusOut answer).enum = session.enum :=
        session.hear_nothing answer bytes
      intro buffer receives
      rw [unchanged] at receives ⊢
      exact reached.2.2 buffer receives

theorem Session.Inv.deliver {answer : Session.Answer} (inv : session.Inv config firmware)
    (busy : session.pending = some stage)
    (answered : session.answer firmware stage = some answer) :
    { session.hear stage answer with pending := none }.Inv config firmware := by
  obtain ⟨waiting, begun, reached⟩ := inv.pending busy
  have status := Session.hear_urbStatus begun answer
  refine inv.hear busy (inv.answer_abreast waiting reached answered)
    (.ended stage (begun.hear answer) rfl ?_)
  obtain stall | ⟨ok, passed⟩ := inv.heard waiting reached answered
  · exact .inr (.inl (status.trans stall))
  · exact .inl ⟨status.trans ok, passed⟩

theorem Session.Inv.lose {heard : Bool} {count : Nat} (inv : session.Inv config firmware)
    (busy : session.pending = some stage) :
    let answer := (session.answer firmware stage).getD (Session.silence session.dev)
    { session.hear stage (answer.lost session.dev heard count) with pending := none }.Inv config
      firmware := by
  intro answer
  obtain ⟨waiting, begun, reached⟩ := inv.pending busy
  have abreast : Abreast config firmware session.enum.enumState answer.dev := by
    cases answered : session.answer firmware stage with
    | none =>
      simp only [answer, answered]
      exact inv.abreast
    | some given =>
      simp only [answer, answered]
      exact inv.answer_abreast waiting reached answered
  refine inv.hear busy ?_ (.ended stage (begun.hear _) rfl
    (.inr (.inr (Session.hear_urbStatus begun _))))
  cases heard with
  | false => exact inv.abreast
  | true => exact abreast

theorem Session.Inv.linger {status : UrbStatus} (inv : session.Inv config firmware)
    (busy : session.pending = some stage)
    (lingers : status = .idle ∨ status = .noReady ∨ status = .ping) :
    (session.hear stage ⟨status, [], session.dev⟩).Inv config firmware := by
  obtain ⟨waiting, begun, reached⟩ := inv.pending busy
  have unchanged : (session.hear stage ⟨status, [], session.dev⟩).enum = session.enum :=
    session.hear_nothing _ rfl
  have still : (session.hear stage ⟨status, [], session.dev⟩).Reached config firmware stage := by
    cases stage <;> simp only [Session.Reached, Session.Got, unchanged] <;> exact reached
  refine @Session.Inv.hear _ _ _ _ _ _ session.pending inv busy inv.abreast ?_
  exact .under stage (begun.hear _) busy
    ((Session.hear_urbStatus begun ⟨status, [], session.dev⟩).symm ▸ lingers) still

theorem Session.Inv.step {label : Session.Label} {next : Session}
    (inv : session.Inv config firmware) (taken : session.step config firmware label = some next) :
    next.Inv config firmware := by
  cases label with
  | poll =>
    obtain rfl := Option.some.inj taken
    exact inv.poll
  | deliver =>
    obtain ⟨stage, busy, rest⟩ := Option.bind_eq_some_iff.mp taken
    obtain ⟨answer, answered, last⟩ := Option.bind_eq_some_iff.mp rest
    obtain rfl := Option.some.inj last
    exact inv.deliver busy answered
  | lose heard count =>
    obtain ⟨stage, busy, last⟩ := Option.bind_eq_some_iff.mp taken
    obtain rfl := Option.some.inj last
    exact inv.lose busy
  | linger status =>
    obtain ⟨stage, busy, rest⟩ := Option.bind_eq_some_iff.mp taken
    split at rest
    next lingers =>
      obtain rfl := Option.some.inj rest
      exact inv.linger busy lingers
    next => cases rest

end Bus

/-! ## Agreement -/

/-- Host and device agree: the device is configured as its own descriptor says, at the address
that the host uses, and the host has its descriptors. -/
structure Session.Agreed (config : Config) (firmware : Firmware room) (session : Session) : Prop where
  configured : session.dev.devState = .configured
  configuration : session.dev.curConfiguration = firmware.bConfigurationValue
  address : session.dev.address = config.configuredAddress
  addressed : session.enum.outAddress = session.dev.address ∧
    session.enum.inAddress = session.dev.address ∧ session.enum.devAddress = session.dev.address
  device : session.enum.memory.read (some ⟨.device, 0⟩) 18 = firmware.content .deviceDesc
  full : session.enum.memory.read (some ⟨.cfgDescBuf, 0⟩)
    (firmware.content .configurationDesc).length = firmware.content .configurationDesc
  value : Descriptor.bConfigurationValue session.enum.memory = session.dev.curConfiguration

theorem Session.Inv.agreed {config : Config} {firmware : Firmware room} {session : Session}
    (inv : session.Inv config firmware) (finished : session.enum.enumState = .configuredOk) :
    session.Agreed config firmware := by
  obtain ⟨abreast, knows, _, addresses, _, _, _⟩ := inv
  rw [finished] at abreast knows addresses
  obtain ⟨devState, address, chosen⟩ : Chosen config firmware session.dev := abreast.elim id id
  constructor
  case configured => exact devState
  case configuration => exact chosen
  case address => exact address
  case addressed =>
    rw [address]
    exact addresses
  case device =>
    have holds := knows .device (firmware.content .deviceDesc) (by simp [Firmware.known])
    rw [← firmware.length_deviceDesc]
    exact holds.read
  case full =>
    have holds := knows .cfgDescBuf (firmware.content .configurationDesc)
      (by simp [Firmware.known])
    exact holds.read
  case value =>
    rw [chosen]
    exact knows.configuration (by simp [Firmware.known]) (by decide)

/-- Whatever the bus loses, the device is never more than one request ahead of the host, and when
the host takes it for configured they agree. -/
theorem session_agrees {config : Config} {firmware : Firmware room} {start session : Session}
    (attached : start.Attached config firmware) {labels : List Session.Label}
    (run : Run (Session.step config firmware) free start labels session) :
    Abreast config firmware session.enum.enumState session.dev ∧
      (session.enum.enumState = .configuredOk → session.Agreed config firmware) := by
  have inv : session.Inv config firmware :=
    run.invariant (Session.Inv config firmware) attached.inv fun _ _ _ held _ taken =>
      held.step taken
  exact ⟨inv.abreast, inv.agreed⟩

-- A disk with two strings, of one interface with two bulk endpoints.
def diskContent : Ep0Object → List Byte
  | .deviceDesc => [18, 1, 0, 2, 0, 0, 0, 64, 0x4C, 0x31, 0x30, 0x57, 0, 2, 1, 2, 0, 1]
  | .configurationDesc => [9, 2, 32, 0, 1, 1, 0, 0xC0, 50, 9, 4, 0, 0, 2, 8, 6, 0x50, 0,
      7, 5, 0x81, 2, 64, 0, 0, 7, 5, 1, 2, 64, 0, 0]
  | .stringDesc index => if index < 3 then [4, 3, 9, 4] else []
  | obj => List.replicate (available fewDescriptors obj) 0

def diskRoom : Room := ⟨⟨512, 255⟩, usualLimits, usualLimits_narrow⟩

theorem diskConfiguration_parsed : (parseCfgDesc usualLimits 4
    (fun at_ => (diskContent .configurationDesc).getD at_ 0) (fun _ => 0) emptyTable).isSome =
      true := by
  decide +kernel

theorem diskConfiguration_linked :
    Chain.Linked (fun at_ => (diskContent .configurationDesc).getD at_ 0) usualLimits 512 :=
  linked_of_parsed usualLimits_narrow diskConfiguration_parsed (by decide +kernel)

def diskStrings (index : Byte) : Option Byte := if index < 3 then some 4 else none

theorem diskStrings_legible (index : Byte) (present : (diskStrings index).isSome) :
    Legible 255 (diskContent (.stringDesc index)) := by
  have few : index < 3 := by
    by_contra many
    simp [diskStrings, many] at present
  simp only [diskContent, if_pos few]
  exact ⟨rfl, rfl, by decide, by decide⟩

def diskFirmware : Firmware diskRoom where
  descriptors := { fewDescriptors with
    configurationDesc := 32
    stringDesc := diskStrings }
  content := diskContent
  length obj := by
    cases obj with
    | stringDesc index =>
      simp only [diskContent, available, diskStrings]
      split <;> rfl
    | _ => rfl
  deviceSize := rfl
  packetSize := by decide
  header := by decide
  totalLength := by decide
  configurable := by decide
  fits := by decide
  linked := diskConfiguration_linked
  strings := diskStrings_legible

def diskAttached : Session where
  enum := (Enumeration.attached usualConfig (fun _ _ => 0) 64 (standardSetAddress 0)).enum
  control := Transfers.initial.control
  pending := none
  dev := Otg.resetIsrHandler diskFirmware.descriptors Device.powered

theorem diskAttached_attached : diskAttached.Attached usualConfig diskFirmware :=
  ⟨rfl, rfl, ⟨rfl, rfl⟩, rfl, rfl, rfl, _, rfl⟩

def reading : List Session.Label :=
  [.poll, .poll, .deliver, .poll, .poll, .deliver, .poll, .poll, .deliver, .poll]

def setting : List Session.Label := [.poll, .poll, .deliver, .poll, .poll, .deliver, .poll]

-- The first SETUP is heard but not confirmed.
def diskEnumeration : List Session.Label :=
  [.poll] ++ [.poll, .poll, .lose true 0, .poll] ++ reading ++ setting ++ reading ++ reading ++
    reading ++ reading ++ reading ++ [.poll] ++ setting

theorem diskEnumeration_accepted :
    (execute (Session.step usualConfig diskFirmware) free diskAttached
      diskEnumeration).isSome = true := by
  decide +kernel

def diskConfigured : Session :=
  final (Session.step usualConfig diskFirmware) free diskAttached diskEnumeration
    diskEnumeration_accepted

theorem session_agrees_disk : diskConfigured.Agreed usualConfig diskFirmware :=
  (session_agrees diskAttached_attached (Run.final (Session.step usualConfig diskFirmware)
    free _ _ diskEnumeration_accepted)).2 (by decide +kernel)

end ApmSdk.Usbh
