import ApmSdk.Usbh.Detach

set_option autoImplicit false

/-!
# Enumerations step by step

The labels that lead a host from idle to each of its requests, and the buffers it has then.
-/

namespace ApmSdk.Usbh

open Traces
open Usbd (Byte Memory)

/-- A pass in which nothing else happens. -/
def quiet : Env := ⟨false, false, false, 0, .idle⟩

/-- The stage that follows one that the device has answered, none after a status stage. -/
def XferState.after (reqData : HostReqData) : XferState → Option XferState
  | .setup =>
      some (if reqData.dirIn then if reqData.wLength ≠ 0 then .dataIn else .statusOut
        else if reqData.wLength ≠ 0 then .dataOut else .statusIn)
  | .dataOut => some .statusIn
  | .dataIn => some .statusOut
  | _ => none

def XferState.isIn : XferState → Bool
  | .dataIn | .statusIn => true
  | _ => false

/-- The engine after a stage has been answered. -/
def Control.answered (reqData : HostReqData) (control : Control) (pre : XferState) : Control :=
  let control :=
    if pre.isIn then { control with inUrb := .ok } else { control with outUrb := .ok }
  match pre.after reqData with
  | some stage => { control with curXferState := stage }
  | none => { control with curXferState := .setup, ctrlState := .complete }

theorem controlXferHandler_answered (reqData : HostReqData) {control : Control} {pre : XferState}
    (waits : control.curXferState = .waitUrb) (stage : control.preXferState = pre)
    (started : pre ≠ .waitUrb) :
    controlXferHandler reqData
        (if pre.isIn then { control with inUrb := .ok } else { control with outUrb := .ok }) =
      (control.answered reqData pre, none) := by
  subst stage
  cases state : control.preXferState with
  | waitUrb => exact absurd state started
  | setup | dataOut | dataIn | statusOut | statusIn =>
    simp [controlXferHandler, waits, ctrlXferWaitUrbState, Control.urbStatus, state,
      Control.answered, XferState.isIn, XferState.after]

namespace Host

variable {Vars : Type} {config : HostConfig} {host : Host Vars}
  {enumState : EnumState} {memory : Memory Buffer} {vars : Vars} {reqData : HostReqData}

structure Enumerates (host : Host Vars) (enumState : EnumState) (memory : Memory Buffer)
    (vars : Vars) : Prop where
  state : host.curHostState = .enum
  connected : host.connectedFlag = true
  enumState : host.enum.enumState = enumState
  memory : host.enum.memory = memory
  vars : host.vars = vars

/-- No request is in progress. -/
structure Rests (host : Host Vars) (enumState : EnumState) (memory : Memory Buffer)
    (vars : Vars) : Prop extends host.Enumerates enumState memory vars where
  start : host.enum.xferState = .start
  cur : host.control.curXferState = .setup

-- A request is in progress; the engine is in `stage`, or has started `pre` if it waits.
structure Polls (host : Host Vars) (enumState : EnumState) (memory : Memory Buffer)
    (vars : Vars) (reqData : HostReqData) (stage pre : XferState) : Prop
    extends host.Enumerates enumState memory vars where
  waiting : host.enum.xferState = .waiting
  reqData : host.enum.reqData = reqData
  cur : host.control.curXferState = stage
  pre : stage = .waitUrb → host.control.preXferState = pre
  progress : host.control.ctrlState.result = .progress

/-! ## Single steps -/

theorem not_configured {enum : Enum}
    (requests : enum.enumState.request config.toConfig enum.memory = some reqData) :
    enum.enumState ≠ .configuredOk := by
  intro state
  rw [state] at requests
  cases requests

variable (config) (driver : ClassDriver Vars)

theorem poll_enum (state : host.curHostState = .enum) (connected : host.connectedFlag = true)
    (env : Env) : hostStep config driver host (.poll env) = some (host.enumPoll config) := by
  simp [hostStep, pollingProcess, connected, coreHandler, state]

theorem Rests.build (rests : host.Rests enumState memory vars)
    (requests : enumState.request config.toConfig memory = some reqData) :
    ∃ next : Host Vars, hostStep config driver host (.poll quiet) = some (next, none) ∧
      next.Polls enumState memory vars reqData .setup .setup := by
  rw [← rests.enumState, ← rests.memory] at requests
  have idle : host.enum.calls = false := by
    rw [Enum.calls_of_request requests, rests.start]
    rfl
  have handled : enumRequest reqData (host.enum.enumState.complete config.toConfig)
      host.control.ctrlState host.enum =
        { host.enum with reqData := reqData, xferState := .waiting } :=
    enumRequest_start rests.start
  rw [poll_enum config driver rests.state rests.connected]
  simp only [enumPoll, idle, Bool.false_eq_true, if_false, enumHandler_request requests, handled,
    rests.start, true_and, if_true, not_configured requests]
  exact ⟨_, rfl, ⟨rests.state, rests.connected, rests.enumState, rests.memory, rests.vars⟩, rfl,
    rfl, rests.cur, (fun never => nomatch never), rfl⟩

/-- A pass while a request is in progress calls the engine. -/
theorem Polls.pass {stage pre : XferState}
    (polls : host.Polls enumState memory vars reqData stage pre)
    (requests : enumState.request config.toConfig memory = some reqData) :
    hostStep config driver host (.poll quiet) = some (
      { host with
        control := (controlXferHandler reqData host.control).1
        enum := enumRequest reqData (enumState.complete config.toConfig)
          (controlXferHandler reqData host.control).1.ctrlState host.enum
        curHostState :=
          if (enumRequest reqData (enumState.complete config.toConfig)
            (controlXferHandler reqData host.control).1.ctrlState host.enum).enumState =
              .configuredOk then .userInput else .enum },
      (controlXferHandler reqData host.control).2.map host.observe) := by
  rw [← polls.enumState, ← polls.memory] at requests
  have busy : host.enum.calls = true := by
    rw [Enum.calls_of_request requests, polls.waiting]
    rfl
  rw [poll_enum config driver polls.state polls.connected]
  simp only [enumPoll, busy, if_true, engine, enumHandler_request requests, polls.waiting,
    polls.reqData, reduceCtorEq, false_and, if_false, polls.enumState, polls.state]

theorem Polls.begin {stage pre : XferState}
    (polls : host.Polls enumState memory vars reqData stage pre)
    (requests : enumState.request config.toConfig memory = some reqData)
    (stops : stage ≠ .waitUrb) :
    ∃ (next : Host Vars) (observed : Observed),
      hostStep config driver host (.poll quiet) = some (next, some observed) ∧
      observed.reqData = reqData ∧ next.Polls enumState memory vars reqData .waitUrb stage := by
  have unchanged (ctrlState : CtrlState) (result : ctrlState.result = .progress) :
      enumRequest reqData (enumState.complete config.toConfig) ctrlState host.enum = host.enum :=
    enumRequest_progress polls.waiting result
  have unfinished : host.enum.enumState ≠ .configuredOk := by
    rw [← polls.enumState, ← polls.memory] at requests
    exact not_configured requests
  rw [polls.pass config driver requests, controlXferHandler, polls.cur]
  cases stage with
  | waitUrb => exact absurd rfl stops
  | setup | dataOut | dataIn | statusOut | statusIn =>
    simp only [ctrlXferSetup, ctrlXferOutData, ctrlXferInData, ctrlXferOutStatus,
      ctrlXferInStatus, Control.startOut, Control.startIn, unchanged .setup rfl,
      unchanged .dataOut rfl, unchanged .dataIn rfl, unchanged .statusOut rfl,
      unchanged .statusIn rfl, unfinished, if_false, Option.map_some]
    exact ⟨_, _, rfl, polls.reqData, ⟨rfl, polls.connected, polls.enumState, polls.memory,
      polls.vars⟩, polls.waiting, polls.reqData, rfl, (fun _ => polls.cur), rfl⟩

/-- The device answers the stage that was started. -/
def answer (pre : XferState) : List HostLabel := [.urb pre.isIn .ok, .poll quiet]

theorem Polls.answer_path {pre : XferState}
    (polls : host.Polls enumState memory vars reqData .waitUrb pre) (started : pre ≠ .waitUrb)
    (requests : enumState.request config.toConfig memory = some reqData) :
    Path (hostStep config driver) host (answer pre)
      { host with
        control := host.control.answered reqData pre
        enum := enumRequest reqData (enumState.complete config.toConfig)
          (host.control.answered reqData pre).ctrlState host.enum
        curHostState :=
          if (enumRequest reqData (enumState.complete config.toConfig)
            (host.control.answered reqData pre).ctrlState host.enum).enumState =
              .configuredOk then .userInput else .enum } := by
  have told : Polls
      { host with
        control :=
          if pre.isIn then { host.control with inUrb := .ok }
          else { host.control with outUrb := .ok } }
      enumState memory vars reqData .waitUrb pre := by
    refine ⟨⟨polls.state, polls.connected, polls.enumState, polls.memory, polls.vars⟩,
      polls.waiting, polls.reqData, ?_, fun waits => ?_, ?_⟩
    · cases pre.isIn <;> exact polls.cur
    · cases pre.isIn <;> exact polls.pre waits
    · cases pre.isIn <;> exact polls.progress
  have pass := told.pass config driver requests
  simp only [controlXferHandler_answered reqData polls.cur (polls.pre rfl) started,
    Option.map_none] at pass
  exact .cons none rfl (.single pass)

theorem Polls.proceed {pre stage : XferState}
    (polls : host.Polls enumState memory vars reqData .waitUrb pre)
    (requests : enumState.request config.toConfig memory = some reqData)
    (goes : pre.after reqData = some stage) :
    ∃ next : Host Vars, Path (hostStep config driver) host (answer pre) next ∧
      next.Polls enumState memory vars reqData stage pre := by
  have started : pre ≠ .waitUrb := by
    rintro rfl
    cases goes
  have unfinished : host.enum.enumState ≠ .configuredOk := by
    rw [← polls.enumState, ← polls.memory] at requests
    exact not_configured requests
  have ctrl : (host.control.answered reqData pre).ctrlState = host.control.ctrlState := by
    simp only [Control.answered, goes]
    cases pre.isIn <;> rfl
  have path := polls.answer_path config driver started requests
  rw [ctrl, enumRequest_progress polls.waiting polls.progress, if_neg unfinished] at path
  refine ⟨_, path, ⟨rfl, polls.connected, polls.enumState, polls.memory, polls.vars⟩,
    polls.waiting, polls.reqData, ?_, fun _ => ?_, ?_⟩
  · simp only [Control.answered, goes]
  · simp only [Control.answered, goes]
    cases pre.isIn <;> exact polls.pre rfl
  · rw [ctrl]
    exact polls.progress

/-- The request of the state is complete. -/
def Completed (enumState : EnumState) (memory : Memory Buffer) (vars : Vars)
    (host : Host Vars) : Prop :=
  ∃ enum : Enum, enum.xferState = .start ∧ enum.enumState = enumState ∧ enum.memory = memory ∧
    host.enum = enumState.complete config.toConfig enum ∧
    host.curHostState = (if host.enum.enumState = .configuredOk then .userInput else .enum) ∧
    host.connectedFlag = true ∧ host.control.curXferState = .setup ∧ host.vars = vars

theorem Polls.finish {pre : XferState}
    (polls : host.Polls enumState memory vars reqData .waitUrb pre)
    (requests : enumState.request config.toConfig memory = some reqData)
    (started : pre ≠ .waitUrb) (last : pre.after reqData = none) :
    ∃ next : Host Vars, Path (hostStep config driver) host (answer pre) next ∧
      next.Completed config enumState memory vars := by
  have path := polls.answer_path config driver started requests
  have ctrl : (host.control.answered reqData pre).ctrlState = .complete := by
    simp only [Control.answered, last]
  rw [ctrl, enumRequest_complete polls.waiting rfl] at path
  refine ⟨_, path, { host.enum with xferState := .start }, rfl, polls.enumState, polls.memory, rfl,
    rfl, polls.connected, ?_, polls.vars⟩
  simp only [Control.answered, last]

theorem Polls.receive {buffer : Buffer}
    (polls : host.Polls enumState memory vars reqData .waitUrb .dataIn)
    (receives : enumState.buffer = some buffer) {bytes : List Byte}
    (fits : bytes.length ≤ reqData.wLength) :
    ∃ next : Host Vars, hostStep config driver host (.receive bytes) = some (next, none) ∧
      next.Polls enumState (memory.write ⟨buffer, 0⟩ bytes) vars reqData .waitUrb .dataIn := by
  have ready : host.control.receives = true := by
    simp [Control.receives, polls.cur, polls.pre rfl]
  have target : host.target driver = some (.descriptor buffer) := by
    simp [Host.target, polls.state, polls.enumState, receives]
  have within : host.control.receives = true ∧ bytes.length ≤ host.enum.reqData.wLength := by
    rw [polls.reqData]
    exact ⟨ready, fits⟩
  simp only [hostStep, if_pos within, target]
  exact ⟨_, rfl, ⟨polls.state, polls.connected, polls.enumState, by rw [polls.memory],
    polls.vars⟩, polls.waiting, polls.reqData, polls.cur, polls.pre, polls.progress⟩

/-! ## Whole requests -/

/-- A request with data from the device, and one without data. -/
def inLabels (bytes : List Byte) : List HostLabel :=
  [.poll quiet, .poll quiet] ++ answer .setup ++ [.poll quiet, .receive bytes] ++
    answer .dataIn ++ [.poll quiet] ++ answer .statusOut

theorem Rests.inBlock {buffer : Buffer} (rests : host.Rests enumState memory vars)
    (requests : enumState.request config.toConfig memory = some reqData)
    (dirIn : reqData.dirIn = true) (data : reqData.wLength ≠ 0)
    (receives : enumState.buffer = some buffer) {bytes : List Byte}
    (fits : bytes.length ≤ reqData.wLength) :
    ∃ next : Host Vars, Path (hostStep config driver) host (inLabels bytes) next ∧
      next.Completed config enumState (memory.write ⟨buffer, 0⟩ bytes) vars := by
  have toData : XferState.after reqData .setup = some .dataIn := by
    simp [XferState.after, dirIn, data]
  have requests' := (request_write receives 0 bytes).trans requests
  obtain ⟨built, step₁, polls⟩ := rests.build config driver requests
  obtain ⟨_, _, step₂, -, polls⟩ := polls.begin config driver requests (by decide)
  obtain ⟨_, path₃, polls⟩ := polls.proceed config driver requests toData
  obtain ⟨_, _, step₄, -, polls⟩ := polls.begin config driver requests (by decide)
  obtain ⟨_, step₅, polls⟩ := polls.receive config driver receives fits
  obtain ⟨_, path₆, polls⟩ := polls.proceed config driver requests' rfl
  obtain ⟨_, _, step₇, -, polls⟩ := polls.begin config driver requests' (by decide)
  obtain ⟨last, path₈, completed⟩ := polls.finish config driver requests' (by decide) rfl
  refine ⟨last, ?_, completed⟩
  exact ((((Path.cons none step₁ (.single step₂)).append path₃).append
    (.cons _ step₄ (.single step₅))).append path₆).append (.single step₇) |>.append path₈

/-- What completing the request of the state does to the buffers. -/
def copied (memory : Memory Buffer) : EnumState → Memory Buffer
  | .getFullCfgDesc => memory.write ⟨.configuration, 0⟩ (memory.read (some ⟨.cfgDescBuf, 0⟩) 9)
  | _ => memory

variable {config} in
theorem Completed.rests (completed : host.Completed config enumState memory vars)
    (goes : enumState ≠ .idle ∧ enumState ≠ .setConfiguration ∧ enumState ≠ .configuredOk) :
    host.Rests enumState.next (copied memory enumState) vars := by
  obtain ⟨enum, start, rfl, rfl, after, state, connected, cur, rfl⟩ := completed
  rw [after] at state
  obtain ⟨idle, setConfiguration, configured⟩ := goes
  cases current : enum.enumState
  case idle => exact absurd current idle
  case setConfiguration => exact absurd current setConfiguration
  case configuredOk => exact absurd current configured
  all_goals
    rw [current] at state after
    exact ⟨⟨state, connected, by rw [after]; rfl, by rw [after]; rfl, rfl⟩,
      by rw [after]; exact start, cur⟩

/-- The host waits for a device, the engine for a transfer. -/
structure Idles (host : Host Vars) (memory : Memory Buffer) (vars : Vars) : Prop where
  state : host.curHostState = .idle
  start : host.enum.xferState = .start
  cur : host.control.curXferState = .setup
  memory : host.enum.memory = memory
  vars : host.vars = vars

def attachLabels : List HostLabel := [.connect, .poll quiet, .poll quiet, .poll quiet]

theorem Idles.attach (idles : host.Idles memory vars) :
    ∃ next : Host Vars, Path (hostStep config driver) host attachLabels next ∧
      next.Rests .getDevDesc memory vars := by
  have attached : hostStep config driver { host with connectedFlag := true } (.poll quiet) =
      some ({ host with connectedFlag := true, curHostState := .deviceAttached }, none) := by
    simp [hostStep, pollingProcess, coreHandler, idleHandler, idles.state]
  have opened : hostStep config driver
      { host with connectedFlag := true, curHostState := .deviceAttached } (.poll quiet) =
      some ({ host with
        connectedFlag := true
        curHostState := .enum
        enum := { host.enum with enumState := .idle, outAddress := 0, inAddress := 0 } },
        none) := by
    simp [hostStep, pollingProcess, coreHandler, devAttachedHandler]
  have entered : hostStep config driver
      { host with
        connectedFlag := true
        curHostState := .enum
        enum := { host.enum with enumState := .idle, outAddress := 0, inAddress := 0 } }
      (.poll quiet) =
      some ({ host with
        connectedFlag := true
        curHostState := .enum
        enum := { host.enum with enumState := .getDevDesc, outAddress := 0, inAddress := 0 } },
        none) := by
    rw [poll_enum config driver rfl rfl]
    simp [enumPoll, Enum.calls, enumHandler, ApmSdk.Usbh.idleHandler, idles.start]
  exact ⟨_, .cons none rfl (.cons none attached (.cons none opened (.single entered))),
    ⟨rfl, rfl, rfl, idles.memory, idles.vars⟩, idles.start, idles.cur⟩

theorem write_nil (memory : Memory Buffer) (pointer : Usbd.Ptr Buffer) :
    memory.write pointer [] = memory := by
  funext buffer index
  simp [Memory.write]

/-- A configuration without interfaces. -/
def emptyConfiguration : List Byte := [9, 2, 9, 0, 0, 1, 0, 0x80, 50]

/-- The buffers once the configuration has been asked for, with no byte of it sent. -/
def described (memory : Memory Buffer) (device : List Byte) : Memory Buffer :=
  copied ((memory.write ⟨.device, 0⟩ device).write ⟨.configuration, 0⟩ emptyConfiguration)
    .getFullCfgDesc

theorem getStringDesc_wLength (index : Byte) : (getStringDesc index).wLength = 255 := rfl

theorem Rests.string {index : Byte} (rests : host.Rests enumState memory vars)
    (requests : enumState.request config.toConfig memory = some (getStringDesc index))
    (receives : enumState.buffer = some .stringBuf)
    (goes : enumState ≠ .idle ∧ enumState ≠ .setConfiguration ∧ enumState ≠ .configuredOk) :
    ∃ next : Host Vars, Path (hostStep config driver) host (inLabels []) next ∧
      next.Rests enumState.next (copied memory enumState) vars := by
  obtain ⟨next, path, completed⟩ := rests.inBlock config driver requests rfl
    (by rw [getStringDesc_wLength]; decide) receives (by simp : ([] : List Byte).length ≤ _)
  rw [write_nil] at completed
  exact ⟨next, path, completed.rests goes⟩

/-- Without a serial number there is nothing to ask for. -/
theorem Rests.skip (rests : host.Rests .getSerialNumStringDesc memory vars)
    (nameless : Descriptor.iSerialNumber memory = 0) :
    ∃ next : Host Vars, hostStep config driver host (.poll quiet) = some (next, none) ∧
      next.Rests .setConfiguration memory vars := by
  have idle : host.enum.calls = false := by
    simp [Enum.calls, rests.enumState, rests.start]
  have absent : Descriptor.iSerialNumber host.enum.memory = 0 := by rw [rests.memory, nameless]
  have handled : enumHandler config.toConfig host.control.ctrlState host.enum =
      { host.enum with xferState := .start, enumState := .setConfiguration } := by
    simp [enumHandler, rests.enumState, getSerialNumStringHandler, absent]
  rw [poll_enum config driver rests.state rests.connected]
  simp only [enumPoll, idle, Bool.false_eq_true, if_false, handled, reduceCtorEq, and_false]
  exact ⟨_, rfl, ⟨rests.state, rests.connected, rfl, rests.memory, rests.vars⟩, rfl, rests.cur⟩

theorem Rests.pull (rests : host.Rests enumState memory vars) :
    ∃ next : Host Vars,
      Path (hostStep config driver) host [.disconnect, .poll quiet] next ∧
      next.Idles memory (driver.deInitHandler vars) := by
  have gone : Detached { host with connectedFlag := false, portEnable := false } :=
    ⟨rfl, rfl, by rw [rests.state]; decide⟩
  have polled : hostStep config driver { host with connectedFlag := false, portEnable := false }
      (.poll quiet) = some (devDetachedHandler config driver
        { host with connectedFlag := false, portEnable := false }, none) := by
    rw [hostStep, pollingProcess_detached quiet gone]
  refine ⟨_, .cons none rfl (.single polled), rfl, rfl, rests.cur, rests.memory, ?_⟩
  rw [← rests.vars]
  rfl

/-! ## What the buffers hold then -/

end Host

end ApmSdk.Usbh
