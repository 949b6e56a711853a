import ApmSdk.Lib.Traces
import ApmSdk.Usbh.Host

set_option autoImplicit false

/-!
# Detached hosts

What a host remembers of a device that was pulled, and which of it the next device can find out.
-/

namespace ApmSdk.Usbh

open Traces
open Usbd (Byte Memory)

/-! ## Hosts that cannot be told apart -/

/-- The same engine, but for the stage that was started before and the errors counted. -/
structure Control.Alike (first second : Control) : Prop where
  cur : first.curXferState = second.curXferState
  ctrl : first.ctrlState = second.ctrlState
  inUrb : first.inUrb = second.inUrb
  outUrb : first.outUrb = second.outUrb
  pre : first.curXferState = .waitUrb → first.preXferState = second.preXferState

/-- The bytes that decide about requests. -/
def watched : Buffer → List Nat
  | .device => [14, 15, 16]
  | .configuration => [2, 3]
  | .cfgDescBuf => [2, 3, 5]
  | .stringBuf => []

-- The configuration has been copied out of `cfgDescBuf`.
def EnumState.configures : EnumState → Bool
  | .getMfcStringDesc | .getProductStringDesc | .getSerialNumStringDesc | .setConfiguration => true
  | _ => false

structure Enum.Alike (first second : Enum) : Prop where
  enumState : first.enumState = second.enumState
  xferState : first.xferState = second.xferState
  devAddress : first.devAddress = second.devAddress
  bytes : ∀ buffer, ∀ index ∈ watched buffer,
    first.memory buffer index = second.memory buffer index
  configured : first.enumState.configures = true →
    first.memory .configuration 5 = second.memory .configuration 5

/-- No device has been addressed yet. -/
def HostState.isBare : HostState → Bool
  | .idle | .deviceAttached | .deviceDetached => true
  | _ => false

structure Host.Alike {Vars : Type} (first second : Host Vars) : Prop where
  state : first.curHostState = second.curHostState
  connected : first.connectedFlag = second.connectedFlag
  enabled : first.portEnable = second.portEnable
  vars : first.vars = second.vars
  control : first.control.Alike second.control
  enum : first.enum.Alike second.enum
  reqData : first.enum.xferState = .waiting ∨ first.control.curXferState ≠ .setup →
    first.enum.reqData = second.enum.reqData
  addresses : first.curHostState.isBare = false →
    first.enum.outAddress = second.enum.outAddress ∧ first.enum.inAddress = second.enum.inAddress

theorem Control.Alike.urbStatus {first second : Control} (alike : first.Alike second)
    (waits : first.curXferState = .waitUrb) : first.urbStatus = second.urbStatus := by
  unfold Control.urbStatus
  rw [alike.pre waits, alike.inUrb, alike.outUrb]

/-- What the case of an error does before it falls through to a stall does not last. -/
theorem ctrlXferWaitUrbState_error (reqData : HostReqData) {control : Control}
    (error : control.urbStatus = .error) :
    ctrlXferWaitUrbState reqData control =
      { control with
        errCnt := control.errCnt + 1
        ctrlState := .stall
        curXferState := .setup } := by
  unfold ctrlXferWaitUrbState
  rw [error]
  by_cases few : control.errCnt < ctrlXferErrorCnt <;> simp [few]

theorem ctrlXferWaitUrbState_alike (reqData : HostReqData) {first second : Control}
    (alike : first.Alike second) (waits : first.curXferState = .waitUrb) :
    (ctrlXferWaitUrbState reqData first).Alike (ctrlXferWaitUrbState reqData second) := by
  have pre := alike.pre waits
  have same := alike.urbStatus waits
  by_cases error : first.urbStatus = .error
  · rw [ctrlXferWaitUrbState_error reqData error,
      ctrlXferWaitUrbState_error reqData (same.symm.trans error)]
    exact ⟨rfl, rfl, alike.inUrb, alike.outUrb, fun equal => nomatch equal⟩
  unfold ctrlXferWaitUrbState
  rw [← same, ← pre]
  cases status : first.urbStatus with
  | idle | ping => exact alike
  | stall => exact ⟨rfl, rfl, alike.inUrb, alike.outUrb, fun equal => nomatch equal⟩
  | error => exact absurd status error
  | noReady =>
    by_cases data : first.preXferState = .dataOut
    · simp only [data, if_true]
      exact ⟨rfl, alike.ctrl, alike.inUrb, alike.outUrb, fun equal => nomatch equal⟩
    · simpa only [data, if_false] using alike
  | ok =>
    cases stage : first.preXferState <;> simp only
    case waitUrb => exact alike
    all_goals exact ⟨rfl, by first | rfl | exact alike.ctrl, alike.inUrb, alike.outUrb, fun _ => rfl⟩

theorem controlXferHandler_alike (reqData : HostReqData) {first second : Control}
    (alike : first.Alike second) :
    (controlXferHandler reqData first).2 = (controlXferHandler reqData second).2 ∧
      (controlXferHandler reqData first).1.Alike (controlXferHandler reqData second).1 := by
  unfold controlXferHandler
  rw [← alike.cur]
  cases stage : first.curXferState with
  | waitUrb => exact ⟨rfl, ctrlXferWaitUrbState_alike reqData alike stage⟩
  | setup | dataOut | statusOut =>
    exact ⟨rfl, rfl, rfl, alike.inUrb, rfl, fun _ => alike.cur⟩
  | dataIn | statusIn =>
    exact ⟨rfl, rfl, rfl, rfl, alike.outUrb, fun _ => alike.cur⟩

/-- The control block once a request may have been built. -/
theorem Control.Alike.begin {first second : Control} (alike : first.Alike second)
    (begins : Prop) [Decidable begins] :
    Control.Alike (if begins then { first with ctrlState := .setup } else first)
      (if begins then { second with ctrlState := .setup } else second) := by
  split
  · exact { alike with ctrl := rfl }
  · exact alike

/-- Two enumerations of a device that has an address; their requests are the same if one is in
progress or `asked` says so. -/
structure Enum.Twin (asked : Prop) (first second : Enum) : Prop extends first.Alike second where
  reqData : asked ∨ first.xferState = .waiting → first.reqData = second.reqData
  outAddress : first.outAddress = second.outAddress
  inAddress : first.inAddress = second.inAddress

variable {asked : Prop}

theorem Enum.Twin.reqData_of_asked {first second : Enum} (twin : Enum.Twin asked first second) :
    asked ∨ Xfer.start = .waiting → first.reqData = second.reqData := by
  rintro (said | never)
  · exact twin.reqData (.inl said)
  · cases never

theorem Enum.Alike.wTotalLength {first second : Enum} (alike : first.Alike second) :
    Descriptor.wTotalLength first.memory = Descriptor.wTotalLength second.memory := by
  unfold Descriptor.wTotalLength
  rw [alike.bytes .configuration 2 (by decide), alike.bytes .configuration 3 (by decide)]

theorem Enum.Twin.next {first second : Enum} (twin : Enum.Twin asked first second) (enumState : EnumState)
    (configured : enumState.configures = true → first.enumState.configures = true) :
    Enum.Twin asked { first with xferState := .start, enumState := enumState }
      { second with xferState := .start, enumState := enumState } :=
  { twin with
    enumState := rfl
    xferState := rfl
    configured := fun configures => twin.configured (configured configures)
    reqData := twin.reqData_of_asked }

namespace Host

variable {Vars : Type} {config : HostConfig} {driver : ClassDriver Vars} {first second : Host Vars}

/-- In a state in which a device has an address, and a request has been built if one is polled
for, the engine shows the same and stays alike. -/
theorem Alike.engine (alike : first.Alike second) (waits : first.enum.xferState = .waiting)
    (addressed : first.curHostState.isBare = false) :
    first.engine.2 = second.engine.2 ∧
      first.engine.1.Alike second.engine.1 := by
  have reqData := alike.reqData (.inl waits)
  obtain ⟨outAddress, inAddress⟩ := alike.addresses addressed
  unfold Host.engine
  rw [← reqData]
  obtain ⟨shown, control⟩ := controlXferHandler_alike first.enum.reqData alike.control
  refine ⟨?_, control⟩
  dsimp only
  rw [← shown]
  cases (controlXferHandler first.enum.reqData first.control).2 with
  | none => rfl
  | some started => simp [observe, reqData, outAddress, inAddress]

/-- The engine was between two transfers, no watched byte was left, and the class driver's own
reset is complete. -/
structure Clean (driver : ClassDriver Vars) (host : Host Vars) : Prop where
  stage : host.control.curXferState = .setup
  bytes : ∀ buffer, ∀ index ∈ watched buffer, host.enum.memory buffer index = 0
  vars : driver.deInitHandler host.vars = driver.static

/-- The device has gone. -/
structure Detached (host : Host Vars) : Prop where
  connected : host.connectedFlag = false
  enabled : host.portEnable = false
  present : host.curHostState ≠ .idle

theorem pollingProcess_detached {host : Host Vars} (env : Env) (detached : host.Detached) :
    host.pollingProcess config driver env = (host.devDetachedHandler config driver, none) := by
  unfold pollingProcess
  rw [if_pos (by simp [detached.connected, detached.enabled, detached.present])]
  rfl

end Host

end ApmSdk.Usbh
