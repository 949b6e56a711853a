import ApmSdk.Usbh.Class

set_option autoImplicit false

/-!
# The host state machine

`USBH_PollingProcess` with the handlers of `USBH_CoreHandler`, over the enumeration, the engine of
control transfers and a class driver.
-/

namespace ApmSdk.Usbh

open Usbd (Byte Memory)

structure HostConfig extends Config where
  ep0PacketSize : Nat

-- `g_usbHost` with the statics of `usbh_dataXfer.c` and of the class driver.
structure Host (Vars : Type) where
  curHostState : HostState
  connectedFlag : Bool
  portEnable : Bool
  control : Control
  enum : Enum
  vars : Vars

/-- A stage that is started, with the request it belongs to and the address it goes to. -/
structure Observed where
  started : Started
  reqData : HostReqData
  address : Byte
  deriving DecidableEq, Repr

namespace Host

variable {Vars : Type} (config : HostConfig) (driver : ClassDriver Vars) (host : Host Vars)

def observe (started : Started) : Observed where
  started := started
  reqData := host.enum.reqData
  address := if started.stage.isIn then host.enum.inAddress else host.enum.outAddress

def idleHandler : Host Vars :=
  if host.connectedFlag then { host with curHostState := .deviceAttached } else host

/-- Two channels are opened for control transfers with address 0. -/
def devAttachedHandler : Host Vars :=
  { host with
    curHostState := .enum
    enum := { host.enum with enumState := .idle, outAddress := 0, inAddress := 0 } }

-- `USBH_CH_FreeAllChannel`, or `USBH_CH_FreeChannel` for the two control channels.
def freeChannels : Host Vars :=
  { host with control := { host.control with inUrb := .idle, outUrb := .idle } }

def deInit : Host Vars :=
  { host.freeChannels with
    curHostState := .idle
    control := { host.freeChannels.control with ctrlState := .setup }
    enum := { host.enum with
      enumState := .idle
      xferState := .start
      maxPackSize := config.ep0PacketSize
      devAddress := config.defaultAddress }
    vars := driver.deInitHandler host.vars }

-- What `USBH_DevDetachedHandler` clears by itself `USBH_DeInit` clears once more.
def devDetachedHandler : Host Vars := host.freeChannels.deInit config driver

-- `USBH_ControlXferHandler` is called.
def engine : Control × Option Observed :=
  let called := controlXferHandler host.enum.reqData host.control
  (called.1, called.2.map host.observe)

end Host

/-- Whether the handler of the state polls the engine. -/
def Enum.calls (enum : Enum) : Bool :=
  match enum.enumState with
  | .idle => false
  | .configuredOk => false
  | .getSerialNumStringDesc =>
      decide (enum.xferState = .waiting ∧ Descriptor.iSerialNumber enum.memory ≠ 0)
  | _ => decide (enum.xferState = .waiting)

theorem Enum.calls_of_request {config : Config} {enum : Enum} {reqData : HostReqData}
    (requests : enum.enumState.request config enum.memory = some reqData) :
    enum.calls = decide (enum.xferState = .waiting) := by
  unfold Enum.calls
  cases state : enum.enumState <;> rw [state, EnumState.request] at requests
  case idle | configuredOk => cases requests
  case getSerialNumStringDesc =>
    by_cases named : Descriptor.iSerialNumber enum.memory ≠ 0
    · simp [named]
    · rw [if_neg named] at requests
      cases requests

namespace Host

variable {Vars : Type} (config : HostConfig) (driver : ClassDriver Vars) (host : Host Vars)

-- `USBH_EnumHandler`; the builders of requests set `ctrlState`.
def enumPoll : Host Vars × Option Observed :=
  let called := if host.enum.calls then host.engine else (host.control, none)
  let enum := enumHandler config.toConfig called.1.ctrlState host.enum
  let begins := host.enum.xferState = .start ∧ enum.xferState = .waiting
  ({ host with
      control := if begins then { called.1 with ctrlState := .setup } else called.1
      enum := enum
      curHostState := if enum.enumState = .configuredOk then .userInput else host.curHostState },
    called.2)

-- `USBH_ClassReqHandler` and `USBH_ClassHandler`; neither HID nor CDC sets `errorState`.
def classPoll (act : Act Vars) : Host Vars × Option Observed :=
  match act with
  | .go vars restart hostState =>
      ({ host with
          vars := vars
          enum := { host.enum with
            xferState := if restart then .start else host.enum.xferState }
          curHostState := hostState }, none)
  | .request reqData =>
      ({ host with
          control := { host.control with ctrlState := .setup }
          enum := { host.enum with reqData := reqData, xferState := .waiting } }, none)
  | .xfer _ =>
      let called := host.engine
      ({ host with
          control := called.1
          enum := { host.enum with xferState := classXferState called.1.ctrlState } },
        called.2)

def userInputHandler (env : Env) : Host Vars :=
  if env.userOk then
    { host with
      vars := (driver.initHandler host.vars).1
      curHostState := (driver.initHandler host.vars).2 }
  else host

/-- The handler of the current state. -/
def coreHandler (env : Env) : Host Vars × Option Observed :=
  match host.curHostState with
  | .idle => (host.idleHandler, none)
  | .deviceAttached => (host.devAttachedHandler, none)
  | .deviceDetached => (host.devDetachedHandler config driver, none)
  | .enum => host.enumPoll config
  | .userInput => (host.userInputHandler driver env, none)
  | .classReq => host.classPoll (driver.reqHandler host.vars host.enum.xferState)
  | .classCore => host.classPoll (driver.coreHandler env host.vars host.enum.xferState)
  | .suspend => (host, none)
  | .wakeUp => (host, none)
  | .error => (host.deInit config driver, none)

-- `USBH_PollingProcess`.
def pollingProcess (env : Env) : Host Vars × Option Observed :=
  if !(host.connectedFlag || host.portEnable) ∧ host.curHostState ≠ .idle then
    { host with curHostState := .deviceDetached }.coreHandler config driver env
  else host.coreHandler config driver env

/-- The object that the control transfer in progress has. -/
def target : Option Object :=
  match host.curHostState with
  | .enum => host.enum.enumState.buffer.map .descriptor
  | .classReq =>
      match driver.reqHandler host.vars host.enum.xferState with
      | .xfer buf => buf
      | _ => none
  | _ => none

-- `USBH_Init`; the statics are zero.
def init : Host Vars where
  curHostState := .idle
  connectedFlag := false
  portEnable := false
  control := ⟨.setup, .setup, .setup, 0, .idle, .idle⟩
  enum :=
    { enumState := .idle
      xferState := .start
      reqData := ⟨false, 0, .device, 0, 0, 0, 0, 0, 0, 0⟩
      maxPackSize := config.ep0PacketSize
      devAddress := config.defaultAddress
      outAddress := 0
      inAddress := 0
      memory := fun _ _ => 0 }
  vars := driver.static

end Host

inductive HostLabel where
  | connect
  | enable
  | disconnect
  | poll (env : Env)
  | urb (dirIn : Bool) (status : UrbStatus)
  | receive (bytes : List Byte)
  deriving DecidableEq, Repr

/-- An IN data stage is under way. -/
def Control.receives (control : Control) : Bool :=
  decide (control.curXferState = .waitUrb ∧ control.preXferState = .dataIn)

/-- Interrupts record the port and the outcome of a stage, and store data that arrive. -/
def hostStep {Vars : Type} (config : HostConfig) (driver : ClassDriver Vars) (host : Host Vars) :
    HostLabel → Option (Host Vars × Option Observed)
  | .connect => some ({ host with connectedFlag := true }, none)
  | .enable => some ({ host with portEnable := true }, none)
  | .disconnect => some ({ host with connectedFlag := false, portEnable := false }, none)
  | .poll env => some (host.pollingProcess config driver env)
  | .urb dirIn status =>
      some ({ host with
          control :=
            if dirIn then { host.control with inUrb := status }
            else { host.control with outUrb := status } }, none)
  | .receive bytes =>
      if host.control.receives ∧ bytes.length ≤ host.enum.reqData.wLength then
        match host.target driver with
        | some (.descriptor buffer) =>
            some ({ host with
                enum := { host.enum with
                  memory := host.enum.memory.write ⟨buffer, 0⟩ bytes } }, none)
        | _ => some (host, none)
      else none

end ApmSdk.Usbh
