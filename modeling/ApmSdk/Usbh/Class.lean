import ApmSdk.Usbh.Enum
import ApmSdk.Usbh.Port

set_option autoImplicit false

/-!
# Class drivers of the host

The callbacks that `USBH_Init` is given, and those of `usbh_class_hid.c` and `usbh_class_cdc.c` as
far as control transfers depend on them.
-/

namespace ApmSdk.Usbh

open Usbd (Byte)

/-- What a pass of the host finds besides its own variables: the answer of the user, the frame
counter, the endpoint number and the status of channel 2. -/
structure Env where
  userOk : Bool
  evenFrame : Bool
  pollDue : Bool
  epNum : UInt16
  dataUrb : UrbStatus
  deriving DecidableEq, Repr

/-- What the data of a control transfer go to or come from. -/
inductive Object where
  | descriptor (buffer : Buffer)
  | setLineCode
  | getLineCode
  deriving DecidableEq, Repr

/-- What a handler does: it goes on without a transfer (`restart` if it sets `xferState` to
`USBH_XFER_START`), builds a request, or polls `USBH_ControlXferHandler` for the one it has
built. -/
inductive Act (Vars : Type) where
  | go (vars : Vars) (restart : Bool) (hostState : HostState)
  | request (reqData : HostReqData)
  | xfer (buf : Option Object)

/-- `USBH_InitParam_T`, on the variables of a class driver, which polls the engine only for a
request that it has built. -/
structure ClassDriver (Vars : Type) where
  static : Vars
  initHandler : Vars → Vars × HostState
  deInitHandler : Vars → Vars
  reqHandler : Vars → Xfer → Act Vars
  coreHandler : Env → Vars → Xfer → Act Vars
  req_waits : ∀ vars xferState buf, reqHandler vars xferState = .xfer buf → xferState = .waiting
  core_waits : ∀ env vars xferState buf, coreHandler env vars xferState = .xfer buf →
    xferState = .waiting

/-- The handlers of class requests: built, polled for, and left when it is complete. -/
def classRequest {Vars : Type} (reqData : HostReqData) (buf : Option Object) (vars : Vars)
    (hostState : HostState) : Xfer → Act Vars
  | .start => .request reqData
  | .waiting => .xfer buf
  | .ok => .go vars true hostState

theorem classRequest_waits {Vars : Type} {reqData : HostReqData} {buf other : Option Object}
    {vars : Vars} {hostState : HostState} {xferState : Xfer}
    (polls : classRequest reqData buf vars hostState xferState = .xfer other) :
    xferState = .waiting := by
  cases xferState with
  | waiting => rfl
  | start => cases polls
  | ok => cases polls

-- The result of `USBH_ControlXferHandler`, as these handlers keep it.
def classXferState : CtrlState → Xfer
  | .complete => .ok
  | .stall => .start
  | .error => .start
  | _ => .waiting

def classReqData (dirIn : Bool) (bRequest wValue0 wLength0 : Byte) : HostReqData where
  dirIn := dirIn
  type := 1
  recipient := .interface
  bRequest := bRequest
  wValue0 := wValue0
  wValue1 := 0
  wIndex0 := 0
  wIndex1 := 0
  wLength0 := wLength0
  wLength1 := 0

/-! ## HID -/

inductive HidReqState where
  | idle
  | getDevDesc
  | getReqDevDesc
  | setIdle
  | setProtocol
  | configuredOk
  deriving DecidableEq, Repr

inductive HidState where
  | idle
  | sync
  | getData
  | poll
  deriving DecidableEq, Repr

-- `s_classReqState` and `s_classState`.
structure Hid where
  reqState : HidReqState
  classState : HidState
  deriving DecidableEq, Repr

namespace Hid

def hidDescriptor (descType : DescType) (len : UInt16) : HostReqData :=
  { standardGetDescriptor descType 0 len with recipient := .interface }

-- `HID_REQ_Handler`, and the check behind it.
def reqHandler (hid : Hid) (xferState : Xfer) : Act Hid :=
  match hid.reqState with
  | .idle => .go { hid with reqState := .getDevDesc } false .classReq
  | .getDevDesc =>
      classRequest (hidDescriptor .hid 9) (some (.descriptor .device))
        { hid with reqState := .getReqDevDesc } .classReq xferState
  | .getReqDevDesc =>
      classRequest (hidDescriptor .hidReport 0x2E) (some (.descriptor .device))
        { hid with reqState := .setIdle } .classReq xferState
  | .setIdle =>
      classRequest (classReqData false 0x0A 0 0) (some (.descriptor .device))
        { hid with reqState := .setProtocol } .classReq xferState
  | .setProtocol =>
      classRequest (classReqData false 0x0B 1 0) (some (.descriptor .device))
        { hid with reqState := .idle } .classCore xferState
  | .configuredOk => .go { hid with reqState := .idle } false .classCore

-- `HID_Handler`.
def coreHandler (env : Env) (hid : Hid) (xferState : Xfer) : Act Hid :=
  match hid.classState with
  | .idle => .go { hid with classState := .sync } false .classCore
  | .sync =>
      .go (if env.evenFrame then { hid with classState := .getData } else hid) false .classCore
  | .getData => .go { hid with classState := .poll } false .classCore
  | .poll =>
      if env.pollDue then .go { hid with classState := .getData } false .classCore
      else if env.dataUrb = .stall then
        classRequest (standardClearFeature .endpoint .endpointHalt env.epNum) none
          { hid with classState := .getData } .classCore xferState
      else .go hid false .classCore

theorem reqHandler_waits (hid : Hid) (xferState : Xfer) (buf : Option Object)
    (polls : hid.reqHandler xferState = .xfer buf) : xferState = .waiting := by
  unfold reqHandler at polls
  cases state : hid.reqState <;> simp only [state, reduceCtorEq] at polls <;>
    exact classRequest_waits polls

theorem coreHandler_waits (env : Env) (hid : Hid) (xferState : Xfer) (buf : Option Object)
    (polls : hid.coreHandler env xferState = .xfer buf) : xferState = .waiting := by
  unfold coreHandler at polls
  cases state : hid.classState <;> simp only [state, reduceCtorEq] at polls
  split at polls
  · cases polls
  · split at polls
    · exact classRequest_waits polls
    · cases polls

end Hid

def hidDriver : ClassDriver Hid where
  static := ⟨.idle, .idle⟩
  initHandler := fun hid => (hid, .classReq)
  deInitHandler := fun _ => ⟨.idle, .idle⟩
  reqHandler := Hid.reqHandler
  coreHandler := Hid.coreHandler
  req_waits := Hid.reqHandler_waits
  core_waits := Hid.coreHandler_waits

/-! ## CDC -/

-- `s_classReqState`.
inductive CdcReqState where
  | setLineCoding
  | getLineCoding
  | setControlLineState
  | configuredOk
  deriving DecidableEq, Repr

-- `USBH_CDC_ClassReqHandler`.
def cdcReqHandler (reqState : CdcReqState) (xferState : Xfer) : Act CdcReqState :=
  match reqState with
  | .setLineCoding =>
      classRequest (classReqData false 0x20 0 7) (some .setLineCode) .getLineCoding .classReq
        xferState
  | .getLineCoding =>
      classRequest (classReqData true 0x21 0 7) (some .getLineCode) .setControlLineState .classReq
        xferState
  | .setControlLineState =>
      classRequest (classReqData false 0x22 0 0) none .configuredOk .classReq xferState
  | .configuredOk => .go .setLineCoding false .classCore

theorem cdcReqHandler_waits (reqState : CdcReqState) (xferState : Xfer) (buf : Option Object)
    (polls : cdcReqHandler reqState xferState = .xfer buf) : xferState = .waiting := by
  cases reqState <;> first | exact classRequest_waits polls | cases polls

-- The application moves its data, and `USBH_CDC_ClassDeInitHandler` resets what these need.
def cdcDriver : ClassDriver CdcReqState where
  static := .setLineCoding
  initHandler := fun reqState => (reqState, .classReq)
  deInitHandler := fun reqState => reqState
  reqHandler := cdcReqHandler
  coreHandler := fun _ reqState _ => .go reqState false .classCore
  req_waits := cdcReqHandler_waits
  core_waits := fun _ _ _ _ polls => nomatch polls

/-! ## The drivers -/

inductive HostClass where
  | hid
  | cdc
  deriving DecidableEq, Repr

def HostClass.Vars : HostClass → Type
  | .hid => Hid
  | .cdc => CdcReqState

def HostClass.driver : (hostClass : HostClass) → ClassDriver hostClass.Vars
  | .hid => hidDriver
  | .cdc => cdcDriver

end ApmSdk.Usbh
