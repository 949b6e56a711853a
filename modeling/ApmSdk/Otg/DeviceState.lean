import ApmSdk.Lib.Runs
import ApmSdk.Usbd.StandardRequest

set_option autoImplicit false

/-!
# The device state of the OTG stack

The bus events of `usbd_interrupt.c` and the standard requests of `usbd_stdReq.c` on the state
they share. The callbacks of `pStdReqCallback` are null.
-/

namespace ApmSdk.Otg

open Runs
open Usbd (Byte DevReqData)

inductive DevState where
  | default
  | address
  | configured
  | suspended
  deriving DecidableEq, Repr

/-- What a data stage reads or writes. -/
inductive Ep0Object where
  | deviceDesc
  | configurationDesc
  | stringDesc (index : Byte)
  | qualifierDesc
  | curConfiguration
  | curAlternateSetting
  | status
  | cmdBuf
  deriving DecidableEq, Repr

/-- What a request does to endpoint 0. -/
inductive Ep0Action where
  | txStatus
  | inData (obj : Ep0Object) (len : Nat)
  | outData (obj : Ep0Object) (len : Nat)
  | stall
  deriving DecidableEq, Repr

/-- The descriptors of the application: their sizes, the attributes of the configuration, and
what is found at an index of the string table, which has `stringNum` entries; `none` is a null
descriptor. -/
structure Descriptors where
  deviceDesc : Byte
  configurationDesc : Byte
  stringDesc : Byte → Option Byte
  stringNum : Nat
  qualifierDesc : Byte
  attributes : Byte
  configurationNum : Byte
  usbOtgFs : Bool

/-- The state that the requests and the bus share. `ep0` has what the last request did to
endpoint 0; the last three fields record what has been accepted since the last reset and the
state before the last suspend. -/
structure Device where
  devState : DevState
  curFeature : Byte
  curInterface : Byte
  curAlternateSetting : Byte
  curConfiguration : Byte
  address : Byte
  ep0 : List Ep0Action
  addressed : Bool
  configuration : Option Byte
  held : DevState
  deriving DecidableEq

def Device.ctrlTxStatus (dev : Device) : Device := { dev with ep0 := dev.ep0 ++ [.txStatus] }

def Device.ctrlInData (dev : Device) (obj : Ep0Object) (len : Nat) : Device :=
  { dev with ep0 := dev.ep0 ++ [.inData obj len] }

def Device.ctrlOutData (dev : Device) (obj : Ep0Object) (len : Nat) : Device :=
  { dev with ep0 := dev.ep0 ++ [.outData obj len] }

def Device.setStall (dev : Device) : Device := { dev with ep0 := dev.ep0 ++ [.stall] }

/-! ## Standard requests

Each returns whether it was accepted. -/

def standardGetConfiguration (dev : Device) (reqData : DevReqData) : Device × Bool :=
  if reqData.recipient = 0 then
    match dev.devState with
    | .configured => (dev.ctrlInData .curConfiguration 1, true)
    | .address => ({ dev with curConfiguration := 0 }.ctrlInData .curConfiguration 1, true)
    | _ => (dev.setStall, false)
  else (dev.setStall, false)

def standardGetDescriptor (descriptors : Descriptors) (dev : Device) (reqData : DevReqData) :
    Device × Bool :=
  let answer (obj : Ep0Object) (size : Byte) :=
    (dev.ctrlInData obj (min reqData.wLength size.toNat), true)
  match reqData.wValue1.toNat with
  | 1 => answer .deviceDesc descriptors.deviceDesc
  | 2 => answer .configurationDesc descriptors.configurationDesc
  | 3 =>
      match descriptors.stringDesc reqData.wValue0 with
      | some size => answer (.stringDesc reqData.wValue0) size
      | none => (dev.setStall, false)
  | 6 =>
      if descriptors.usbOtgFs then (dev.setStall, false)
      else answer .qualifierDesc descriptors.qualifierDesc
  | _ => (dev.setStall, false)

def standardGetInterface (dev : Device) (reqData : DevReqData) : Device × Bool :=
  if reqData.recipient = 1 ∧ dev.devState = .configured then
    (dev.ctrlInData .curAlternateSetting 1, true)
  else (dev, false)

def standardGetStatus (dev : Device) (reqData : DevReqData) : Device × Bool :=
  if reqData.recipient < 3 then (dev.ctrlInData .status 2, true) else (dev.setStall, false)

-- The check of the fields of `SET_ADDRESS`.
def ValidAddress (reqData : DevReqData) : Prop :=
  reqData.wValue0 < 127 ∧ reqData.wValue1 = 0 ∧ reqData.recipient = 0

instance (reqData : DevReqData) : Decidable (ValidAddress reqData) := by
  unfold ValidAddress; infer_instance

def standardSetAddress (dev : Device) (reqData : DevReqData) : Device × Bool :=
  if ValidAddress reqData then
    let dev := dev.ctrlTxStatus
    if dev.devState = .configured then (dev.setStall, false)
    else
      ({ dev with
        devState := if reqData.wValue0 ≠ 0 then .address else .default
        address := reqData.wValue0 &&& 0x7F }, true)
  else (dev.setStall, false)

def ValidConfiguration (descriptors : Descriptors) (reqData : DevReqData) : Prop :=
  reqData.wValue0 ≤ descriptors.configurationNum ∧ reqData.recipient = 0

instance (descriptors : Descriptors) (reqData : DevReqData) :
    Decidable (ValidConfiguration descriptors reqData) := by
  unfold ValidConfiguration; infer_instance

def standardSetConfiguration (descriptors : Descriptors) (dev : Device) (reqData : DevReqData) :
    Device × Bool :=
  if ValidConfiguration descriptors reqData then
    ({ dev with
      curConfiguration := reqData.wValue0
      devState := if reqData.wValue0 = 0 then .address else .configured }.ctrlTxStatus, true)
  else (dev.setStall, false)

def standardSetDescriptor (dev : Device) : Device × Bool := (dev.setStall, false)

-- The halts of the other endpoints are not part of the state here.
def standardSetFeature (dev : Device) (reqData : DevReqData) : Device × Bool :=
  if reqData.wValue0 = 1 ∧ reqData.recipient = 1 then
    ({ dev with curFeature := dev.curFeature ||| 32 }.ctrlTxStatus, true)
  else if reqData.wValue0 = 0 ∧ reqData.recipient = 5 then (dev.ctrlTxStatus, true)
  else (dev.setStall, false)

def standardSetInterface (dev : Device) (reqData : DevReqData) : Device × Bool :=
  if reqData.recipient = 1 then
    ({ dev with
      curInterface := reqData.wIndex0
      curAlternateSetting := reqData.wValue0 }.ctrlTxStatus, true)
  else (dev, false)

def standardClearFeature (dev : Device) (reqData : DevReqData) : Device × Bool :=
  if reqData.wValue0 = 1 ∧ reqData.recipient = 0 then
    ({ dev with curFeature := dev.curFeature &&& ~~~32 }.ctrlTxStatus, true)
  else if reqData.wValue0 = 0 ∧ reqData.recipient = 2 then (dev.ctrlTxStatus, true)
  else (dev.setStall, false)

def standardReqeust (descriptors : Descriptors) (dev : Device) (reqData : DevReqData) :
    Device × Bool :=
  match reqData.bRequest.toNat with
  | 0 => standardGetStatus dev reqData
  | 1 => standardClearFeature dev reqData
  | 3 => standardSetFeature dev reqData
  | 5 => standardSetAddress dev reqData
  | 6 => standardGetDescriptor descriptors dev reqData
  | 7 => standardSetDescriptor dev
  | 8 => standardGetConfiguration dev reqData
  | 9 => standardSetConfiguration descriptors dev reqData
  | 10 => standardGetInterface dev reqData
  | 11 => standardSetInterface dev reqData
  -- The source leaves its result at 1 here, which only the null exception handler would see.
  | _ => (dev.setStall, false)

/-! ## The bus -/

inductive BusLabel where
  | reset
  | suspend
  | resume
  | request (reqData : DevReqData)

def resetIsrHandler (descriptors : Descriptors) (dev : Device) : Device :=
  { dev with
    address := 0
    curFeature := descriptors.attributes
    devState := .default
    addressed := false
    configuration := none }

def suspendIsrHandler (dev : Device) : Device :=
  { dev with
    held := if dev.devState = .suspended then dev.held else dev.devState
    devState := .suspended }

def resumeIsrHandler (dev : Device) : Device := { dev with devState := .configured }

/-- The request, with the record of what has been accepted. -/
def setup (descriptors : Descriptors) (dev : Device) (reqData : DevReqData) : Device :=
  match standardReqeust descriptors { dev with ep0 := [] } reqData with
  | (dev, false) => dev
  | (dev, true) =>
      { dev with
        addressed := dev.addressed || reqData.bRequest.toNat = 5 && reqData.wValue0 ≠ 0
        configuration := if reqData.bRequest.toNat = 9 then some reqData.wValue0
          else dev.configuration }

def busStep (descriptors : Descriptors) (dev : Device) : BusLabel → Option Device
  | .reset => some (resetIsrHandler descriptors dev)
  | .suspend => some (suspendIsrHandler dev)
  | .resume => some (resumeIsrHandler dev)
  | .request reqData => some (setup descriptors dev reqData)

-- `g_usbDev` before the first reset.
def Device.powered : Device where
  devState := .default
  curFeature := 0
  curInterface := 0
  curAlternateSetting := 0
  curConfiguration := 0
  address := 0
  ep0 := []
  addressed := false
  configuration := none
  held := .default

/-! ## What is asked of the runs -/

/-- The state agrees with what has been accepted since the last reset. -/
structure Agrees (dev : Device) (state : DevState) : Prop where
  addressed : state = .address ∨ state = .configured → dev.addressed = true
  configured : state = .configured ↔ ∃ value, dev.configuration = some value ∧ value ≠ 0
  current : state = .configured → dev.configuration = some dev.curConfiguration

structure Unchanged (before after : Device) : Prop where
  devState : after.devState = before.devState
  curConfiguration : after.curConfiguration = before.curConfiguration
  curFeature : after.curFeature = before.curFeature
  curInterface : after.curInterface = before.curInterface
  curAlternateSetting : after.curAlternateSetting = before.curAlternateSetting
  address : after.address = before.address

/-- What the bus may expect of one event. -/
structure Behaves (descriptors : Descriptors) (before : Device) (label : BusLabel)
    (after : Device) : Prop where
  agrees : after.devState ≠ .suspended → Agrees after after.devState
  resumed : label = .resume → before.devState = .suspended → after.devState = before.held
  rejected : ∀ reqData, label = .request reqData →
    (standardReqeust descriptors { before with ep0 := [] } reqData).2 = false →
    Unchanged before after ∧ (∀ action ∈ after.ep0, action = .stall) ∧
      Ep0Action.stall ∈ after.ep0
  addresses : ∀ reqData, label = .request reqData → reqData.bRequest.toNat = 5 →
    reqData.recipient = 0 → 1 ≤ reqData.wValue0 → reqData.wValue0 ≤ 127 → reqData.wValue1 = 0 →
    before.devState = .default →
    (standardReqeust descriptors { before with ep0 := [] } reqData).2 = true

/-- The state that a suspended device goes back to. -/
def Device.awake (dev : Device) : DevState :=
  if dev.devState = .suspended then dev.held else dev.devState

/-- An address is set in no configured state and is not 127, a configuration is set after an
address, the requests for an interface are accepted, and only a configured device resumes. -/
def Allowed (descriptors : Descriptors) (dev : Device) : BusLabel → Prop
  | .reset => True
  | .suspend => True
  | .resume => dev.awake = .configured
  | .request reqData =>
      match reqData.bRequest.toNat with
      | 5 =>
          if ValidAddress reqData then dev.awake ≠ .configured
          else ¬ (reqData.wValue0 = 127 ∧ reqData.wValue1 = 0 ∧ reqData.recipient = 0 ∧
            dev.devState = .default)
      | 9 => ValidConfiguration descriptors reqData → dev.addressed = true
      | 10 => reqData.recipient = 1 ∧ dev.devState = .configured
      | 11 => reqData.recipient = 1
      | _ => True

theorem allowed_request_iff (descriptors : Descriptors) (dev : Device) (reqData : DevReqData) :
    Allowed descriptors dev (.request reqData) ↔
      (reqData.bRequest.toNat = 5 →
        if ValidAddress reqData then dev.awake ≠ .configured
        else ¬ (reqData.wValue0 = 127 ∧ reqData.wValue1 = 0 ∧ reqData.recipient = 0 ∧
          dev.devState = .default)) ∧
      (reqData.bRequest.toNat = 9 → ValidConfiguration descriptors reqData →
        dev.addressed = true) ∧
      (reqData.bRequest.toNat = 10 → reqData.recipient = 1 ∧ dev.devState = .configured) ∧
      (reqData.bRequest.toNat = 11 → reqData.recipient = 1) := by
  simp only [Allowed]
  split <;> simp_all

instance (descriptors : Descriptors) (dev : Device) :
    (label : BusLabel) → Decidable (Allowed descriptors dev label)
  | .reset => instDecidableTrue
  | .suspend => instDecidableTrue
  | .resume => inferInstanceAs (Decidable (dev.awake = .configured))
  | .request reqData => decidable_of_iff _ (allowed_request_iff descriptors dev reqData).symm

/-! ## One request -/

/-- What a standard request can do. -/
inductive Outcome (descriptors : Descriptors) (dev : Device) (reqData : DevReqData) :
    Device × Bool → Prop
  | stalled (notInterface : reqData.bRequest.toNat ≠ 10 ∧ reqData.bRequest.toNat ≠ 11)
      (notAddress : reqData.bRequest.toNat = 5 → ¬ ValidAddress reqData)
      (notConfiguration : reqData.bRequest.toNat = 9 → ¬ ValidConfiguration descriptors reqData) :
      Outcome descriptors dev reqData (dev.setStall, false)
  | silent (unserved : reqData.bRequest.toNat = 10 ∧
        ¬ (reqData.recipient = 1 ∧ dev.devState = .configured) ∨
        reqData.bRequest.toNat = 11 ∧ reqData.recipient ≠ 1) :
      Outcome descriptors dev reqData (dev, false)
  | late (request : reqData.bRequest.toNat = 5) (valid : ValidAddress reqData)
      (configured : dev.devState = .configured) :
      Outcome descriptors dev reqData (dev.ctrlTxStatus.setStall, false)
  | address (request : reqData.bRequest.toNat = 5) (valid : ValidAddress reqData)
      (notConfigured : dev.devState ≠ .configured) :
      Outcome descriptors dev reqData
        ({ dev.ctrlTxStatus with
          devState := if reqData.wValue0 ≠ 0 then .address else .default
          address := reqData.wValue0 &&& 0x7F }, true)
  | configuration (request : reqData.bRequest.toNat = 9)
      (valid : ValidConfiguration descriptors reqData) :
      Outcome descriptors dev reqData
        ({ dev with
          curConfiguration := reqData.wValue0
          devState := if reqData.wValue0 = 0 then .address else .configured }.ctrlTxStatus, true)
  | served (other : reqData.bRequest.toNat ≠ 5 ∧ reqData.bRequest.toNat ≠ 9)
      (getInterface : reqData.bRequest.toNat = 10 →
        reqData.recipient = 1 ∧ dev.devState = .configured)
      (setInterface : reqData.bRequest.toNat = 11 → reqData.recipient = 1) (after : Device)
      (devState : after.devState = dev.devState) (addressed : after.addressed = dev.addressed)
      (configuration : after.configuration = dev.configuration) (held : after.held = dev.held)
      (current : after.curConfiguration = dev.curConfiguration ∨ dev.devState = .address) :
      Outcome descriptors dev reqData (after, true)

section Requests

variable {descriptors : Descriptors} {dev : Device} {reqData : DevReqData}

theorem Outcome.inData (other : reqData.bRequest.toNat ≠ 5 ∧ reqData.bRequest.toNat ≠ 9)
    (getInterface : reqData.bRequest.toNat = 10 →
      reqData.recipient = 1 ∧ dev.devState = .configured)
    (setInterface : reqData.bRequest.toNat = 11 → reqData.recipient = 1) (obj : Ep0Object)
    (len : Nat) : Outcome descriptors dev reqData (dev.ctrlInData obj len, true) :=
  .served other getInterface setInterface _ rfl rfl rfl rfl (.inl rfl)

theorem standardReqeust_outcome (descriptors : Descriptors) (dev : Device)
    (reqData : DevReqData) :
    Outcome descriptors dev reqData (standardReqeust descriptors dev reqData) := by
  unfold standardReqeust
  split
  case h_1 request =>
    unfold standardGetStatus
    split
    · apply Outcome.inData <;> simp [request]
    · apply Outcome.stalled <;> simp [request]
  case h_2 request =>
    unfold standardClearFeature
    split
    · apply Outcome.served <;> simp [request, Device.ctrlTxStatus]
    · split
      · apply Outcome.served <;> simp [request, Device.ctrlTxStatus]
      · apply Outcome.stalled <;> simp [request]
  case h_3 request =>
    unfold standardSetFeature
    split
    · apply Outcome.served <;> simp [request, Device.ctrlTxStatus]
    · split
      · apply Outcome.served <;> simp [request, Device.ctrlTxStatus]
      · apply Outcome.stalled <;> simp [request]
  case h_4 request =>
    unfold standardSetAddress
    split
    · next valid =>
      by_cases configured : dev.devState = .configured
      · simpa [configured, Device.ctrlTxStatus] using Outcome.late request valid configured
      · simpa [configured, Device.ctrlTxStatus] using Outcome.address request valid configured
    · next invalid =>
      apply Outcome.stalled <;> simp [request, invalid]
  case h_5 request =>
    unfold standardGetDescriptor
    split
    · apply Outcome.inData <;> simp [request]
    · apply Outcome.inData <;> simp [request]
    · split
      · apply Outcome.inData <;> simp [request]
      · apply Outcome.stalled <;> simp [request]
    · split
      · apply Outcome.stalled <;> simp [request]
      · apply Outcome.inData <;> simp [request]
    · apply Outcome.stalled <;> simp [request]
  case h_6 request => apply Outcome.stalled <;> simp [request]
  case h_7 request =>
    unfold standardGetConfiguration
    split
    · split
      · apply Outcome.inData <;> simp [request]
      · next inAddress => apply Outcome.served <;> simp [request, inAddress, Device.ctrlInData]
      · apply Outcome.stalled <;> simp [request]
    · apply Outcome.stalled <;> simp [request]
  case h_8 request =>
    unfold standardSetConfiguration
    split
    · next valid => exact .configuration request valid
    · next invalid => apply Outcome.stalled <;> simp [request, invalid]
  case h_9 request =>
    unfold standardGetInterface
    split
    · next served => apply Outcome.inData <;> simp [request, served]
    · next unserved => exact .silent (.inl ⟨request, unserved⟩)
  case h_10 request =>
    unfold standardSetInterface
    split
    · next served => apply Outcome.served <;> simp [request, served, Device.ctrlTxStatus]
    · next unserved => exact .silent (.inr ⟨request, unserved⟩)
  case h_11 _ _ _ notAddress _ _ _ notConfiguration notGet notSet =>
    apply Outcome.stalled
    · exact ⟨notGet, notSet⟩
    · intro request
      exact absurd request notAddress
    · intro request
      exact absurd request notConfiguration

end Requests

/-! ## Runs -/

theorem Agrees.powered : Agrees Device.powered Device.powered.awake := by
  constructor <;> simp [Device.powered, Device.awake]

theorem Agrees.of_same {dev after : Device} {state : DevState} (agrees : Agrees dev state)
    (addressed : after.addressed = dev.addressed)
    (configuration : after.configuration = dev.configuration)
    (current : after.curConfiguration = dev.curConfiguration ∨ state ≠ .configured) :
    Agrees after state := by
  constructor
  · intro inUse
    rw [addressed]
    exact agrees.addressed inUse
  · rw [configuration]
    exact agrees.configured
  · intro configured
    rw [configuration, agrees.current configured,
      current.resolve_right (not_not_intro configured)]

theorem Agrees.reset (descriptors : Descriptors) (dev : Device) :
    Agrees (resetIsrHandler descriptors dev) .default := by
  constructor <;> simp [resetIsrHandler]

theorem Agrees.setAddress {dev after : Device} {state : DevState} {value : Byte}
    (agrees : Agrees dev state) (addressed : after.addressed = (dev.addressed || value ≠ 0))
    (configuration : after.configuration = dev.configuration) :
    Agrees after (if value ≠ 0 then .address else .default) ↔ state ≠ .configured := by
  constructor
  · intro agreed configured
    have nonzero := agrees.configured.mp configured
    rw [← configuration] at nonzero
    have still := agreed.configured.mpr nonzero
    split at still <;> cases still
  · intro notConfigured
    have none := mt agrees.configured.mpr notConfigured
    rw [← configuration] at none
    split
    · next nonzero =>
      constructor
      · simp [addressed, nonzero]
      · simpa using none
      · simp
    · constructor
      · simp
      · simpa using none
      · simp

theorem Agrees.setConfiguration {dev after : Device} {value : Byte}
    (addressed : after.addressed = dev.addressed) (configuration : after.configuration = some value)
    (current : after.curConfiguration = value) :
    Agrees after (if value = 0 then .address else .configured) ↔ dev.addressed = true := by
  constructor
  · intro agreed
    rw [← addressed]
    apply agreed.addressed
    split <;> simp
  · intro before
    constructor
    · simp [addressed, before]
    · split <;> simp_all
    · simp [configuration, current]

theorem Device.awake_of_ne {dev : Device} (awake : dev.devState ≠ .suspended) :
    dev.awake = dev.devState := if_neg awake

section Steps

variable {descriptors : Descriptors} {dev : Device} {reqData : DevReqData}

theorem setup_of_rejected {after : Device}
    (result : standardReqeust descriptors { dev with ep0 := [] } reqData = (after, false)) :
    setup descriptors dev reqData = after := by
  simp [setup, result]

theorem setup_of_accepted {after : Device}
    (result : standardReqeust descriptors { dev with ep0 := [] } reqData = (after, true)) :
    setup descriptors dev reqData =
      { after with
        addressed := after.addressed || reqData.bRequest.toNat = 5 && reqData.wValue0 ≠ 0
        configuration := if reqData.bRequest.toNat = 9 then some reqData.wValue0
          else after.configuration } := by
  simp [setup, result]

/-- A request keeps the record in agreement with the state. -/
theorem setup_agrees (agrees : Agrees dev dev.awake)
    (allowed : Allowed descriptors dev (.request reqData)) :
    Agrees (setup descriptors dev reqData) (setup descriptors dev reqData).awake := by
  have outcome := standardReqeust_outcome descriptors { dev with ep0 := [] } reqData
  generalize result : standardReqeust descriptors { dev with ep0 := [] } reqData = pair at outcome
  cases outcome with
  | stalled =>
    rw [setup_of_rejected result]
    exact agrees.of_same rfl rfl (.inl rfl)
  | silent =>
    rw [setup_of_rejected result]
    exact agrees.of_same rfl rfl (.inl rfl)
  | late =>
    rw [setup_of_rejected result]
    exact agrees.of_same rfl rfl (.inl rfl)
  | address request valid =>
    rw [setup_of_accepted result, Device.awake_of_ne (by dsimp only; split <;> simp)]
    simp only [Allowed, request, if_pos valid] at allowed
    apply (@Agrees.setAddress dev _ _ _ agrees _ _).mpr allowed
    · simp [request, Device.ctrlTxStatus]
    · simp [request, Device.ctrlTxStatus]
  | configuration request valid =>
    rw [setup_of_accepted result,
      Device.awake_of_ne (by dsimp only [Device.ctrlTxStatus]; split <;> simp)]
    simp only [Allowed, request] at allowed
    apply (@Agrees.setConfiguration dev _ _ _ _ _).mpr (allowed valid)
    · simp [request, Device.ctrlTxStatus]
    · simp [request]
    · simp [Device.ctrlTxStatus]
  | served other getInterface setInterface after devState addressed configuration held current =>
    rw [setup_of_accepted result]
    have same : Device.awake { after with
        addressed := after.addressed || reqData.bRequest.toNat = 5 && reqData.wValue0 ≠ 0
        configuration := if reqData.bRequest.toNat = 9 then some reqData.wValue0
          else after.configuration } = dev.awake := by
      simp [Device.awake, devState, held]
    rw [same]
    apply agrees.of_same
    · simp [other, addressed]
    · simp [other, configuration]
    · apply current.imp_right
      intro inAddress configured
      rw [Device.awake_of_ne (by rw [inAddress]; simp), inAddress] at configured
      cases configured

theorem allowed_request : Allowed descriptors dev (.request reqData) ↔
    (reqData.bRequest.toNat = 5 →
      if ValidAddress reqData then dev.awake ≠ .configured
      else ¬ (reqData.wValue0 = 127 ∧ reqData.wValue1 = 0 ∧ reqData.recipient = 0 ∧
        dev.devState = .default)) ∧
    (reqData.bRequest.toNat = 9 → ValidConfiguration descriptors reqData →
      dev.addressed = true) ∧
    (reqData.bRequest.toNat = 10 → reqData.recipient = 1 ∧ dev.devState = .configured) ∧
    (reqData.bRequest.toNat = 11 → reqData.recipient = 1) := by
  simp only [Allowed]
  split <;> simp_all

/-- An accepted request behaves when the state it leaves agrees with what was accepted. -/
theorem behaves_of_accepted {after : Device}
    (result : standardReqeust descriptors { dev with ep0 := [] } reqData = (after, true)) :
    Behaves descriptors dev (.request reqData) (setup descriptors dev reqData) ↔
      ((setup descriptors dev reqData).devState ≠ .suspended →
        Agrees (setup descriptors dev reqData) (setup descriptors dev reqData).devState) := by
  constructor
  · intro behaves
    exact behaves.agrees
  · intro agrees
    constructor
    · exact agrees
    · intro resumed
      cases resumed
    · rintro _ ⟨⟩ rejected
      simp [result] at rejected
    · rintro _ ⟨⟩
      simp [result]

/-- A rejected request behaves when it does what a rejection should and its address was no
valid one. -/
theorem behaves_of_rejected {after : Device} (agrees : Agrees dev dev.awake)
    (result : standardReqeust descriptors { dev with ep0 := [] } reqData = (after, false))
    (same : after.devState = dev.devState ∧ after.addressed = dev.addressed ∧
      after.configuration = dev.configuration ∧ after.curConfiguration = dev.curConfiguration ∧
      after.curFeature = dev.curFeature ∧ after.curInterface = dev.curInterface ∧
      after.curAlternateSetting = dev.curAlternateSetting ∧ after.address = dev.address) :
    Behaves descriptors dev (.request reqData) (setup descriptors dev reqData) ↔
      ((∀ action ∈ after.ep0, action = .stall) ∧ Ep0Action.stall ∈ after.ep0) ∧
      ¬ (reqData.bRequest.toNat = 5 ∧ reqData.recipient = 0 ∧ 1 ≤ reqData.wValue0 ∧
        reqData.wValue0 ≤ 127 ∧ reqData.wValue1 = 0 ∧ dev.devState = .default) := by
  obtain ⟨devState, addressed, configuration, current, feature, interface, alternate, address⟩ :=
    same
  rw [setup_of_rejected result]
  constructor
  · intro behaves
    constructor
    · exact (behaves.rejected reqData rfl (by rw [result])).2
    · rintro ⟨request, recipient, positive, small, high, default⟩
      have accepted := behaves.addresses reqData rfl request recipient positive small high default
      simp [result] at accepted
  · rintro ⟨stalled, notAddress⟩
    constructor
    · intro awake
      rw [devState] at awake ⊢
      rw [← Device.awake_of_ne awake]
      exact agrees.of_same addressed configuration (.inl current)
    · intro resumed
      cases resumed
    · rintro _ ⟨⟩ _
      exact ⟨⟨devState, current, feature, interface, alternate, address⟩, stalled⟩
    · rintro _ ⟨⟩ request recipient positive small high default
      exact absurd ⟨request, recipient, positive, small, high, default⟩ notAddress

theorem address_of_invalid (invalid : ¬ ValidAddress reqData) :
    reqData.recipient = 0 ∧ 1 ≤ reqData.wValue0 ∧ reqData.wValue0 ≤ 127 ∧ reqData.wValue1 = 0 ∧
        dev.devState = .default ↔
      reqData.wValue0 = 127 ∧ reqData.wValue1 = 0 ∧ reqData.recipient = 0 ∧
        dev.devState = .default := by
  have last : 1 ≤ reqData.wValue0 ∧ reqData.wValue0 ≤ 127 ∧ ¬ reqData.wValue0 < 127 ↔
      reqData.wValue0 = 127 := by
    simp only [UInt8.lt_iff_toNat_lt, UInt8.le_iff_toNat_le, ← UInt8.toNat_inj]
    simp
    omega
  unfold ValidAddress at invalid
  tauto

theorem setup_behaves_iff (agrees : Agrees dev dev.awake) :
    Behaves descriptors dev (.request reqData) (setup descriptors dev reqData) ↔
      Allowed descriptors dev (.request reqData) := by
  have outcome := standardReqeust_outcome descriptors { dev with ep0 := [] } reqData
  generalize result : standardReqeust descriptors { dev with ep0 := [] } reqData = pair at outcome
  rw [allowed_request]
  cases outcome with
  | stalled notInterface notAddress notConfiguration =>
    rw [behaves_of_rejected agrees result ⟨rfl, rfl, rfl, rfl, rfl, rfl, rfl, rfl⟩]
    have stalls : (∀ action ∈ (Device.setStall { dev with ep0 := [] }).ep0, action = .stall) ∧
        Ep0Action.stall ∈ (Device.setStall { dev with ep0 := [] }).ep0 := by
      simp [Device.setStall]
    rw [and_iff_right stalls]
    constructor
    · intro notLast
      refine ⟨?_, ?_, ?_, ?_⟩
      · intro request
        rw [if_neg (notAddress request), ← address_of_invalid (notAddress request)]
        exact not_and.mp notLast request
      · intro request valid
        exact absurd valid (notConfiguration request)
      · intro request
        exact absurd request notInterface.1
      · intro request
        exact absurd request notInterface.2
    · rintro ⟨allowed, -⟩ ⟨request, last⟩
      have notLast := allowed request
      rw [if_neg (notAddress request), ← address_of_invalid (notAddress request)] at notLast
      exact notLast last
  | silent unserved =>
    rw [behaves_of_rejected agrees result ⟨rfl, rfl, rfl, rfl, rfl, rfl, rfl, rfl⟩]
    constructor
    · rintro ⟨⟨_, stalls⟩, _⟩
      cases stalls
    · rintro ⟨_, _, getInterface, setInterface⟩
      rcases unserved with ⟨request, notServed⟩ | ⟨request, notInterface⟩
      · exact absurd (getInterface request) notServed
      · exact absurd (setInterface request) notInterface
  | late request valid configured =>
    rw [behaves_of_rejected agrees result ⟨rfl, rfl, rfl, rfl, rfl, rfl, rfl, rfl⟩]
    have armed : Ep0Action.txStatus ∈ (Device.ctrlTxStatus { dev with ep0 := [] }).setStall.ep0 := by
      simp [Device.setStall, Device.ctrlTxStatus]
    have awake : dev.awake = .configured := by
      rw [Device.awake_of_ne (by simp [show dev.devState = .configured from configured])]
      exact configured
    constructor
    · rintro ⟨⟨onlyStall, _⟩, _⟩
      cases onlyStall _ armed
    · rintro ⟨allowed, _⟩
      have notConfigured := allowed request
      rw [if_pos valid] at notConfigured
      exact absurd awake notConfigured
  | address request valid notConfigured =>
    have next := setup_of_accepted result
    have devState : (setup descriptors dev reqData).devState =
        if reqData.wValue0 ≠ 0 then .address else .default := by
      rw [next]
    have awake : (setup descriptors dev reqData).devState ≠ .suspended := by
      rw [devState]
      split <;> simp
    rw [behaves_of_accepted result, imp_iff_right awake, devState,
      Agrees.setAddress agrees (by simp [next, request, Device.ctrlTxStatus])
        (by simp [next, request, Device.ctrlTxStatus])]
    simp [request, valid]
  | configuration request valid =>
    have next := setup_of_accepted result
    have devState : (setup descriptors dev reqData).devState =
        if reqData.wValue0 = 0 then .address else .configured := by
      rw [next, Device.ctrlTxStatus]
    have awake : (setup descriptors dev reqData).devState ≠ .suspended := by
      rw [devState]
      split <;> simp
    rw [behaves_of_accepted result, imp_iff_right awake, devState,
      @Agrees.setConfiguration dev _ _ (by simp [next, request, Device.ctrlTxStatus])
        (by simp [next, request]) (by simp [next, Device.ctrlTxStatus])]
    simp [request, valid]
  | served other getInterface setInterface =>
    rw [behaves_of_accepted result]
    have allowed : Allowed descriptors dev (.request reqData) := by
      rw [allowed_request]
      simp only [other, false_implies, true_and]
      exact ⟨getInterface, setInterface⟩
    constructor
    · intro _
      simp only [other, false_implies, true_and]
      exact ⟨getInterface, setInterface⟩
    · intro _ awake
      have agreed := setup_agrees agrees allowed
      rwa [Device.awake_of_ne awake] at agreed

end Steps

theorem busStep_agrees {descriptors : Descriptors} {before after : Device} {label : BusLabel}
    (agrees : Agrees before before.awake) (allowed : Allowed descriptors before label)
    (taken : busStep descriptors before label = some after) : Agrees after after.awake := by
  cases label with
  | reset =>
    obtain rfl := Option.some.inj taken
    exact Agrees.reset descriptors before
  | suspend =>
    obtain rfl := Option.some.inj taken
    exact agrees.of_same rfl rfl (.inl rfl)
  | resume =>
    obtain rfl := Option.some.inj taken
    have configured : before.awake = .configured := allowed
    rw [configured] at agrees
    exact agrees.of_same rfl rfl (.inl rfl)
  | request reqData =>
    obtain rfl := Option.some.inj taken
    exact setup_agrees agrees allowed

theorem busStep_behaves_iff {descriptors : Descriptors} {before after : Device} {label : BusLabel}
    (agrees : Agrees before before.awake) (taken : busStep descriptors before label = some after) :
    Behaves descriptors before label after ↔ Allowed descriptors before label := by
  cases label with
  | reset =>
    obtain rfl := Option.some.inj taken
    apply iff_of_true _ trivial
    constructor
    · intro _
      exact Agrees.reset descriptors before
    · rintro ⟨⟩
    · rintro _ ⟨⟩
    · rintro _ ⟨⟩
  | suspend =>
    obtain rfl := Option.some.inj taken
    apply iff_of_true _ trivial
    constructor
    · intro awake
      exact absurd rfl awake
    · rintro ⟨⟩
    · rintro _ ⟨⟩
    · rintro _ ⟨⟩
  | resume =>
    obtain rfl := Option.some.inj taken
    change _ ↔ before.awake = .configured
    constructor
    · intro behaves
      by_cases asleep : before.devState = .suspended
      · rw [Device.awake, if_pos asleep]
        exact (behaves.resumed rfl asleep).symm
      · have nonzero := (behaves.agrees (by simp [resumeIsrHandler])).configured.mp rfl
        exact agrees.configured.mpr nonzero
    · intro configured
      rw [configured] at agrees
      constructor
      · intro _
        exact agrees.of_same rfl rfl (.inl rfl)
      · intro _ asleep
        rw [Device.awake, if_pos asleep] at configured
        exact configured.symm
      · rintro _ ⟨⟩
      · rintro _ ⟨⟩
  | request reqData =>
    obtain rfl := Option.some.inj taken
    exact setup_behaves_iff agrees

/-- In a run whose steps are all allowed the state agrees with what was accepted, and the next
step behaves exactly when it is allowed. -/
theorem behaves_iff_allowed {descriptors : Descriptors} {labels : List BusLabel} {before : Device}
    (run : Run (busStep descriptors) (Allowed descriptors) Device.powered labels before) :
    (before.devState ≠ .suspended → Agrees before before.devState) ∧
    ∀ label after, busStep descriptors before label = some after →
      (Behaves descriptors before label after ↔ Allowed descriptors before label) := by
  have agrees : Agrees before before.awake := by
    apply run.invariant (fun dev => Agrees dev dev.awake) Agrees.powered
    intro earlier label later held allowed taken
    exact busStep_agrees held allowed taken
  constructor
  · intro awake
    rwa [Device.awake_of_ne awake] at agrees
  · intro label after taken
    exact busStep_behaves_iff agrees taken

/-- The descriptors of a device with one configuration and three strings. -/
def fewDescriptors : Descriptors where
  deviceDesc := 18
  configurationDesc := 67
  stringDesc := fun index => if index < 3 then .some 26 else none
  stringNum := 3
  qualifierDesc := 10
  attributes := 0xE0
  configurationNum := 1
  usbOtgFs := true

/-- A request to the device. -/
def deviceRequest (bRequest wValue0 : Byte) : DevReqData where
  bmRequestType := 0
  bRequest := bRequest
  wValue0 := wValue0
  wValue1 := 0
  wIndex0 := 0
  wIndex1 := 0
  wLength0 := 0
  wLength1 := 0

def enumeration : List BusLabel :=
  [.reset, .request (deviceRequest 5 9), .request (deviceRequest 9 1), .suspend]

theorem enumeration_accepted :
    (execute (busStep fewDescriptors) (Allowed fewDescriptors) Device.powered
      enumeration).isSome = true := by
  decide +kernel

def enumerated : Device :=
  final (busStep fewDescriptors) (Allowed fewDescriptors) Device.powered enumeration
    enumeration_accepted

/-- Enumeration and a suspend are allowed, and the resume gives the configuration back. -/
theorem enumerated_resumes :
    enumerated.devState = .suspended ∧
      Behaves fewDescriptors enumerated .resume (resumeIsrHandler enumerated) :=
  ⟨by decide +kernel, ((behaves_iff_allowed (Run.final (busStep fewDescriptors)
    (Allowed fewDescriptors) _ _ enumeration_accepted)).2 .resume _ rfl).mpr (by decide +kernel)⟩

/-- A device suspended before it has an address resumes as configured. -/
theorem resume_configures :
    ¬ ∀ descriptors labels before label after,
      Run (busStep descriptors) free Device.powered labels before →
      busStep descriptors before label = some after → Behaves descriptors before label after := by
  intro claimed
  have run := Run.final (busStep fewDescriptors) free Device.powered [.reset, .suspend]
    (by decide +kernel)
  have behaves := claimed fewDescriptors _ _ .resume _ run rfl
  have restored := behaves.resumed rfl (by decide +kernel)
  exact absurd restored (by decide +kernel)

end ApmSdk.Otg
