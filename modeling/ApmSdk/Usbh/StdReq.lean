import ApmSdk.Otg.DeviceState

set_option autoImplicit false

/-!
# Standard requests of the host

The request builders of `usbh_stdReq.c`, and what becomes of their eight bytes in
`USBD_StandardReqeust` of the device stack.
-/

namespace ApmSdk.Usbh

open Usbd (Byte DevReqData)
open Otg (Device Descriptors Ep0Object standardReqeust)

inductive Recipient where
  | device
  | interface
  | endpoint
  | other
  deriving DecidableEq, Repr

def Recipient.toByte : Recipient → Byte
  | .device => 0
  | .interface => 1
  | .endpoint => 2
  | .other => 3

inductive DescType where
  | device
  | configuration
  | string
  | interface
  | endpoint
  | deviceQualifier
  | otherSpeed
  | interfacePower
  | hid
  | hidReport
  deriving DecidableEq, Repr

def DescType.toByte : DescType → Byte
  | .device => 1
  | .configuration => 2
  | .string => 3
  | .interface => 4
  | .endpoint => 5
  | .deviceQualifier => 6
  | .otherSpeed => 7
  | .interfacePower => 8
  | .hid => 0x21
  | .hidReport => 0x22

inductive Feature where
  | endpointHalt
  | remoteWakeup
  | testMode
  deriving DecidableEq, Repr

def Feature.toByte : Feature → Byte
  | .endpointHalt => 0
  | .remoteWakeup => 1
  | .testMode => 2

-- `USBH_HostReqData_T`, with the fields of `bmRequestType`.
structure HostReqData where
  dirIn : Bool
  type : Byte
  recipient : Recipient
  bRequest : Byte
  wValue0 : Byte
  wValue1 : Byte
  wIndex0 : Byte
  wIndex1 : Byte
  wLength0 : Byte
  wLength1 : Byte
  deriving DecidableEq, Repr

def HostReqData.wLength (reqData : HostReqData) : Nat :=
  reqData.wLength0.toNat + 256 * reqData.wLength1.toNat

-- `USBH_REQ_TYPE_T`.
def requestType (dirIn : Bool) (type : Byte) (recipient : Recipient) : Byte :=
  recipient.toByte ||| type <<< 5 ||| if dirIn then 0x80 else 0

/-- The bytes of the SETUP packet. -/
def HostReqData.pack (reqData : HostReqData) : Vector Byte 8 :=
  #v[requestType reqData.dirIn reqData.type reqData.recipient, reqData.bRequest,
    reqData.wValue0, reqData.wValue1, reqData.wIndex0, reqData.wIndex1, reqData.wLength0,
    reqData.wLength1]

-- `g_usbDev.reqData` after the SETUP packet has been read into it.
def received (pack : Vector Byte 8) : DevReqData where
  bmRequestType := pack[0]
  bRequest := pack[1]
  wValue0 := pack[2]
  wValue1 := pack[3]
  wIndex0 := pack[4]
  wIndex1 := pack[5]
  wLength0 := pack[6]
  wLength1 := pack[7]

/-! ## The builders -/

def low (word : UInt16) : Byte := word.toUInt8
def high (word : UInt16) : Byte := (word >>> 8).toUInt8

def standardRequest (dirIn : Bool) (recipient : Recipient) (bRequest wValue0 wValue1 : Byte)
    (index length : UInt16) : HostReqData where
  dirIn := dirIn
  type := 0
  recipient := recipient
  bRequest := bRequest
  wValue0 := wValue0
  wValue1 := wValue1
  wIndex0 := low index
  wIndex1 := high index
  wLength0 := low length
  wLength1 := high length

def getStandardConfiguration : HostReqData := standardRequest true .device 8 0 0 0 1

def langId : UInt16 := 0x0409

def standardGetDescriptor (descType : DescType) (descIndex : Byte) (len : UInt16) : HostReqData :=
  standardRequest true .device 6 descIndex descType.toByte
    (if descType = .string then langId else 0) len

def standardGetInterface (interface : UInt16) : HostReqData :=
  standardRequest true .interface 10 0 0 interface 1

def standardGetStatus (recipient : Recipient) (index : UInt16) : HostReqData :=
  -- the code of GET_INTERFACE
  standardRequest true recipient 10 0 0 (if recipient = .device then 0 else index) 2

def standardSetAddress (devAddr : Byte) : HostReqData :=
  standardRequest false .device 5 devAddr 0 0 0

def standardSetConfiguration (configuration : Byte) : HostReqData :=
  standardRequest false .device 9 configuration 0 0 0

def standardSetDescriptor (descType : DescType) (descIndex : Byte) (len : UInt16) : HostReqData :=
  standardRequest false .device 7 descIndex descType.toByte 0 len

def standardSetInterface (interface alternateSetting : UInt16) : HostReqData :=
  -- with a data stage of one byte
  standardRequest false .interface 11 (low alternateSetting) (high alternateSetting) interface 1

def standardSetFeature (recipient : Recipient) (feature : Feature) (index : UInt16) :
    HostReqData :=
  standardRequest false recipient 3 feature.toByte 0 index 0

/-- The channel number that the source also takes is not used. -/
def standardClearFeature (recipient : Recipient) (feature : Feature) (index : UInt16) :
    HostReqData :=
  standardRequest false recipient 1 feature.toByte 0 index 0

inductive Builder where
  | getConfiguration
  | getDescriptor (descType : DescType) (descIndex : Byte) (len : UInt16)
  | getInterface (interface : UInt16)
  | getStatus (recipient : Recipient) (index : UInt16)
  | setAddress (devAddr : Byte)
  | setConfiguration (configuration : Byte)
  | setDescriptor (descType : DescType) (descIndex : Byte) (len : UInt16)
  | setInterface (interface alternateSetting : UInt16)
  | setFeature (recipient : Recipient) (feature : Feature) (index : UInt16)
  | clearFeature (recipient : Recipient) (feature : Feature) (index : UInt16)
  deriving DecidableEq, Repr

def Builder.build : Builder → HostReqData
  | .getConfiguration => getStandardConfiguration
  | .getDescriptor descType descIndex len => standardGetDescriptor descType descIndex len
  | .getInterface interface => standardGetInterface interface
  | .getStatus recipient index => standardGetStatus recipient index
  | .setAddress devAddr => standardSetAddress devAddr
  | .setConfiguration configuration => standardSetConfiguration configuration
  | .setDescriptor descType descIndex len => standardSetDescriptor descType descIndex len
  | .setInterface interface alternateSetting => standardSetInterface interface alternateSetting
  | .setFeature recipient feature index => standardSetFeature recipient feature index
  | .clearFeature recipient feature index => standardClearFeature recipient feature index

/-! ## The dispatcher of the device -/

inductive Handler where
  | getConfiguration
  | getDescriptor
  | getInterface
  | getStatus
  | setAddress
  | setConfiguration
  | setDescriptor
  | setFeature
  | setInterface
  | clearFeature
  deriving DecidableEq, Repr

-- The cases of `USBD_StandardReqeust`.
def dispatched (bRequest : Byte) : Option Handler :=
  match bRequest.toNat with
  | 0 => some .getStatus
  | 1 => some .clearFeature
  | 3 => some .setFeature
  | 5 => some .setAddress
  | 6 => some .getDescriptor
  | 7 => some .setDescriptor
  | 8 => some .getConfiguration
  | 9 => some .setConfiguration
  | 10 => some .getInterface
  | 11 => some .setInterface
  | _ => none

def Handler.run (descriptors : Descriptors) (dev : Device) (reqData : DevReqData) :
    Handler → Device × Bool
  | .getConfiguration => Otg.standardGetConfiguration dev reqData
  | .getDescriptor => Otg.standardGetDescriptor descriptors dev reqData
  | .getInterface => Otg.standardGetInterface dev reqData
  | .getStatus => Otg.standardGetStatus dev reqData
  | .setAddress => Otg.standardSetAddress dev reqData
  | .setConfiguration => Otg.standardSetConfiguration descriptors dev reqData
  | .setDescriptor => Otg.standardSetDescriptor dev
  | .setFeature => Otg.standardSetFeature dev reqData
  | .setInterface => Otg.standardSetInterface dev reqData
  | .clearFeature => Otg.standardClearFeature dev reqData

theorem standardReqeust_dispatched (descriptors : Descriptors) (dev : Device)
    (reqData : DevReqData) :
    standardReqeust descriptors dev reqData =
      match dispatched reqData.bRequest with
      | some handler => handler.run descriptors dev reqData
      | none => (dev.setStall, false) := by
  unfold standardReqeust dispatched
  split <;> simp_all [Handler.run]

/-! ## What is asked of a builder -/

def Builder.handler : Builder → Handler
  | .getConfiguration => .getConfiguration
  | .getDescriptor _ _ _ => .getDescriptor
  | .getInterface _ => .getInterface
  | .getStatus _ _ => .getStatus
  | .setAddress _ => .setAddress
  | .setConfiguration _ => .setConfiguration
  | .setDescriptor _ _ _ => .setDescriptor
  | .setInterface _ _ => .setInterface
  | .setFeature _ _ _ => .setFeature
  | .clearFeature _ _ _ => .clearFeature

def Builder.recipient : Builder → Recipient
  | .getInterface _ => .interface
  | .setInterface _ _ => .interface
  | .getStatus recipient _ => recipient
  | .setFeature recipient _ _ => recipient
  | .clearFeature recipient _ _ => recipient
  | _ => .device

def Builder.value : Builder → Nat
  | .getDescriptor descType descIndex _ => 256 * descType.toByte.toNat + descIndex.toNat
  | .setDescriptor descType descIndex _ => 256 * descType.toByte.toNat + descIndex.toNat
  | .setAddress devAddr => devAddr.toNat
  | .setConfiguration configuration => configuration.toNat
  | .setInterface _ alternateSetting => alternateSetting.toNat
  | .setFeature _ feature _ => feature.toByte.toNat
  | .clearFeature _ feature _ => feature.toByte.toNat
  | _ => 0

/-- The index the caller gave; a string is asked for in the language of the host, and the
device has no index. -/
def Builder.index : Builder → Nat
  | .getDescriptor .string _ _ => langId.toNat
  | .getInterface interface => interface.toNat
  | .getStatus .device _ => 0
  | .getStatus _ index => index.toNat
  | .setInterface interface _ => interface.toNat
  | .setFeature _ _ index => index.toNat
  | .clearFeature _ _ index => index.toNat
  | _ => 0

/-- The bytes that a GET request is for. -/
def Builder.getLength : Builder → Option Nat
  | .getConfiguration => some 1
  | .getDescriptor _ _ len => some len.toNat
  | .getInterface _ => some 1
  | .getStatus _ _ => some 2
  | _ => none

def Builder.NoDataStage : Builder → Prop
  | .setAddress _ => True
  | .setConfiguration _ => True
  | .setInterface _ _ => True
  | .setFeature _ _ _ => True
  | .clearFeature _ _ _ => True
  | _ => False

/-- The bytes there are of what a GET request asks for. -/
def available (descriptors : Descriptors) : Ep0Object → Nat
  | .deviceDesc => descriptors.deviceDesc.toNat
  | .configurationDesc => descriptors.configurationDesc.toNat
  | .stringDesc index => ((descriptors.stringDesc index).getD 0).toNat
  | .qualifierDesc => descriptors.qualifierDesc.toNat
  | .curConfiguration => 1
  | .curAlternateSetting => 1
  | .status => 2
  | .cmdBuf => 8

/-- The device takes the bytes for the request that the caller built. -/
structure Understood (builder : Builder) (reqData : DevReqData) : Prop where
  standard : reqData.type = 0
  handler : dispatched reqData.bRequest = some builder.handler
  recipient : reqData.recipient = builder.recipient.toByte.toNat
  value : reqData.wValue0.toNat + 256 * reqData.wValue1.toNat = builder.value
  index : reqData.wIndex0.toNat + 256 * reqData.wIndex1.toNat = builder.index
  get : ∀ len, builder.getLength = some len → reqData.dirIn = true ∧ reqData.wLength = len ∧
    ∀ (descriptors : Descriptors) (dev : Device) (obj : Ep0Object) (sent : Nat),
      (standardReqeust descriptors dev reqData).1.ep0 = dev.ep0 ++ [.inData obj sent] →
      sent = min len (available descriptors obj)
  noDataStage : builder.NoDataStage → reqData.wLength = 0

/-! ## The bytes on the way -/

theorem low_high (word : UInt16) : (low word).toNat + 256 * (high word).toNat = word.toNat := by
  have := word.toNat_lt
  have shifted : (high word).toNat = word.toNat / 256 % 256 := by
    simp [high, Nat.shiftRight_eq_div_pow]
  have masked : (low word).toNat = word.toNat % 256 := by simp [low]
  omega

theorem standardRequest_wLength (dirIn : Bool) (recipient : Recipient)
    (bRequest wValue0 wValue1 : Byte) (index length : UInt16) :
    (standardRequest dirIn recipient bRequest wValue0 wValue1 index length).wLength =
      length.toNat := low_high length

theorem low_word (first second : Byte) :
    low (second.toUInt16 <<< 8 ||| first.toUInt16) = first := by
  unfold low
  rw [← UInt8.toBitVec_inj]
  ext index bound
  simp

theorem high_word (first second : Byte) :
    high (second.toUInt16 <<< 8 ||| first.toUInt16) = second := by
  unfold high
  rw [← UInt8.toBitVec_inj]
  ext index bound
  have upper : 8 + index < 16 := by omega
  have within : index < 16 := by omega
  simpa [upper, within] using BitVec.getLsbD_eq_getElem bound

section Received

variable (dirIn : Bool) (recipient : Recipient) (bRequest wValue0 wValue1 : Byte)
  (index length : UInt16)

@[simp] theorem received_type :
    (received (standardRequest dirIn recipient bRequest wValue0 wValue1 index length).pack).type =
      0 := by
  change (requestType dirIn 0 recipient).toNat / 32 % 4 = 0
  cases dirIn <;> cases recipient <;> decide

@[simp] theorem received_recipient :
    (received (standardRequest dirIn recipient bRequest wValue0 wValue1 index
      length).pack).recipient = recipient.toByte.toNat := by
  change (requestType dirIn 0 recipient).toNat % 32 = recipient.toByte.toNat
  cases dirIn <;> cases recipient <;> decide

@[simp] theorem received_dirIn :
    (received (standardRequest dirIn recipient bRequest wValue0 wValue1 index
      length).pack).dirIn = dirIn := by
  change decide (128 ≤ (requestType dirIn 0 recipient).toNat) = dirIn
  cases dirIn <;> cases recipient <;> decide

@[simp] theorem received_bRequest :
    (received (standardRequest dirIn recipient bRequest wValue0 wValue1 index
      length).pack).bRequest = bRequest := rfl

@[simp] theorem received_wIndex :
    let reqData := received (standardRequest dirIn recipient bRequest wValue0 wValue1 index
      length).pack
    reqData.wIndex0.toNat + 256 * reqData.wIndex1.toNat = index.toNat :=
  low_high index

@[simp] theorem received_wLength :
    (received (standardRequest dirIn recipient bRequest wValue0 wValue1 index
      length).pack).wLength = length.toNat :=
  low_high length

end Received

/-! ## What the device sends -/

section Sent

variable {descriptors : Descriptors} {dev : Device} {reqData : DevReqData} {obj : Ep0Object}
  {sent : Nat}

theorem getDescriptor_sent
    (answered : (Otg.standardGetDescriptor descriptors dev reqData).1.ep0 =
      dev.ep0 ++ [.inData obj sent]) :
    sent = min reqData.wLength (available descriptors obj) := by
  unfold Otg.standardGetDescriptor at answered
  split at answered
  · obtain ⟨rfl, rfl⟩ : Ep0Object.deviceDesc = obj ∧ _ := by
      simpa [Device.ctrlInData] using answered
    rfl
  · obtain ⟨rfl, rfl⟩ : Ep0Object.configurationDesc = obj ∧ _ := by
      simpa [Device.ctrlInData] using answered
    rfl
  · split at answered
    · next size present =>
      obtain ⟨rfl, rfl⟩ : Ep0Object.stringDesc reqData.wValue0 = obj ∧ _ := by
        simpa [Device.ctrlInData] using answered
      simp [available, present]
    · simp [Device.setStall] at answered
  · split at answered
    · simp [Device.setStall] at answered
    · obtain ⟨rfl, rfl⟩ : Ep0Object.qualifierDesc = obj ∧ _ := by
        simpa [Device.ctrlInData] using answered
      rfl
  · simp [Device.setStall] at answered

theorem getConfiguration_sent
    (answered : (Otg.standardGetConfiguration dev reqData).1.ep0 = dev.ep0 ++ [.inData obj sent]) :
    sent = 1 ∧ available descriptors obj = 1 := by
  unfold Otg.standardGetConfiguration at answered
  split at answered
  · split at answered <;>
      simp only [Device.ctrlInData, Device.setStall, List.append_cancel_left_eq, List.cons.injEq,
        reduceCtorEq, Otg.Ep0Action.inData.injEq, and_true] at answered
    · obtain ⟨rfl, rfl⟩ := answered
      exact ⟨rfl, rfl⟩
    · obtain ⟨rfl, rfl⟩ := answered
      exact ⟨rfl, rfl⟩
  · simp [Device.setStall] at answered

theorem getInterface_sent
    (answered : (Otg.standardGetInterface dev reqData).1.ep0 = dev.ep0 ++ [.inData obj sent]) :
    sent = 1 ∧ available descriptors obj = 1 := by
  unfold Otg.standardGetInterface at answered
  split at answered
  · obtain ⟨rfl, rfl⟩ : Ep0Object.curAlternateSetting = obj ∧ _ := by
      simpa [Device.ctrlInData] using answered
    exact ⟨rfl, rfl⟩
  · simp at answered

end Sent

theorem Understood.of_fields {builder : Builder} {dirIn : Bool} {recipient : Recipient}
    {bRequest wValue0 wValue1 : Byte} {index length : UInt16}
    (built : builder.build =
      standardRequest dirIn recipient bRequest wValue0 wValue1 index length)
    (handler : dispatched bRequest = some builder.handler)
    (named : recipient = builder.recipient)
    (value : wValue0.toNat + 256 * wValue1.toNat = builder.value)
    (indexed : index.toNat = builder.index)
    (get : ∀ len, builder.getLength = some len → dirIn = true ∧ length.toNat = len ∧
      ∀ (descriptors : Descriptors) (dev : Device) (reqData : DevReqData) (obj : Ep0Object)
        (sent : Nat), reqData.wLength = len →
        (builder.handler.run descriptors dev reqData).1.ep0 = dev.ep0 ++ [.inData obj sent] →
        sent = min len (available descriptors obj))
    (noDataStage : builder.NoDataStage → length = 0) :
    Understood builder (received builder.build.pack) := by
  rw [built]
  constructor
  case standard => exact received_type ..
  case handler => exact handler
  case recipient => rw [received_recipient, named]
  case value => exact value
  case index => exact (received_wIndex ..).trans indexed
  case get =>
    intro len asked
    obtain ⟨isIn, rightLength, sends⟩ := get len asked
    refine ⟨(received_dirIn ..).trans isIn, (received_wLength ..).trans rightLength, ?_⟩
    intro descriptors dev obj sent answered
    rw [standardReqeust_dispatched, received_bRequest, handler] at answered
    exact sends descriptors dev _ obj sent ((received_wLength ..).trans rightLength) answered
  case noDataStage =>
    intro dataless
    rw [received_wLength, noDataStage dataless]
    rfl

/-- All builders but two are understood, whatever their arguments. -/
theorem understood_iff (builder : Builder) :
    Understood builder (received builder.build.pack) ↔
      (∀ recipient index, builder ≠ .getStatus recipient index) ∧
      ∀ interface alternateSetting, builder ≠ .setInterface interface alternateSetting := by
  constructor
  · intro understood
    constructor
    · rintro recipient index rfl
      exact absurd understood.handler (by simp [Builder.build, standardGetStatus, dispatched,
        Builder.handler])
    · rintro interface alternateSetting rfl
      have length := understood.noDataStage trivial
      rw [Builder.build, standardSetInterface, received_wLength] at length
      exact absurd length (by decide)
  · rintro ⟨notStatus, notInterface⟩
    cases builder with
    | getConfiguration =>
      refine .of_fields rfl rfl rfl rfl rfl ?_ (by simp [Builder.NoDataStage])
      rintro len ⟨⟩
      refine ⟨rfl, rfl, fun descriptors dev reqData obj sent _ answered => ?_⟩
      obtain ⟨rfl, one⟩ := getConfiguration_sent answered
      rw [one, Nat.min_self]
    | getDescriptor descType descIndex len =>
      refine .of_fields rfl rfl rfl ?_ ?_ ?_ (by simp [Builder.NoDataStage])
      · simp [Builder.value, Nat.add_comm]
      · cases descType <;> rfl
      · rintro asked ⟨⟩
        refine ⟨rfl, rfl, fun descriptors dev reqData obj sent length answered => ?_⟩
        rw [← length]
        exact getDescriptor_sent answered
    | getInterface interface =>
      refine .of_fields rfl rfl rfl rfl rfl ?_ (by simp [Builder.NoDataStage])
      rintro len ⟨⟩
      refine ⟨rfl, rfl, fun descriptors dev reqData obj sent _ answered => ?_⟩
      obtain ⟨rfl, one⟩ := getInterface_sent answered
      rw [one, Nat.min_self]
    | getStatus recipient index => exact absurd rfl (notStatus recipient index)
    | setAddress devAddr =>
      exact .of_fields rfl rfl rfl (by simp [Builder.value]) rfl (by simp [Builder.getLength])
        (fun _ => rfl)
    | setConfiguration configuration =>
      exact .of_fields rfl rfl rfl (by simp [Builder.value]) rfl (by simp [Builder.getLength])
        (fun _ => rfl)
    | setDescriptor descType descIndex len =>
      exact .of_fields rfl rfl rfl (by simp [Builder.value, Nat.add_comm]) rfl
        (by simp [Builder.getLength]) (by simp [Builder.NoDataStage])
    | setInterface interface alternateSetting =>
      exact absurd rfl (notInterface interface alternateSetting)
    | setFeature recipient feature index =>
      exact .of_fields rfl rfl rfl (by simp [Builder.value]) rfl (by simp [Builder.getLength])
        (fun _ => rfl)
    | clearFeature recipient feature index =>
      exact .of_fields rfl rfl rfl (by simp [Builder.value]) rfl (by simp [Builder.getLength])
        (fun _ => rfl)

/-- The status of the device, taken for its alternate setting. -/
theorem getStatus_misunderstood :
    ¬ Understood (.getStatus .device 0) (received (Builder.getStatus .device 0).build.pack) := by
  intro understood
  exact absurd understood.handler (by decide)

end ApmSdk.Usbh
