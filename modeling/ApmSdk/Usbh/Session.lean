import ApmSdk.Usbh.Enum
import ApmSdk.Usbh.ParseCfgDesc
import ApmSdk.Usbh.StringDesc

set_option autoImplicit false

/-!
# An enumeration between host and device

The handlers of `usbh_enum.c` over the engine of `usbh_dataXfer.c` on one side, the standard
requests of `usbd_stdReq.c` on the other, and between them a bus that loses what it likes: what
each of the two makes of a request.
-/

namespace ApmSdk.Usbh

open Runs
open Usbd (Byte Memory)
open Otg (Device Descriptors Ep0Action Ep0Object)

/-! ## The device -/

/-- The arrays of the host that descriptors go into. -/
structure Room where
  buffers : BufLimits
  tables : Limits
  narrow : tables.Narrow

/-- The descriptors of an application with their bytes. The host has room for them, the lengths in
its set lead from descriptor to descriptor to its end, and a string is as long as it says. Nothing
else that endpoint 0 can send is read in an enumeration. -/
structure Firmware (room : Room) where
  descriptors : Descriptors
  content : Ep0Object → List Byte
  length : ∀ obj, (content obj).length = available descriptors obj
  deviceSize : descriptors.deviceDesc = 18
  packetSize : (content .deviceDesc)[7]?.getD 0 ≠ 0
  header : 9 ≤ (content .configurationDesc).length
  totalLength : ((content .configurationDesc)[2]?.getD 0).toNat +
    256 * ((content .configurationDesc)[3]?.getD 0).toNat = (content .configurationDesc).length
  configurable : (content .configurationDesc)[5]?.getD 0 ≠ 0 ∧
    (content .configurationDesc)[5]?.getD 0 ≤ descriptors.configurationNum
  fits : (content .configurationDesc).length ≤ room.buffers.cfgDescMaxLen
  linked : Chain.Linked (fun at_ => (content .configurationDesc).getD at_ 0) room.tables
    room.buffers.cfgDescMaxLen
  strings : ∀ index, (descriptors.stringDesc index).isSome →
    Legible room.buffers.stringDescMaxLen (content (.stringDesc index))

variable {room : Room} (config : Config) (firmware : Firmware room)

namespace Firmware

variable (firmware : Firmware room)

def byte (obj : Ep0Object) (index : Nat) : Byte := (firmware.content obj)[index]?.getD 0

def iManufacturer : Byte := firmware.byte .deviceDesc 14
def iProduct : Byte := firmware.byte .deviceDesc 15
def iSerialNumber : Byte := firmware.byte .deviceDesc 16
def bConfigurationValue : Byte := firmware.byte .configurationDesc 5

end Firmware

/-! ## The parties and the bus -/

/-- The host in its enumeration, the stage that it has started a channel for, and the device. -/
structure Session where
  enum : Enum
  control : Control
  pending : Option Stage
  dev : Device

/-- `USBH_EnumHandler`, which polls the transfer of a request in progress. A builder leaves
`ctrlState` at SETUP. -/
def Session.poll (session : Session) : Session :=
  if session.enum.xferState = .waiting ∧
      (session.enum.enumState.request config session.enum.memory).isSome then
    let called := controlXferHandler session.enum.reqData session.control
    { session with
      enum := enumHandler config called.1.ctrlState session.enum
      control := called.1
      pending := match called.2 with
        | some started => some started.stage
        | none => session.pending }
  else
    let enum := enumHandler config session.control.ctrlState session.enum
    { session with
      enum := enum
      control :=
        if enum.xferState = .waiting then { session.control with ctrlState := .setup }
        else session.control }

/-- What the device sends in a stage for what its request has set up. -/
def Firmware.serves (stage : Stage) (action : Ep0Action) : Option (List Byte) :=
  match stage, action with
  | .dataIn, .inData obj len => some ((firmware.content obj).take len)
  | .statusOut, .inData _ _ => some []
  | .dataOut, .outData _ _ => some []
  | .statusIn, .outData _ _ => some []
  | .statusIn, .txStatus => some []
  | _, _ => none

structure Session.Answer where
  status : UrbStatus
  bytes : List Byte
  dev : Device

/-- What the host hears in a stage and the device after it, unless the device does not answer: a
SETUP is only for the device that it is addressed to. -/
def Session.answer (session : Session) : Stage → Option Session.Answer
  | .setup =>
      if session.enum.outAddress = session.dev.address then
        some ⟨.ok, [], Otg.setup firmware.descriptors session.dev
          (received session.enum.reqData.pack)⟩
      else none
  | stage =>
      if .stall ∈ session.dev.ep0 then some ⟨.stall, [], session.dev⟩
      else (session.dev.ep0.head?.bind (firmware.serves stage)).map
        fun bytes => ⟨.ok, bytes, session.dev⟩

/-- A channel handler leaves the outcome, the data are in the buffer of the request. -/
def Session.hear (session : Session) (stage : Stage) (answer : Session.Answer) : Session :=
  { session with
    enum := { session.enum with
      memory := match session.enum.enumState.buffer with
        | some buffer => session.enum.memory.write ⟨buffer, 0⟩ answer.bytes
        | none => session.enum.memory }
    control :=
      if stage.isIn then { session.control with inUrb := answer.status }
      else { session.control with outUrb := answer.status }
    dev := answer.dev }

inductive Session.Label where
  | poll
  /-- The stage takes place. -/
  | deliver
  /-- It does not, for the host: the device may have heard the host, and of the data some may
  have come. -/
  | lose (heard : Bool) (count : Nat)
  /-- The channel reports something that ends nothing. -/
  | linger (status : UrbStatus)
  deriving DecidableEq, Repr

def Session.Answer.lost (answer : Session.Answer) (before : Device) (heard : Bool) (count : Nat) :
    Session.Answer where
  status := .error
  bytes := answer.bytes.take count
  dev := if heard then answer.dev else before

def Session.silence (dev : Device) : Session.Answer := ⟨.error, [], dev⟩

def Session.step (session : Session) : Session.Label → Option Session
  | .poll => some (session.poll config)
  | .deliver => do
      let stage ← session.pending
      let answer ← session.answer firmware stage
      return { session.hear stage answer with pending := none }
  | .lose heard count => do
      let stage ← session.pending
      let answer := (session.answer firmware stage).getD (Session.silence session.dev)
      return { session.hear stage (answer.lost session.dev heard count) with pending := none }
  | .linger status => do
      let stage ← session.pending
      if status = .idle ∨ status = .noReady ∨ status = .ping then
        return session.hear stage ⟨status, [], session.dev⟩
      else none

/-- The host has reset the port and opened the channels; no transfer was left in progress. -/
structure Session.Attached (session : Session) : Prop where
  enumState : session.enum.enumState = .idle
  xferState : session.enum.xferState = .start
  addresses : session.enum.outAddress = 0 ∧ session.enum.inAddress = 0
  devAddress : session.enum.devAddress = config.defaultAddress
  engine : session.control.curXferState = .setup
  pending : session.pending = none
  reset : ∃ earlier, session.dev = Otg.resetIsrHandler firmware.descriptors earlier

/-! ## What the parties are to know -/

/-- The buffer begins with the bytes. -/
def Holds (memory : Memory Buffer) (buffer : Buffer) (bytes : List Byte) : Prop :=
  ∀ index byte, bytes[index]? = some byte → memory buffer index = byte

-- The object that the request of a state is for, and how much of it.
def Firmware.wanted : EnumState → Option (Ep0Object × Nat)
  | .getDevDesc => some (.deviceDesc, 8)
  | .getFullDevDesc => some (.deviceDesc, 18)
  | .getCfgDesc => some (.configurationDesc, 9)
  | .getFullCfgDesc => some (.configurationDesc, (firmware.content .configurationDesc).length)
  | .getMfcStringDesc => some (.stringDesc firmware.iManufacturer, 0xFF)
  | .getProductStringDesc => some (.stringDesc firmware.iProduct, 0xFF)
  | .getSerialNumStringDesc => some (.stringDesc firmware.iSerialNumber, 0xFF)
  | _ => none

def Firmware.fetched (state : EnumState) : List Byte :=
  match firmware.wanted state with
  | some (obj, count) => (firmware.content obj).take count
  | none => []

-- What the device sets up for the request of a state, unless it refuses.
def Firmware.action (state : EnumState) : Ep0Action :=
  match firmware.wanted state with
  | some (obj, count) => .inData obj (min count (available firmware.descriptors obj))
  | none => .txStatus

/-- The device does not refuse the request of the state. -/
def Granted : EnumState → Prop
  | .setAddr => config.configuredAddress < 127
  | .getMfcStringDesc => (firmware.descriptors.stringDesc firmware.iManufacturer).isSome
  | .getProductStringDesc => (firmware.descriptors.stringDesc firmware.iProduct).isSome
  | .getSerialNumStringDesc => firmware.iSerialNumber ≠ 0 →
      (firmware.descriptors.stringDesc firmware.iSerialNumber).isSome
  | _ => True

def Fresh (dev : Device) : Prop := dev.devState = .default ∧ dev.address = 0

def Assigned (dev : Device) : Prop :=
  dev.devState = .address ∧ dev.address = config.configuredAddress

def Chosen (dev : Device) : Prop :=
  dev.devState = .configured ∧ dev.address = config.configuredAddress ∧
    dev.curConfiguration = firmware.bConfigurationValue

/-- Where the device is when the host comes to a state. -/
def Settled : EnumState → Device → Prop
  | .idle => Fresh
  | .getDevDesc => Fresh
  | .setAddr => Fresh
  | .configuredOk => Chosen config firmware
  | _ => Assigned config

/-- The device is where the host is, or one request ahead. -/
def Abreast (state : EnumState) (dev : Device) : Prop :=
  Settled config firmware state dev ∨ Settled config firmware state.next dev

-- The buffers that are complete when the host comes to a state.
def Firmware.known : EnumState → List (Buffer × List Byte)
  | .idle => []
  | .getDevDesc => []
  | .setAddr => []
  | .getFullDevDesc => []
  | .getCfgDesc => [(.device, firmware.content .deviceDesc)]
  | .getFullCfgDesc => [(.device, firmware.content .deviceDesc),
      (.configuration, (firmware.content .configurationDesc).take 9)]
  | _ => [(.device, firmware.content .deviceDesc),
      (.configuration, (firmware.content .configurationDesc).take 9),
      (.cfgDescBuf, firmware.content .configurationDesc)]

def Knows (memory : Memory Buffer) (state : EnumState) : Prop :=
  ∀ buffer bytes, (buffer, bytes) ∈ firmware.known state → Holds memory buffer bytes

/-! ## The buffers -/

section Buffers

variable {memory : Memory Buffer} {buffer other : Buffer} {bytes others : List Byte}

theorem Holds.written (memory : Memory Buffer) (buffer : Buffer) (bytes : List Byte) :
    Holds (memory.write ⟨buffer, 0⟩ bytes) buffer bytes := by
  intro index byte at_index
  simp [Memory.write, at_index]

theorem Holds.write (holds : Holds memory buffer bytes) (apart : buffer ≠ other) :
    Holds (memory.write ⟨other, 0⟩ others) buffer bytes := by
  intro index byte at_index
  rw [write_other apart]
  exact holds index byte at_index

theorem Holds.take (holds : Holds memory buffer bytes) (count : Nat) :
    Holds memory buffer (bytes.take count) := by
  intro index byte at_index
  rw [List.getElem?_take] at at_index
  split at at_index
  next => exact holds index byte at_index
  next => cases at_index

theorem Holds.read (holds : Holds memory buffer bytes) :
    memory.read (some ⟨buffer, 0⟩) bytes.length = bytes := by
  apply List.ext_getElem
  · simp [Memory.read]
  · intro index _ within
    have at_index := holds index _ (List.getElem?_eq_getElem within)
    simpa [Memory.read] using at_index

theorem Holds.byte {firmware : Firmware room} {obj : Ep0Object} {count index : Nat}
    (holds : Holds memory buffer ((firmware.content obj).take count)) (taken : index < count)
    (within : index < (firmware.content obj).length) :
    memory buffer index = firmware.byte obj index := by
  apply holds
  simp [Firmware.byte, taken, List.getElem?_eq_getElem within]

end Buffers

/-! ## The requests at the device -/

structure Alike (before after : Device) : Prop where
  devState : after.devState = before.devState
  address : after.address = before.address
  curConfiguration : after.curConfiguration = before.curConfiguration

theorem Settled.alike {config : Config} {firmware : Firmware room} {state : EnumState}
    {before after : Device} (settled : Settled config firmware state before)
    (alike : Alike before after) : Settled config firmware state after := by
  obtain ⟨devState, address, curConfiguration⟩ := alike
  cases state <;> simpa [Settled, Fresh, Assigned, Chosen, devState, address, curConfiguration]
    using settled

section Requests

variable {descriptors : Descriptors} {dev : Device} {reqData : Usbd.DevReqData}

theorem setup_of_answered {obj : Ep0Object} {count : Nat} (request : reqData.bRequest = 6)
    (answered : Otg.standardGetDescriptor descriptors { dev with ep0 := [] } reqData =
      (Device.ctrlInData { dev with ep0 := [] } obj count, true)) :
    (Otg.setup descriptors dev reqData).ep0 = [.inData obj count] ∧
      Alike dev (Otg.setup descriptors dev reqData) := by
  have result : Otg.standardReqeust descriptors { dev with ep0 := [] } reqData =
      (Device.ctrlInData { dev with ep0 := [] } obj count, true) := by
    rw [Otg.standardReqeust, request]
    exact answered
  rw [Otg.setup, result]
  exact ⟨rfl, rfl, rfl, rfl⟩

theorem setup_of_refused
    (refused : Otg.standardReqeust descriptors { dev with ep0 := [] } reqData =
      (Device.setStall { dev with ep0 := [] }, false)) :
    (Otg.setup descriptors dev reqData).ep0 = [.stall] ∧
      Alike dev (Otg.setup descriptors dev reqData) := by
  rw [Otg.setup, refused]
  exact ⟨rfl, rfl, rfl, rfl⟩

theorem setup_getDevice (descriptors : Descriptors) (dev : Device) (len : UInt16) :
    let after := Otg.setup descriptors dev (received (standardGetDescriptor .device 0 len).pack)
    after.ep0 = [.inData .deviceDesc (min len.toNat (available descriptors .deviceDesc))] ∧
      Alike dev after := by
  rw [← received_wLength true .device 6 0 1 0 len]
  exact setup_of_answered rfl rfl

theorem setup_getConfiguration (descriptors : Descriptors) (dev : Device) (len : UInt16) :
    let after := Otg.setup descriptors dev
      (received (standardGetDescriptor .configuration 0 len).pack)
    after.ep0 =
        [.inData .configurationDesc (min len.toNat (available descriptors .configurationDesc))] ∧
      Alike dev after := by
  rw [← received_wLength true .device 6 0 2 0 len]
  exact setup_of_answered rfl rfl

theorem setup_getString (descriptors : Descriptors) (dev : Device) (index : Byte) :
    let after := Otg.setup descriptors dev (received (getStringDesc index).pack)
    ((descriptors.stringDesc index).isSome ∧
        after.ep0 = [.inData (.stringDesc index)
          (min 0xFF (available descriptors (.stringDesc index)))] ∨
      ¬ (descriptors.stringDesc index).isSome ∧ after.ep0 = [.stall]) ∧ Alike dev after := by
  cases present : descriptors.stringDesc index with
  | none =>
    have refused := @setup_of_refused descriptors dev (received (getStringDesc index).pack) (by
      change Otg.standardGetDescriptor descriptors _ (received (getStringDesc index).pack) = _
      simp [Otg.standardGetDescriptor, received, getStringDesc, standardGetDescriptor,
        standardRequest, HostReqData.pack, DescType.toByte, present])
    exact ⟨.inr ⟨by simp, refused.1⟩, refused.2⟩
  | some size =>
    have whole : (received (getStringDesc index).pack).wLength = 0xFF :=
      received_wLength true .device 6 index 3 langId 0xFF
    have answered := @setup_of_answered descriptors dev (received (getStringDesc index).pack)
      (.stringDesc index) (min 0xFF size.toNat) rfl (by
        have string : (received (getStringDesc index).pack).wValue1.toNat = 3 := rfl
        have asked : (received (getStringDesc index).pack).wValue0 = index := rfl
        simp only [Otg.standardGetDescriptor, string, asked, present, whole])
    rw [available, present, Option.getD_some]
    exact ⟨.inl ⟨rfl, answered.1⟩, answered.2⟩

end Requests

section Own

variable {config : Config} (firmware : Firmware room) {dev : Device}

theorem setup_setAddress (early : dev.devState ≠ .configured) :
    let after := Otg.setup firmware.descriptors dev
      (received (standardSetAddress config.configuredAddress).pack)
    (config.configuredAddress < 127 ∧ after.ep0 = [.txStatus] ∧ Assigned config after) ∨
      (¬ config.configuredAddress < 127 ∧ after.ep0 = [.stall]) ∧ Alike dev after := by
  intro after
  by_cases small : config.configuredAddress < 127
  next =>
    have positive : config.configuredAddress ≠ 0 := by
      intro zero
      exact absurd config.configured.1 (by simp [zero])
    have valid : Otg.ValidAddress
        (received (standardSetAddress config.configuredAddress).pack) := by
      refine ⟨small, rfl, ?_⟩
      exact received_recipient ..
    have result : Otg.standardReqeust firmware.descriptors { dev with ep0 := [] }
        (received (standardSetAddress config.configuredAddress).pack) =
          ({ Device.ctrlTxStatus { dev with ep0 := [] } with
            devState := .address
            address := config.configuredAddress &&& 0x7F }, true) := by
      change Otg.standardSetAddress _ _ = _
      rw [Otg.standardSetAddress, if_pos valid]
      have early : (Device.ctrlTxStatus { dev with ep0 := [] }).devState ≠ .configured := early
      simp only [if_neg early]
      congr 2
      exact if_pos positive
    refine .inl ⟨small, ?_⟩
    simp only [after, Otg.setup, result, Assigned, configured_masked]
    exact ⟨rfl, trivial, trivial⟩
  next =>
    have refused := @setup_of_refused firmware.descriptors dev
      (received (standardSetAddress config.configuredAddress).pack) (by
        change Otg.standardSetAddress _ _ = _
        rw [Otg.standardSetAddress, if_neg fun valid => small valid.1])
    exact .inr ⟨⟨small, refused.1⟩, refused.2⟩

theorem setup_setConfiguration (assigned : dev.address = config.configuredAddress) :
    let after := Otg.setup firmware.descriptors dev
      (received (standardSetConfiguration firmware.bConfigurationValue).pack)
    after.ep0 = [.txStatus] ∧ Chosen config firmware after := by
  have valid : Otg.ValidConfiguration firmware.descriptors
      (received (standardSetConfiguration firmware.bConfigurationValue).pack) := by
    refine ⟨firmware.configurable.2, ?_⟩
    exact received_recipient ..
  have result : Otg.standardReqeust firmware.descriptors { dev with ep0 := [] }
      (received (standardSetConfiguration firmware.bConfigurationValue).pack) =
        (Device.ctrlTxStatus { dev with
          ep0 := []
          curConfiguration := firmware.bConfigurationValue
          devState := .configured }, true) := by
    change Otg.standardSetConfiguration _ _ _ = _
    have chosen : firmware.bConfigurationValue ≠ 0 := firmware.configurable.1
    rw [Otg.standardSetConfiguration, if_pos valid]
    change (Device.ctrlTxStatus { dev with
      ep0 := []
      curConfiguration := firmware.bConfigurationValue
      devState := if firmware.bConfigurationValue = 0 then .address else .configured }, true) = _
    rw [if_neg chosen]
  simp only [Otg.setup, result]
  exact ⟨rfl, rfl, assigned, rfl⟩

end Own

/-! ## What the host has read so far -/

theorem wTotalLength_toNat (memory : Memory Buffer) :
    (Descriptor.wTotalLength memory).toNat =
      (memory .configuration 2).toNat + 256 * (memory .configuration 3).toNat := by
  rw [← low_high, Descriptor.wTotalLength, low_word, high_word]

section Read

variable {config : Config} {firmware : Firmware room} {memory : Memory Buffer} {state : EnumState}

theorem Firmware.length_deviceDesc : (firmware.content .deviceDesc).length = 18 := by
  rw [firmware.length, available, firmware.deviceSize]
  rfl

theorem Knows.device (knows : Knows firmware memory state)
    (among : (.device, firmware.content .deviceDesc) ∈ firmware.known state) {index : Nat}
    (within : index < 18) : memory .device index = firmware.byte .deviceDesc index := by
  have holds := (knows _ _ among).take 18
  exact holds.byte within (firmware.length_deviceDesc ▸ within)

theorem Knows.configuration (knows : Knows firmware memory state)
    (among : (.configuration, (firmware.content .configurationDesc).take 9) ∈
      firmware.known state) {index : Nat} (within : index < 9) :
    memory .configuration index = firmware.byte .configurationDesc index :=
  (knows _ _ among).byte within (Nat.lt_of_lt_of_le within firmware.header)

theorem Knows.wTotalLength (knows : Knows firmware memory state)
    (among : (.configuration, (firmware.content .configurationDesc).take 9) ∈
      firmware.known state) :
    (Descriptor.wTotalLength memory).toNat = (firmware.content .configurationDesc).length := by
  rw [wTotalLength_toNat, knows.configuration among (by decide : 2 < 9),
    knows.configuration among (by decide : 3 < 9)]
  exact firmware.totalLength

/-- The device has taken the request of a state. -/
structure Accepted (config : Config) (firmware : Firmware room) (state : EnumState) (dev : Device) :
    Prop where
  granted : Granted config firmware state
  ep0 : dev.ep0 = [firmware.action state]
  settled : Settled config firmware state.next dev

def Took (config : Config) (firmware : Firmware room) (state : EnumState) (dev : Device) : Prop :=
  Accepted config firmware state dev ∨ (¬ Granted config firmware state ∧ dev.ep0 = [.stall])

theorem Abreast.alike {before after : Device} (abreast : Abreast config firmware state before)
    (alike : Alike before after) : Abreast config firmware state after :=
  abreast.imp (·.alike alike) (·.alike alike)

theorem setup_took {dev : Device} {reqData : HostReqData} (knows : Knows firmware memory state)
    (abreast : Abreast config firmware state dev)
    (requests : state.request config memory = some reqData) :
    let after := Otg.setup firmware.descriptors dev (received reqData.pack)
    Took config firmware state after ∧ Abreast config firmware state after := by
  intro after
  -- Reading changes nothing, so the device is where it was.
  have reads : ∀ {obj : Ep0Object} {count : Nat}, firmware.wanted state = some (obj, count) →
      Settled config firmware state = Settled config firmware state.next →
      Granted config firmware state →
      after.ep0 = [.inData obj (min count (available firmware.descriptors obj))] ∧
        Alike dev after →
      Took config firmware state after ∧ Abreast config firmware state after := by
    rintro obj count wanted same granted ⟨answered, alike⟩
    have stays := abreast.alike alike
    refine ⟨.inl ⟨granted, ?_, ?_⟩, stays⟩
    · rw [answered, Firmware.action, wanted]
    · exact stays.elim (same ▸ ·) id
  have strings : ∀ {index : Byte}, reqData = getStringDesc index →
      firmware.wanted state = some (.stringDesc index, 0xFF) →
      Settled config firmware state = Settled config firmware state.next →
      ((firmware.descriptors.stringDesc index).isSome ↔ Granted config firmware state) →
      Took config firmware state after ∧ Abreast config firmware state after := by
    rintro index rfl wanted same granted
    obtain ⟨⟨present, answered⟩ | refused, alike⟩ := setup_getString firmware.descriptors dev index
    · exact reads wanted same (granted.mp present) ⟨answered, alike⟩
    · exact ⟨.inr (refused.imp_left (mt granted.mpr)), abreast.alike alike⟩
  cases state with
  | idle => cases requests
  | configuredOk => cases requests
  | getDevDesc =>
    obtain rfl := Option.some.inj requests
    exact reads rfl rfl trivial (setup_getDevice ..)
  | getFullDevDesc =>
    obtain rfl := Option.some.inj requests
    exact reads rfl rfl trivial (setup_getDevice ..)
  | getCfgDesc =>
    obtain rfl := Option.some.inj requests
    exact reads rfl rfl trivial (setup_getConfiguration ..)
  | getFullCfgDesc =>
    obtain rfl := Option.some.inj requests
    have read := setup_getConfiguration firmware.descriptors dev (Descriptor.wTotalLength memory)
    rw [knows.wTotalLength (by simp [Firmware.known])] at read
    exact reads rfl rfl trivial read
  | getMfcStringDesc =>
    obtain rfl := Option.some.inj requests
    have index := knows.device (by simp [Firmware.known]) (by decide : 14 < 18)
    exact strings (congrArg getStringDesc index) rfl rfl .rfl
  | getProductStringDesc =>
    obtain rfl := Option.some.inj requests
    have index := knows.device (by simp [Firmware.known]) (by decide : 15 < 18)
    exact strings (congrArg getStringDesc index) rfl rfl .rfl
  | getSerialNumStringDesc =>
    rw [EnumState.request] at requests
    split at requests
    next present =>
      obtain rfl := Option.some.inj requests
      have index : _ = firmware.iSerialNumber :=
        knows.device (by simp [Firmware.known]) (by decide : 16 < 18)
      have named : firmware.iSerialNumber ≠ 0 := index ▸ present
      exact strings (congrArg getStringDesc index) rfl rfl (imp_iff_right named).symm
    next => cases requests
  | setAddr =>
    obtain rfl := Option.some.inj requests
    have early : dev.devState ≠ .configured := by
      obtain fresh | assigned := abreast
      · simp [fresh.1]
      · simp [assigned.1]
    obtain ⟨small, answered, assigned⟩ | ⟨refused, alike⟩ := setup_setAddress firmware early
    · exact ⟨.inl ⟨small, answered, assigned⟩, .inr assigned⟩
    · exact ⟨.inr refused, abreast.alike alike⟩
  | setConfiguration =>
    obtain rfl := Option.some.inj requests
    have assigned : dev.address = config.configuredAddress :=
      abreast.elim (·.2) (·.2.1)
    have value : Descriptor.bConfigurationValue memory = firmware.bConfigurationValue :=
      knows.configuration (by simp [Firmware.known]) (by decide)
    obtain ⟨answered, chosen⟩ := setup_setConfiguration firmware assigned
    rw [← value] at answered chosen
    exact ⟨.inl ⟨trivial, answered, chosen⟩, .inr chosen⟩

theorem request_reads {reqData : HostReqData} (knows : Knows firmware memory state)
    (requests : state.request config memory = some reqData) :
    if state.buffer.isSome then reqData.dirIn = true ∧ reqData.wLength ≠ 0
    else reqData.dirIn = false ∧ reqData.wLength = 0 := by
  cases state with
  | idle => cases requests
  | configuredOk => cases requests
  | getFullCfgDesc =>
    obtain rfl := Option.some.inj requests
    refine ⟨rfl, ?_⟩
    rw [standardGetDescriptor, standardRequest_wLength,
      knows.wTotalLength (by simp [Firmware.known])]
    exact Nat.ne_of_gt (Nat.lt_of_lt_of_le (by decide) firmware.header)
  | getSerialNumStringDesc =>
    rw [EnumState.request] at requests
    split at requests
    next =>
      obtain rfl := Option.some.inj requests
      exact ⟨rfl, by simp [getStringDesc, standardGetDescriptor, standardRequest_wLength]⟩
    next => cases requests
  | _ =>
    obtain rfl := Option.some.inj requests
    refine ⟨rfl, ?_⟩
    simp [getStringDesc, standardGetDescriptor, standardSetAddress, standardSetConfiguration,
      standardRequest_wLength]

theorem Knows.write {buffer : Buffer} (knows : Knows firmware memory state)
    (receives : state.buffer = some buffer) (bytes : List Byte) :
    Knows firmware (memory.write ⟨buffer, 0⟩ bytes) state := by
  intro known content among
  apply (knows known content among).write
  rintro rfl
  cases state <;> cases receives <;> simp [Firmware.known] at among

theorem Knows.complete {enum : Enum} (knows : Knows firmware enum.memory state)
    (got : ∀ buffer ∈ state.buffer, Holds enum.memory buffer (firmware.fetched state)) :
    Knows firmware (state.complete config enum).memory state.next := by
  have device := firmware.length_deviceDesc
  cases state with
  | getFullDevDesc =>
    intro buffer bytes among
    obtain ⟨rfl, rfl⟩ : buffer = .device ∧ bytes = firmware.content .deviceDesc := by
      simpa [Firmware.known, EnumState.next] using among
    have fetched : firmware.fetched .getFullDevDesc = firmware.content .deviceDesc :=
      List.take_of_length_le device.le
    exact fetched ▸ got .device rfl
  | getCfgDesc =>
    intro buffer bytes among
    obtain ⟨rfl, rfl⟩ | ⟨rfl, rfl⟩ : buffer = .device ∧ bytes = firmware.content .deviceDesc ∨
        buffer = .configuration ∧ bytes = (firmware.content .configurationDesc).take 9 := by
      simpa [Firmware.known, EnumState.next] using among
    · exact knows .device _ (by simp [Firmware.known])
    · exact got .configuration rfl
  | getFullCfgDesc =>
    -- The first nine bytes go where the first request had put them.
    have whole : Holds enum.memory .cfgDescBuf (firmware.content .configurationDesc) := by
      have fetched : firmware.fetched .getFullCfgDesc = firmware.content .configurationDesc :=
        List.take_of_length_le (Nat.le_refl _)
      exact fetched ▸ got .cfgDescBuf rfl
    have header : enum.memory.read (some ⟨.cfgDescBuf, 0⟩) 9 =
        (firmware.content .configurationDesc).take 9 := by
      have read := (whole.take 9).read
      rwa [List.length_take, Nat.min_eq_left firmware.header] at read
    intro buffer bytes among
    obtain ⟨rfl, rfl⟩ | ⟨rfl, rfl⟩ | ⟨rfl, rfl⟩ : buffer = .device ∧
          bytes = firmware.content .deviceDesc ∨
        buffer = .configuration ∧ bytes = (firmware.content .configurationDesc).take 9 ∨
        buffer = .cfgDescBuf ∧ bytes = firmware.content .configurationDesc := by
      simpa [Firmware.known, EnumState.next] using among
    · exact (knows .device _ (by simp [Firmware.known])).write (by decide)
    · rw [← header]
      exact Holds.written enum.memory .configuration _
    · exact whole.write (by decide)
  | idle | getDevDesc | setAddr => simp [Knows, Firmware.known, EnumState.next]
  | _ => exact knows

end Read

end ApmSdk.Usbh
