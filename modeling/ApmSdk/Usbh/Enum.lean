import ApmSdk.Usbh.CtrlXfer

set_option autoImplicit false

/-!
# Enumeration

The handlers of `usbh_enum.c` on the results of `USBH_ControlXferHandler`, and the order in
which a device is to be asked for its descriptors. What the walk over the configuration finds
behind its first descriptor is not part of the state here.
-/

namespace ApmSdk.Usbh

open Runs
open Usbd (Byte Memory Ptr)

-- `USBH_ENUM_STATE_T`.
inductive EnumState where
  | idle
  | getDevDesc
  | getFullDevDesc
  | setAddr
  | getCfgDesc
  | getFullCfgDesc
  | getMfcStringDesc
  | getProductStringDesc
  | getSerialNumStringDesc
  | setConfiguration
  | configuredOk
  deriving DecidableEq, Repr

-- `USBH_XFER_STATE_T`.
inductive Xfer where
  | start
  | waiting
  | ok
  deriving DecidableEq, Repr

-- The buffers of `USBH_Descriptor_T`.
inductive Buffer where
  | device
  | configuration
  | cfgDescBuf
  | stringBuf
  deriving DecidableEq, Repr

-- The constants of the application's `usb_config.h`.
structure Config where
  defaultAddress : Byte
  configuredAddress : Byte
  configured : 0 < configuredAddress ∧ configuredAddress < 128
  distinct : defaultAddress &&& 0x7F ≠ configuredAddress

-- The sizes of `cfgDescBuf` and `stringBuf`, from the same file.
structure BufLimits where
  cfgDescMaxLen : Nat
  stringDescMaxLen : Nat
  deriving DecidableEq, Repr

/-- The part of `g_usbHost` that the enumeration uses, with the device addresses of the two
control channels. -/
structure Enum where
  enumState : EnumState
  xferState : Xfer
  reqData : HostReqData
  maxPackSize : Nat
  devAddress : Byte
  outAddress : Byte
  inAddress : Byte
  memory : Memory Buffer

namespace Descriptor

variable (memory : Memory Buffer)

def bMaxPacketSize : Byte := memory .device 7
def iManufacturer : Byte := memory .device 14
def iProduct : Byte := memory .device 15
def iSerialNumber : Byte := memory .device 16
def bConfigurationValue : Byte := memory .configuration 5

def wTotalLength : UInt16 :=
  (memory .configuration 3).toUInt16 <<< 8 ||| (memory .configuration 2).toUInt16

end Descriptor

/-! ## The handlers of `ENUM_CoreHandler` -/

/-- What they have in common: the request is built, polled for, and started again unless it
completes. -/
def enumRequest (reqData : HostReqData) (complete : Enum → Enum) (ctrlState : CtrlState)
    (enum : Enum) : Enum :=
  match enum.xferState with
  | .start => { enum with reqData := reqData, xferState := .waiting }
  | .waiting =>
      match ctrlState with
      | .complete => complete { enum with xferState := .start }
      | .stall => { enum with xferState := .start }
      | .error => { enum with xferState := .start }
      | _ => enum
  | .ok => enum

def idleHandler (enum : Enum) : Enum := { enum with enumState := .getDevDesc }

/-- Both channels are opened again. -/
def Enum.completeDevDesc (enum : Enum) : Enum :=
  { enum with
    maxPackSize := (Descriptor.bMaxPacketSize enum.memory).toNat
    outAddress := enum.devAddress &&& 0x7F
    inAddress := enum.devAddress &&& 0x7F
    enumState := .setAddr }

def getDevDescHandler : CtrlState → Enum → Enum :=
  enumRequest (standardGetDescriptor .device 0 8) Enum.completeDevDesc

def getFullDevDescHandler : CtrlState → Enum → Enum :=
  enumRequest (standardGetDescriptor .device 0 18) fun enum => { enum with enumState := .getCfgDesc }

def Enum.completeAddress (config : Config) (enum : Enum) : Enum :=
  { enum with
    devAddress := config.configuredAddress
    outAddress := config.configuredAddress &&& 0x7F
    inAddress := config.configuredAddress &&& 0x7F
    enumState := .getFullDevDesc }

def setAddressHandler (config : Config) : CtrlState → Enum → Enum :=
  enumRequest (standardSetAddress config.configuredAddress) (Enum.completeAddress config)

def getConfigurationDescHandler : CtrlState → Enum → Enum :=
  enumRequest (standardGetDescriptor .configuration 0 9)
    fun enum => { enum with enumState := .getFullCfgDesc }

-- What the enumeration uses of `USBH_ParseCfgDesc`: its copy of the header. Whether its loop comes
-- to an end is a matter of the set.
def Enum.completeFullCfgDesc (enum : Enum) : Enum :=
  { enum with
    memory :=
      enum.memory.write ⟨.configuration, 0⟩ (enum.memory.read (some ⟨.cfgDescBuf, 0⟩) 9)
    enumState := .getMfcStringDesc }

def getFullConfigurationDescHandler (ctrlState : CtrlState) (enum : Enum) : Enum :=
  enumRequest (standardGetDescriptor .configuration 0 (Descriptor.wTotalLength enum.memory))
    Enum.completeFullCfgDesc ctrlState enum

def getStringDesc (index : Byte) : HostReqData := standardGetDescriptor .string index 0xFF

def getMFCStringHandler (ctrlState : CtrlState) (enum : Enum) : Enum :=
  enumRequest (getStringDesc (Descriptor.iManufacturer enum.memory))
    (fun enum => { enum with enumState := .getProductStringDesc }) ctrlState enum

def getProductStringHandler (ctrlState : CtrlState) (enum : Enum) : Enum :=
  enumRequest (getStringDesc (Descriptor.iProduct enum.memory))
    (fun enum => { enum with enumState := .getSerialNumStringDesc }) ctrlState enum

/-- Of the three string handlers only this one looks whether there is a string. -/
def getSerialNumStringHandler (ctrlState : CtrlState) (enum : Enum) : Enum :=
  if Descriptor.iSerialNumber enum.memory ≠ 0 then
    enumRequest (getStringDesc (Descriptor.iSerialNumber enum.memory))
      (fun enum => { enum with enumState := .setConfiguration }) ctrlState enum
  else { enum with xferState := .start, enumState := .setConfiguration }

def setConfigurationHandler (ctrlState : CtrlState) (enum : Enum) : Enum :=
  enumRequest (standardSetConfiguration (Descriptor.bConfigurationValue enum.memory))
    (fun enum => { enum with enumState := .configuredOk }) ctrlState enum

/-- `USBH_EnumHandler`; `ctrlState` is what `USBH_ControlXferHandler` returns if it is called.
The host has left the enumeration when it is configured. -/
def enumHandler (config : Config) (ctrlState : CtrlState) (enum : Enum) : Enum :=
  match enum.enumState with
  | .idle => idleHandler enum
  | .getDevDesc => getDevDescHandler ctrlState enum
  | .getFullDevDesc => getFullDevDescHandler ctrlState enum
  | .setAddr => setAddressHandler config ctrlState enum
  | .getCfgDesc => getConfigurationDescHandler ctrlState enum
  | .getFullCfgDesc => getFullConfigurationDescHandler ctrlState enum
  | .getMfcStringDesc => getMFCStringHandler ctrlState enum
  | .getProductStringDesc => getProductStringHandler ctrlState enum
  | .getSerialNumStringDesc => getSerialNumStringHandler ctrlState enum
  | .setConfiguration => setConfigurationHandler ctrlState enum
  | .configuredOk => enum

/-- The buffer that the data of the request go to. -/
def EnumState.buffer : EnumState → Option Buffer
  | .getDevDesc => some .device
  | .getFullDevDesc => some .device
  | .getCfgDesc => some .configuration
  | .getFullCfgDesc => some .cfgDescBuf
  | .getMfcStringDesc => some .stringBuf
  | .getProductStringDesc => some .stringBuf
  | .getSerialNumStringDesc => some .stringBuf
  | _ => none

/-! ## What an enumeration has done -/

/-- A request with the addresses of the two channels. -/
structure Attempt where
  reqData : HostReqData
  outAddress : Byte
  inAddress : Byte
  deriving DecidableEq, Repr

structure Ended where
  attempt : Attempt
  result : Result
  deriving DecidableEq, Repr

/-- The fields of the descriptors, as they were when the device had completed them. -/
structure Returned where
  iManufacturer : Byte
  iProduct : Byte
  iSerialNumber : Byte
  wTotalLength : UInt16
  bConfigurationValue : Byte
  deriving DecidableEq, Repr

/-- An enumeration with the requests that have ended, those begun since, and the fields that
the device has returned. -/
structure Enumeration where
  enum : Enum
  ended : List Ended
  opened : List Attempt
  returned : Returned

def Returned.note (returned : Returned) (memory : Memory Buffer) : EnumState → Returned
  | .getFullDevDesc =>
      { returned with
        iManufacturer := Descriptor.iManufacturer memory
        iProduct := Descriptor.iProduct memory
        iSerialNumber := Descriptor.iSerialNumber memory }
  | .getCfgDesc => { returned with wTotalLength := Descriptor.wTotalLength memory }
  | .getFullCfgDesc => { returned with bConfigurationValue := memory .cfgDescBuf 5 }
  | _ => returned

def Enumeration.poll (config : Config) (ctrlState : CtrlState) (run : Enumeration) :
    Enumeration :=
  let enum := enumHandler config ctrlState run.enum
  if run.enum.xferState = .waiting ∧ ctrlState.result ≠ .progress then
    { enum := enum
      ended := run.ended ++ run.opened.map (⟨·, ctrlState.result⟩)
      opened := []
      returned :=
        if ctrlState.result = .complete then
          run.returned.note run.enum.memory run.enum.enumState
        else run.returned }
  else if run.enum.xferState = .start ∧ enum.xferState = .waiting then
    { run with
      enum := enum
      opened := run.opened ++ [⟨enum.reqData, run.enum.outAddress, run.enum.inAddress⟩] }
  else { run with enum := enum }

inductive EnumLabel where
  | poll (ctrlState : CtrlState)
  /-- What has come of the data of the request so far. -/
  | receive (bytes : List Byte)
  deriving DecidableEq, Repr

def enumStep (config : Config) (run : Enumeration) : EnumLabel → Option Enumeration
  | .poll ctrlState =>
      if run.enum.enumState = .configuredOk then none else some (run.poll config ctrlState)
  | .receive bytes =>
      match run.enum.enumState.buffer with
      | some buffer =>
          if run.enum.xferState = .waiting ∧ bytes.length ≤ run.enum.reqData.wLength then
            some { run with
              enum := { run.enum with memory := run.enum.memory.write ⟨buffer, 0⟩ bytes } }
          else none
      | none => none

-- `USBH_DevAttachedHandler` has opened the channels; the buffers hold what they held.
def Enumeration.attached (config : Config) (memory : Memory Buffer) (ep0PacketSize : Nat)
    (reqData : HostReqData) : Enumeration where
  enum :=
    { enumState := .idle
      xferState := .start
      reqData := reqData
      maxPackSize := ep0PacketSize
      devAddress := config.defaultAddress
      outAddress := 0
      inAddress := 0
      memory := memory }
  ended := []
  opened := []
  returned := ⟨0, 0, 0, 0, 0⟩

/-! ## The order -/

def strings (indices : List Byte) : List HostReqData :=
  (indices.filter (· ≠ 0)).map getStringDesc

def described (config : Config) : List HostReqData :=
  [standardGetDescriptor .device 0 8, standardSetAddress config.configuredAddress,
    standardGetDescriptor .device 0 18, standardGetDescriptor .configuration 0 9]

def listed (config : Config) (returned : Returned) : List HostReqData :=
  described config ++ [standardGetDescriptor .configuration 0 returned.wTotalLength]

/-- The requests of an enumeration. -/
def plan (config : Config) (returned : Returned) : List HostReqData :=
  listed config returned ++
    strings [returned.iManufacturer, returned.iProduct, returned.iSerialNumber] ++
    [standardSetConfiguration returned.bConfigurationValue]

def completed (ended : List Ended) : List HostReqData :=
  (ended.filter (·.result = .complete)).map (·.attempt.reqData)

/-- The request is the next one, and goes to the assigned address once that is set. -/
structure Due (config : Config) (returned : Returned) (earlier : List Ended)
    (attempt : Attempt) : Prop where
  next : completed earlier ++ [attempt.reqData] <+: plan config returned
  same : attempt.inAddress = attempt.outAddress
  assigned : attempt.outAddress = config.configuredAddress ↔
    standardSetAddress config.configuredAddress ∈ completed earlier

structure Lawful (config : Config) (run : Enumeration) : Prop where
  prefix_plan : completed run.ended <+: plan config run.returned
  ended : ∀ earlier last later, run.ended = earlier ++ last :: later →
    Due config run.returned earlier last.attempt
  opened : ∀ attempt ∈ run.opened, Due config run.returned run.ended attempt ∧
    attempt.outAddress = run.enum.outAddress ∧ attempt.inAddress = run.enum.inAddress
  single : run.opened.length ≤ 1
  configured : run.enum.enumState = .configuredOk →
    completed run.ended = plan config run.returned

/-- A string handler that does not look is entered for a string that there is. -/
def Named (run : Enumeration) : EnumLabel → Prop
  | .poll _ => run.enum.xferState = .start →
      (run.enum.enumState = .getMfcStringDesc → Descriptor.iManufacturer run.enum.memory ≠ 0) ∧
      (run.enum.enumState = .getProductStringDesc → Descriptor.iProduct run.enum.memory ≠ 0)
  | .receive _ => True

instance (run : Enumeration) (label : EnumLabel) : Decidable (Named run label) := by
  unfold Named; split <;> infer_instance

/-! ## The handlers, by state -/

/-- The request that the handler of the state makes. -/
def EnumState.request (config : Config) (memory : Memory Buffer) : EnumState → Option HostReqData
  | .idle => none
  | .getDevDesc => some (standardGetDescriptor .device 0 8)
  | .getFullDevDesc => some (standardGetDescriptor .device 0 18)
  | .setAddr => some (standardSetAddress config.configuredAddress)
  | .getCfgDesc => some (standardGetDescriptor .configuration 0 9)
  | .getFullCfgDesc =>
      some (standardGetDescriptor .configuration 0 (Descriptor.wTotalLength memory))
  | .getMfcStringDesc => some (getStringDesc (Descriptor.iManufacturer memory))
  | .getProductStringDesc => some (getStringDesc (Descriptor.iProduct memory))
  | .getSerialNumStringDesc =>
      if Descriptor.iSerialNumber memory ≠ 0 then
        some (getStringDesc (Descriptor.iSerialNumber memory))
      else none
  | .setConfiguration => some (standardSetConfiguration (Descriptor.bConfigurationValue memory))
  | .configuredOk => none

def EnumState.complete (config : Config) : EnumState → Enum → Enum
  | .getDevDesc => Enum.completeDevDesc
  | .getFullDevDesc => fun enum => { enum with enumState := .getCfgDesc }
  | .setAddr => Enum.completeAddress config
  | .getCfgDesc => fun enum => { enum with enumState := .getFullCfgDesc }
  | .getFullCfgDesc => Enum.completeFullCfgDesc
  | .getMfcStringDesc => fun enum => { enum with enumState := .getProductStringDesc }
  | .getProductStringDesc => fun enum => { enum with enumState := .getSerialNumStringDesc }
  | .getSerialNumStringDesc => fun enum => { enum with enumState := .setConfiguration }
  | .setConfiguration => fun enum => { enum with enumState := .configuredOk }
  | _ => id

theorem enumHandler_request {config : Config} {enum : Enum} {reqData : HostReqData}
    (requests : enum.enumState.request config enum.memory = some reqData)
    (ctrlState : CtrlState) :
    enumHandler config ctrlState enum =
      enumRequest reqData (enum.enumState.complete config) ctrlState enum := by
  cases state : enum.enumState
  case idle => simp [EnumState.request, state] at requests
  case configuredOk => simp [EnumState.request, state] at requests
  case getSerialNumStringDesc =>
    rw [state, EnumState.request] at requests
    split at requests
    · next present =>
      obtain rfl := Option.some.inj requests
      simp [enumHandler, state, EnumState.complete, getSerialNumStringHandler, present]
    · cases requests
  all_goals
    rw [state, EnumState.request] at requests
    obtain rfl := Option.some.inj requests
    rw [enumHandler, state]
    rfl

section Request

variable {reqData : HostReqData} {complete : Enum → Enum} {ctrlState : CtrlState} {enum : Enum}

theorem enumRequest_start (start : enum.xferState = .start) :
    enumRequest reqData complete ctrlState enum =
      { enum with reqData := reqData, xferState := .waiting } := by
  simp only [enumRequest, start]

theorem enumRequest_progress (waiting : enum.xferState = .waiting)
    (result : ctrlState.result = .progress) :
    enumRequest reqData complete ctrlState enum = enum := by
  cases ctrlState <;> simp_all [enumRequest, CtrlState.result]

theorem enumRequest_failed (waiting : enum.xferState = .waiting)
    (result : ctrlState.result ≠ .progress) (incomplete : ctrlState.result ≠ .complete) :
    enumRequest reqData complete ctrlState enum = { enum with xferState := .start } := by
  cases ctrlState <;> simp_all [enumRequest, CtrlState.result]

theorem enumRequest_complete (waiting : enum.xferState = .waiting)
    (result : ctrlState.result = .complete) :
    enumRequest reqData complete ctrlState enum = complete { enum with xferState := .start } := by
  cases ctrlState <;> simp_all [enumRequest, CtrlState.result]

end Request

/-- The requests that have completed before the state. -/
def EnumState.done (config : Config) (returned : Returned) : EnumState → List HostReqData
  | .idle => []
  | .getDevDesc => []
  | .setAddr => (described config).take 1
  | .getFullDevDesc => (described config).take 2
  | .getCfgDesc => (described config).take 3
  | .getFullCfgDesc => described config
  | .getMfcStringDesc => listed config returned
  | .getProductStringDesc => listed config returned ++ strings [returned.iManufacturer]
  | .getSerialNumStringDesc =>
      listed config returned ++ strings [returned.iManufacturer, returned.iProduct]
  | .setConfiguration =>
      listed config returned ++
        strings [returned.iManufacturer, returned.iProduct, returned.iSerialNumber]
  | .configuredOk => plan config returned

structure SameStrings (memory : Memory Buffer) (returned : Returned) : Prop where
  manufacturer : Descriptor.iManufacturer memory = returned.iManufacturer
  product : Descriptor.iProduct memory = returned.iProduct
  serialNumber : Descriptor.iSerialNumber memory = returned.iSerialNumber

/-- What the memory still has of what was returned, as far as the rest of the enumeration
reads it. -/
def Kept (memory : Memory Buffer) (returned : Returned) : EnumState → Prop
  | .getCfgDesc => SameStrings memory returned
  | .getFullCfgDesc =>
      SameStrings memory returned ∧ Descriptor.wTotalLength memory = returned.wTotalLength
  | .getMfcStringDesc | .getProductStringDesc | .getSerialNumStringDesc | .setConfiguration =>
      SameStrings memory returned ∧
        Descriptor.bConfigurationValue memory = returned.bConfigurationValue
  | _ => True

theorem strings_append (first second : List Byte) :
    strings (first ++ second) = strings first ++ strings second := by
  simp [strings]

theorem strings_cons {index : Byte} (present : index ≠ 0) (rest : List Byte) :
    strings (index :: rest) = getStringDesc index :: strings rest := by
  simp [strings, present]

theorem strings_zero (rest : List Byte) : strings (0 :: rest) = strings rest := by
  simp [strings]

section Plan

variable {config : Config} {returned : Returned} {memory : Memory Buffer}

theorem described_prefix : described config <+: plan config returned :=
  ⟨_, rfl⟩

theorem listed_prefix : listed config returned <+: plan config returned :=
  ⟨_, (List.append_assoc ..).symm⟩

/-- The requests up to the strings in `before`, and the rest of them. -/
theorem plan_strings (before after : List Byte)
    (all : before ++ after =
      [returned.iManufacturer, returned.iProduct, returned.iSerialNumber]) :
    plan config returned = listed config returned ++ strings before ++
      (strings after ++ [standardSetConfiguration returned.bConfigurationValue]) := by
  rw [plan, ← all, strings_append]
  simp

theorem done_prefix (state : EnumState) : state.done config returned <+: plan config returned := by
  cases state
  case idle => exact List.nil_prefix
  case getDevDesc => exact List.nil_prefix
  case setAddr => exact (List.take_prefix _ _).trans described_prefix
  case getFullDevDesc => exact (List.take_prefix _ _).trans described_prefix
  case getCfgDesc => exact (List.take_prefix _ _).trans described_prefix
  case getFullCfgDesc => exact described_prefix
  case getMfcStringDesc => exact listed_prefix
  case getProductStringDesc => exact ⟨_, (plan_strings [_] [_, _] rfl).symm⟩
  case getSerialNumStringDesc => exact ⟨_, (plan_strings [_, _] [_] rfl).symm⟩
  case setConfiguration => exact List.prefix_append _ _
  case configuredOk => exact List.prefix_rfl

theorem request_due {state : EnumState} {reqData : HostReqData}
    (kept : Kept memory returned state)
    (manufacturer : state = .getMfcStringDesc → returned.iManufacturer ≠ 0)
    (product : state = .getProductStringDesc → returned.iProduct ≠ 0)
    (requests : state.request config memory = some reqData) :
    state.done config returned ++ [reqData] <+: plan config returned := by
  cases state
  case idle => cases requests
  case configuredOk => cases requests
  case getDevDesc =>
    obtain rfl := Option.some.inj requests
    exact ⟨_, rfl⟩
  case setAddr =>
    obtain rfl := Option.some.inj requests
    exact ⟨_, rfl⟩
  case getFullDevDesc =>
    obtain rfl := Option.some.inj requests
    exact ⟨_, rfl⟩
  case getCfgDesc =>
    obtain rfl := Option.some.inj requests
    exact ⟨_, rfl⟩
  case getFullCfgDesc =>
    obtain rfl := Option.some.inj requests
    rw [kept.2]
    exact listed_prefix
  case getMfcStringDesc =>
    obtain rfl := Option.some.inj requests
    rw [plan_strings [] [_, _, _] rfl, strings_cons (manufacturer rfl), kept.1.manufacturer]
    exact ⟨_, by simp [EnumState.done, strings]; rfl⟩
  case getProductStringDesc =>
    obtain rfl := Option.some.inj requests
    rw [plan_strings [_] [_, _] rfl, strings_cons (product rfl), kept.1.product]
    exact ⟨_, by simp [EnumState.done]; rfl⟩
  case getSerialNumStringDesc =>
    rw [EnumState.request] at requests
    split at requests
    · next present =>
      obtain rfl := Option.some.inj requests
      rw [kept.1.serialNumber] at present
      rw [plan_strings [_, _] [_] rfl, strings_cons present, kept.1.serialNumber]
      exact ⟨_, by simp [EnumState.done]; rfl⟩
    · cases requests
  case setConfiguration =>
    obtain rfl := Option.some.inj requests
    rw [kept.2]
    exact ⟨[], by simp [EnumState.done, plan]⟩

def EnumState.next : EnumState → EnumState
  | .idle => .getDevDesc
  | .getDevDesc => .setAddr
  | .setAddr => .getFullDevDesc
  | .getFullDevDesc => .getCfgDesc
  | .getCfgDesc => .getFullCfgDesc
  | .getFullCfgDesc => .getMfcStringDesc
  | .getMfcStringDesc => .getProductStringDesc
  | .getProductStringDesc => .getSerialNumStringDesc
  | .getSerialNumStringDesc => .setConfiguration
  | .setConfiguration => .configuredOk
  | .configuredOk => .configuredOk

theorem done_next {state : EnumState} {reqData : HostReqData}
    (kept : Kept memory returned state)
    (manufacturer : state = .getMfcStringDesc → returned.iManufacturer ≠ 0)
    (product : state = .getProductStringDesc → returned.iProduct ≠ 0)
    (requests : state.request config memory = some reqData) :
    state.next.done config (returned.note memory state) =
      state.done config returned ++ [reqData] := by
  cases state
  case idle => cases requests
  case configuredOk => cases requests
  case getSerialNumStringDesc =>
    rw [EnumState.request] at requests
    split at requests
    · next present =>
      obtain rfl := Option.some.inj requests
      rw [kept.1.serialNumber] at present
      have split : strings [returned.iManufacturer, returned.iProduct, returned.iSerialNumber] =
          strings [returned.iManufacturer, returned.iProduct] ++
            [getStringDesc returned.iSerialNumber] := by
        rw [show [returned.iManufacturer, returned.iProduct, returned.iSerialNumber] =
          [returned.iManufacturer, returned.iProduct] ++ [returned.iSerialNumber] from rfl,
          strings_append, strings_cons present]
        rfl
      simp [EnumState.next, EnumState.done, Returned.note, split, kept.1.serialNumber]
    · cases requests
  case getMfcStringDesc =>
    obtain rfl := Option.some.inj requests
    have single : strings [returned.iManufacturer] = [getStringDesc returned.iManufacturer] :=
      strings_cons (manufacturer rfl) []
    simp [EnumState.next, EnumState.done, Returned.note, single, kept.1.manufacturer]
  case getProductStringDesc =>
    obtain rfl := Option.some.inj requests
    have split : strings [returned.iManufacturer, returned.iProduct] =
        strings [returned.iManufacturer] ++ [getStringDesc returned.iProduct] := by
      rw [show [returned.iManufacturer, returned.iProduct] =
        [returned.iManufacturer] ++ [returned.iProduct] from rfl, strings_append,
        strings_cons (product rfl)]
      rfl
    simp [EnumState.next, EnumState.done, Returned.note, split, kept.1.product]
  case getFullCfgDesc =>
    obtain rfl := Option.some.inj requests
    rw [kept.2]
    rfl
  case setConfiguration =>
    obtain rfl := Option.some.inj requests
    rw [kept.2]
    rfl
  all_goals
    obtain rfl := Option.some.inj requests
    rfl

/-- Without a serial number there is nothing to ask for. -/
theorem done_skipped (absent : returned.iSerialNumber = 0) :
    EnumState.done config returned .setConfiguration =
      EnumState.done config returned .getSerialNumStringDesc := by
  have split : strings [returned.iManufacturer, returned.iProduct, returned.iSerialNumber] =
      strings [returned.iManufacturer, returned.iProduct] := by
    rw [show [returned.iManufacturer, returned.iProduct, returned.iSerialNumber] =
      [returned.iManufacturer, returned.iProduct] ++ [returned.iSerialNumber] from rfl,
      strings_append, absent, strings_zero]
    simp [strings]
  exact congrArg (listed config returned ++ ·) split

theorem write_other {buffer other : Buffer} (different : other ≠ buffer) (bytes : List Byte)
    (index : Nat) : memory.write ⟨buffer, 0⟩ bytes other index = memory other index := by
  simp [Memory.write, different]

theorem SameStrings.write {buffer : Buffer} (same : SameStrings memory returned)
    (other : buffer ≠ .device) (bytes : List Byte) :
    SameStrings (memory.write ⟨buffer, 0⟩ bytes) returned where
  manufacturer := (write_other other.symm bytes 14).trans same.manufacturer
  product := (write_other other.symm bytes 15).trans same.product
  serialNumber := (write_other other.symm bytes 16).trans same.serialNumber

/-- The data of a request do not go where the rest of the enumeration reads. -/
theorem Kept.write {state : EnumState} {buffer : Buffer} (kept : Kept memory returned state)
    (receives : state.buffer = some buffer) (bytes : List Byte) :
    Kept (memory.write ⟨buffer, 0⟩ bytes) returned state := by
  cases state
  case getCfgDesc =>
    obtain rfl := Option.some.inj receives
    exact SameStrings.write kept (by decide) bytes
  case getFullCfgDesc =>
    obtain rfl := Option.some.inj receives
    exact ⟨kept.1.write (by decide) bytes, kept.2⟩
  case getMfcStringDesc =>
    obtain rfl := Option.some.inj receives
    exact ⟨kept.1.write (by decide) bytes, kept.2⟩
  case getProductStringDesc =>
    obtain rfl := Option.some.inj receives
    exact ⟨kept.1.write (by decide) bytes, kept.2⟩
  case getSerialNumStringDesc =>
    obtain rfl := Option.some.inj receives
    exact ⟨kept.1.write (by decide) bytes, kept.2⟩
  case setConfiguration => cases receives
  all_goals trivial

theorem request_write {state : EnumState} {buffer : Buffer}
    (receives : state.buffer = some buffer) (offset : Nat) (bytes : List Byte) :
    state.request config (memory.write ⟨buffer, offset⟩ bytes) = state.request config memory := by
  cases state <;> cases receives <;> rfl

theorem Kept.complete {state : EnumState} {reqData : HostReqData} {enum : Enum}
    (kept : Kept enum.memory returned state)
    (requests : state.request config enum.memory = some reqData) :
    Kept (state.complete config enum).memory (returned.note enum.memory state) state.next := by
  cases state
  case idle => cases requests
  case getFullDevDesc => exact ⟨rfl, rfl, rfl⟩
  case getCfgDesc => exact ⟨⟨kept.manufacturer, kept.product, kept.serialNumber⟩, rfl⟩
  case getFullCfgDesc =>
    refine ⟨⟨?_, ?_, ?_⟩, ?_⟩
    · exact (kept.1.write (by decide) _).manufacturer
    · exact (kept.1.write (by decide) _).product
    · exact (kept.1.write (by decide) _).serialNumber
    · rfl
  all_goals first
    | exact kept
    | trivial

end Plan

/-! ## Histories -/

theorem completed_append (first second : List Ended) :
    completed (first ++ second) = completed first ++ completed second := by
  simp [completed]

theorem completed_snoc (ended : List Ended) (attempt : Attempt) (result : Result) :
    completed (ended ++ [⟨attempt, result⟩]) =
      completed ended ++ if result = .complete then [attempt.reqData] else [] := by
  rw [completed_append]
  cases result <;> simp [completed]

section History

variable {config : Config} {returned : Returned}

/-- Each request was due. -/
def History (config : Config) (returned : Returned) (ended : List Ended) : Prop :=
  ∀ earlier last later, ended = earlier ++ last :: later →
    Due config returned earlier last.attempt

theorem History.snoc {ended : List Ended} {attempt : Attempt} (result : Result)
    (history : History config returned ended) (due : Due config returned ended attempt) :
    History config returned (ended ++ [⟨attempt, result⟩]) := by
  intro earlier last later split
  rcases later.eq_nil_or_concat with rfl | ⟨front, final, rfl⟩
  · obtain ⟨rfl, same⟩ := List.append_inj' split rfl
    obtain rfl := List.singleton_inj.mp same
    exact due
  · rw [List.concat_eq_append, ← List.cons_append, ← List.append_assoc] at split
    obtain ⟨whole, _⟩ := List.append_inj' split rfl
    exact history earlier last front whole

theorem Due.of_common {noted : Returned} {common : List HostReqData} {ended : List Ended}
    {attempt : Attempt} (before : common <+: plan config returned)
    (after : common <+: plan config noted) (short : (completed ended).length < common.length)
    (due : Due config returned ended attempt) : Due config noted ended attempt where
  next := by
    have within : completed ended ++ [attempt.reqData] <+: common := by
      apply List.prefix_of_prefix_length_le due.next before
      simpa using Nat.succ_le_of_lt short
    exact within.trans after
  same := due.same
  assigned := due.assigned

/-- What a request returns does not change what was due until then. -/
theorem Due.noted {state : EnumState} {memory : Memory Buffer} {ended : List Ended}
    {attempt : Attempt}
    (sofar : (completed ended).length ≤ (state.done config returned).length)
    (due : Due config returned ended attempt) :
    Due config (returned.note memory state) ended attempt := by
  cases state
  case getFullDevDesc =>
    exact due.of_common described_prefix described_prefix
      (Nat.lt_of_le_of_lt sofar (by simp [EnumState.done, described]))
  case getCfgDesc =>
    exact due.of_common described_prefix described_prefix
      (Nat.lt_of_le_of_lt sofar (by simp [EnumState.done, described]))
  case getFullCfgDesc =>
    have before : listed config returned <+: plan config returned := listed_prefix
    have after : listed config (returned.note memory .getFullCfgDesc) <+:
        plan config (returned.note memory .getFullCfgDesc) := listed_prefix
    exact due.of_common before after
      (Nat.lt_of_le_of_lt sofar (by simp [EnumState.done, listed]))
  all_goals exact due

theorem History.noted {state : EnumState} {memory : Memory Buffer} {ended : List Ended}
    (sofar : (completed ended).length ≤ (state.done config returned).length)
    (history : History config returned ended) :
    History config (returned.note memory state) ended := by
  intro earlier last later split
  apply (history earlier last later split).noted
  apply Nat.le_trans _ sofar
  rw [split, completed_append]
  simp

end History

/-! ## One step -/

/-- The addresses of the channels, before and after they are assigned. -/
structure Addressed (config : Config) (enum : Enum) (done : List HostReqData) : Prop where
  same : enum.inAddress = enum.outAddress
  assigned : enum.outAddress = config.configuredAddress ↔
    standardSetAddress config.configuredAddress ∈ done
  pending : standardSetAddress config.configuredAddress ∉ done →
    enum.devAddress = config.defaultAddress

structure Enumeration.Inv (config : Config) (run : Enumeration) : Prop where
  done : completed run.ended = run.enum.enumState.done config run.returned
  history : History config run.returned run.ended
  quiet : run.enum.xferState = .start → run.opened = []
  busy : run.enum.xferState = .waiting → ∃ reqData,
    run.enum.enumState.request config run.enum.memory = some reqData ∧
      run.opened = [⟨reqData, run.enum.outAddress, run.enum.inAddress⟩] ∧
      (run.enum.enumState = .getMfcStringDesc → run.returned.iManufacturer ≠ 0) ∧
      (run.enum.enumState = .getProductStringDesc → run.returned.iProduct ≠ 0)
  inProgress : run.enum.xferState ≠ .ok
  addressed : Addressed config run.enum (completed run.ended)
  kept : Kept run.enum.memory run.returned run.enum.enumState

section Steps

variable {config : Config} {run : Enumeration}

theorem Enumeration.Inv.due {reqData : HostReqData} (inv : run.Inv config)
    (requests : run.enum.enumState.request config run.enum.memory = some reqData)
    (manufacturer : run.enum.enumState = .getMfcStringDesc → run.returned.iManufacturer ≠ 0)
    (product : run.enum.enumState = .getProductStringDesc → run.returned.iProduct ≠ 0) :
    Due config run.returned run.ended ⟨reqData, run.enum.outAddress, run.enum.inAddress⟩ where
  next := by
    rw [inv.done]
    exact request_due inv.kept manufacturer product requests
  same := inv.addressed.same
  assigned := inv.addressed.assigned

theorem Enumeration.Inv.lawful (inv : run.Inv config) : Lawful config run := by
  have opened : run.opened = [] ∨ ∃ reqData,
      run.opened = [⟨reqData, run.enum.outAddress, run.enum.inAddress⟩] ∧
      Due config run.returned run.ended ⟨reqData, run.enum.outAddress, run.enum.inAddress⟩ := by
    cases xfer : run.enum.xferState with
    | start => exact .inl (inv.quiet xfer)
    | waiting =>
      obtain ⟨reqData, requests, opened, manufacturer, product⟩ := inv.busy xfer
      exact .inr ⟨reqData, opened, inv.due requests manufacturer product⟩
    | ok => exact absurd xfer inv.inProgress
  constructor
  case prefix_plan =>
    rw [inv.done]
    exact done_prefix _
  case ended => exact inv.history
  case opened =>
    intro attempt member
    rcases opened with none | ⟨reqData, one, due⟩
    · rw [none] at member
      cases member
    · rw [one] at member
      obtain rfl := List.mem_singleton.mp member
      exact ⟨due, rfl, rfl⟩
  case single =>
    rcases opened with none | ⟨_, one, _⟩
    · simp [none]
    · simp [one]
  case configured =>
    intro configured
    rw [inv.done, configured]
    rfl

theorem Enumeration.Inv.receive {bytes : List Byte} {next : Enumeration} (inv : run.Inv config)
    (taken : enumStep config run (.receive bytes) = some next) : next.Inv config := by
  rw [enumStep] at taken
  split at taken
  case h_2 => cases taken
  case h_1 buffer receives =>
    split at taken
    case isFalse => cases taken
    obtain rfl := Option.some.inj taken
    constructor
    case done => exact inv.done
    case history => exact inv.history
    case quiet => exact inv.quiet
    case busy =>
      intro waiting
      obtain ⟨reqData, requests, opened, strings⟩ := inv.busy waiting
      exact ⟨reqData, (request_write receives 0 bytes).trans requests, opened, strings⟩
    case inProgress => exact inv.inProgress
    case addressed => exact ⟨inv.addressed.same, inv.addressed.assigned, inv.addressed.pending⟩
    case kept => exact inv.kept.write receives bytes

theorem poll_start {reqData : HostReqData} (ctrlState : CtrlState)
    (requests : run.enum.enumState.request config run.enum.memory = some reqData)
    (start : run.enum.xferState = .start) :
    run.poll config ctrlState =
      { run with
        enum := { run.enum with reqData := reqData, xferState := .waiting }
        opened := run.opened ++ [⟨reqData, run.enum.outAddress, run.enum.inAddress⟩] } := by
  have handled : enumHandler config ctrlState run.enum =
      { run.enum with reqData := reqData, xferState := .waiting } := by
    rw [enumHandler_request requests, enumRequest_start start]
  simp [Enumeration.poll, handled, start]

/-- A result of a request in progress, `enum` being what the handler makes of it. -/
theorem poll_result {ctrlState : CtrlState} (waiting : run.enum.xferState = .waiting)
    (result : ctrlState.result ≠ .progress) :
    run.poll config ctrlState =
      { enum := enumHandler config ctrlState run.enum
        ended := run.ended ++ run.opened.map (⟨·, ctrlState.result⟩)
        opened := []
        returned :=
          if ctrlState.result = .complete then
            run.returned.note run.enum.memory run.enum.enumState
          else run.returned } := by
  simp [Enumeration.poll, waiting, result]

theorem poll_progress {reqData : HostReqData} {ctrlState : CtrlState}
    (requests : run.enum.enumState.request config run.enum.memory = some reqData)
    (waiting : run.enum.xferState = .waiting) (result : ctrlState.result = .progress) :
    run.poll config ctrlState = run := by
  have handled : enumHandler config ctrlState run.enum = run.enum := by
    rw [enumHandler_request requests, enumRequest_progress waiting result]
  simp [Enumeration.poll, handled, waiting, result]

theorem Enumeration.Inv.start {reqData : HostReqData} (inv : run.Inv config)
    (ctrlState : CtrlState)
    (requests : run.enum.enumState.request config run.enum.memory = some reqData)
    (start : run.enum.xferState = .start) (named : Named run (.poll ctrlState)) :
    (run.poll config ctrlState).Inv config := by
  obtain ⟨manufacturer, product⟩ := named start
  rw [poll_start ctrlState requests start, inv.quiet start]
  constructor
  case done => exact inv.done
  case history => exact inv.history
  case quiet => exact fun absurd => by cases absurd
  case busy =>
    refine fun _ => ⟨reqData, requests, rfl, fun state => ?_, fun state => ?_⟩
    · have kept := inv.kept
      rw [state] at kept
      exact kept.1.manufacturer ▸ manufacturer state
    · have kept := inv.kept
      rw [state] at kept
      exact kept.1.product ▸ product state
  case inProgress => exact fun absurd => by cases absurd
  case addressed => exact ⟨inv.addressed.same, inv.addressed.assigned, inv.addressed.pending⟩
  case kept => exact inv.kept

theorem Enumeration.Inv.failed {ctrlState : CtrlState} (inv : run.Inv config)
    (waiting : run.enum.xferState = .waiting) (result : ctrlState.result ≠ .progress)
    (incomplete : ctrlState.result ≠ .complete) : (run.poll config ctrlState).Inv config := by
  obtain ⟨reqData, requests, opened, manufacturer, product⟩ := inv.busy waiting
  have handled : enumHandler config ctrlState run.enum = { run.enum with xferState := .start } := by
    rw [enumHandler_request requests, enumRequest_failed waiting result incomplete]
  have unchanged : completed (run.ended ++ run.opened.map (⟨·, ctrlState.result⟩)) =
      completed run.ended := by
    rw [opened, List.map_singleton, completed_snoc, if_neg incomplete, List.append_nil]
  rw [poll_result waiting result, handled, if_neg incomplete]
  constructor
  case done => exact unchanged.trans inv.done
  case history =>
    rw [opened]
    exact inv.history.snoc _ (inv.due requests manufacturer product)
  case quiet => exact fun _ => rfl
  case busy => exact fun absurd => by cases absurd
  case inProgress => exact fun absurd => by cases absurd
  case addressed =>
    rw [unchanged]
    exact ⟨inv.addressed.same, inv.addressed.assigned, inv.addressed.pending⟩
  case kept => exact inv.kept

theorem complete_enumState {state : EnumState} {memory : Memory Buffer} {reqData : HostReqData}
    (requests : state.request config memory = some reqData) (enum : Enum) :
    (state.complete config enum).enumState = state.next ∧
      (state.complete config enum).xferState = enum.xferState := by
  cases state
  case idle => cases requests
  case configuredOk => cases requests
  all_goals exact ⟨rfl, rfl⟩

theorem setAddress_ne {state : EnumState} {memory : Memory Buffer} {reqData : HostReqData}
    (requests : state.request config memory = some reqData) (other : state ≠ .setAddr) :
    standardSetAddress config.configuredAddress ≠ reqData := by
  cases state
  case setAddr => exact absurd rfl other
  case idle => cases requests
  case configuredOk => cases requests
  case getSerialNumStringDesc =>
    rw [EnumState.request] at requests
    split at requests
    · obtain rfl := Option.some.inj requests
      simp [standardSetAddress, getStringDesc, standardGetDescriptor, standardRequest]
    · cases requests
  all_goals
    obtain rfl := Option.some.inj requests
    simp [standardSetAddress, getStringDesc, standardGetDescriptor, standardSetConfiguration,
      standardRequest]

theorem configured_masked (config : Config) :
    config.configuredAddress &&& 0x7F = config.configuredAddress := by
  have below : config.configuredAddress.toNat < 2 ^ 7 := UInt8.lt_iff_toNat_lt.mp config.configured.2
  apply UInt8.toNat_inj.mp
  rw [UInt8.toNat_and]
  exact (Nat.and_two_pow_sub_one_eq_mod _ 7).trans (Nat.mod_eq_of_lt below)

theorem Addressed.complete {state : EnumState} {enum : Enum} {reqData : HostReqData}
    {done : List HostReqData} (addressed : Addressed config enum done)
    (requests : state.request config enum.memory = some reqData)
    (first : state = .getDevDesc → done = []) :
    Addressed config (state.complete config enum) (done ++ [reqData]) := by
  by_cases assigning : state = .setAddr
  · subst assigning
    obtain rfl := Option.some.inj requests
    have now : (Enum.completeAddress config enum).outAddress = config.configuredAddress :=
      configured_masked config
    exact ⟨rfl, by simp [now, EnumState.complete], by simp⟩
  · have same : standardSetAddress config.configuredAddress ∈ done ++ [reqData] ↔
        standardSetAddress config.configuredAddress ∈ done := by
      simp [setAddress_ne requests assigning]
    by_cases opening : state = .getDevDesc
    · subst opening
      have pending : standardSetAddress config.configuredAddress ∉ done := by simp [first rfl]
      have default := addressed.pending pending
      refine ⟨rfl, ?_, fun _ => default⟩
      rw [same]
      refine iff_of_false ?_ pending
      change enum.devAddress &&& 0x7F ≠ config.configuredAddress
      rw [default]
      exact config.distinct
    · have unchanged : (state.complete config enum).outAddress = enum.outAddress ∧
          (state.complete config enum).inAddress = enum.inAddress ∧
          (state.complete config enum).devAddress = enum.devAddress := by
        cases state <;> first | exact ⟨rfl, rfl, rfl⟩ | exact absurd rfl assigning |
          exact absurd rfl opening
      obtain ⟨out, input, device⟩ := unchanged
      refine ⟨by rw [out, input, addressed.same], ?_, ?_⟩
      · rw [out, same]
        exact addressed.assigned
      · rw [device, same]
        exact addressed.pending

theorem Enumeration.Inv.complete {ctrlState : CtrlState} (inv : run.Inv config)
    (waiting : run.enum.xferState = .waiting) (result : ctrlState.result = .complete) :
    (run.poll config ctrlState).Inv config := by
  obtain ⟨reqData, requests, opened, manufacturer, product⟩ := inv.busy waiting
  have finished : ctrlState.result ≠ .progress := by simp [result]
  rw [poll_result waiting finished, enumHandler_request requests,
    enumRequest_complete waiting result, if_pos result, opened, List.map_singleton, result]
  obtain ⟨state, xfer⟩ := complete_enumState requests { run.enum with xferState := .start }
  have sofar : (completed run.ended).length ≤
      (run.enum.enumState.done config run.returned).length := by rw [inv.done]
  have all : completed (run.ended ++
      [⟨⟨reqData, run.enum.outAddress, run.enum.inAddress⟩, .complete⟩]) =
      completed run.ended ++ [reqData] := completed_snoc ..
  constructor
  case done =>
    rw [all, inv.done]
    simp only [state]
    exact (done_next inv.kept manufacturer product requests).symm
  case history =>
    exact (inv.history.noted sofar).snoc _ ((inv.due requests manufacturer product).noted sofar)
  case quiet => exact fun _ => rfl
  case busy =>
    intro absurd
    simp only [xfer] at absurd
    cases absurd
  case inProgress =>
    simp only [xfer]
    exact fun absurd => by cases absurd
  case addressed =>
    rw [all]
    refine Addressed.complete ?_ requests fun first => ?_
    · exact ⟨inv.addressed.same, inv.addressed.assigned, inv.addressed.pending⟩
    · rw [inv.done, first]
      rfl
  case kept =>
    simp only [state]
    exact Kept.complete inv.kept requests

/-- A state without a request is left at once. -/
theorem Enumeration.Inv.silent {ctrlState : CtrlState} (inv : run.Inv config)
    (none : run.enum.enumState.request config run.enum.memory = .none)
    (unfinished : run.enum.enumState ≠ .configuredOk) :
    (run.poll config ctrlState).Inv config := by
  have start : run.enum.xferState = .start := by
    cases xfer : run.enum.xferState with
    | start => rfl
    | waiting =>
      obtain ⟨_, requests, _⟩ := inv.busy xfer
      rw [none] at requests
      cases requests
    | ok => exact absurd xfer inv.inProgress
  have handled : enumHandler config ctrlState run.enum =
      { run.enum with enumState := run.enum.enumState.next } := by
    cases state : run.enum.enumState
    case idle => simp [enumHandler, state, idleHandler, EnumState.next]
    case configuredOk => exact absurd state unfinished
    case getSerialNumStringDesc =>
      rw [state, EnumState.request] at none
      split at none
      · cases none
      · next absent => simp [enumHandler, state, getSerialNumStringHandler, absent, start,
          EnumState.next]
    all_goals
      rw [state] at none
      cases none
  have polled : run.poll config ctrlState =
      { run with enum := { run.enum with enumState := run.enum.enumState.next } } := by
    simp [Enumeration.poll, handled, start]
  have skipped : run.enum.enumState.next.done config run.returned =
        run.enum.enumState.done config run.returned ∧
      Kept run.enum.memory run.returned run.enum.enumState.next := by
    have kept := inv.kept
    cases state : run.enum.enumState
    case idle => exact ⟨rfl, trivial⟩
    case configuredOk => exact absurd state unfinished
    case getSerialNumStringDesc =>
      rw [state] at kept none
      rw [EnumState.request] at none
      split at none
      · cases none
      · next absent =>
        rw [kept.1.serialNumber, ne_eq, not_not] at absent
        exact ⟨done_skipped absent, kept⟩
    all_goals
      rw [state] at none
      cases none
  rw [polled]
  constructor
  case done => exact inv.done.trans skipped.1.symm
  case history => exact inv.history
  case quiet => exact inv.quiet
  case busy =>
    intro waiting
    have absurd := start.symm.trans waiting
    cases absurd
  case inProgress => exact inv.inProgress
  case addressed => exact ⟨inv.addressed.same, inv.addressed.assigned, inv.addressed.pending⟩
  case kept => exact skipped.2

theorem Enumeration.Inv.step {label : EnumLabel} {next : Enumeration} (inv : run.Inv config)
    (named : Named run label) (taken : enumStep config run label = some next) :
    next.Inv config := by
  cases label with
  | receive bytes => exact inv.receive taken
  | poll ctrlState =>
    rw [enumStep] at taken
    split at taken
    · cases taken
    · next unfinished =>
      obtain rfl := Option.some.inj taken
      cases requests : run.enum.enumState.request config run.enum.memory with
      | none => exact inv.silent requests unfinished
      | some reqData =>
        cases xfer : run.enum.xferState with
        | start => exact inv.start ctrlState requests xfer named
        | ok => exact absurd xfer inv.inProgress
        | waiting =>
          by_cases progress : ctrlState.result = .progress
          · rw [poll_progress requests xfer progress]
            exact inv
          · by_cases complete : ctrlState.result = .complete
            · exact inv.complete xfer complete
            · exact inv.failed xfer progress complete

/-- Another string than the next one is not due: the string with index 0 never is. -/
theorem getStringDesc_zero_not_next (after : List Byte) (value : Byte) :
    ¬ [getStringDesc 0] <+: strings after ++ [standardSetConfiguration value] := by
  induction after with
  | nil =>
    intro first
    obtain ⟨_, equal⟩ := first
    have same := (List.cons.inj equal).1
    simp [getStringDesc, standardGetDescriptor, standardSetConfiguration, standardRequest] at same
  | cons index rest ih =>
    by_cases absent : index = 0
    · rw [absent, strings_zero]
      exact ih
    · rw [strings_cons absent]
      intro first
      obtain ⟨_, equal⟩ := first
      have same := (List.cons.inj equal).1
      simp only [getStringDesc, standardGetDescriptor, standardRequest, HostReqData.mk.injEq]
        at same
      exact absent same.2.2.2.2.1.symm

theorem not_due_zero {before after : List Byte} {ended : List Ended} {attempt : Attempt}
    {returned : Returned}
    (all : before ++ after =
      [returned.iManufacturer, returned.iProduct, returned.iSerialNumber])
    (done : completed ended = listed config returned ++ strings before)
    (zero : attempt.reqData = getStringDesc 0) : ¬ Due config returned ended attempt := by
  intro due
  have next := due.next
  rw [done, zero, plan_strings before after all, List.prefix_append_right_inj] at next
  exact getStringDesc_zero_not_next after _ next

theorem not_lawful_unnamed {label : EnumLabel} {next : Enumeration} (inv : run.Inv config)
    (taken : enumStep config run label = some next) (unnamed : ¬ Named run label) :
    ¬ Lawful config next := by
  intro lawful
  cases label with
  | receive => exact unnamed trivial
  | poll ctrlState =>
    simp only [Named, Classical.not_imp] at unnamed
    obtain ⟨start, unnamed⟩ := unnamed
    obtain ⟨absent, state⟩ | ⟨absent, state⟩ :
        (Descriptor.iManufacturer run.enum.memory = 0 ∧
          run.enum.enumState = .getMfcStringDesc) ∨
        (Descriptor.iProduct run.enum.memory = 0 ∧
          run.enum.enumState = .getProductStringDesc) := by
      tauto
    all_goals
      have requests : run.enum.enumState.request config run.enum.memory =
          some (getStringDesc 0) := by
        rw [state, EnumState.request, absent]
      rw [enumStep, if_neg (by simp [state]), poll_start ctrlState requests start,
        inv.quiet start] at taken
      obtain rfl := Option.some.inj taken
      have due := (lawful.opened _ (List.mem_singleton.mpr rfl)).1
    · have done : completed run.ended = listed config run.returned ++ strings [] := by
        rw [inv.done, state]
        simp [EnumState.done, strings]
      exact @not_due_zero config [] _ _ _ _ rfl done rfl due
    · have done : completed run.ended =
          listed config run.returned ++ strings [run.returned.iManufacturer] := by
        rw [inv.done, state]
        rfl
      exact @not_due_zero config [_] [_, _] _ _ _ rfl done rfl due

theorem attached_inv (config : Config) (memory : Memory Buffer) (ep0PacketSize : Nat)
    (reqData : HostReqData) :
    (Enumeration.attached config memory ep0PacketSize reqData).Inv config where
  done := rfl
  history := fun earlier _ _ split => by simp [Enumeration.attached] at split
  quiet := fun _ => rfl
  busy := fun absurd => by cases absurd
  inProgress := fun absurd => by cases absurd
  addressed := by
    refine ⟨rfl, iff_of_false ?_ List.not_mem_nil, fun _ => rfl⟩
    exact (UInt8.ne_of_lt config.configured.1)
  kept := trivial

/-- In every run in which the two handlers find a string the requests are those of the plan, and
the steps after which this stays so are those in which they do. -/
theorem enumeration_lawful (config : Config) {memory : Memory Buffer} {ep0PacketSize : Nat}
    {reqData : HostReqData} {labels : List EnumLabel} {state : Enumeration}
    (run : Run (enumStep config) Named (.attached config memory ep0PacketSize reqData) labels
      state) :
    Lawful config state ∧ ∀ label next, enumStep config state label = some next →
      (Lawful config next ↔ Named state label) := by
  have inv := run.invariant (Enumeration.Inv config)
    (attached_inv config memory ep0PacketSize reqData)
    fun _ _ _ inv named taken => inv.step named taken
  refine ⟨inv.lawful, fun label next taken => ⟨fun lawful => ?_, fun named => ?_⟩⟩
  · by_contra unnamed
    exact not_lawful_unnamed inv taken unnamed lawful
  · exact (inv.step named taken).lawful

end Steps

def usualConfig : Config where
  defaultAddress := 0
  configuredAddress := 1
  configured := by decide
  distinct := by decide

/-- A device descriptor with a manufacturer and a product, but no serial number. -/
def namedDevice : List Byte := [18, 1, 0, 2, 0, 0, 0, 64, 0, 0, 0, 0, 0, 0, 1, 2, 0, 1]

def shortConfiguration : List Byte := [9, 2, 9, 0, 1, 1, 0, 0xC0, 50]

def namedEnumeration : List EnumLabel :=
  [.poll .setup, .poll .setup, .receive (namedDevice.take 8), .poll .complete,
    .poll .setup, .poll .stall, .poll .setup, .poll .complete,
    .poll .setup, .receive namedDevice, .poll .complete,
    .poll .setup, .receive shortConfiguration, .poll .complete,
    .poll .setup, .receive shortConfiguration, .poll .complete,
    .poll .setup, .poll .complete, .poll .setup, .poll .complete,
    .poll .setup, .poll .setup, .poll .complete]

theorem namedEnumeration_accepted :
    (execute (enumStep usualConfig) Named
      (.attached usualConfig (fun _ _ => 0) 64 getStandardConfiguration)
      namedEnumeration).isSome = true := by
  decide +kernel

theorem namedEnumeration_lawful :
    Lawful usualConfig (final (enumStep usualConfig) Named
      (.attached usualConfig (fun _ _ => 0) 64 getStandardConfiguration) namedEnumeration
      namedEnumeration_accepted) :=
  (enumeration_lawful usualConfig (Run.final (enumStep usualConfig) Named _ _
    namedEnumeration_accepted)).1

/-- A device whose descriptors are all zero, up to the first string. -/
def namelessEnumeration : List EnumLabel :=
  .poll .setup ::
    (List.replicate 5 [EnumLabel.poll .setup, EnumLabel.poll .complete]).flatten ++ [.poll .setup]

theorem namelessEnumeration_accepted :
    (execute (enumStep usualConfig) free
      (.attached usualConfig (fun _ _ => 0) 64 getStandardConfiguration)
      namelessEnumeration).isSome = true := by
  decide +kernel

/-- A manufacturer string is asked for that the device does not have. -/
theorem nameless_unlawful :
    ¬ ∀ (config : Config) (memory : Memory Buffer) (ep0PacketSize : Nat) (reqData : HostReqData)
      (labels : List EnumLabel) (state : Enumeration),
      Run (enumStep config) free (.attached config memory ep0PacketSize reqData) labels state →
      Lawful config state := by
  intro lawful
  have state := lawful usualConfig _ _ _ _ _
    (Run.final (enumStep usualConfig) free _ _ namelessEnumeration_accepted)
  have due := (state.opened ⟨getStringDesc 0, 1, 1⟩ (by decide +kernel)).1.next
  exact absurd due (by decide +kernel)

end ApmSdk.Usbh
