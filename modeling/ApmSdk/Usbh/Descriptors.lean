import ApmSdk.Lib.Runs
import ApmSdk.Lib.Slots
import ApmSdk.Usbd.Endpoint

set_option autoImplicit false

/-!
# What the host does with descriptors

`USBH_ParseCfgDesc`, the class initialisation of MSC, CDC and HID, the channels of
`usbh_channel.c` and the packet size by which a transfer is divided, for any bytes a device sends.
-/

namespace ApmSdk.Usbh

open Runs Slots
open Usbd (Byte)

-- The constants of the application's `usb_config.h`.
structure Limits where
  interfaceDescMaxNum : Nat
  endpointDescMaxNum : Nat
  ep0PacketSize : Nat
  ep0PacketSize_pos : 0 < ep0PacketSize

def channelMaxNum : Nat := 8
def hostChannelNum : Nat := 12

/-- The variables that hold a channel number: `outChannelNum` and `inChannelNum` of the control
transfers, and the two of the class driver. -/
inductive Holder where
  | control (dirIn : Bool)
  | data (dirIn : Bool)
  deriving DecidableEq, Repr

/-- What a step does that has to be in order: an index into `interface[]` or `epDesc[]`, the use
of a channel number with the owner its channel has, a channel freed, a division. -/
inductive Access where
  | itf (index : Nat)
  | endpoint (index : Nat)
  | channel (number : Nat) (holder : Holder) (owner : Option Holder)
  | freed (number : Nat)
  | division (maxPackSize : Nat)
  deriving DecidableEq, Repr

-- `USBH_Interface_T`, descriptors as bytes.
structure Interface where
  itfDesc : Nat → Byte
  epDesc : Nat → Nat → Byte

namespace Interface

variable (itf : Interface)

def bNumEndpoints : Nat := (itf.itfDesc 4).toNat
def bInterfaceClass : Byte := itf.itfDesc 5
def bInterfaceProtocol : Byte := itf.itfDesc 7

end Interface

namespace EndpointDesc

variable (epDesc : Nat → Byte)

def bEndpointAddress : Byte := epDesc 2
def bmAttributes : Byte := epDesc 3
def isIn : Bool := decide (bEndpointAddress epDesc &&& 0x80 ≠ 0)
def isBulk : Bool := decide (bmAttributes epDesc = 2)

-- `USBH_ReadEndpointMPS`.
def maxPackSize : Nat := (epDesc 4).toNat ||| (epDesc 5).toNat <<< 8

end EndpointDesc

-- `USBH_CopyBuffer`.
def copyBuffer (dest source : Nat → Byte) (len : Nat) : Nat → Byte :=
  fun offset => if offset < len then source offset else dest offset

-- The loop of `USBH_ParseCfgDesc` between two rounds.
structure Parser where
  parseBuf : Nat → Byte
  parseIndex : Nat
  itfIndex : Nat
  epIndex : Nat

def Parser.totalLen (parser : Parser) : Nat :=
  (parser.parseBuf 3).toNat <<< 8 ||| (parser.parseBuf 2).toNat

def Parser.desc (parser : Parser) : Nat → Byte :=
  fun offset => parser.parseBuf (parser.parseIndex + offset)

inductive Driver where
  | msc
  | cdc
  | hid
  deriving DecidableEq, Repr

/-- An endpoint that a class driver uses. -/
structure DataPipe where
  epAddr : Byte
  epSize : Nat
  chNum : Nat

structure XferPipe where
  epAddr : Byte
  maxPackSize : Nat

inductive Phase where
  | idle
  | attached
  | enum
  | parsing (parser : Parser)
  | userInput
  | running

/-- The part of `g_usbHost` and of the class variables; `owners` is `channelUsedFlag` with the
variable the allocation was made for, `log` what was accessed so far. -/
structure Bus where
  phase : Phase
  owners : Nat → Option Holder
  pipes : Nat → XferPipe
  control : Bool → Nat
  maxPackSize : Nat
  bNumInterfaces : Nat
  interfaces : Nat → Interface
  data : Bool → DataPipe
  log : List Access

namespace Bus

def access (bus : Bus) (access : Access) : Bus := { bus with log := bus.log ++ [access] }

/-! ## Channels -/

-- `USBH_CH_AllocChannel`; -1 is 0xFF once it is stored.
def allocChannel (bus : Bus) (holder : Holder) (epAddr : Byte) : Bus × Nat :=
  match firstFree channelMaxNum bus.owners with
  | some chNum =>
      ({ bus with
          owners := Function.update bus.owners chNum (some holder)
          pipes := Function.update bus.pipes chNum { bus.pipes chNum with epAddr := epAddr } },
        chNum)
  | none => (bus, 0xFF)

-- `USBH_CH_OpenChannel`, as far as the packet size.
def openChannel (bus : Bus) (chNum maxPackSize : Nat) : Bus :=
  if channelMaxNum ≤ chNum then bus
  else
    { bus with
      pipes := Function.update bus.pipes chNum { bus.pipes chNum with maxPackSize := maxPackSize } }

def freeChannel (bus : Bus) (chNum : Nat) : Bus :=
  { bus with
    owners := Function.update bus.owners chNum none
    pipes := Function.update bus.pipes chNum ⟨0, 0⟩
    log := bus.log ++ [.freed chNum] }

def freeAllChannel (bus : Bus) : Bus :=
  { bus with
    owners := fun chNum => if chNum < hostChannelNum then none else bus.owners chNum
    pipes := fun chNum => if chNum < hostChannelNum then ⟨0, 0⟩ else bus.pipes chNum }

-- The use of the number that `holder` has.
def useChannel (bus : Bus) (holder : Holder) (chNum : Nat) : Bus :=
  bus.access (.channel chNum holder (bus.owners chNum))

/-- The packets of a transfer are counted. -/
def enableChannelTransfer (bus : Bus) (transferLen maxPackSize : Nat) : Bus :=
  if 0 < transferLen then bus.access (.division maxPackSize) else bus

def controlXfer (bus : Bus) (dirIn : Bool) (len : Nat) : Bus :=
  (bus.useChannel (.control dirIn) (bus.control dirIn)).enableChannelTransfer len bus.maxPackSize

/-! ## The host's own handlers -/

def allocControl (bus : Bus) (dirIn : Bool) : Bus :=
  let alloc := bus.allocChannel (.control dirIn) (if dirIn then 0x80 else 0x00)
  { alloc.1 with control := Function.update bus.control dirIn alloc.2 }
    |>.useChannel (.control dirIn) alloc.2

def openControl (bus : Bus) : Bus :=
  (bus.openChannel (bus.control false) bus.maxPackSize).openChannel (bus.control true)
    bus.maxPackSize

def devAttachedHandler (bus : Bus) : Bus :=
  { ((bus.allocControl false).allocControl true).openControl with phase := .enum }

-- `USBH_DeInit`; the `DeInit` functions of the classes leave their channel numbers alone.
def deInit (limits : Limits) (bus : Bus) : Bus :=
  ({ bus with phase := .idle, maxPackSize := limits.ep0PacketSize }.freeChannel
    (bus.control true)).freeChannel (bus.control false)

def devDetachedHandler (limits : Limits) (bus : Bus) : Bus := bus.freeAllChannel.deInit limits

-- `ENUM_GetDevDescHandler` when its request is complete.
def completeDevDesc (bus : Bus) (bMaxPacketSize : Byte) : Bus :=
  { bus with maxPackSize := bMaxPacketSize.toNat }.openControl

-- `USBH_ParseCfgDesc` up to its loop.
def parseCfgDesc (bus : Bus) (parseBuf : Nat → Byte) : Bus :=
  let parser : Parser := ⟨parseBuf, 9, 0, 0⟩
  { bus with
    bNumInterfaces := (parseBuf 4).toNat
    phase := if parser.parseIndex < parser.totalLen then .parsing parser else .enum }

def parseInterface (limits : Limits) (bus : Bus) (parser : Parser) : Bus × Parser :=
  if parser.itfIndex < limits.interfaceDescMaxNum then
    let itf := bus.interfaces parser.itfIndex
    ({ bus with
        interfaces := Function.update bus.interfaces parser.itfIndex
          { itf with itfDesc := copyBuffer itf.itfDesc parser.desc 9 }
        log := bus.log ++ [.itf parser.itfIndex] },
      { parser with itfIndex := (parser.itfIndex + 1) % 256, epIndex := 0 })
  else (bus, parser)

def parseEndpoint (limits : Limits) (bus : Bus) (parser : Parser) : Bus × Parser :=
  if 0 < parser.itfIndex ∧ parser.itfIndex < limits.interfaceDescMaxNum ∧
      parser.epIndex < limits.endpointDescMaxNum then
    let itf := bus.interfaces (parser.itfIndex - 1)
    let epDesc := copyBuffer (itf.epDesc parser.epIndex) parser.desc 7
    ({ bus with
        interfaces := Function.update bus.interfaces (parser.itfIndex - 1)
          { itf with epDesc := Function.update itf.epDesc parser.epIndex epDesc }
        log := bus.log ++ [.itf (parser.itfIndex - 1), .endpoint parser.epIndex] },
      { parser with epIndex := (parser.epIndex + 1) % 256 })
  else (bus, parser)

/-- One round of the loop; a descriptor of length 0 is met again in the next one. -/
def parseRound (limits : Limits) (bus : Bus) (parser : Parser) : Bus :=
  let subLen := (parser.desc 0).toNat
  let round :=
    if parser.desc 1 = 4 then bus.parseInterface limits parser
    else if parser.desc 1 = 5 then bus.parseEndpoint limits parser
    else (bus, parser)
  let next := { round.2 with parseIndex := (parser.parseIndex + subLen) % 2 ^ 16 }
  { round.1 with
    phase := if next.totalLen < next.parseIndex + 7 then .enum else .parsing next }

/-! ## The class drivers -/

-- What the macros read: inside the arrays what was parsed, past them `stray`.
def readInterface (limits : Limits) (bus : Bus) (stray : Nat → Interface) (itfNum : Nat) :
    Interface :=
  if itfNum < limits.interfaceDescMaxNum then bus.interfaces itfNum else stray itfNum

def readEndpoint (limits : Limits) (bus : Bus) (stray : Nat → Interface) (itfNum epNum : Nat) :
    Nat → Byte :=
  if itfNum < limits.interfaceDescMaxNum ∧ epNum < limits.endpointDescMaxNum then
    (bus.interfaces itfNum).epDesc epNum
  else (stray itfNum).epDesc epNum

end Bus

-- `while (count--)`.
def countdown {State : Type} (body : Nat → State → State) : Nat → State → State
  | 0, state => state
  | count + 1, state => countdown body count (body count state)

/-- The interfaces that a driver takes. -/
def Driver.takes (driver : Driver) (itf : Interface) : Bool :=
  match driver with
  | .msc => decide (itf.bInterfaceClass = 0x08 ∧ itf.bInterfaceProtocol = 0x50)
  | .cdc => decide (itf.bInterfaceClass = 0x02 ∨ itf.bInterfaceClass = 0x0A)
  | .hid => false

namespace Bus

/-- The two loops that MSC and CDC share; `read` is what the macros find and `visit` what the
driver does with an endpoint. -/
def visitEndpoints (driver : Driver) (itfAt : Nat → Interface)
    (visit : Nat → Nat → Bus → Bus) : Nat → Bus → Bus :=
  countdown fun itfNum bus =>
    let bus := bus.access (.itf itfNum)
    if driver.takes (itfAt itfNum) then
      countdown (fun epNum bus =>
        visit itfNum epNum ((bus.access (.itf itfNum)).access (.endpoint epNum)))
        (itfAt itfNum).bNumEndpoints bus
    else bus

/-- The endpoint found last is the one kept. -/
def mscEndpoint (epDesc : Nat → Byte) (bus : Bus) : Bus :=
  let dirIn := EndpointDesc.isIn epDesc
  { bus with
    data := Function.update bus.data dirIn
      { bus.data dirIn with
        epAddr := EndpointDesc.bEndpointAddress epDesc
        epSize := EndpointDesc.maxPackSize epDesc } }

/-- A channel for the class driver, its number stored. -/
def allocData (bus : Bus) (dirIn : Bool) (epAddr : Byte) : Bus :=
  let alloc := bus.allocChannel (.data dirIn) epAddr
  { alloc.1 with
    data := Function.update bus.data dirIn { bus.data dirIn with chNum := alloc.2 } }
    |>.useChannel (.data dirIn) alloc.2

def openData (bus : Bus) (dirIn : Bool) (maxPackSize : Nat) : Bus :=
  bus.openChannel (bus.data dirIn).chNum maxPackSize

def mscLoops (limits : Limits) (bus : Bus) (stray : Nat → Interface) : Bus :=
  bus.visitEndpoints .msc (bus.readInterface limits stray)
    (fun itfNum epNum => mscEndpoint (bus.readEndpoint limits stray itfNum epNum))
    bus.bNumInterfaces

def mscClassInitHandler (limits : Limits) (bus : Bus) (stray : Nat → Interface) : Bus :=
  let bus := bus.mscLoops limits stray
  let bus := (bus.allocData false (bus.data false).epAddr).allocData true (bus.data true).epAddr
  (bus.openData false (bus.data false).epSize).openData true (bus.data true).epSize

def cdcEndpoint (epDesc : Nat → Byte) (bus : Bus) : Bus :=
  if EndpointDesc.isBulk epDesc then
    let dirIn := EndpointDesc.isIn epDesc
    let size := EndpointDesc.maxPackSize epDesc
    let bus := bus.allocData dirIn (EndpointDesc.bEndpointAddress epDesc)
    { bus with data := Function.update bus.data dirIn { bus.data dirIn with epSize := size } }
      |>.openData dirIn size
  else bus

def cdcClassInitHandler (limits : Limits) (bus : Bus) (stray : Nat → Interface) : Bus :=
  bus.visitEndpoints .cdc (bus.readInterface limits stray)
    (fun itfNum epNum => cdcEndpoint (bus.readEndpoint limits stray itfNum epNum))
    bus.bNumInterfaces

def hidInitHandler (bus : Bus) : Bus := (bus.allocData true 0x81).openData true 8

def classInitHandler (limits : Limits) (driver : Driver) (bus : Bus) (stray : Nat → Interface) :
    Bus :=
  match driver with
  | .msc => bus.mscClassInitHandler limits stray
  | .cdc => bus.cdcClassInitHandler limits stray
  | .hid => bus.hidInitHandler

/-- How much a transfer of the class moves: MSC what its transport asks for, CDC up to a packet,
HID a report. -/
def dataLen (driver : Driver) (dirIn : Bool) (len maxPackSize : Nat) : Nat :=
  match driver with
  | .msc => len
  | .cdc => if dirIn then maxPackSize else min len maxPackSize
  | .hid => 4

def dataXfer (driver : Driver) (bus : Bus) (dirIn : Bool) (len : Nat) : Bus :=
  let chNum := (bus.data dirIn).chNum
  let maxPackSize := (bus.pipes chNum).maxPackSize
  (bus.useChannel (.data dirIn) chNum).enableChannelTransfer
    (dataLen driver dirIn len maxPackSize) maxPackSize

end Bus

/-! ## The machine -/

inductive BusLabel where
  | connect
  | attach
  | detach
  | error
  | control (dirIn : Bool) (len : Nat)
  | devDesc (bMaxPacketSize : Byte)
  | cfgDesc (parseBuf : Nat → Byte)
  | parse
  | configured
  | classInit (stray : Nat → Interface)
  | data (dirIn : Bool) (len : Nat)

def Phase.isEnumerating : Phase → Bool
  | .enum => true
  | _ => false

/-- The control channels are there, and no loop is under way. -/
def Phase.isUp : Phase → Bool
  | .enum | .userInput | .running => true
  | _ => false

def busStep (limits : Limits) (driver : Driver) (bus : Bus) : BusLabel → Option Bus
  | .connect => match bus.phase with
    | .idle => some { bus with phase := .attached }
    | _ => none
  | .attach => match bus.phase with
    | .attached => some bus.devAttachedHandler
    | _ => none
  | .detach => match bus.phase with
    | .idle | .parsing _ => none
    | _ => some (bus.devDetachedHandler limits)
  | .error => if bus.phase.isUp then some (bus.deInit limits) else none
  | .control dirIn len => if bus.phase.isUp then some (bus.controlXfer dirIn len) else none
  | .devDesc bMaxPacketSize =>
    if bus.phase.isEnumerating then some (bus.completeDevDesc bMaxPacketSize) else none
  | .cfgDesc parseBuf =>
    if bus.phase.isEnumerating then some (bus.parseCfgDesc parseBuf) else none
  | .parse => match bus.phase with
    | .parsing parser => some (bus.parseRound limits parser)
    | _ => none
  | .configured =>
    if bus.phase.isEnumerating then some { bus with phase := .userInput } else none
  | .classInit stray => match bus.phase with
    | .userInput => some { bus.classInitHandler limits driver stray with phase := .running }
    | _ => none
  | .data dirIn len => match bus.phase with
    | .running =>
      if driver = .hid ∧ dirIn = false then none else some (bus.dataXfer driver dirIn len)
    | _ => none

-- The statics are zero, and `USBH_Init` has set the packet size of the control channels.
def Bus.initial (limits : Limits) : Bus where
  phase := .idle
  owners := fun _ => none
  pipes := fun _ => ⟨0, 0⟩
  control := fun _ => 0
  maxPackSize := limits.ep0PacketSize
  bNumInterfaces := 0
  interfaces := fun _ => ⟨fun _ => 0, fun _ _ => 0⟩
  data := fun _ => ⟨0, 0, 0⟩
  log := []

end ApmSdk.Usbh
