import ApmSdk.Otg.FifoPacket
import ApmSdk.Usbh.Host
import ApmSdk.Usbh.OutFifo

set_option autoImplicit false

/-!
# The receiving side of the host

The IN transfers of the enumeration, the class requests and the class data, the pipes that they
set up, and the two handlers that move the buffer of a pipe: `USBH_RxFifoNoEmptyIsrHandler`, which
stores what arrives, and the handlers of an empty TxFIFO.
-/

namespace ApmSdk.Usbh

open Chunks
open Otg (FifoStatus readRxFifoPacket)
open Usbd (Byte Memory)

/-- What `buf` of an IN transfer can point into; `null` are the addresses that a NULL is moved
to. -/
inductive Area where
  | object (object : Object)
  | rxBuf
  | dat
  | null
  deriving DecidableEq, Repr

def cdcBufferSize : UInt32 := 1024

def Area.size (limits : BufLimits) : Area → Nat
  | .object (.descriptor .device) => 18
  | .object (.descriptor .configuration) => 9
  | .object (.descriptor .cfgDescBuf) => limits.cfgDescMaxLen
  | .object (.descriptor .stringBuf) => limits.stringDescMaxLen
  | .object .setLineCode => 7
  | .object .getLineCode => 7
  | .rxBuf => cdcBufferSize.toNat
  | .dat => 4
  | .null => 0

structure Cursor where
  area : Area
  offset : Nat
  deriving DecidableEq, Repr

def Cursor.advance (cursor : Cursor) (len : Nat) : Cursor :=
  { cursor with offset := cursor.offset + len }

-- `foreign` is a store through a channel of `xferPipe` that is none of the IN channels, or behind
-- its end.
inductive RxAccess where
  | start (offset bufLen size : Nat)
  | store (first count base given : Nat)
  | foreign (count : Nat)
  deriving DecidableEq, Repr

/-- A transfer is given no more than the object has; a packet stays in what the transfer was
given. -/
def RxAccess.InBounds : RxAccess → Prop
  | .start offset bufLen size => offset + bufLen ≤ size
  | .store first count base given => base ≤ first ∧ first + count ≤ base + given
  | .foreign _ => False

/-! ## Pipes -/

/-- What IN transfers use of `USBH_XferPipe_T` and of the registers of its channel. The transfer
was given `given` bytes from `base` on, none if its buffer was NULL. -/
structure InPipe where
  buf : Option Cursor
  bufLen : Nat
  bufCount : Nat
  maxPackSize : UInt16
  base : Nat
  given : Nat
  packSize : Nat
  packets : Nat
  size : Nat
  deriving DecidableEq, Repr

namespace InPipe

variable (pipe : InPipe)

def closed : InPipe := ⟨none, 0, 0, 0, 0, 0, 0, 0, 0⟩

-- `USBH_CH_FreeChannel`; the registers stay as they are.
def free : InPipe := { pipe with buf := none, bufLen := 0, bufCount := 0, maxPackSize := 0 }

-- `USB_OTG_EnableInChannelTransfer`.
def enableInChannelTransfer (transferLen maxPackSize : Nat) : InPipe :=
  { pipe with
    packSize := maxPackSize
    packets := packetNum transferLen maxPackSize % 2 ^ 10
    size := packetNum transferLen maxPackSize * maxPackSize % 2 ^ 19 }

-- `USBH_CtrlInData`, `USBH_InterruptInData` and `USBH_BulkInData`.
def inData (rBuf : Option Cursor) (rLen maxPackSize : Nat) : InPipe :=
  { pipe with
      buf := rBuf
      bufLen := rLen
      bufCount := 0
      base := (rBuf.map Cursor.offset).getD 0
      given := (rBuf.map fun _ => rLen).getD 0 }.enableInChannelTransfer rLen maxPackSize

/-- A packet within what the channel was programmed for; MAXPSIZE has 11 bits. -/
def Accepts (byteCount : Nat) : Prop :=
  0 < pipe.packets ∧ byteCount ≤ pipe.packSize ∧ byteCount ≤ pipe.size ∧ byteCount < 2 ^ 11

instance (byteCount : Nat) : Decidable (pipe.Accepts byteCount) :=
  inferInstanceAs (Decidable (_ ∧ _ ∧ _ ∧ _))

-- The registers once a packet has come.
def counts (byteCount : Nat) : InPipe :=
  { pipe with packets := pipe.packets - 1, size := pipe.size - byteCount }

-- `USBH_RxFifoNoEmptyIsrHandler` has stored a packet at `cursor`.
def stored (cursor : Cursor) (byteCount : Nat) : InPipe :=
  { pipe with
    buf := some (cursor.advance byteCount)
    bufCount := pipe.bufCount + byteCount }

def storeAccess (cursor : Cursor) (byteCount : Nat) : RxAccess :=
  .store cursor.offset byteCount pipe.base pipe.given

-- `buf += len`; a NULL is moved as well.
def advanced (len : Nat) : Option Cursor :=
  match pipe.buf with
  | some cursor => some (cursor.advance len)
  | none => if len = 0 then none else some ⟨.null, len⟩

/-- `USBH_NonPerTxFifoEmptyIsrHandler` and `USBH_PerTxFifoEmptyIsrHandler` when the request at the
top of the queue is an IN token: the pipe is handled as that of an OUT transfer. -/
def txFifoEmptyIsrHandler (txFifo : TxFifo) (words : Nat) (spaces : List Nat) : InPipe :=
  let out : OutPipe := ⟨txFifo, [], 0, pipe.bufLen, pipe.bufCount, [], false, false⟩
  let served := (out.txFifoEmptyIsrHandler txFifo words spaces).1
  { pipe with
    buf := pipe.advanced served.offset
    bufLen := served.bufLen
    bufCount := served.bufCount }

end InPipe

/-- No access where there is no buffer. -/
def startAccess (limits : BufLimits) (rBuf : Option Cursor) (rLen : Nat) : List RxAccess :=
  (rBuf.map fun cursor => .start cursor.offset rLen (cursor.area.size limits)).toList

/-! ## `CDC_Rx` -/

inductive CdcState where
  | idle
  | getData
  | getWait
  | error
  | complete
  deriving DecidableEq, Repr

-- `CDC_Rx` and `flagEnableGet`, with the pointers as offsets into `rxBuf`.
structure CdcRx where
  cdcState : CdcState
  pFillBuff : Nat
  pEmptyBuff : Nat
  buffLen : UInt32
  dataLen : UInt16
  flagEnableGet : Bool
  deriving DecidableEq, Repr

namespace CdcRx

variable (rx : CdcRx)

def zero : CdcRx := ⟨.idle, 0, 0, 0, 0, false⟩

def enableGet : CdcRx :=
  if rx.flagEnableGet = false ∧ rx.cdcState = .idle then
    { rx with flagEnableGet := true, cdcState := .getData }
  else rx

def disableGet : CdcRx := { rx with flagEnableGet := false, cdcState := .idle }

-- `USBH_CDC_ClassInitHandler`.
def classInit : CdcRx :=
  { rx with
    cdcState := .idle
    dataLen := 0
    pFillBuff := 0
    pEmptyBuff := 0
    buffLen := cdcBufferSize }.enableGet

-- `USBH_CDC_ClassDeInitHandler`.
def classDeInit : CdcRx := { rx with cdcState := .idle, dataLen := 0 }

-- `CDC_ReceiveData`.
def receiveData : CdcRx :=
  if rx.pEmptyBuff < rx.pFillBuff then { rx with pFillBuff := rx.pEmptyBuff, dataLen := 0 } else rx

-- The case of `USBH_CDC_GET_WAIT`.
def wait (urbState : UrbStatus) (bufCount : Nat) : CdcRx :=
  match urbState with
  | .ok =>
      { receiveData { rx with
          dataLen := rx.dataLen + UInt16.ofNat bufCount
          pFillBuff := rx.pFillBuff + bufCount } with
        cdcState := .complete }
  | .error => { rx with cdcState := .error }
  | .stall => { rx with cdcState := .error }
  | .noReady => { rx with cdcState := .getData }
  | _ => rx

-- There is room for a packet: a subtraction in `uint32_t`.
def HasRoom (maxPackSize : UInt16) : Prop :=
  rx.dataLen.toUInt32 < rx.buffLen - maxPackSize.toUInt32

instance (maxPackSize : UInt16) : Decidable (rx.HasRoom maxPackSize) :=
  inferInstanceAs (Decidable (_ < _))

-- `USBH_CDCProcessGet` asks for the next packet.
def Asks : Prop :=
  rx.flagEnableGet = true ∧
    (rx.cdcState = .complete ∨ rx.cdcState = .idle ∨ rx.cdcState = .getData)

instance : Decidable rx.Asks := inferInstanceAs (Decidable (_ ∧ _))

-- `USBH_CDCProcessGet`, and whether it starts a transfer.
def processGet (urbState : UrbStatus) (bufCount : Nat) (maxPackSize : UInt16) : CdcRx × Bool :=
  if rx.flagEnableGet then
    let rx :=
      if rx.cdcState = .complete ∨ rx.cdcState = .idle then { rx with cdcState := .getData } else rx
    let handled :=
      match rx.cdcState with
      | .getData =>
          if rx.HasRoom maxPackSize then ({ rx with cdcState := .getWait }, true) else (rx, false)
      | .getWait => (rx.wait urbState bufCount, false)
      | _ => (rx, false)
    if handled.1.cdcState = .error then ({ handled.1 with cdcState := .getData }, handled.2)
    else handled
  else (rx.disableGet, false)

end CdcRx

/-! ## The host with its pipes -/

-- The size that the IN channel of the class is opened with, for an endpoint of size `endpoint`.
def HostClass.openSize : HostClass → UInt16 → UInt16
  | .hid, _ => 8
  | .cdc, endpoint => endpoint

-- `HID_GetDataHandler` is called.
def HostClass.getsData : (hostClass : HostClass) → hostClass.Vars → Bool
  | .hid, vars => decide (Hid.classState vars = .getData)
  | .cdc, _ => false

/-- The numbers of the IN channel of control transfers and of that of the class. -/
structure InChannels where
  control : BitVec 4
  data : BitVec 4
  distinct : control ≠ data

-- `control` and `data` are the pipes of these channels, `fifo` are the words of the RxFIFO that no
-- call of the handler has read.
structure Receiver (hostClass : HostClass) where
  host : Host hostClass.Vars
  control : InPipe
  data : InPipe
  rx : CdcRx
  fifo : List (BitVec 32)
  log : List RxAccess

namespace Host

variable {Vars : Type} (driver : ClassDriver Vars) (host : Host Vars)

-- The device has gone, as `USBH_PollingProcess` sees it.
def Gone : Prop := (!(host.connectedFlag || host.portEnable)) = true ∧ host.curHostState ≠ .idle

instance : Decidable host.Gone := inferInstanceAs (Decidable (_ ∧ _))

/-- All channels are freed. -/
def FreesAll : Prop := host.Gone ∨ host.curHostState = .deviceDetached

instance : Decidable host.FreesAll := inferInstanceAs (Decidable (_ ∨ _))

-- `USBH_DeInit` is called.
def FreesControl : Prop := host.FreesAll ∨ host.curHostState = .error

instance : Decidable host.FreesControl := inferInstanceAs (Decidable (_ ∨ _))

/-- The buffer and the length of the IN stage that was started, if one was. -/
def inStage (observed : Option Observed) : Option (Option Cursor × Nat) :=
  match observed with
  | some ⟨⟨.dataIn, len⟩, _, _⟩ => some ((host.target driver).map fun object => ⟨.object object, 0⟩, len)
  | some ⟨⟨.statusIn, len⟩, _, _⟩ => some (none, len)
  | _ => none

end Host

/-- The words of a packet, and its entry in the RxFIFO. The bits of its PID, which nothing reads,
are left at zero. -/
def packetWords (bytes : List Byte) : List (BitVec 32) :=
  Otg.UsbFifo.packetWords (fun index => bytes.getD index 0) (pieces 4 bytes.length) 0

def inPacket (chNum : BitVec 4) (bytes : List Byte) : List (BitVec 32) :=
  FifoStatus.word ⟨chNum, BitVec.ofNat 11 bytes.length, 0, 2, 0⟩ :: packetWords bytes

namespace Receiver

variable {hostClass : HostClass} (limits : BufLimits) (config : HostConfig)
  (receiver : Receiver hostClass)

-- The host is polled; the class is opened on an endpoint of size `endpoint`.
def poll (env : Env) (endpoint : UInt16) : Receiver hostClass :=
  let host := receiver.host
  let passed := host.pollingProcess config hostClass.driver env
  let inStage := host.inStage hostClass.driver passed.2
  let opens := ¬ host.Gone ∧ host.curHostState = .userInput ∧ env.userOk = true
  let gets := ¬ host.Gone ∧ host.curHostState = .classCore ∧ hostClass.getsData host.vars = true
  { receiver with
    host := passed.1
    control :=
      if host.FreesControl then receiver.control.free
      else
        match inStage with
        | some (rBuf, rLen) => receiver.control.inData rBuf rLen host.enum.maxPackSize
        | none => receiver.control
    data :=
      if host.FreesAll then receiver.data.free
      else if opens then { receiver.data with maxPackSize := hostClass.openSize endpoint }
      else if gets then
        receiver.data.inData (some ⟨.dat, 0⟩) 4 receiver.data.maxPackSize.toNat
      else receiver.data
    rx :=
      if hostClass = .cdc ∧ host.FreesControl then receiver.rx.classDeInit
      else if hostClass = .cdc ∧ opens then receiver.rx.classInit
      else receiver.rx
    log := receiver.log ++
      (inStage.elim [] fun stage => startAccess limits stage.1 stage.2) ++
      if gets then startAccess limits (some ⟨.dat, 0⟩) 4 else [] }

-- The application calls `USBH_CDCProcessGet`.
def get (urbState : UrbStatus) : Receiver hostClass :=
  let maxPackSize := receiver.data.maxPackSize
  let processed := receiver.rx.processGet urbState receiver.data.bufCount maxPackSize
  let rBuf : Cursor := ⟨.rxBuf, processed.1.pFillBuff⟩
  if processed.2 then
    { receiver with
      data := receiver.data.inData (some rBuf) maxPackSize.toNat maxPackSize.toNat
      rx := processed.1
      log := receiver.log ++ startAccess limits (some rBuf) maxPackSize.toNat }
  else { receiver with rx := processed.1 }

/-- A packet is stored at `cursor`, the buffer of the channel of control transfers. -/
def storeControl (cursor : Cursor) (bytes : List Byte) : Receiver hostClass :=
  let memory :=
    match cursor with
    | ⟨.object (.descriptor buffer), offset⟩ =>
        receiver.host.enum.memory.write ⟨buffer, offset⟩ bytes
    | _ => receiver.host.enum.memory
  { receiver with
    host := { receiver.host with enum := { receiver.host.enum with memory := memory } }
    control := receiver.control.stored cursor bytes.length
    log := receiver.log ++ [receiver.control.storeAccess cursor bytes.length] }

def storeData (cursor : Cursor) (byteCount : Nat) : Receiver hostClass :=
  { receiver with
    data := receiver.data.stored cursor byteCount
    log := receiver.log ++ [receiver.data.storeAccess cursor byteCount] }

/-- `read` is what a read of the packet of channel `chNum` gives, and leaves in the RxFIFO. There is
none if `buf` of the channel is NULL; `foreign` tells whether that of another channel is not. -/
def takes (channels : InChannels) (foreign : Bool) (chNum : BitVec 4)
    (read : List Byte × List (BitVec 32)) : Receiver hostClass :=
  if chNum = channels.control then
    match receiver.control.buf with
    | some cursor => { receiver.storeControl cursor read.1 with fifo := read.2 }
    | none => receiver
  else if chNum = channels.data then
    match receiver.data.buf with
    | some cursor => { receiver.storeData cursor read.1.length with fifo := read.2 }
    | none => receiver
  else if foreign then
    { receiver with fifo := read.2, log := receiver.log ++ [.foreign read.1.length] }
  else receiver

-- PKTSTS_IN is 2.
def rxFifoNoEmptyIsrHandler (channels : InChannels) (foreign : Bool) : Receiver hostClass :=
  let fifoStatus := FifoStatus.ofWord (receiver.fifo.headD 0)
  let popped := { receiver with fifo := receiver.fifo.tail }
  let byteCount := fifoStatus.byteCount.toNat
  if fifoStatus.status = 2 ∧ 0 < byteCount then
    popped.takes channels foreign fifoStatus.ep (readRxFifoPacket popped.fifo byteCount)
  else popped

/-- The words of an entry come. The interrupt is taken before the next entry, unless words of
others are left before it. -/
def arrives (channels : InChannels) (words : List (BitVec 32)) : Receiver hostClass :=
  let pushed := { receiver with fifo := receiver.fifo ++ words }
  if receiver.fifo = [] then pushed.rxFifoNoEmptyIsrHandler channels false else pushed

def controlPacket (channels : InChannels) (bytes : List Byte) : Receiver hostClass :=
  { receiver with control := receiver.control.counts bytes.length }.arrives channels
    (inPacket channels.control bytes)

def dataPacket (channels : InChannels) (bytes : List Byte) : Receiver hostClass :=
  { receiver with data := receiver.data.counts bytes.length }.arrives channels
    (inPacket channels.data bytes)

/-- Every access was in bounds, and no word of a packet is left for a call that takes it for a
status word. -/
structure Sound : Prop where
  inStep : receiver.fifo = []
  bounded : ∀ access ∈ receiver.log, access.InBounds

def init : Receiver hostClass :=
  ⟨Host.init config hostClass.driver, .closed, .closed, .zero, [], []⟩

end Receiver

inductive RxLabel where
  | event (label : HostLabel)
  | poll (env : Env) (endpoint : UInt16)
  | get (urbState : UrbStatus)
  | enableGet
  | disableGet
  | controlPacket (bytes : List Byte)
  | dataPacket (bytes : List Byte)
  | entry (status : FifoStatus)
  | rxFifoNoEmpty (foreign : Bool)
  | txFifoEmpty (data : Bool) (txFifo : TxFifo) (words : Nat) (spaces : List Nat)
  deriving DecidableEq, Repr

/-- What interrupts record about the port and about stages. -/
def HostLabel.isEvent : HostLabel → Bool
  | .connect | .enable | .disconnect | .urb _ _ => true
  | .poll _ | .receive _ => false

/-- An IN stage is under way. -/
def Control.waitsIn (control : Control) : Bool :=
  decide (control.curXferState = .waitUrb ∧
    (control.preXferState = .dataIn ∨ control.preXferState = .statusIn))

/-- The application of CDC is called by `USBH_CDC_CoreHandler`. Control packets come while the
engine waits for the IN stage it has started. An entry without data tells of a completed transfer, a
toggle error or a halt. A TxFIFO can be found empty at any time. -/
def rxStep {hostClass : HostClass} (limits : BufLimits) (config : HostConfig)
    (channels : InChannels) (receiver : Receiver hostClass) :
    RxLabel → Option (Receiver hostClass)
  | .event label =>
      if label.isEvent then
        (hostStep config hostClass.driver receiver.host label).map fun answer =>
          { receiver with host := answer.1 }
      else none
  | .poll env endpoint => some (receiver.poll limits config env endpoint)
  | .get urbState =>
      if hostClass = .cdc ∧ receiver.host.curHostState = .classCore then
        some (receiver.get limits urbState)
      else none
  | .enableGet =>
      if hostClass = .cdc ∧ receiver.host.curHostState = .classCore then
        some { receiver with rx := receiver.rx.enableGet }
      else none
  | .disableGet =>
      if hostClass = .cdc ∧ receiver.host.curHostState = .classCore then
        some { receiver with rx := receiver.rx.disableGet }
      else none
  | .controlPacket bytes =>
      if receiver.host.control.waitsIn = true ∧ receiver.control.Accepts bytes.length then
        some (receiver.controlPacket channels bytes)
      else none
  | .dataPacket bytes =>
      if receiver.data.Accepts bytes.length then some (receiver.dataPacket channels bytes) else none
  | .entry status =>
      if status.status ≠ 2 then some (receiver.arrives channels [status.word]) else none
  | .rxFifoNoEmpty foreign =>
      if receiver.fifo ≠ [] then some (receiver.rxFifoNoEmptyIsrHandler channels foreign) else none
  | .txFifoEmpty data txFifo words spaces =>
      if data then
        some { receiver with data := receiver.data.txFifoEmptyIsrHandler txFifo words spaces }
      else
        some { receiver with control := receiver.control.txFifoEmptyIsrHandler txFifo words spaces }

end ApmSdk.Usbh
