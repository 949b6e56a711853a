import ApmSdk.Lib.FlagRegister
import ApmSdk.Lib.Runs
import ApmSdk.Usbh.CtrlXfer

set_option autoImplicit false

/-!
# The channels of the USB host

One channel between the functions of `usbh_dataXfer.c` that start a transfer on it and the two
channel handlers of `usbh_interrupt.c`, which pass its outcome on through `pipeState`.
-/

namespace ApmSdk.Usbh

open Runs FlagRegister

-- `USB_H_EP_TYPE_T`.
inductive EpType where
  | control
  | iso
  | bulk
  | interrupt
  deriving DecidableEq, Repr

-- `USBH_PIPE_STATE_T`.
inductive PipeState where
  | ok
  | halted
  | nak
  | nyet
  | stall
  | xactErr
  | bblErr
  | dataTglErr
  deriving DecidableEq, Repr

-- `USB_H_CHANNEL_INT_T`.
inductive ChannelInt where
  | tsfcmpn
  | tsfcmpan
  | ahbErr
  | rxStall
  | rxNak
  | rxTxAck
  | rxNyet
  | tErr
  | babble
  | fovr
  | dtog
  deriving DecidableEq, Repr

def ChannelInt.bit : ChannelInt → Nat
  | .tsfcmpn => 0
  | .tsfcmpan => 1
  | .ahbErr => 2
  | .rxStall => 3
  | .rxNak => 4
  | .rxTxAck => 5
  | .rxNyet => 6
  | .tErr => 7
  | .babble => 8
  | .fovr => 9
  | .dtog => 10

def ChannelInt.mask (flag : ChannelInt) : BitVec 32 := BitVec.twoPow 32 flag.bit

/-- The values of HCHTSIZE.DATAPID that the functions below write. -/
inductive DataPid where
  | data0
  | data1
  | setup
  deriving DecidableEq, Repr

/-- What `USB_OTG_InitChannel` configures, the interrupt registers and CHDIS, and the fields of
`xferPipe`. `seen` are the flags read since the transfer started, `outcome` is the status the
handlers have set since, and `halted` lasts from the processing of a halt until the channel is
enabled again. A started transfer is `starting` until its function has returned. -/
structure Channel where
  epType : EpType
  dirIn : Bool
  enbalePing : Bool
  hchint : BitVec 32
  hchimask : BitVec 32
  chdis : Bool
  dataPid : DataPid
  pipeState : PipeState
  urbStatus : UrbStatus
  pidToggle : Bool
  seen : BitVec 32
  outcome : Option UrbStatus
  halted : Bool
  starting : Bool
  deriving DecidableEq

namespace Channel

def read (channel : Channel) (flag : ChannelInt) : Bool :=
  (channel.hchint &&& channel.hchimask).getLsbD flag.bit

/-- The or-assignment writes every pending flag back. -/
def clearInt (channel : Channel) (flag : ChannelInt) : Channel :=
  { channel with hchint := orAssign channel.hchint 0 flag.mask }

def enableInt (channel : Channel) (flag : ChannelInt) : Channel :=
  { channel with hchimask := channel.hchimask ||| flag.mask }

def disableInt (channel : Channel) (flag : ChannelInt) : Channel :=
  { channel with hchimask := channel.hchimask &&& ~~~flag.mask }

def haltChannel (channel : Channel) : Channel := { channel with chdis := true }

def enableChannel (channel : Channel) : Channel := { channel with halted := false }

def setPipe (channel : Channel) (pipeState : PipeState) : Channel :=
  { channel with pipeState := pipeState }

def report (channel : Channel) (urbStatus : UrbStatus) : Channel :=
  { channel with urbStatus := urbStatus, outcome := some urbStatus }

def toggleDataPid (channel : Channel) : Channel :=
  { channel with pidToggle := !channel.pidToggle }

def readDataPid (channel : Channel) : DataPid :=
  if channel.pidToggle then .data1 else .data0

/-- The channel is about to be told of its halt. -/
def processHalt (channel : Channel) : Channel :=
  { channel.disableInt .tsfcmpan with halted := true, chdis := false }

/-! ## The handlers -/

def isControlOrBulk (channel : Channel) : Bool :=
  decide (channel.epType = .control) || decide (channel.epType = .bulk)

-- The chain of tests before FOVR, with `intNak`.
def inResponses (channel : Channel) : Channel × Bool :=
  let intNak := channel.read .dtog
  if channel.read .ahbErr then ((channel.clearInt .ahbErr).enableInt .tsfcmpan, intNak)
  else if channel.read .rxTxAck then (channel.clearInt .rxTxAck, intNak)
  else if channel.read .rxStall then
    (((((channel.enableInt .tsfcmpan).setPipe .stall).clearInt .rxNak).clearInt
      .rxStall).haltChannel, false)
  else if channel.read .dtog then
    (((((channel.enableInt .tsfcmpan).haltChannel).clearInt .rxNak).setPipe
      .dataTglErr).clearInt .dtog, intNak)
  else (channel, intNak)

def inComplete (channel : Channel) : Channel :=
  let done := (channel.setPipe .ok).clearInt .tsfcmpn
  if done.isControlOrBulk then
    (((done.enableInt .tsfcmpan).haltChannel).clearInt .rxNak).toggleDataPid
  else if done.epType = .interrupt then done.report .ok
  else done

def inOutcome (channel : Channel) : Channel :=
  match channel.pipeState with
  | .ok => channel.report .ok
  | .stall => channel.report .stall
  | .xactErr | .dataTglErr => channel.report .error
  | _ => channel

def inHalted (channel : Channel) : Channel :=
  let reported := channel.processHalt.inOutcome
  (if reported.epType = .interrupt then reported.toggleDataPid else reported).clearInt .tsfcmpan

def inNak (channel : Channel) : Channel :=
  let retried :=
    if channel.epType = .interrupt then (channel.enableInt .tsfcmpan).haltChannel
    else if channel.isControlOrBulk then channel.enableChannel
    else channel
  (retried.setPipe .nak).clearInt .rxNak

/-- The chain of tests from FOVR on. -/
def inEvents (channel : Channel) (intNak : Bool) : Channel :=
  if channel.read .fovr then ((channel.enableInt .tsfcmpan).haltChannel).clearInt .fovr
  else if channel.read .tsfcmpn then channel.inComplete
  else if channel.read .tsfcmpan then channel.inHalted
  else if channel.read .tErr then
    (((channel.enableInt .tsfcmpan).setPipe .xactErr).haltChannel).clearInt .tErr
  else if channel.read .rxNak || intNak then channel.inNak
  else channel

def inIsrHandler (channel : Channel) : Channel :=
  let responses := channel.inResponses
  responses.1.inEvents responses.2

/-- What most branches of the OUT handler do. -/
def outStop (channel : Channel) (flag : ChannelInt) : Channel :=
  ((channel.clearInt flag).enableInt .tsfcmpan).haltChannel

def outOutcome (channel : Channel) : Channel :=
  match channel.pipeState with
  | .ok =>
      let done := channel.report .ok
      if done.epType = .bulk then done.toggleDataPid else done
  | .nak => channel.report .noReady
  | .nyet =>
      (if channel.enbalePing then channel.enableChannel else channel).report .noReady
  | .stall => channel.report .stall
  | .xactErr => channel.report .error
  | _ => channel

def outHalted (channel : Channel) : Channel :=
  channel.processHalt.outOutcome.clearInt .tsfcmpan

def outIsrHandler (channel : Channel) : Channel :=
  if channel.read .ahbErr then (channel.clearInt .ahbErr).enableInt .tsfcmpan
  else if channel.read .fovr then channel.outStop .fovr
  else if channel.read .tsfcmpn then (channel.outStop .tsfcmpn).setPipe .ok
  else if channel.read .rxTxAck then channel.clearInt .rxTxAck
  else if channel.read .rxStall then (channel.outStop .rxStall).setPipe .stall
  else if channel.read .rxNak then (channel.outStop .rxNak).setPipe .nak
  else if channel.read .tErr then (channel.outStop .tErr).setPipe .xactErr
  else if channel.read .rxNyet then (channel.outStop .rxNyet).setPipe .nyet
  else if channel.read .dtog then
    ((((channel.enableInt .tsfcmpan).haltChannel).clearInt .rxNak).clearInt .dtog).setPipe
      .dataTglErr
  else if channel.read .tsfcmpan then channel.outHalted
  else channel

def isrHandler (channel : Channel) : Channel :=
  if channel.dirIn then channel.inIsrHandler else channel.outIsrHandler

/-! ## Transfers -/

-- The interrupts that `USB_OTG_InitChannel` enables.
def enabledInts : EpType → Bool → Bool → List ChannelInt
  | .control, dirIn, ping | .bulk, dirIn, ping =>
      [.tsfcmpn, .rxStall, .tErr, .dtog, .rxNak] ++
        (if dirIn then [.babble] else .rxNyet :: (if ping then [.rxTxAck] else []))
  | .iso, dirIn, _ => [.tsfcmpn, .fovr, .rxTxAck] ++ (if dirIn then [.tErr, .babble] else [])
  | .interrupt, dirIn, _ =>
      [.tsfcmpn, .rxNak, .rxStall, .tErr, .dtog, .fovr] ++ (if dirIn then [.babble] else [])

def initMask (epType : EpType) (dirIn ping : Bool) : BitVec 32 :=
  (enabledInts epType dirIn ping).foldl (fun mask flag => mask ||| flag.mask) 0

-- An allocated and configured channel, with a `pipeState` left by its last use.
def opened (epType : EpType) (dirIn ping : Bool) (pipeState : PipeState) : Channel where
  epType := epType
  dirIn := dirIn
  enbalePing := ping
  hchint := 0
  hchimask := initMask epType dirIn ping
  chdis := false
  dataPid := .data0
  pipeState := pipeState
  urbStatus := .idle
  pidToggle := false
  seen := 0
  outcome := none
  halted := false
  starting := false

/-- The functions that start a transfer. -/
inductive Start where
  | ctrlSetupReq
  | ctrlOutData (wLen : Nat)
  | ctrlInData
  | interruptOutData
  | interruptInData
  | bulkOutData
  | bulkInData
  | isocOutData
  | isocInData
  deriving DecidableEq, Repr

def Start.epType : Start → EpType
  | .ctrlSetupReq | .ctrlOutData _ | .ctrlInData => .control
  | .interruptOutData | .interruptInData => .interrupt
  | .bulkOutData | .bulkInData => .bulk
  | .isocOutData | .isocInData => .iso

def Start.dirIn : Start → Bool
  | .ctrlInData | .interruptInData | .bulkInData | .isocInData => true
  | _ => false

-- `USBH_BulkOutData` alone resets the status before it enables the channel.
def Start.early : Start → Bool
  | .bulkOutData => true
  | _ => false

/-- The toggle and the PID that a function programs. -/
def programPid (channel : Channel) : Start → Channel
  | .ctrlSetupReq => { channel with dataPid := .setup, pidToggle := true }
  | .ctrlOutData wLen =>
      let chosen := { channel with pidToggle := if wLen = 0 then true else channel.pidToggle }
      { chosen with dataPid := chosen.readDataPid }
  | .ctrlInData => { channel with pidToggle := true, dataPid := .data1 }
  | .interruptOutData | .interruptInData =>
      { channel with dataPid := channel.readDataPid }.toggleDataPid
  | .bulkOutData | .bulkInData => { channel with dataPid := channel.readDataPid }
  | .isocOutData | .isocInData => { channel with dataPid := .data0 }

/-- A function up to the point where the channel is enabled. -/
def start (channel : Channel) (call : Start) : Channel :=
  { channel.programPid call with
    urbStatus := if call.early then .idle else channel.urbStatus
    seen := 0
    outcome := none
    halted := false
    starting := true }

/-- The rest of it. -/
def settle (channel : Channel) : Channel :=
  { channel with
    urbStatus :=
      if channel.epType = .bulk && !channel.dirIn then channel.urbStatus else .idle
    starting := false }

/-- The hardware raises flags and the handler reads them. -/
def raise (channel : Channel) (raised : BitVec 32) : Channel :=
  { channel with
    hchint := channel.hchint ||| raised
    seen := channel.seen ||| ((channel.hchint ||| raised) &&& channel.hchimask) }

end Channel

/-- `packetNum` of `USB_OTG_EnableOutChannelTransfer` and `USB_OTG_EnableInChannelTransfer`, a
`uint16_t` that is clamped to 256. -/
def packetNum (transferLen maxPackSize : Nat) : Nat :=
  if transferLen = 0 then 1
  else min 256 ((transferLen + maxPackSize - 1) % 2 ^ 32 / maxPackSize % 2 ^ 16)

inductive ChannelLabel where
  | start (call : Channel.Start)
  | settle
  | interrupt (raised : BitVec 32)
  deriving DecidableEq

def channelStep (channel : Channel) : ChannelLabel → Option Channel
  | .start call =>
      if channel.starting = false ∧ call.epType = channel.epType ∧ call.dirIn = channel.dirIn then
        some (channel.start call)
      else none
  | .settle => if channel.starting then some channel.settle else none
  | .interrupt raised => some (channel.raise raised).isrHandler

end ApmSdk.Usbh
