import ApmSdk.Usbd.Endpoint

set_option autoImplicit false

/-!
# The mass storage class: SCSI commands

`usbd_msc_scsi.c` with the storage callbacks as answers given from outside.
-/

namespace ApmSdk.Msc

open Usbd

inductive BotState where
  | idle
  | dataOut
  | dataIn
  | lastDataIn
  | sendData
  deriving DecidableEq, Repr

inductive BotStatus where
  | normal
  | recovery
  | error
  deriving DecidableEq, Repr

inductive CswStatus where
  | cmdOk
  | cmdFail
  | phaseError
  deriving DecidableEq, Repr

-- The members of `g_BOTInfo` that endpoints read and write.
inductive Obj where
  | cbw
  | csw
  | data
  deriving DecidableEq, Repr

structure Csw where
  dSignature : Nat
  dTag : Nat
  dDataResidue : Nat
  bStatus : CswStatus
  deriving DecidableEq, Repr

structure Sense where
  sensekey : Byte
  asc : Byte
  ascq : Byte
  deriving DecidableEq, Repr

/-- What an observer sees of the class: stalls, transfers of the CSW, calls of the storage
callbacks and data packets received for a command. -/
inductive Event where
  | stallIn
  | stallOut
  | csw (dTag dDataResidue : Nat) (status : CswStatus)
  | readData (lun : Byte) (first count : Nat)
  | writeData (lun : Byte) (first count : Nat) (content : List Byte)
  | received (content : List Byte)
  deriving DecidableEq, Repr

-- `g_BOTInfo`, the statics of the SCSI layer and the two bulk endpoints.
structure Bot where
  state : BotState
  status : BotStatus
  dataLen : Nat
  cbw : Nat → Byte
  csw : Csw
  data : Nat → Byte
  senseCode : Nat → Sense
  senseTxCnt : Nat
  sensePutCnt : Nat
  blkSize : Nat
  blkNbr : Nat
  blkAddr : Nat
  blkLen : Nat
  inEp : InEp Obj
  outEp : OutEp Obj
  wIndex0 : Byte
  log : List Event

/-- `MSC_MEDIA_PACKET`, the inquiry data, and the status an application gives a halted OUT
endpoint on `CLEAR_FEATURE(ENDPOINT_HALT)`. -/
structure Config where
  mediaPacket : Nat
  inquiryData : Nat → Byte
  clearedOut : EpStatus

/-- What the storage callbacks answer while one interrupt is handled; `true` is `SCSI_OK`, and
`blkNbr` and `blkSize` are what `ReadCapacity` leaves in its arguments. -/
structure Storage where
  checkReady : Bool
  checkWPR : Bool
  readCapacity : Bool
  blkNbr : UInt32
  blkSize : UInt32
  readData : Bool
  content : Nat → Byte
  writeData : Bool

def le16 (high low : Byte) : Nat := 256 * high.toNat + low.toNat

def le32 (b0 b1 b2 b3 : Byte) : Nat :=
  b0.toNat + 256 * b1.toNat + 65536 * b2.toNat + 16777216 * b3.toNat

def byteOf (value index : Nat) : Byte := UInt8.ofNat (value / 256 ^ index)

namespace Bot

def dSignature (b : Bot) : Nat := le32 (b.cbw 0) (b.cbw 1) (b.cbw 2) (b.cbw 3)

def dTag (b : Bot) : Nat := le32 (b.cbw 4) (b.cbw 5) (b.cbw 6) (b.cbw 7)

def dDataXferLen (b : Bot) : Nat := le32 (b.cbw 8) (b.cbw 9) (b.cbw 10) (b.cbw 11)

def bmFlags (b : Bot) : Byte := b.cbw 12

def bLUN (b : Bot) : Byte := b.cbw 13

def bCBLen (b : Bot) : Byte := b.cbw 14

def command (b : Bot) (index : Nat) : Byte := b.cbw (15 + index)

-- `command[2..5]` of READ(10), WRITE(10) and VERIFY(10), most significant byte first.
def commandAddr (b : Bot) : Nat :=
  le32 (b.command 5) (b.command 4) (b.command 3) (b.command 2)

def commandLen (b : Bot) : Nat := le16 (b.command 7) (b.command 8)

def dirIn (b : Bot) : Bool := 128 ≤ b.bmFlags.toNat

def memory (b : Bot) : Memory Obj
  | .cbw, index => b.cbw index
  | .data, index => b.data index
  | .csw, index =>
      if index < 4 then byteOf b.csw.dSignature index
      else if index < 8 then byteOf b.csw.dTag (index - 4)
      else if index < 12 then byteOf b.csw.dDataResidue (index - 8)
      else match b.csw.bStatus with
        | .cmdOk => 0
        | .cmdFail => 1
        | .phaseError => 2

def txData (b : Bot) (obj : Obj) (len : Nat) : Bot :=
  { b with inEp := b.inEp.txData b.memory (some ⟨obj, 0⟩) len }

def rxData (b : Bot) (obj : Obj) (len : Nat) : Bot :=
  { b with outEp := b.outEp.rxData (some ⟨obj, 0⟩) len }

def note (b : Bot) (event : Event) : Bot := { b with log := b.log ++ [event] }

-- `dDataResidue -= len`
def moved (b : Bot) (len : Nat) : Bot :=
  { b with csw.dDataResidue := (4294967296 + b.csw.dDataResidue - len) % 4294967296 }

end Bot

def cbwLength : Nat := 31

def cswLength : Nat := 13

def txCSW (b : Bot) (status : CswStatus) : Bot :=
  let b := { b with
    csw := { b.csw with dSignature := 0x53425355, bStatus := status }
    state := .idle }
  ((b.note (.csw b.csw.dTag b.csw.dDataResidue status)).txData .csw cswLength).rxData .cbw cbwLength

-- `SCSI_OK` or `SCSI_FAIL`, with the state a command leaves behind.
inductive Outcome where
  | ok (b : Bot)
  | fail (b : Bot)

def putSenseCode (b : Bot) (sKey asc ascq : Byte) : Bot :=
  { b with
    senseCode := Function.update b.senseCode b.sensePutCnt ⟨sKey, asc, ascq⟩
    sensePutCnt := if b.sensePutCnt + 1 = 4 then 0 else b.sensePutCnt + 1 }

def notReady : Byte := 2
def hardwareError : Byte := 4
def illegalRequest : Byte := 5
def ascWriteFault : Byte := 0x03
def ascUnrecoveredReadError : Byte := 0x11
def ascInvalidCdb : Byte := 0x20
def ascAddressOutOfRange : Byte := 0x21
def ascInvalidFieldInCommand : Byte := 0x24
def ascWriteProtected : Byte := 0x27
def ascMediumNotPresent : Byte := 0x3A

def failWith (b : Bot) (sKey asc : Byte) : Outcome := .fail (putSenseCode b sKey asc 0)

/-- The buffer with its first bytes replaced. -/
def overwrite (buffer : Nat → Byte) (bytes : List Byte) : Nat → Byte :=
  fun index => (bytes[index]?).getD (buffer index)

def reply (b : Bot) (bytes : List Byte) (dataLen : Nat) : Outcome :=
  .ok { b with data := overwrite b.data bytes, dataLen := dataLen }

def testUnitReady (b : Bot) (storage : Storage) : Outcome :=
  if b.dDataXferLen ≠ 0 then failWith b illegalRequest ascInvalidCdb
  else if !storage.checkReady then failWith b notReady ascMediumNotPresent
  else .ok { b with dataLen := 0 }

def page00InquiryData : List Byte := [0x00, 0x00, 0x00, 7 - 4, 0x00, 0x80, 0x83]

def inquiry (cfg : Config) (b : Bot) : Outcome :=
  if (b.command 1).toNat % 2 = 1 then reply b page00InquiryData (3 + 4)
  else
    let page (index : Nat) := cfg.inquiryData (b.bLUN.toNat * 36 + index)
    let dataLen := min ((page 4).toNat + 5) (b.command 4).toNat
    reply b ((List.range dataLen).map page) dataLen

def requestSense (b : Bot) : Outcome :=
  let sense :=
    if b.senseTxCnt ≠ b.sensePutCnt then b.senseCode b.senseTxCnt else ⟨0, 0, 0⟩
  let senseTxCnt :=
    if b.senseTxCnt ≠ b.sensePutCnt then
      if b.senseTxCnt + 1 = 4 then 0 else b.senseTxCnt + 1
    else b.senseTxCnt
  reply { b with senseTxCnt := senseTxCnt }
    [0x70, 0, sense.sensekey, 0, 0, 0, 0, 18 - 6, 0, 0, 0, 0, sense.asc, sense.ascq, 0, 0, 0, 0]
    (min 18 (b.command 4).toNat)

def readFormatCapacity (b : Bot) (storage : Storage) : Outcome :=
  if !storage.readCapacity then
    failWith { b with data := overwrite b.data (List.replicate 12 0) } notReady ascMediumNotPresent
  else
    let last := (storage.blkNbr - 1).toNat
    let blkSize := storage.blkSize.toNat
    reply b [0, 0, 0, 0x08, byteOf last 3, byteOf last 2, byteOf last 1, byteOf last 0, 0x02,
      byteOf blkSize 2, byteOf blkSize 1, byteOf blkSize 0] 12

def readCapacity10 (b : Bot) (storage : Storage) : Outcome :=
  let b := { b with blkNbr := storage.blkNbr.toNat, blkSize := storage.blkSize.toNat }
  if !storage.readCapacity then failWith b notReady ascMediumNotPresent
  else
    let last := (4294967295 + b.blkNbr) % 4294967296
    reply b [byteOf last 3, byteOf last 2, byteOf last 1, byteOf last 0, byteOf b.blkSize 3,
      byteOf b.blkSize 2, byteOf b.blkSize 1, byteOf b.blkSize 0] 8

-- The sum is a `uint32_t`.
def outOfRange (b : Bot) (blkOffset blkNbr : Nat) : Bool :=
  b.blkNbr < (blkNbr + blkOffset) % 4294967296

def addressed (b : Bot) : Bot :=
  { b with blkAddr := b.commandAddr, blkLen := b.commandLen }

def scaled (b : Bot) : Bot :=
  { b with
    blkAddr := b.blkAddr * b.blkSize % 4294967296
    blkLen := b.blkLen * b.blkSize % 4294967296 }

def Bot.chunkLen (cfg : Config) (b : Bot) : Nat := min cfg.mediaPacket b.blkLen

-- The call of `ReadData`; `len` goes where `WriteData` takes the unit number, a `uint8_t`.
def Bot.readCall (b : Bot) (storage : Storage) (len : Nat) : Bot :=
  { b.note (.readData (UInt8.ofNat len) (b.blkAddr / b.blkSize) (len / b.blkSize)) with
    data := fun index => if index < len then storage.content index else b.data index }

def Bot.writeCall (b : Bot) (len : Nat) : Bot :=
  b.note (.writeData b.bLUN (b.blkAddr / b.blkSize) (len / b.blkSize)
    ((List.range len).map b.data))

-- `s_blkAddr += len`, `s_blkLen -= len` and `dDataResidue -= len`
def Bot.advance (b : Bot) (len : Nat) : Bot :=
  { b.moved len with blkAddr := (b.blkAddr + len) % 4294967296, blkLen := b.blkLen - len }

def Bot.readNext (b : Bot) (len : Nat) : Bot :=
  let b := (b.txData .data len).advance len
  { b with state := if b.blkLen = 0 then .lastDataIn else b.state }

def scsiRead (cfg : Config) (b : Bot) (storage : Storage) : Outcome :=
  let len := b.chunkLen cfg
  let b := b.readCall storage len
  if !storage.readData then failWith b hardwareError ascUnrecoveredReadError
  else .ok (b.readNext len)

def Bot.writeNext (cfg : Config) (b : Bot) (len : Nat) : Bot :=
  let b := b.advance len
  if b.blkLen ≠ 0 then b.rxData .data (b.chunkLen cfg) else txCSW b .cmdOk

def scsiWrite (cfg : Config) (b : Bot) (storage : Storage) : Outcome :=
  let len := b.chunkLen cfg
  let b := b.writeCall len
  if !storage.writeData then failWith b hardwareError ascWriteFault
  else .ok (b.writeNext cfg len)

def read10 (cfg : Config) (b : Bot) (storage : Storage) : Outcome :=
  if b.state = .idle then
    if !b.dirIn then failWith b illegalRequest ascInvalidCdb
    else if !storage.checkReady then failWith b notReady ascMediumNotPresent
    else
      let b := addressed b
      if outOfRange b b.blkAddr b.blkLen then failWith b illegalRequest ascAddressOutOfRange
      else
        let b := scaled { b with state := .dataIn }
        if b.dDataXferLen ≠ b.blkLen then failWith b illegalRequest ascInvalidCdb
        else scsiRead cfg { b with dataLen := cfg.mediaPacket % 65536 } storage
  else scsiRead cfg { b with dataLen := cfg.mediaPacket % 65536 } storage

def write10 (cfg : Config) (b : Bot) (storage : Storage) : Outcome :=
  if b.state = .idle then
    if b.dirIn then failWith b illegalRequest ascInvalidCdb
    else if !storage.checkReady then failWith b notReady ascMediumNotPresent
    else if !storage.checkWPR then failWith b notReady ascWriteProtected
    else
      let b := addressed b
      if outOfRange b b.blkAddr b.blkLen then failWith b illegalRequest ascAddressOutOfRange
      else
        let b := scaled b
        if b.dDataXferLen ≠ b.blkLen then failWith b illegalRequest ascInvalidCdb
        else .ok (({ b with state := .dataOut } : Bot).rxData .data (b.chunkLen cfg))
  else scsiWrite cfg b storage

def verify10 (b : Bot) : Outcome :=
  if (b.command 1).toNat / 2 % 2 = 1 then failWith b illegalRequest ascInvalidFieldInCommand
  else
    let b := addressed b
    if outOfRange b b.blkAddr b.blkLen then failWith b illegalRequest ascAddressOutOfRange
    else .ok { b with dataLen := 0 }

def startStopUnit (b : Bot) : Outcome := .ok { b with dataLen := 0 }

def modeSense6 (b : Bot) : Outcome := reply b (List.replicate 8 0) 8

def modeSense10 (b : Bot) : Outcome := reply b [0, 0x06, 0, 0, 0, 0, 0, 0] 8

inductive Opcode where
  | testUnitReady
  | inquiry
  | requestSense
  | readFormatCapacities
  | readCapacity10
  | read10
  | write10
  | verify10
  | startStopUnit
  | modeSense6
  | modeSense10
  | other
  deriving DecidableEq, Repr

def opcode (byte : Byte) : Opcode :=
  if byte = 0x00 then .testUnitReady
  else if byte = 0x12 then .inquiry
  else if byte = 0x03 then .requestSense
  else if byte = 0x23 then .readFormatCapacities
  else if byte = 0x25 then .readCapacity10
  else if byte = 0x28 then .read10
  else if byte = 0x2A then .write10
  else if byte = 0x2F then .verify10
  else if byte = 0x1E ∨ byte = 0x1B then .startStopUnit
  else if byte = 0x1A then .modeSense6
  else if byte = 0x5A then .modeSense10
  else .other

-- Both callers pass `CBW.bLUN` and `CBW.CB`.
def cmdHandler (cfg : Config) (b : Bot) (storage : Storage) : Outcome :=
  match opcode (b.command 0) with
  | .testUnitReady => testUnitReady b storage
  | .inquiry => inquiry cfg b
  | .requestSense => requestSense b
  | .readFormatCapacities => readFormatCapacity b storage
  | .readCapacity10 => readCapacity10 b storage
  | .read10 => read10 cfg b storage
  | .write10 => write10 cfg b storage
  | .verify10 => verify10 b
  | .startStopUnit => startStopUnit b
  | .modeSense6 => modeSense6 b
  | .modeSense10 => modeSense10 b
  | .other => failWith b illegalRequest ascInvalidCdb

end ApmSdk.Msc
