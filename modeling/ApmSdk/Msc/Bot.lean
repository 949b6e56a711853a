import ApmSdk.Lib.Runs
import ApmSdk.Msc.Scsi

set_option autoImplicit false

/-!
# The mass storage class: bulk-only transport

`usbd_msc_bot.c` over the two bulk endpoints, as a transition system whose steps are the
packets and requests of the host.
-/

namespace ApmSdk.Msc

open Usbd

def botReset (b : Bot) : Bot :=
  ({ b with state := .idle, status := .recovery } : Bot).rxData .cbw cbwLength

-- `g_storageCallBack.Init` is code of the application.
def botInit (b : Bot) : Bot :=
  ({ b with state := .idle, status := .normal } : Bot).rxData .cbw cbwLength

def botTxData (b : Bot) (len : Nat) : Bot :=
  let len := min len b.dDataXferLen
  let b := b.moved len
  ({ b with csw.bStatus := .cmdOk, state := .sendData } : Bot).txData .data len

def stall (b : Bot) : Bot :=
  let b : Bot :=
    if b.bmFlags = 0 ∧ b.dDataXferLen ≠ 0 ∧ b.status = .normal then
      { b.note .stallOut with outEp.rxStatus := .stall }
    else b
  let b : Bot := { b.note .stallIn with inEp.txStatus := .stall }
  if b.status = .error then b.rxData .cbw cbwLength else b

-- The test of `USBD_MSC_BOT_DecodeCBW`.
def Bot.valid (b : Bot) : Bool :=
  b.outEp.xferCnt == cbwLength && b.dSignature == 0x43425355 && decide (b.bLUN.toNat ≤ 1) &&
    decide (1 ≤ b.bCBLen.toNat) && decide (b.bCBLen.toNat ≤ 16)

/-- The tag and the length of the command, copied to the CSW before anything is checked. -/
def Bot.started (b : Bot) : Bot :=
  { b with csw := { b.csw with dTag := b.dTag, dDataResidue := b.dDataXferLen } }

def decodeCBW (cfg : Config) (b : Bot) (storage : Storage) : Bot :=
  let b := b.started
  if !b.valid then
    { putSenseCode b illegalRequest ascInvalidCdb 0 with status := .error }
  else
    match cmdHandler cfg b storage with
    | .fail b => stall b
    | .ok b =>
        if b.state = .idle ∨ b.state = .sendData then
          if b.dataLen ≠ 0 then botTxData b b.dataLen else txCSW b .cmdOk
        else b

def outData (cfg : Config) (b : Bot) (storage : Storage) : Bot :=
  match b.state with
  | .idle => decodeCBW cfg b storage
  | .dataOut =>
      match cmdHandler cfg b storage with
      | .ok b => b
      | .fail b => txCSW b .cmdFail
  | _ => b

def inData (cfg : Config) (b : Bot) (storage : Storage) : Bot :=
  match b.state with
  | .dataIn =>
      match cmdHandler cfg b storage with
      | .ok b => b
      | .fail b => txCSW b .cmdFail
  | .sendData | .lastDataIn => txCSW b .cmdOk
  | _ => b

def clearFeatureHandler (b : Bot) : Bot :=
  if b.status = .error then { b with inEp.txStatus := .nak, status := .normal }
  else if 128 ≤ b.wIndex0.toNat ∧ b.status ≠ .recovery then txCSW b .cmdFail
  else b

-- The application's part of `CLEAR_FEATURE(ENDPOINT_HALT)` on a bulk endpoint.
def clearHalt (cfg : Config) (b : Bot) (wIndex0 : Byte) : Bot :=
  let b := { b with wIndex0 := wIndex0 }
  if 128 ≤ wIndex0.toNat then
    { b with inEp.txStatus := if b.inEp.txStatus = .stall then .nak else b.inEp.txStatus }
  else
    { b with
      outEp.rxStatus := if b.outEp.rxStatus = .stall then cfg.clearedOut else b.outEp.rxStatus }

-- The packet in its buffer, before `outEpHandler` is called.
def Bot.stored (b : Bot) (packet : List Byte) : Bot :=
  let before := b.outEp.acknowledged
  let target := before.target packet.length
  let memory := match target with
    | some pointer => b.memory.write pointer packet
    | none => b.memory
  { b with
    cbw := memory .cbw
    data := memory .data
    outEp := before.receive packet.length
    log := if b.state = .dataOut then b.log ++ [.received packet] else b.log }

def dataOutProcess (cfg : Config) (b : Bot) (packet : List Byte) (storage : Storage) : Bot :=
  let b := b.stored packet
  if b.outEp.packNum = 0 then outData cfg b storage else b

def dataInProcess (cfg : Config) (b : Bot) (storage : Storage) : Bot :=
  if b.inEp.packNum ≠ 0 then { b with inEp := b.inEp.nextPacket b.memory }
  else inData cfg b storage

inductive Label where
  | out (packet : List Byte) (storage : Storage)
  | inDone (storage : Storage)
  | clearHalt (wIndex0 : Byte)
  | reset

def step (cfg : Config) (b : Bot) : Label → Option Bot
  | .out packet storage =>
      if b.outEp.rxStatus = .valid ∧ packet.length ≤ rxCapacity b.outEp.rxCount then
        some (dataOutProcess cfg b packet storage)
      else none
  | .inDone storage =>
      if b.inEp.txStatus = .valid then
        some (dataInProcess cfg { b with inEp.txStatus := .nak } storage)
      else none
  | .clearHalt wIndex0 => some (clearFeatureHandler (Msc.clearHalt cfg b wIndex0))
  | .reset => some (botReset b)

theorem step_out {cfg : Config} {b after : Bot} {packet : List Byte} {storage : Storage}
    (taken : step cfg b (.out packet storage) = some after) :
    (b.outEp.rxStatus = .valid ∧ packet.length ≤ rxCapacity b.outEp.rxCount) ∧
      dataOutProcess cfg b packet storage = after := by
  simpa only [step, Option.ite_none_right_eq_some, Option.some.injEq] using taken

theorem step_inDone {cfg : Config} {b after : Bot} {storage : Storage}
    (taken : step cfg b (.inDone storage) = some after) :
    b.inEp.txStatus = .valid ∧
      dataInProcess cfg { b with inEp.txStatus := .nak } storage = after := by
  simpa only [step, Option.ite_none_right_eq_some, Option.some.injEq] using taken

/-- The zero-initialised program, with its bulk endpoints opened. -/
def opened (inMaxPackSize outMaxPackSize : Nat) : Bot where
  state := .idle
  status := .normal
  dataLen := 0
  cbw := fun _ => 0
  csw := ⟨0, 0, 0, .cmdOk⟩
  data := fun _ => 0
  senseCode := fun _ => ⟨0, 0, 0⟩
  senseTxCnt := 0
  sensePutCnt := 0
  blkSize := 0
  blkNbr := 0
  blkAddr := 0
  blkLen := 0
  inEp := { CtrlBuf.reset inMaxPackSize with txStatus := .nak, packets := [] }
  outEp := { CtrlBuf.reset outMaxPackSize with rxStatus := .nak, rxCount := 0 }
  wIndex0 := 0
  log := []

end ApmSdk.Msc
