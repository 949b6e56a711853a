import ApmSdk.Lib.Runs
import ApmSdk.Usbd.Endpoint

set_option autoImplicit false

/-!
# Endpoint 0 of the USB device core

The control transfers of `usbd_core.c` as a transition system: SETUP packets, completed IN
transactions and OUT packets, each handled to the end by the interrupt.
-/

namespace ApmSdk.Usbd

inductive CtrlState where
  | waitSetup
  | dataIn
  | dataOut
  | waitStatusIn
  | waitStatusOut
  | stalled
  deriving DecidableEq, Repr

structure DevReqData where
  bmRequestType : Byte
  bRequest : Byte
  wValue0 : Byte
  wValue1 : Byte
  wIndex0 : Byte
  wIndex1 : Byte
  wLength0 : Byte
  wLength1 : Byte
  deriving DecidableEq, Repr

def DevReqData.type (request : DevReqData) : Nat := request.bmRequestType.toNat / 32 % 4

def DevReqData.dirIn (request : DevReqData) : Bool := 128 ≤ request.bmRequestType.toNat

def DevReqData.wLength (request : DevReqData) : Nat :=
  request.wLength0.toNat + 256 * request.wLength1.toNat

/-- A call of `USBD_ReadDataFromEP`: the room its destination has, and the packets that were
still expected, except for a SETUP packet. -/
structure Read where
  count : Nat
  room : Nat
  packNum : Option Nat
  deriving DecidableEq, Repr

/-- The part of `g_usbDev` that endpoint 0 uses, with the registers of the endpoint; the last
four fields record what an observer has seen. -/
structure Dev (Obj : Type) where
  ctrlState : CtrlState
  reqData : DevReqData
  in0 : InEp Obj
  out0 : OutEp Obj
  memory : Memory Obj
  rxBuffer : Nat → Byte
  address : Byte
  rxStatusRuns : Nat
  txStatusRuns : Nat
  reads : List Read

section

variable {Obj : Type}

def Dev.setTxRxStatus (dev : Dev Obj) (tx rx : EpStatus) : Dev Obj :=
  { dev with in0.txStatus := tx, out0.rxStatus := rx }

def ctrlInData (dev : Dev Obj) (buf : Option (Ptr Obj)) (len : Nat) : Dev Obj :=
  let maxPackSize := dev.in0.maxPackSize
  let answered := if dev.reqData.dirIn then CtrlState.dataIn else .waitStatusIn
  if len = 0 then
    { dev with in0 := dev.in0.queue dev.memory none 0, ctrlState := answered }
  else
    let filled := decide (len < dev.reqData.wLength ∧ len % maxPackSize = 0) ||
      dev.in0.zeroPackFill
    if maxPackSize ≤ len then
      { dev with
        in0 := { dev.in0.queue dev.memory buf maxPackSize with
          zeroPackFill := filled
          bufLen := len - maxPackSize
          pBuf := buf.map (Ptr.add · maxPackSize)
          packNum := packetCount (len - maxPackSize) maxPackSize }
        out0.rxStatus := .nak
        ctrlState := .dataIn }
    else
      { dev with
        in0 := { dev.in0.queue dev.memory buf len with zeroPackFill := filled }
        out0.rxStatus := .nak
        ctrlState := answered }

def ctrlTxStatus (dev : Dev Obj) : Dev Obj := ctrlInData dev none 0

def ctrlOutData (dev : Dev Obj) (buf : Option (Ptr Obj)) (len : Nat) : Dev Obj :=
  if len = 0 then
    { dev.setTxRxStatus .nak .valid with ctrlState := .waitStatusOut }
  else
    { dev with
      in0.txStatus := .nak
      out0 := { dev.out0 with
        rxStatus := .valid
        pBuf := buf
        bufLen := len
        packNum := packetCount len dev.out0.maxPackSize }
      ctrlState := .dataOut }

def stall (dev : Dev Obj) : Dev Obj := dev.setTxRxStatus .stall .stall

-- What the handlers of standard, class and vendor requests do; `none` is a null handler.
structure Requests (Obj : Type) where
  standard : Dev Obj → Dev Obj
  classReqHandler : Option (Dev Obj → Dev Obj)
  vendorReqHandler : Option (Dev Obj → Dev Obj)

-- `dataBuf` is the local array, whose bytes past `xferLen` the stack leaves behind.
def setupProcess (requests : Requests Obj) (dev : Dev Obj) (xferLen : Nat)
    (dataBuf : Nat → Byte) : Dev Obj :=
  if xferLen = 0 then dev
  else
    let request : DevReqData :=
      ⟨dataBuf 0, dataBuf 1, dataBuf 2, dataBuf 3, dataBuf 4, dataBuf 5, dataBuf 6, dataBuf 7⟩
    let dev := { dev with reqData := request, reads := dev.reads ++ [⟨xferLen, 8, none⟩] }
    match request.type with
    | 0 => requests.standard dev
    | 1 => (requests.classReqHandler.getD id) dev
    | 2 => (requests.vendorReqHandler.getD id) dev
    | _ => stall dev

def ctrlInProcess (dev : Dev Obj) : Dev Obj :=
  match dev.ctrlState with
  | .dataIn =>
      if dev.in0.packNum ≠ 0 then
        { dev with in0 := dev.in0.nextPacket dev.memory, out0.rxStatus := .nak }
      else if dev.in0.zeroPackFill then
        { dev with in0 := { dev.in0.queue dev.memory none 0 with zeroPackFill := false } }
      else
        { dev.setTxRxStatus .nak .valid with
          rxStatusRuns := dev.rxStatusRuns + 1
          ctrlState := .waitStatusOut }
  | .waitStatusIn =>
      -- `USBD_SET_ADDRESS`
      { dev with
        address := if dev.reqData.bRequest = 5 then dev.reqData.wValue0 else dev.address }
  | _ => dev

def ctrlOutProcess [DecidableEq Obj] (dev : Dev Obj) : Dev Obj :=
  match dev.ctrlState with
  | .dataOut =>
      if dev.out0.packNum ≠ 0 then
        let len := min dev.out0.bufLen dev.out0.maxPackSize
        let packNum := dev.out0.packNum - 1
        let moved : Dev Obj :=
          { dev with
            memory := match dev.out0.pBuf with
              | some pointer => dev.memory.write pointer ((List.range len).map dev.rxBuffer)
              | none => dev.memory
            reads := dev.reads ++ [⟨len, dev.out0.bufLen, some dev.out0.packNum⟩]
            out0 := { dev.out0 with
              bufLen := dev.out0.bufLen - len
              pBuf := dev.out0.pBuf.map (Ptr.add · len)
              packNum := packNum } }
        if packNum ≠ 0 then ctrlOutData moved moved.out0.pBuf moved.out0.bufLen
        else ctrlTxStatus moved
      else
        ctrlTxStatus { dev with txStatusRuns := dev.txStatusRuns + 1 }
  | _ => dev

/-- A call a request handler makes. -/
inductive Call (Obj : Type) where
  | inData (buf : Option (Ptr Obj)) (len : Nat)
  | outData (buf : Option (Ptr Obj)) (len : Nat)
  | stall
  deriving DecidableEq

def Call.run (dev : Dev Obj) : Call Obj → Dev Obj
  | .inData buf len => ctrlInData dev buf len
  | .outData buf len => ctrlOutData dev buf len
  | .stall => Usbd.stall dev

def Requests.answering (calls : List (Call Obj)) : Requests Obj where
  standard := fun dev => calls.foldl Call.run dev
  classReqHandler := some fun dev => calls.foldl Call.run dev
  vendorReqHandler := some fun dev => calls.foldl Call.run dev

inductive ControlLabel (Obj : Type) where
  | setup (packet : List Byte) (stack : Nat → Byte) (answer : List (Call Obj))
  | inDone
  | out (packet : List Byte)

/-- The packet as the peripheral leaves it in the receive buffer. -/
def received (packet : List Byte) (before : Nat → Byte) : Nat → Byte :=
  fun index => (packet[index]?).getD (before index)

-- `USBD_LowPriorityProc` sets both halves of endpoint 0 to NAK before it calls a handler.
def controlStep [DecidableEq Obj] (dev : Dev Obj) : ControlLabel Obj → Option (Dev Obj)
  | .setup packet stack answer =>
      if packet.length ≤ rxCapacity dev.out0.rxCount then
        let dev := { dev with rxBuffer := received packet dev.rxBuffer }
        some (setupProcess (.answering answer) (dev.setTxRxStatus .nak .nak) packet.length
          (received packet stack))
      else none
  | .inDone =>
      if dev.in0.txStatus = .valid then some (ctrlInProcess (dev.setTxRxStatus .nak .nak))
      else none
  | .out packet =>
      if dev.out0.rxStatus = .valid ∧ packet.length ≤ rxCapacity dev.out0.rxCount then
        let dev := { dev with rxBuffer := received packet dev.rxBuffer }
        some (ctrlOutProcess (dev.setTxRxStatus .nak .nak))
      else none

end

-- Endpoint 0 after `USBD_ResetIsrHandler`.
def Dev.reset {Obj : Type} (ep0PacketSize : Nat) (memory : Memory Obj) : Dev Obj where
  ctrlState := .waitSetup
  reqData := ⟨0, 0, 0, 0, 0, 0, 0, 0⟩
  in0 := { CtrlBuf.reset ep0PacketSize with txStatus := .nak, packets := [] }
  out0 := { CtrlBuf.reset ep0PacketSize with
    rxStatus := .valid, rxCount := setEPRxCnt ep0PacketSize }
  memory := memory
  rxBuffer := fun _ => 0
  address := 0
  rxStatusRuns := 0
  txStatusRuns := 0
  reads := []

/-! ## What no control transfer changes -/

section

open Runs

variable {Obj : Type}

-- The sizes that only `USBD_ResetIsrHandler` programs.
def Dev.sizes (dev : Dev Obj) : Nat × Nat × BitVec 16 :=
  (dev.in0.maxPackSize, dev.out0.maxPackSize, dev.out0.rxCount)

theorem sizes_ctrlInData (dev : Dev Obj) (buf : Option (Ptr Obj)) (len : Nat) :
    (ctrlInData dev buf len).sizes = dev.sizes := by
  unfold ctrlInData
  dsimp only
  split
  · rfl
  · split <;> rfl

theorem sizes_ctrlOutData (dev : Dev Obj) (buf : Option (Ptr Obj)) (len : Nat) :
    (ctrlOutData dev buf len).sizes = dev.sizes := by
  unfold ctrlOutData
  split <;> rfl

theorem sizes_calls (calls : List (Call Obj)) (dev : Dev Obj) :
    (calls.foldl Call.run dev).sizes = dev.sizes := by
  induction calls generalizing dev with
  | nil => rfl
  | cons call rest ih =>
    rw [List.foldl_cons, ih]
    cases call with
    | inData buf len => exact sizes_ctrlInData dev buf len
    | outData buf len => exact sizes_ctrlOutData dev buf len
    | stall => rfl

theorem sizes_setupProcess (calls : List (Call Obj)) (dev : Dev Obj) (xferLen : Nat)
    (dataBuf : Nat → Byte) :
    (setupProcess (.answering calls) dev xferLen dataBuf).sizes = dev.sizes := by
  unfold setupProcess
  split
  · rfl
  · dsimp only
    split
    · exact sizes_calls calls _
    · exact sizes_calls calls _
    · exact sizes_calls calls _
    · rfl

theorem sizes_ctrlInProcess (dev : Dev Obj) : (ctrlInProcess dev).sizes = dev.sizes := by
  unfold ctrlInProcess
  split
  · split
    · rfl
    · split <;> rfl
  · rfl
  · rfl

variable [DecidableEq Obj]

theorem sizes_ctrlOutProcess (dev : Dev Obj) : (ctrlOutProcess dev).sizes = dev.sizes := by
  unfold ctrlOutProcess
  split
  · split
    · dsimp only
      split
      · exact sizes_ctrlOutData _ _ _
      · exact sizes_ctrlInData _ _ _
    · exact sizes_ctrlInData _ _ _
  · rfl

theorem controlStep_setup {before after : Dev Obj} {packet : List Byte} {stack : Nat → Byte}
    {answer : List (Call Obj)}
    (taken : controlStep before (.setup packet stack answer) = some after) :
    packet.length ≤ rxCapacity before.out0.rxCount ∧
      after = setupProcess (.answering answer)
        (Dev.setTxRxStatus { before with rxBuffer := received packet before.rxBuffer } .nak .nak)
        packet.length (received packet stack) := by
  simp only [controlStep, Option.ite_none_right_eq_some, Option.some.injEq] at taken
  exact ⟨taken.1, taken.2.symm⟩

theorem controlStep_inDone {before after : Dev Obj}
    (taken : controlStep before .inDone = some after) :
    before.in0.txStatus = .valid ∧ after = ctrlInProcess (before.setTxRxStatus .nak .nak) := by
  simp only [controlStep, Option.ite_none_right_eq_some, Option.some.injEq] at taken
  exact ⟨taken.1, taken.2.symm⟩

theorem controlStep_out {before after : Dev Obj} {packet : List Byte}
    (taken : controlStep before (.out packet) = some after) :
    (before.out0.rxStatus = .valid ∧ packet.length ≤ rxCapacity before.out0.rxCount) ∧
      after = ctrlOutProcess (Dev.setTxRxStatus
        { before with rxBuffer := received packet before.rxBuffer } .nak .nak) := by
  simp only [controlStep, Option.ite_none_right_eq_some, Option.some.injEq] at taken
  exact ⟨taken.1, taken.2.symm⟩

theorem sizes_controlStep {before after : Dev Obj} {label : ControlLabel Obj}
    (taken : controlStep before label = some after) : after.sizes = before.sizes := by
  cases label with
  | setup packet stack answer =>
    rw [(controlStep_setup taken).2]
    exact sizes_setupProcess answer _ _ _
  | inDone =>
    rw [(controlStep_inDone taken).2]
    exact sizes_ctrlInProcess _
  | out packet =>
    rw [(controlStep_out taken).2]
    exact sizes_ctrlOutProcess _

theorem reached_sizes {ep0PacketSize : Nat} {memory : Memory Obj}
    {labels : List (ControlLabel Obj)} {s : Dev Obj}
    (run : Run controlStep free (Dev.reset ep0PacketSize memory) labels s) :
    s.sizes = (ep0PacketSize, ep0PacketSize, setEPRxCnt ep0PacketSize) :=
  run.invariant (fun s => s.sizes = (Dev.reset ep0PacketSize memory).sizes) rfl fun _ _ _ held _ taken =>
    (sizes_controlStep taken).trans held

theorem reached_maxPackSize {ep0PacketSize : Nat} {memory : Memory Obj}
    {labels : List (ControlLabel Obj)} {s : Dev Obj}
    (run : Run controlStep free (Dev.reset ep0PacketSize memory) labels s) :
    s.in0.maxPackSize = ep0PacketSize :=
  congrArg Prod.fst (reached_sizes run)

end

end ApmSdk.Usbd
