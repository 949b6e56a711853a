import Mathlib.Logic.Function.Basic
import ApmSdk.Lib.Frames
import ApmSdk.Lib.Runs
import ApmSdk.Usbd.Endpoint

set_option autoImplicit false

/-!
# The RxFIFO of the OTG device

The status words and the data that the peripheral puts into the shared RxFIFO, and the passes of
`USBD_RxFifoNoEmptyIsrHandler` that take them out.
-/

namespace ApmSdk.Otg

open Runs Frames Usbd

structure FifoStatus where
  ep : BitVec 4
  byteCount : BitVec 11
  dataPid : BitVec 2
  status : BitVec 4
  frameNumber : BitVec 4
  deriving DecidableEq, Repr

def FifoStatus.word (status : FifoStatus) : BitVec 32 :=
  0#7 ++ status.frameNumber ++ status.status ++ status.dataPid ++ status.byteCount ++ status.ep

def FifoStatus.ofWord (word : BitVec 32) : FifoStatus where
  ep := word.extractLsb' 0 4
  byteCount := word.extractLsb' 4 11
  dataPid := word.extractLsb' 15 2
  status := word.extractLsb' 17 4
  frameNumber := word.extractLsb' 21 4

theorem FifoStatus.ofWord_word (status : FifoStatus) : FifoStatus.ofWord status.word = status := by
  cases status
  simp only [FifoStatus.ofWord, FifoStatus.word, FifoStatus.mk.injEq]
  refine ⟨?_, ?_, ?_, ?_, ?_⟩
  all_goals
    ext index bound
    simp only [BitVec.getElem_extractLsb', BitVec.getLsbD_append]
    grind

/-- The entries of the peripheral: OUT data (2), SETUP data (6) of 8 bytes, and entries without
data. -/
def rxFraming : Framing FifoStatus (BitVec 32) where
  encode := FifoStatus.word
  decode := FifoStatus.ofWord
  size := fun status => (status.byteCount.toNat + 3) / 4
  valid := fun status => (status.status = 6 → status.byteCount = 8) ∧
    (status.status ≠ 2 → status.status ≠ 6 → status.byteCount = 0)
  decode_encode := FifoStatus.ofWord_word

/-! ## Reading -/

def wordBytes (word : BitVec 32) : List Byte :=
  (List.range 4).map fun index => UInt8.ofNat (word >>> (8 * index)).toNat

def readWords : Nat → List (BitVec 32) → List Byte × List (BitVec 32)
  | 0, fifo => ([], fifo)
  | count + 1, fifo =>
      let read := readWords count fifo.tail
      (wordBytes (fifo.headD 0) ++ read.1, read.2)

-- The bytes stored at `rBuf`, and what is left in the FIFO.
def readRxFifoPacket (fifo : List (BitVec 32)) (rLen : Nat) : List Byte × List (BitVec 32) :=
  let whole := readWords (rLen / 4) fifo
  if rLen % 4 ≠ 0 then
    (whole.1 ++ (wordBytes (whole.2.headD 0)).take (rLen % 4), whole.2.tail)
  else whole

theorem wordBytes_length (word : BitVec 32) : (wordBytes word).length = 4 := by
  simp [wordBytes]

theorem readWords_length (count : Nat) (fifo : List (BitVec 32)) :
    (readWords count fifo).1.length = 4 * count := by
  induction count generalizing fifo with
  | zero => rfl
  | succ count ih =>
    simp only [readWords, List.length_append, wordBytes_length, ih]
    omega

theorem readWords_rest (count : Nat) (fifo : List (BitVec 32)) :
    (readWords count fifo).2 = fifo.drop count := by
  induction count generalizing fifo with
  | zero => rfl
  | succ count ih => simp only [readWords, ih, List.drop_tail]

theorem readRxFifoPacket_length (fifo : List (BitVec 32)) (rLen : Nat) :
    (readRxFifoPacket fifo rLen).1.length = rLen := by
  unfold readRxFifoPacket
  split
  · simp only [List.length_append, List.length_take, readWords_length, wordBytes_length]
    omega
  · rw [readWords_length]
    omega

/-- A packet takes its words out of the FIFO, the last one even when it is not full. -/
theorem readRxFifoPacket_rest (fifo : List (BitVec 32)) (rLen : Nat) :
    (readRxFifoPacket fifo rLen).2 = fifo.drop ((rLen + 3) / 4) := by
  unfold readRxFifoPacket
  split
  · next rest =>
    have words : (rLen + 3) / 4 = rLen / 4 + 1 := by omega
    simp only [words, readWords_rest, List.tail_drop]
  · next whole =>
    have words : (rLen + 3) / 4 = rLen / 4 := by omega
    rw [words, readWords_rest]

/-! ## The device -/

/-- DOEPTRS and EPEN of an OUT endpoint. -/
structure OutTransfer where
  eppcnt : Nat
  eptrs : Nat
  epen : Bool
  deriving DecidableEq

/-- A buffer given to `USBD_CtrlOutData` or `USBD_RxData`, with the packets that were counted
for it and what has been handled since: bytes and packets with data. -/
structure Given (Obj : Type) where
  buf : Option (Ptr Obj)
  len : Nat
  packets : Nat
  received : Nat
  handled : Nat

def Given.receive {Obj : Type} (given : Given Obj) (byteCount : Nat) : Given Obj :=
  { given with received := given.received + byteCount, handled := given.handled + 1 }

/-- The OUT half of the device. `stores` records what was written to the buffers of the
endpoints, `given` the last buffer of each. -/
structure OutDevice (Obj : Type) where
  outBuf : BitVec 4 → CtrlBuf Obj
  reqPack : List Byte
  fifo : List (BitVec 32)
  doep : BitVec 4 → OutTransfer
  stores : List (BitVec 4 × Ptr Obj × List Byte)
  given : BitVec 4 → Option (Given Obj)

section

variable {Obj : Type}

def OutDevice.enableOutEpTransfer (dev : OutDevice Obj) (ep : BitVec 4)
    (packNum transferSize : Nat) : OutDevice Obj :=
  { dev with
    doep := Function.update dev.doep ep
      { eppcnt := packNum % 256 % 1024, eptrs := transferSize % 524288, epen := true } }

def OutDevice.receiveSetupPacket (dev : OutDevice Obj) (packNum : Nat) : OutDevice Obj :=
  { dev with
    doep := Function.update dev.doep 0
      { dev.doep 0 with eppcnt := 1, eptrs := packNum * 8 } }

def OutDevice.openOutEP (dev : OutDevice Obj) (ep : BitVec 4) (packSize : BitVec 16) :
    OutDevice Obj :=
  { dev with
    outBuf := Function.update dev.outBuf ep
      { dev.outBuf ep with maxPackSize := packSize.toNat } }

-- The first three assignments of `USBD_CtrlOutData` and of `USBD_RxData`.
def OutDevice.give (dev : OutDevice Obj) (ep : BitVec 4) (buf : Option (Ptr Obj))
    (len : BitVec 32) : OutDevice Obj :=
  let packNum := packetCount len.toNat (dev.outBuf ep).maxPackSize
  { dev with
    outBuf := Function.update dev.outBuf ep
      { dev.outBuf ep with pBuf := buf, bufLen := len.toNat, packNum := packNum }
    given := Function.update dev.given ep
      (some { buf := buf, len := len.toNat, packets := packNum, received := 0, handled := 0 }) }

def OutDevice.ctrlOutData (dev : OutDevice Obj) (buf : Option (Ptr Obj)) (len : BitVec 32) :
    OutDevice Obj :=
  (dev.give 0 buf len).enableOutEpTransfer 0 1 (dev.outBuf 0).maxPackSize

def OutDevice.rxData (dev : OutDevice Obj) (ep : BitVec 4) (buf : Option (Ptr Obj))
    (len : BitVec 32) : OutDevice Obj :=
  let packNum := packetCount len.toNat (dev.outBuf ep).maxPackSize
  (dev.give ep buf len).enableOutEpTransfer ep packNum ((dev.outBuf ep).maxPackSize * packNum)

-- In the state `USBD_CTRL_STATE_OUT_DATA`.
def OutDevice.ctrlOutProcess (dev : OutDevice Obj) : OutDevice Obj :=
  if (dev.outBuf 0).packNum ≠ 0 then dev.enableOutEpTransfer 0 1 (dev.outBuf 0).maxPackSize
  else dev.receiveSetupPacket 3

def OutDevice.ctrlRxStatus (dev : OutDevice Obj) (inPackSize : BitVec 16) : OutDevice Obj :=
  (dev.enableOutEpTransfer 0 1 inPackSize.toNat).receiveSetupPacket 3

def OutDevice.rxFifoNoEmptyIsrHandler (dev : OutDevice Obj) : OutDevice Obj :=
  let fifoStatus := FifoStatus.ofWord (dev.fifo.headD 0)
  let popped := { dev with fifo := dev.fifo.tail }
  let ep := fifoStatus.ep
  let byteCount := fifoStatus.byteCount.toNat
  match fifoStatus.status.toNat with
  | 2 =>
      match (dev.outBuf ep).pBuf with
      | some pBuf =>
          if byteCount ≠ 0 then
            let read := readRxFifoPacket popped.fifo byteCount
            { popped with
              fifo := read.2
              stores := dev.stores ++ [(ep, pBuf, read.1)]
              outBuf := Function.update dev.outBuf ep
                { dev.outBuf ep with
                  xferCnt := byteCount
                  pBuf := some (pBuf.add byteCount)
                  bufLen := ((dev.outBuf ep).bufLen + (4294967296 - byteCount)) % 4294967296
                  packNum := ((dev.outBuf ep).packNum + 255) % 256 } }
          else popped
      | none => popped
  | 6 =>
      let read := readRxFifoPacket popped.fifo 8
      { popped with reqPack := read.1, fifo := read.2 }
  | _ => popped

/-! ## Runs -/

inductive OutLabel (Obj : Type) where
  | openOutEP (ep : BitVec 4) (packSize : BitVec 16)
  | ctrlOutData (buf : Option (Ptr Obj)) (len : BitVec 32)
  | rxData (ep : BitVec 4) (buf : Option (Ptr Obj)) (len : BitVec 32)
  | ctrlOutProcess
  | ctrlRxStatus (inPackSize : BitVec 16)
  | receiveSetupPacket
  | receive (frame : Frame rxFraming)
  | pass

/-- An OUT packet is no longer than what its endpoint is armed for, and ends the transfer when
it is short or the last. -/
def OutDevice.receive (dev : OutDevice Obj) (frame : Frame rxFraming) : Option (OutDevice Obj) :=
  let ep := frame.header.ep
  let count := frame.header.byteCount.toNat
  let arrived := { dev with fifo := dev.fifo ++ frame.words }
  if frame.header.status = 2 then
    let armed := dev.doep ep
    if armed.epen ∧ 0 < armed.eppcnt ∧ count ≤ armed.eptrs ∧ count ≤ (dev.outBuf ep).maxPackSize then
      some { arrived with
        doep := Function.update dev.doep ep
          { eppcnt := armed.eppcnt - 1
            eptrs := armed.eptrs - count
            epen := armed.eppcnt ≠ 1 ∧ count = (dev.outBuf ep).maxPackSize } }
    else none
  else some arrived

/-- What the handler is about to take out of the FIFO. -/
def OutDevice.entry (dev : OutDevice Obj) : FifoStatus := FifoStatus.ofWord (dev.fifo.headD 0)

/-- OUT data that is not empty. -/
def FifoStatus.HasData (status : FifoStatus) : Prop := status.status = 2 ∧ status.byteCount ≠ 0

instance (status : FifoStatus) : Decidable status.HasData := by
  unfold FifoStatus.HasData; infer_instance

def outStep (dev : OutDevice Obj) : OutLabel Obj → Option (OutDevice Obj)
  | .openOutEP ep packSize => some (dev.openOutEP ep packSize)
  | .ctrlOutData buf len => some (dev.ctrlOutData buf len)
  | .rxData ep buf len => if ep = 0 then none else some (dev.rxData ep buf len)
  | .ctrlOutProcess => some dev.ctrlOutProcess
  | .ctrlRxStatus inPackSize => some (dev.ctrlRxStatus inPackSize)
  | .receiveSetupPacket => some (dev.receiveSetupPacket 3)
  | .receive frame => dev.receive frame
  | .pass =>
      if dev.fifo = [] then none
      else
        let after := dev.rxFifoNoEmptyIsrHandler
        let ep := dev.entry.ep
        if dev.entry.HasData then
          some { after with
            given := Function.update dev.given ep
              ((dev.given ep).map (Given.receive · dev.entry.byteCount.toNat)) }
        else some after

def OutDevice.started : OutDevice Obj where
  outBuf := fun _ => CtrlBuf.reset 0
  reqPack := List.replicate 8 0
  fifo := []
  doep := fun _ => { eppcnt := 0, eptrs := 0, epen := false }
  stores := []
  given := fun _ => none

/-- What one pass must do. -/
structure Drains (before after : OutDevice Obj) : Prop where
  popped : ∃ status payload, rxFraming.pop before.fifo = some (status, payload, after.fifo)
  framed : Framed rxFraming after.fifo
  within : ∀ ep pointer bytes, (ep, pointer, bytes) ∈ after.stores.drop before.stores.length →
    ∃ given buf, after.given ep = some given ∧ given.buf = some buf ∧ pointer.obj = buf.obj ∧
      buf.offset ≤ pointer.offset ∧ pointer.offset + bytes.length ≤ buf.offset + given.len
  counters : ∀ ep, (after.outBuf ep).bufLen ≤ (before.outBuf ep).bufLen ∧
    (after.outBuf ep).packNum ≤ (before.outBuf ep).packNum

/-- The packet, with what was handled since the buffer was given, is not more than the bytes
and the packets of the buffer. -/
def Given.Fits (given : Given Obj) (byteCount : Nat) : Prop :=
  given.buf.isSome ∧ given.received + byteCount ≤ given.len ∧ given.handled < given.packets

instance (given : Given Obj) (byteCount : Nat) : Decidable (given.Fits byteCount) := by
  unfold Given.Fits; infer_instance

/-- A pass over OUT data finds a buffer given for its endpoint in which the packet fits. -/
def Fits (dev : OutDevice Obj) : OutLabel Obj → Prop
  | .pass => dev.entry.HasData →
      match dev.given dev.entry.ep with
      | some given => given.Fits dev.entry.byteCount.toNat
      | none => False
  | _ => True

instance (dev : OutDevice Obj) (label : OutLabel Obj) : Decidable (Fits dev label) := by
  unfold Fits
  split
  · split <;> infer_instance
  · infer_instance

/-! ## One pass -/

section Pass

variable {dev : OutDevice Obj} {frame : Frame rxFraming} {rest : List (BitVec 32)}

theorem entry_front (front : dev.fifo = frame.words ++ rest) : dev.entry = frame.header := by
  simp [OutDevice.entry, front, Frame.words, rxFraming, FifoStatus.ofWord_word]

theorem payload_length (frame : Frame rxFraming) :
    frame.payload.length = (frame.header.byteCount.toNat + 3) / 4 := frame.sized

theorem payload_rest (frame : Frame rxFraming) (rest : List (BitVec 32)) :
    (readRxFifoPacket (frame.payload ++ rest) frame.header.byteCount.toNat).2 = rest := by
  rw [readRxFifoPacket_rest, ← payload_length, List.drop_left]

theorem payload_empty (none : frame.header.byteCount = 0) : frame.payload = [] := by
  rw [← List.length_eq_zero_iff, payload_length, none]
  rfl

/-- An entry without OUT data is taken out whole and changes no buffer of an endpoint. -/
theorem isr_plain (front : dev.fifo = frame.words ++ rest) (noData : ¬ frame.header.HasData) :
    ∃ reqPack, dev.rxFifoNoEmptyIsrHandler = { dev with reqPack := reqPack, fifo := rest } := by
  have header := entry_front front
  have tail : dev.fifo.tail = frame.payload ++ rest := by
    rw [front]
    rfl
  unfold OutDevice.entry at header
  simp only [OutDevice.rxFifoNoEmptyIsrHandler, header, tail]
  split
  · next outData =>
    have isOut : frame.header.status = 2 := BitVec.eq_of_toNat_eq outData
    have zero : frame.header.byteCount = 0 := by
      by_contra some
      exact noData ⟨isOut, some⟩
    rw [payload_empty zero]
    refine ⟨dev.reqPack, ?_⟩
    split
    · simp [zero]
    · rfl
  · next setupData =>
    have isSetup : frame.header.status = 6 := BitVec.eq_of_toNat_eq setupData
    have eight : frame.header.byteCount.toNat = 8 := by
      rw [frame.valid.1 isSetup]
      rfl
    have read := payload_rest frame rest
    rw [eight] at read
    exact ⟨_, by rw [read]⟩
  · next notOut notSetup =>
    have none : frame.header.byteCount = 0 := by
      apply frame.valid.2
      · intro isOut
        exact notOut (by rw [isOut]; rfl)
      · intro isSetup
        exact notSetup (by rw [isSetup]; rfl)
    exact ⟨dev.reqPack, by rw [payload_empty none, List.nil_append]⟩

theorem isr_null (front : dev.fifo = frame.words ++ rest) (data : frame.header.HasData)
    (null : (dev.outBuf frame.header.ep).pBuf = none) :
    dev.rxFifoNoEmptyIsrHandler = { dev with fifo := frame.payload ++ rest } := by
  have header := entry_front front
  have tail : dev.fifo.tail = frame.payload ++ rest := by
    rw [front]
    rfl
  have outData : frame.header.status.toNat = 2 := by
    rw [data.1]
    rfl
  unfold OutDevice.entry at header
  simp only [OutDevice.rxFifoNoEmptyIsrHandler, header, tail, outData, null]

theorem isr_stored {pBuf : Ptr Obj} (front : dev.fifo = frame.words ++ rest)
    (data : frame.header.HasData) (buffer : (dev.outBuf frame.header.ep).pBuf = some pBuf) :
    ∃ bytes, bytes.length = frame.header.byteCount.toNat ∧
      dev.rxFifoNoEmptyIsrHandler =
        { dev with
          fifo := rest
          stores := dev.stores ++ [(frame.header.ep, pBuf, bytes)]
          outBuf := Function.update dev.outBuf frame.header.ep
            { dev.outBuf frame.header.ep with
              xferCnt := frame.header.byteCount.toNat
              pBuf := some (pBuf.add frame.header.byteCount.toNat)
              bufLen := ((dev.outBuf frame.header.ep).bufLen +
                (4294967296 - frame.header.byteCount.toNat)) % 4294967296
              packNum := ((dev.outBuf frame.header.ep).packNum + 255) % 256 } } := by
  have header := entry_front front
  have tail : dev.fifo.tail = frame.payload ++ rest := by
    rw [front]
    rfl
  have outData : frame.header.status.toNat = 2 := by
    rw [data.1]
    rfl
  have count : frame.header.byteCount.toNat ≠ 0 := fun zero =>
    data.2 (BitVec.eq_of_toNat_eq zero)
  unfold OutDevice.entry at header
  refine ⟨_, readRxFifoPacket_length (frame.payload ++ rest) frame.header.byteCount.toNat, ?_⟩
  simp only [OutDevice.rxFifoNoEmptyIsrHandler, header, tail, outData, buffer, count,
    payload_rest, ne_eq, not_false_eq_true, if_true]

end Pass

/-! ## Whole runs -/

/-- The buffer of an endpoint is what is left of the buffer last given. -/
def Tracks (buf : CtrlBuf Obj) : Option (Given Obj) → Prop
  | none => buf.pBuf = none
  | some given =>
      buf.pBuf = given.buf.map (Ptr.add · given.received) ∧
      buf.bufLen + given.received = given.len ∧ buf.packNum + given.handled = given.packets ∧
      given.len < 4294967296 ∧ given.packets < 256

structure OutDevice.Kept (dev : OutDevice Obj) : Prop where
  framed : Framed rxFraming dev.fifo
  tracks : ∀ ep, Tracks (dev.outBuf ep) (dev.given ep)

theorem packetCount_lt (len maxPackSize : Nat) : packetCount len maxPackSize < 256 :=
  Nat.mod_lt _ (by decide)

theorem Tracks.given {buf : CtrlBuf Obj} (pointer : Option (Ptr Obj)) (len : BitVec 32)
    (maxPackSize : Nat) :
    Tracks { buf with
        pBuf := pointer
        bufLen := len.toNat
        packNum := packetCount len.toNat maxPackSize }
      (some {
        buf := pointer
        len := len.toNat
        packets := packetCount len.toNat maxPackSize
        received := 0
        handled := 0 }) := by
  refine ⟨?_, rfl, rfl, len.isLt, packetCount_lt _ _⟩
  cases pointer <;> rfl

/-- A packet that fits leaves the rest of the buffer. -/
theorem Tracks.receive {buf : CtrlBuf Obj} {given : Given Obj} {pBuf : Ptr Obj} {byteCount : Nat}
    (tracks : Tracks buf (some given)) (fits : given.Fits byteCount)
    (pointer : buf.pBuf = some pBuf) :
    Tracks { buf with
        xferCnt := byteCount
        pBuf := some (pBuf.add byteCount)
        bufLen := (buf.bufLen + (4294967296 - byteCount)) % 4294967296
        packNum := (buf.packNum + 255) % 256 } (some (given.receive byteCount)) := by
  obtain ⟨position, bytes, packets, narrow, few⟩ := tracks
  obtain ⟨_, room, more⟩ := fits
  refine ⟨?_, ?_, ?_, narrow, few⟩
  · rw [pointer] at position
    obtain ⟨start, given_, rfl⟩ := Option.map_eq_some_iff.mp position.symm
    simp [given_, Given.receive, Ptr.add, Nat.add_assoc]
  · simp only [Given.receive]
    omega
  · simp only [Given.receive]
    omega

theorem OutDevice.Kept.started : (OutDevice.started : OutDevice Obj).Kept :=
  ⟨Framed.nil, fun _ => rfl⟩

theorem OutDevice.Kept.give {dev : OutDevice Obj} (kept : dev.Kept) (ep : BitVec 4)
    (buf : Option (Ptr Obj)) (len : BitVec 32) : (dev.give ep buf len).Kept := by
  refine ⟨kept.framed, fun other => ?_⟩
  by_cases same : other = ep
  · subst same
    simpa only [OutDevice.give, Function.update_self] using Tracks.given buf len _
  · simpa only [OutDevice.give, Function.update_of_ne same] using kept.tracks other

theorem OutDevice.Kept.openOutEP {dev : OutDevice Obj} (kept : dev.Kept) (ep : BitVec 4)
    (packSize : BitVec 16) : (dev.openOutEP ep packSize).Kept := by
  refine ⟨kept.framed, fun other => ?_⟩
  by_cases same : other = ep
  · subst same
    have tracks := kept.tracks other
    simp only [OutDevice.openOutEP, Function.update_self]
    unfold Tracks at tracks ⊢
    split <;> simp_all
  · simpa only [OutDevice.openOutEP, Function.update_of_ne same] using kept.tracks other

theorem OutDevice.Kept.receive {dev after : OutDevice Obj} {frame : Frame rxFraming}
    (kept : dev.Kept) (taken : dev.receive frame = some after) : after.Kept := by
  simp only [OutDevice.receive] at taken
  split at taken
  · split at taken
    · obtain rfl := Option.some.inj taken
      exact ⟨kept.framed.append frame, kept.tracks⟩
    · cases taken
  · obtain rfl := Option.some.inj taken
    exact ⟨kept.framed.append frame, kept.tracks⟩

/-- What a pass can do, by the entry at the front. -/
inductive PassOutcome (dev after : OutDevice Obj) : Prop
  | plain (frame : Frame rxFraming) (rest : List (BitVec 32))
      (front : dev.fifo = frame.words ++ rest) (noData : ¬ frame.header.HasData)
      (framed : Framed rxFraming rest) (reqPack : List Byte)
      (next : after = { dev with reqPack := reqPack, fifo := rest })
  | null (frame : Frame rxFraming) (rest : List (BitVec 32))
      (front : dev.fifo = frame.words ++ rest) (data : frame.header.HasData)
      (noBuffer : (dev.outBuf frame.header.ep).pBuf = none)
      (fifo : after.fifo = frame.payload ++ rest)
  | stored (frame : Frame rxFraming) (rest : List (BitVec 32))
      (front : dev.fifo = frame.words ++ rest) (data : frame.header.HasData)
      (framed : Framed rxFraming rest) (pBuf : Ptr Obj)
      (buffer : (dev.outBuf frame.header.ep).pBuf = some pBuf) (bytes : List Byte)
      (count : bytes.length = frame.header.byteCount.toNat) (fifo : after.fifo = rest)
      (stores : after.stores = dev.stores ++ [(frame.header.ep, pBuf, bytes)])
      (outBuf : after.outBuf = Function.update dev.outBuf frame.header.ep
        { dev.outBuf frame.header.ep with
          xferCnt := frame.header.byteCount.toNat
          pBuf := some (pBuf.add frame.header.byteCount.toNat)
          bufLen := ((dev.outBuf frame.header.ep).bufLen +
            (4294967296 - frame.header.byteCount.toNat)) % 4294967296
          packNum := ((dev.outBuf frame.header.ep).packNum + 255) % 256 })
      (given : after.given = Function.update dev.given frame.header.ep
        ((dev.given frame.header.ep).map (Given.receive · frame.header.byteCount.toNat)))

theorem pass_outcome {dev after : OutDevice Obj} (framed : Framed rxFraming dev.fifo)
    (taken : outStep dev .pass = some after) : PassOutcome dev after := by
  simp only [outStep] at taken
  split at taken
  · cases taken
  · next nonempty =>
    obtain ⟨frame, rest, front, restFramed⟩ := framed.front nonempty
    rw [entry_front front] at taken
    split at taken
    · next data =>
      obtain rfl := Option.some.inj taken
      cases buffer : (dev.outBuf frame.header.ep).pBuf with
      | none =>
        refine .null frame rest front data buffer ?_
        rw [isr_null front data buffer]
      | some pBuf =>
        obtain ⟨bytes, count, next⟩ := isr_stored front data buffer
        refine .stored frame rest front data restFramed pBuf buffer bytes count ?_ ?_ ?_ rfl
        · rw [next]
        · rw [next]
        · rw [next]
    · next noData =>
      obtain rfl := Option.some.inj taken
      obtain ⟨reqPack, next⟩ := isr_plain front noData
      exact .plain frame rest front noData restFramed reqPack next

theorem fits_front {dev : OutDevice Obj} {frame : Frame rxFraming} {rest : List (BitVec 32)}
    (front : dev.fifo = frame.words ++ rest) (data : frame.header.HasData) :
    Fits dev .pass ↔ ∃ given, dev.given frame.header.ep = some given ∧
      given.Fits frame.header.byteCount.toNat := by
  simp only [Fits, entry_front front, data, true_implies]
  cases dev.given frame.header.ep <;> simp

theorem OutDevice.Kept.pass {dev after : OutDevice Obj} (kept : dev.Kept)
    (fits : Fits dev .pass) (taken : outStep dev .pass = some after) : after.Kept := by
  cases pass_outcome kept.framed taken with
  | plain frame rest _ _ framed reqPack next =>
    rw [next]
    exact ⟨framed, kept.tracks⟩
  | null frame rest front data noBuffer =>
    obtain ⟨given, last, someBuf, _⟩ := (fits_front front data).mp fits
    have tracks := kept.tracks frame.header.ep
    rw [last] at tracks
    have pointer := tracks.1
    rw [noBuffer] at pointer
    simp [Option.map_eq_none_iff.mp pointer.symm] at someBuf
  | stored frame rest front data framed pBuf buffer bytes count fifo stores outBuf given =>
    obtain ⟨last, lastGiven, fitting⟩ := (fits_front front data).mp fits
    have tracks := kept.tracks frame.header.ep
    rw [lastGiven] at tracks
    refine ⟨by rw [fifo]; exact framed, fun other => ?_⟩
    rw [outBuf, given, lastGiven]
    by_cases same : other = frame.header.ep
    · subst same
      simpa only [Function.update_self, Option.map_some] using tracks.receive fitting buffer
    · simpa only [Function.update_of_ne same] using kept.tracks other

theorem outStep_kept {before after : OutDevice Obj} {label : OutLabel Obj} (kept : before.Kept)
    (fits : Fits before label) (taken : outStep before label = some after) : after.Kept := by
  cases label with
  | openOutEP ep packSize =>
    obtain rfl := Option.some.inj taken
    exact kept.openOutEP ep packSize
  | ctrlOutData buf len =>
    obtain rfl := Option.some.inj taken
    have given := kept.give 0 buf len
    exact ⟨given.framed, given.tracks⟩
  | rxData ep buf len =>
    simp only [outStep] at taken
    split at taken
    · cases taken
    · obtain rfl := Option.some.inj taken
      have given := kept.give ep buf len
      exact ⟨given.framed, given.tracks⟩
  | ctrlOutProcess =>
    obtain rfl := Option.some.inj taken
    unfold OutDevice.ctrlOutProcess
    split
    · exact ⟨kept.framed, kept.tracks⟩
    · exact ⟨kept.framed, kept.tracks⟩
  | ctrlRxStatus inPackSize =>
    obtain rfl := Option.some.inj taken
    exact ⟨kept.framed, kept.tracks⟩
  | receiveSetupPacket =>
    obtain rfl := Option.some.inj taken
    exact ⟨kept.framed, kept.tracks⟩
  | receive frame => exact kept.receive taken
  | pass => exact kept.pass fits taken

/-- Of the packets with data a pass takes out exactly those that fit. -/
theorem drains_iff {before after : OutDevice Obj} (kept : before.Kept)
    (taken : outStep before .pass = some after) : Drains before after ↔ Fits before .pass := by
  cases pass_outcome kept.framed taken with
  | plain frame rest front noData framed reqPack next =>
    apply iff_of_true
    · subst next
      refine ⟨⟨_, _, by rw [front]; exact pop_words frame rest⟩, framed, ?_, fun _ => ⟨le_rfl, le_rfl⟩⟩
      intro ep pointer bytes stored
      simp at stored
    · intro data
      rw [entry_front front] at data
      exact absurd data noData
  | null frame rest front data noBuffer fifo =>
    apply iff_of_false
    · intro drains
      obtain ⟨status, payload, popped⟩ := drains.popped
      rw [front, pop_words, fifo] at popped
      obtain ⟨_, _, left⟩ := by simpa only [Option.some.injEq, Prod.mk.injEq] using popped
      have empty : frame.payload.length = 0 := by
        simpa using congrArg List.length left
      rw [payload_length] at empty
      exact data.2 (BitVec.eq_of_toNat_eq (by simpa using (by omega : frame.header.byteCount.toNat = 0)))
    · rw [fits_front front data]
      rintro ⟨given, last, someBuf, _⟩
      have tracks := kept.tracks frame.header.ep
      rw [last] at tracks
      have pointer := tracks.1
      rw [noBuffer] at pointer
      simp [Option.map_eq_none_iff.mp pointer.symm] at someBuf
  | stored frame rest front data framed pBuf buffer bytes count fifo stores outBuf given =>
    rw [fits_front front data]
    have tracks := kept.tracks frame.header.ep
    have count_pos : frame.header.byteCount.toNat ≠ 0 := fun zero =>
      data.2 (BitVec.eq_of_toNat_eq zero)
    have count_lt := frame.header.byteCount.isLt
    constructor
    · intro drains
      cases lastGiven : before.given frame.header.ep with
      | none =>
        rw [lastGiven] at tracks
        rw [tracks] at buffer
        cases buffer
      | some last =>
        rw [lastGiven] at tracks
        obtain ⟨position, room, packets, narrow, few⟩ := tracks
        obtain ⟨bytesLeft, packetsLeft⟩ := drains.counters frame.header.ep
        simp only [outBuf, Function.update_self] at bytesLeft packetsLeft
        refine ⟨last, rfl, ?_, ?_, ?_⟩
        · rw [buffer] at position
          obtain ⟨start, someBuf, _⟩ := Option.map_eq_some_iff.mp position.symm
          rw [someBuf]
          rfl
        · omega
        · omega
    · rintro ⟨last, lastGiven, someBuf, fits, more⟩
      rw [lastGiven] at tracks
      obtain ⟨position, room, packets, narrow, few⟩ := tracks
      obtain ⟨start, startBuf⟩ := Option.isSome_iff_exists.mp someBuf
      rw [buffer, startBuf] at position
      obtain rfl : pBuf = start.add last.received := by simpa using position
      refine ⟨⟨_, _, by rw [front, fifo]; exact pop_words frame rest⟩, by rw [fifo]; exact framed,
        ?_, fun other => ?_⟩
      · intro ep pointer stored member
        simp only [stores, List.drop_left, List.mem_singleton, Prod.mk.injEq] at member
        obtain ⟨rfl, rfl, rfl⟩ := member
        refine ⟨last.receive frame.header.byteCount.toNat, start, ?_, startBuf, rfl, ?_, ?_⟩
        · rw [given, Function.update_self, lastGiven]
          rfl
        · exact Nat.le_add_right _ _
        · simp only [Ptr.add, Given.receive, count]
          omega
      · rw [outBuf]
        by_cases same : other = frame.header.ep
        · subst same
          simp only [Function.update_self]
          omega
        · rw [Function.update_of_ne same]
          exact ⟨le_rfl, le_rfl⟩

/-- In a run of passes that find room the FIFO holds whole entries, and the next pass does what
it must exactly when its packet fits. -/
theorem drains_iff_fits {labels : List (OutLabel Obj)} {before : OutDevice Obj}
    (run : Run outStep Fits OutDevice.started labels before) :
    Framed rxFraming before.fifo ∧ ∀ after, outStep before .pass = some after →
      (Drains before after ↔ Fits before .pass) := by
  have kept : before.Kept := by
    apply run.invariant OutDevice.Kept OutDevice.Kept.started
    intro earlier label later held fits taken
    exact outStep_kept held fits taken
  refine ⟨kept.framed, ?_⟩
  intro after taken
  exact drains_iff kept taken

end

/-- 64 bytes for endpoint 1. -/
def fullPacket : Frame rxFraming where
  header := { ep := 1, byteCount := 64, dataPid := 0, status := 2, frameNumber := 0 }
  payload := List.replicate 16 0
  valid := by simp [rxFraming]
  sized := rfl

def receiving (len : BitVec 32) : List (OutLabel Unit) :=
  [.openOutEP 1 64, .rxData 1 (some ⟨(), 0⟩) len, .receive fullPacket]

theorem receiving_accepted :
    (execute outStep Fits OutDevice.started (receiving 64)).isSome = true := by
  decide +kernel

def received : OutDevice Unit := final outStep Fits OutDevice.started _ receiving_accepted

theorem received_passes : (outStep received .pass).isSome = true := by
  decide +kernel

theorem drains_packet : Drains received ((outStep received .pass).get received_passes) :=
  ((drains_iff_fits (Run.final outStep Fits OutDevice.started _ receiving_accepted)).2 _
    (Option.some_get received_passes).symm).mpr (by decide +kernel)

theorem shortBuffer_accepted :
    (execute outStep free OutDevice.started (receiving 10)).isSome = true := by
  decide +kernel

def shortBuffer : OutDevice Unit := final outStep free OutDevice.started _ shortBuffer_accepted

theorem shortBuffer_passes : (outStep shortBuffer .pass).isSome = true := by
  decide +kernel

/-- A packet of 64 bytes is stored in a buffer of 10. -/
theorem packet_overruns :
    ¬ ∀ labels (before after : OutDevice Unit), Run outStep free OutDevice.started labels before →
      outStep before .pass = some after → Drains before after := by
  intro drains
  have run := Run.final outStep free OutDevice.started _ shortBuffer_accepted
  have counters := (drains _ _ _ run (Option.some_get shortBuffer_passes).symm).counters 1
  exact absurd counters.1 (by decide +kernel)

end ApmSdk.Otg
