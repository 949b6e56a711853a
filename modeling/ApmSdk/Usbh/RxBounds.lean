import ApmSdk.Usbh.Passes

set_option autoImplicit false

/-!
# Bounds of what the host receives

Which devices and which requests keep every packet inside the buffer it was meant for.
-/

namespace ApmSdk.Usbh

open Chunks Runs
open Otg (FifoStatus readRxFifoPacket)
open Usbd (Byte Memory)

/-! ## Pipes -/

theorem taken_le (bufLen space : Nat) :
    (if bufLen < space then bufLen else space) % 2 ^ 16 ≤ bufLen := by
  refine (Nat.mod_le _ _).trans ?_
  split <;> omega

/-- A handler of an empty TxFIFO moves the buffer over what it takes from the length. -/
theorem OutPipe.refill_moves (txFifo : TxFifo) (spaces : List Nat) (pipe : OutPipe) (mask : Bool)
    (len space words : Nat) :
    ∃ moved ≤ pipe.bufLen,
      (pipe.refill txFifo spaces mask len space words).1.offset = pipe.offset + moved ∧
      (pipe.refill txFifo spaces mask len space words).1.bufLen = pipe.bufLen - moved ∧
      (pipe.refill txFifo spaces mask len space words).1.bufCount = pipe.bufCount + moved := by
  induction spaces generalizing pipe mask len space words with
  | nil =>
    unfold refill
    split
    · refine ⟨(if pipe.bufLen < space then pipe.bufLen else space) % 2 ^ 16, taken_le _ _, ?_⟩
      simp [advance, writeFifoPacket]
    · exact ⟨0, Nat.zero_le _, rfl, rfl, rfl⟩
  | cons next rest ih =>
    unfold refill
    split
    · have within := taken_le pipe.bufLen space
      simp only [decide_eq_true_eq]
      generalize (if pipe.bufLen < space then pipe.bufLen else space) % 2 ^ 16 = first at within ⊢
      obtain ⟨moved, few, offset, bufLen, bufCount⟩ :=
        ih ((pipe.writeFifoPacket first words).advance first)
          (mask && !decide (pipe.bufLen < space)) first (txFifo.unit * next) next
      simp only [advance, writeFifoPacket] at few offset bufLen bufCount
      refine ⟨first + moved, by omega, offset.trans (by omega), bufLen.trans (by omega),
        bufCount.trans (by omega)⟩
    · exact ⟨0, Nat.zero_le _, rfl, rfl, rfl⟩

namespace InPipe

variable {pipe : InPipe} {byteCount : Nat}

/-- As much was given as fills the packets, or more than a channel counts, and nothing has been
taken from it for a TxFIFO. -/
def Whole (pipe : InPipe) : Prop :=
  pipe.bufLen = pipe.given ∧ 0 < pipe.given ∧
    (pipe.packSize ∣ pipe.given ∨ 256 * pipe.packSize ≤ pipe.given)

instance (pipe : InPipe) : Decidable pipe.Whole := inferInstanceAs (Decidable (_ ∧ _ ∧ (_ ∨ _)))

/-- A packet with data finds a buffer, and the device sends no more than was given, unless what
was given is whole. -/
def Modest (pipe : InPipe) (byteCount : Nat) : Prop :=
  0 < byteCount → pipe.buf ≠ none ∧ (pipe.Whole ∨ pipe.bufCount + byteCount ≤ pipe.given)

instance (pipe : InPipe) (byteCount : Nat) : Decidable (pipe.Modest byteCount) :=
  inferInstanceAs (Decidable (_ → _ ∧ (_ ∨ _)))

structure Counted (pipe : InPipe) : Prop where
  offset : ∀ cursor, pipe.buf = some cursor → cursor.offset = pipe.base + pipe.bufCount
  bufLen : 0 < pipe.given → pipe.bufLen ≤ pipe.given
  size : 0 < pipe.given → pipe.bufLen = pipe.given →
    pipe.bufCount + pipe.size ≤ packetNum pipe.given pipe.packSize * pipe.packSize
  null : pipe.buf = none → 0 < pipe.bufLen → pipe.base = 0 ∧ pipe.bufCount = 0 ∧ pipe.given = 0

theorem packetNum_le (transferLen maxPackSize : Nat) (some : 0 < transferLen) :
    packetNum transferLen maxPackSize ≤ 256 ∧
      packetNum transferLen maxPackSize ≤ (transferLen + maxPackSize - 1) / maxPackSize := by
  have sent : transferLen ≠ 0 := Nat.ne_of_gt some
  rw [packetNum, if_neg sent]
  refine ⟨Nat.min_le_left _ _, (Nat.min_le_right _ _).trans ?_⟩
  calc (transferLen + maxPackSize - 1) % 2 ^ 32 / maxPackSize % 2 ^ 16
      ≤ (transferLen + maxPackSize - 1) % 2 ^ 32 / maxPackSize := Nat.mod_le _ _
    _ ≤ (transferLen + maxPackSize - 1) / maxPackSize :=
        Nat.div_le_div_right (Nat.mod_le _ _)

theorem Whole.programmed (whole : pipe.Whole) :
    packetNum pipe.given pipe.packSize * pipe.packSize ≤ pipe.given := by
  obtain ⟨-, some, whole⟩ := whole
  rcases Nat.eq_zero_or_pos pipe.packSize with none | positive
  · rw [none, Nat.mul_zero]
    exact Nat.zero_le _
  rcases whole with ⟨packets, filled⟩ | many
  · have rounded : (pipe.given + pipe.packSize - 1) / pipe.packSize = packets := by
      rw [filled, Nat.add_sub_assoc positive, Nat.mul_add_div positive,
        Nat.div_eq_of_lt (by omega), Nat.add_zero]
    calc packetNum pipe.given pipe.packSize * pipe.packSize
        ≤ packets * pipe.packSize :=
          Nat.mul_le_mul_right _ (rounded ▸ (packetNum_le _ _ some).2)
      _ = pipe.given := by rw [filled, Nat.mul_comm]
  · exact (Nat.mul_le_mul_right _ (packetNum_le _ _ some).1).trans many

/-- A packet that finds a buffer is stored in bounds exactly if the device is modest. -/
theorem Counted.store (counted : pipe.Counted) (accepts : pipe.Accepts byteCount)
    {cursor : Cursor} (buf : pipe.buf = some cursor) (some : 0 < byteCount) :
    pipe.Modest byteCount ↔ (pipe.storeAccess cursor byteCount).InBounds := by
  have offset := counted.offset cursor buf
  have within := accepts.2.2.1
  have modest : pipe.Modest byteCount ↔
      pipe.Whole ∨ pipe.bufCount + byteCount ≤ pipe.given := by
    simp [Modest, buf, some]
  rw [modest]
  unfold storeAccess RxAccess.InBounds
  constructor
  · rintro (whole | few)
    · have programmed := whole.programmed
      have size := counted.size whole.2.1 whole.1
      omega
    · omega
  · intro bounds
    right
    omega

theorem Counted.counts (counted : pipe.Counted) (byteCount : Nat) :
    (pipe.counts byteCount).Counted := by
  refine ⟨counted.offset, counted.bufLen, fun given unmoved => ?_, counted.null⟩
  have size := counted.size given unmoved
  dsimp only [InPipe.counts]
  omega

theorem Counted.stored (counted : pipe.Counted) (accepts : pipe.Accepts byteCount)
    {cursor : Cursor} (buf : pipe.buf = some cursor) :
    ((pipe.counts byteCount).stored cursor byteCount).Counted := by
  have offset := counted.offset cursor buf
  have within := accepts.2.2.1
  refine ⟨fun moved next => ?_, counted.bufLen, fun given unmoved => ?_, fun never => nomatch never⟩
  · obtain rfl := Option.some.inj next
    dsimp only [InPipe.stored, InPipe.counts, Cursor.advance]
    omega
  · have size := counted.size given unmoved
    dsimp only [InPipe.stored, InPipe.counts]
    omega

theorem Counted.txFifoEmptyIsrHandler (counted : pipe.Counted) (txFifo : TxFifo) (words : Nat)
    (spaces : List Nat) : (pipe.txFifoEmptyIsrHandler txFifo words spaces).Counted := by
  obtain ⟨moved, few, offset, bufLen, bufCount⟩ := OutPipe.refill_moves txFifo spaces
    ⟨txFifo, [], 0, pipe.bufLen, pipe.bufCount, [], false, false⟩ true (pipe.bufLen % 2 ^ 16)
    (4 * words) words
  dsimp only at few offset bufLen bufCount
  rw [Nat.zero_add] at offset
  unfold InPipe.txFifoEmptyIsrHandler OutPipe.txFifoEmptyIsrHandler
  dsimp only
  rw [offset, bufLen, bufCount]
  refine ⟨fun cursor buf => ?_, fun given => ?_, fun given unmoved => ?_, fun none some => ?_⟩
  · unfold advanced at buf
    cases before : pipe.buf with
    | some first =>
      rw [before] at buf
      obtain rfl := Option.some.inj buf
      have offset := counted.offset first before
      dsimp only [Cursor.advance]
      omega
    | none =>
      simp only [before] at buf
      split at buf
      · cases buf
      · obtain rfl := Option.some.inj buf
        obtain ⟨base, bufCount, -⟩ := counted.null before (by omega)
        dsimp only
        omega
  · have before := counted.bufLen given
    dsimp only
    omega
  · have before := counted.bufLen given
    have size := counted.size given
    dsimp only at unmoved ⊢
    have still : moved = 0 := by omega
    subst still
    exact size unmoved
  · unfold advanced at none
    cases before : pipe.buf with
    | some first => simp [before] at none
    | none =>
      simp only [before, ite_eq_left_iff, reduceCtorEq, imp_false, not_not] at none
      subst none
      exact counted.null before some

end InPipe

/-! ## Requests -/

/-- The request of the state asks for no more than its buffer has. -/
def EnumState.Fitting (limits : BufLimits) (memory : Memory Buffer) : EnumState → Prop
  | .getFullCfgDesc => (Descriptor.wTotalLength memory).toNat ≤ limits.cfgDescMaxLen
  | .getMfcStringDesc => 255 ≤ limits.stringDescMaxLen
  | .getProductStringDesc => 255 ≤ limits.stringDescMaxLen
  | .getSerialNumStringDesc => 255 ≤ limits.stringDescMaxLen
  | _ => True

instance (limits : BufLimits) (memory : Memory Buffer) :
    (enumState : EnumState) → Decidable (enumState.Fitting limits memory)
  | .getFullCfgDesc | .getMfcStringDesc | .getProductStringDesc | .getSerialNumStringDesc =>
      inferInstanceAs (Decidable (_ ≤ _))
  | .idle | .getDevDesc | .getFullDevDesc | .setAddr | .getCfgDesc | .setConfiguration
  | .configuredOk => .isTrue trivial

/-- The report descriptor of HID goes where the device descriptor is. -/
def HostClass.Fitting : (hostClass : HostClass) → hostClass.Vars → Prop
  | .hid, vars => Hid.reqState vars ≠ .getReqDevDesc
  | .cdc, _ => True

instance : (hostClass : HostClass) → (vars : hostClass.Vars) → Decidable (hostClass.Fitting vars)
  | .hid, vars => inferInstanceAs (Decidable (Hid.reqState vars ≠ .getReqDevDesc))
  | .cdc, _ => .isTrue trivial

namespace Host

variable {hostClass : HostClass} {config : HostConfig} {limits : BufLimits} {env : Env}
  {host : Host hostClass.Vars}

def Fitting (limits : BufLimits) (host : Host hostClass.Vars) : Prop :=
  (host.curHostState = .enum → host.enum.enumState.Fitting limits host.enum.memory) ∧
    (host.curHostState = .classReq → hostClass.Fitting host.vars)

instance (limits : BufLimits) (host : Host hostClass.Vars) : Decidable (host.Fitting limits) :=
  inferInstanceAs (Decidable ((_ → _) ∧ (_ → _)))

end Host

/-! ## `CDC_Rx` -/

namespace CdcRx

variable {rx : CdcRx}

-- The pointers are at the beginning of `rxBuf`, as between any two transfers.
structure Rests (rx : CdcRx) : Prop where
  fill : rx.pFillBuff = 0
  empty : rx.pEmptyBuff = 0
  dataLen : rx.dataLen = 0

end CdcRx

/-! ## The host with its pipes -/

namespace Receiver

variable {hostClass : HostClass} {limits : BufLimits} {config : HostConfig}
  {receiver next : Receiver hostClass}

/-- A request fits when its data stage is started, a packet of CDC is no larger than `rxBuf`, and
the device is modest. -/
def Tame (limits : BufLimits) (receiver : Receiver hostClass) : RxLabel → Prop
  | .poll env _ => ¬ receiver.host.Gone → receiver.host.calls hostClass.driver env = true →
      receiver.host.control.curXferState = .dataIn → receiver.host.Fitting limits
  | .get _ => receiver.rx.Asks → receiver.data.maxPackSize.toNat ≤ cdcBufferSize.toNat
  | .controlPacket bytes => receiver.control.Modest bytes.length
  | .dataPacket bytes => receiver.data.Modest bytes.length
  | _ => True

instance (limits : BufLimits) (receiver : Receiver hostClass) :
    (label : RxLabel) → Decidable (receiver.Tame limits label)
  | .poll _ _ => inferInstanceAs (Decidable (_ → _ → _ → _))
  | .get _ => inferInstanceAs (Decidable (_ → _))
  | .controlPacket bytes => inferInstanceAs (Decidable (receiver.control.Modest bytes.length))
  | .dataPacket bytes => inferInstanceAs (Decidable (receiver.data.Modest bytes.length))
  | .event _ | .enableGet | .disableGet | .entry _ | .rxFifoNoEmpty _ | .txFifoEmpty .. =>
      .isTrue trivial

structure Inv (config : HostConfig) (receiver : Receiver hostClass) : Prop where
  asks : receiver.host.Asks config hostClass.driver
  busy : receiver.host.control.Busy
  aims : receiver.host.Aims receiver.control.buf
  control : receiver.control.Counted
  data : receiver.data.Counted
  rests : receiver.rx.Rests
  buffLen : hostClass = .cdc →
    receiver.host.curHostState = .classReq ∨ receiver.host.curHostState = .classCore →
      receiver.rx.buffLen = cdcBufferSize

theorem sound_added {added : List RxAccess} (sound : receiver.Sound)
    (log : next.log = receiver.log ++ added) (fifo : next.fifo = receiver.fifo) :
    next.Sound ↔ ∀ access ∈ added, access.InBounds := by
  constructor
  · intro all access mem
    exact all.bounded access (log ▸ List.mem_append_right _ mem)
  · intro rest
    refine ⟨fifo.trans sound.inStep, fun access mem => ?_⟩
    rw [log] at mem
    exact (List.mem_append.mp mem).elim (sound.bounded access) (rest access)

theorem read_packetWords (bytes : List Byte) :
    readRxFifoPacket (packetWords bytes) bytes.length = (bytes, []) := by
  have read := Otg.UsbFifo.readRxFifoPacket_packetWords (fun index => bytes.getD index 0) 0
    bytes.length []
  rw [List.append_nil] at read
  refine read.trans (Prod.ext ?_ rfl)
  apply List.ext_getElem (by simp)
  intro index before inside
  have inside : index < bytes.length := inside
  simp [FlatMemory.load, inside]

/-- A packet that comes to an empty RxFIFO is handled at once. -/
theorem arrives_inPacket (channels : InChannels) (inStep : receiver.fifo = []) (chNum : BitVec 4)
    {bytes : List Byte} (short : bytes.length < 2 ^ 11) :
    receiver.arrives channels (inPacket chNum bytes) =
      if 0 < bytes.length then
        { receiver with fifo := packetWords bytes }.takes channels false chNum (bytes, [])
      else { receiver with fifo := packetWords bytes } := by
  have count : (BitVec.ofNat 11 bytes.length).toNat = bytes.length := by
    rw [BitVec.toNat_ofNat, Nat.mod_eq_of_lt short]
  simp only [arrives, inStep, if_true, List.nil_append, inPacket, rxFifoNoEmptyIsrHandler,
    List.headD_cons, List.tail_cons, Otg.FifoStatus.ofWord_word, count, read_packetWords, true_and]

/-- The words of a packet with data are there to be left. -/
theorem packetWords_ne_nil {bytes : List Byte} (some : 0 < bytes.length) :
    packetWords bytes ≠ [] := by
  intro none
  have length := Otg.UsbFifo.packetWords_length (fun index => bytes.getD index 0)
    (pieces 4 bytes.length) 0
  rw [show Otg.UsbFifo.packetWords _ _ _ = [] from none, List.length_nil, pieces] at length
  omega

section Packet

variable (channels : InChannels) {bytes : List Byte}

/-- The three ends of a packet: it has no data, its words are left, or it is stored. -/
inductive Handled (pipe : InPipe) (before : Receiver hostClass)
    (store : Cursor → Receiver hostClass) (bytes : List Byte) : Receiver hostClass → Prop
  | empty : bytes.length = 0 → Handled pipe before store bytes before
  | left : 0 < bytes.length → pipe.buf = none →
      Handled pipe before store bytes { before with fifo := packetWords bytes }
  | stored (cursor : Cursor) : 0 < bytes.length → pipe.buf = some cursor →
      Handled pipe before store bytes (store cursor)

/-- A packet without a buffer can be sent so that the next call takes its first word for the status
of a packet of a channel that is not an IN channel. -/
theorem left_overruns (inStep : receiver.fifo = []) (null : receiver.control.buf = none)
    (word : 4 ≤ bytes.length) (short : bytes.length < 2 ^ 11) :
    ∃ other, other.length = bytes.length ∧
      .foreign 1 ∈ ((receiver.controlPacket channels other).rxFifoNoEmptyIsrHandler channels
        true).log := by
  have free (control data : BitVec 4) :
      ∃ chNum < 3, BitVec.ofNat 4 chNum ≠ control ∧ BitVec.ofNat 4 chNum ≠ data := by
    revert control data
    decide
  obtain ⟨chNum, small, notControl, notData⟩ := free channels.control channels.data
  let other := [16 + UInt8.ofNat chNum, 0, 4, 0] ++ List.replicate (bytes.length - 4) 0
  have length : other.length = bytes.length := by
    simp only [other, List.length_append, List.length_cons, List.length_nil, List.length_replicate]
    omega
  obtain ⟨count, pieces⟩ : ∃ count, pieces 4 other.length = count + 1 :=
    ⟨Chunks.pieces 4 other.length - 1, by unfold Chunks.pieces; omega⟩
  have first : FifoStatus.ofWord ((packetWords other).headD 0) =
      ⟨BitVec.ofNat 4 chNum, 1, 0, 2, 0⟩ := by
    rw [packetWords, pieces]
    simp only [Otg.UsbFifo.packetWords, Otg.UsbFifo.readWord, List.headD_cons, other,
      List.cons_append, List.getD_cons_zero, List.getD_cons_succ]
    obtain rfl | rfl | rfl : chNum = 0 ∨ chNum = 1 ∨ chNum = 2 := by omega
    all_goals decide
  refine ⟨other, length, ?_⟩
  have left : receiver.controlPacket channels other =
      { receiver with
        control := receiver.control.counts other.length
        fifo := packetWords other } := by
    refine (arrives_inPacket channels ?_ channels.control (by omega)).trans ?_
    · exact inStep
    · rw [if_pos (by omega), takes, if_pos rfl]
      simp only [InPipe.counts, null]
  rw [left, rxFifoNoEmptyIsrHandler]
  simp only [first, true_and, if_pos (by decide : 0 < (1 : BitVec 11).toNat), takes, notControl,
    notData, if_false, if_true]
  exact List.mem_append_right _ (List.mem_singleton.mpr rfl)

/-- A packet is modest exactly if it ends in bounds with nothing left. -/
theorem Handled.tame {pipe : InPipe} {before : Receiver hostClass}
    {store : Cursor → Receiver hostClass}
    (handled : Handled (pipe.counts bytes.length) before store bytes next)
    (counted : pipe.Counted) (accepts : pipe.Accepts bytes.length) (sound : before.Sound)
    (log : ∀ cursor, (store cursor).log =
      before.log ++ [pipe.storeAccess cursor bytes.length])
    (fifo : ∀ cursor, (store cursor).fifo = before.fifo) :
    pipe.Modest bytes.length ↔ next.Sound := by
  cases handled with
  | empty none => exact iff_of_true (fun some => absurd none (Nat.ne_of_gt some)) sound
  | left some buf =>
    exact iff_of_false (fun modest => (modest some).1 buf)
      fun none => packetWords_ne_nil some none.inStep
  | stored cursor some buf =>
    rw [sound_added sound (log cursor) (fifo cursor)]
    simpa using counted.store accepts buf some

end Packet

end Receiver

def polls (count : Nat) : List RxLabel :=
  List.replicate count (.poll ⟨true, false, false, 0, .idle⟩ 64)

def stageDone (dirIn : Bool) : List RxLabel := .event (.urb dirIn .ok) :: polls 1

/-- Requests with data from the device, without data, and with data for it. -/
def inRequest (bytes : List Byte) : List RxLabel :=
  polls 2 ++ stageDone false ++ polls 1 ++ [.controlPacket bytes] ++ stageDone true ++ polls 1 ++
    stageDone false

def dataless : List RxLabel := polls 2 ++ stageDone false ++ polls 1 ++ stageDone true

end ApmSdk.Usbh
