import ApmSdk.Lib.Fields
import ApmSdk.Lib.FlagRegister
import Mathlib.Logic.Function.Basic

set_option autoImplicit false

/-!
# Messages of the CAN controller

`CAN_TxMessage` and `CAN_RxMessage`, with the registers of the controller that they and the
functions on its flags use.
-/

namespace ApmSdk.StdPeriph

open Fields FlagRegister

/-! ## The controller -/

structure CanTxMailBox where
  txmid : BitVec 32
  txdlen : BitVec 32
  txmdl : BitVec 32
  txmdh : BitVec 32
  deriving DecidableEq, Repr

structure CanRxMailBox where
  rxmid : BitVec 32
  rxdlen : BitVec 32
  rxmdl : BitVec 32
  rxmdh : BitVec 32
  deriving DecidableEq, Repr

-- `CAN_RX_FIFO_T`.
inductive CanFifo where
  | fifo0
  | fifo1
  deriving DecidableEq, Repr

inductive TxRegister where
  | txmid
  | txdlen
  | txmdl
  | txmdh
  deriving DecidableEq, Repr

/-- A write to a register of a transmit mailbox. -/
structure CanWrite where
  mailbox : Fin 3
  register : TxRegister
  value : BitVec 32
  deriving DecidableEq, Repr

/-- `CAN_T`, with the writes to the transmit mailboxes in their order and the entries that writes
of RFOM have released from each FIFO. -/
structure Can where
  msts : BitVec 32
  txsts : BitVec 32
  rxf : CanFifo → BitVec 32
  errsts : BitVec 32
  txMailBox : Fin 3 → CanTxMailBox
  rxMailBox : CanFifo → CanRxMailBox
  writes : List CanWrite
  released : CanFifo → Nat

-- FFULL and FOVR are cleared by ones; a one in RFOM is a command.
def rxfLayout : Layout 32 := ⟨0x00000018, ~~~0x00000018⟩

def Can.writeRxf (can : Can) (fifo : CanFifo) (value : BitVec 32) : Can :=
  { can with
    rxf := Function.update can.rxf fifo (rxfLayout.stored (can.rxf fifo) value)
    released := Function.update can.released fifo
      (can.released fifo + if value.getLsbD 5 then 1 else 0) }

-- `RXFx_B.RFOMx = BIT_SET`.
def Can.setRfom (can : Can) (fifo : CanFifo) : Can :=
  can.writeRxf fifo (withBit (can.rxf fifo) 5 true)

def CanTxMailBox.write (box : CanTxMailBox) (value : BitVec 32) : TxRegister → CanTxMailBox
  | .txmid => { box with txmid := value }
  | .txdlen => { box with txdlen := value }
  | .txmdl => { box with txmdl := value }
  | .txmdh => { box with txmdh := value }

def Can.writeTx (can : Can) (box : Fin 3) (register : TxRegister) (value : BitVec 32) : Can :=
  { can with
    txMailBox := Function.update can.txMailBox box ((can.txMailBox box).write value register)
    writes := can.writes ++ [⟨box, register, value⟩] }

/-! ## The messages -/

-- `CAN_TYPEID_T`.
inductive CanTypeId where
  | std
  | ext
  deriving DecidableEq, Repr

def CanTypeId.value : CanTypeId → BitVec 32
  | .std => 0x00000000
  | .ext => 0x00000004

-- `CAN_RTXR_T`.
inductive CanRtxr where
  | data
  | remote
  deriving DecidableEq, Repr

def CanRtxr.value : CanRtxr → BitVec 32
  | .data => 0x00000000
  | .remote => 0x00000002

-- `CAN_TxMessage_T`.
structure CanTxMessage where
  stdID : BitVec 32
  extID : BitVec 32
  typeID : CanTypeId
  remoteTxReq : CanRtxr
  dataLengthCode : BitVec 8
  data : Fin 8 → BitVec 8

-- `CAN_RxMessage_T`.
structure CanRxMessage where
  stdID : BitVec 32
  extID : BitVec 32
  typeID : BitVec 32
  remoteTxReq : BitVec 32
  dataLengthCode : BitVec 8
  data : Fin 8 → BitVec 8
  filterMatchIndex : BitVec 8

/-- The ranges that `apm32f10x_can.h` states. -/
structure CanTxMessage.Valid (message : CanTxMessage) : Prop where
  stdID : message.typeID = .std → message.stdID.toNat ≤ 0x7FF
  extID : message.typeID = .ext → message.extID.toNat ≤ 0x1FFFFFFF
  dataLengthCode : message.dataLengthCode.toNat ≤ 8

def CanTxMessage.idWord (message : CanTxMessage) : BitVec 32 :=
  match message.typeID with
  | .std => message.stdID <<< 21 ||| message.remoteTxReq.value
  | .ext => message.extID <<< 3 ||| message.typeID.value ||| message.remoteTxReq.value

-- Four bytes as TXMDL and TXMDH hold them.
def dataWord (byte3 byte2 byte1 byte0 : BitVec 8) : BitVec 32 :=
  (byte3.setWidth 32 <<< 24) ||| (byte2.setWidth 32 <<< 16) ||| (byte1.setWidth 32 <<< 8) |||
    byte0.setWidth 32

namespace Can

-- The chain of tests at the head of `CAN_TxMessage`.
def emptyMailBox (can : Can) : Option (Fin 3) :=
  if can.txsts &&& 0x04000000 = 0x04000000 then some 0
  else if can.txsts &&& 0x08000000 = 0x08000000 then some 1
  else if can.txsts &&& 0x10000000 = 0x10000000 then some 2
  else none

/-- The message comes back with the length that has been masked. -/
def txMessage (can : Can) (message : CanTxMessage) : Can × CanTxMessage × Nat :=
  match can.emptyMailBox with
  | none => (can, message, 3)
  | some box =>
      let can := can.writeTx box .txmid ((can.txMailBox box).txmid &&& 0x00000001)
      let can := can.writeTx box .txmid ((can.txMailBox box).txmid ||| message.idWord)
      let message := { message with dataLengthCode := message.dataLengthCode &&& 0x0F }
      let can := can.writeTx box .txdlen ((can.txMailBox box).txdlen &&& 0xFFFFFFF0)
      let can := can.writeTx box .txdlen
        ((can.txMailBox box).txdlen ||| message.dataLengthCode.setWidth 32)
      let can := can.writeTx box .txmdl
        (dataWord (message.data 3) (message.data 2) (message.data 1) (message.data 0))
      let can := can.writeTx box .txmdh
        (dataWord (message.data 7) (message.data 6) (message.data 5) (message.data 4))
      (can.writeTx box .txmid ((can.txMailBox box).txmid ||| 0x00000001), message, box)

-- `RXMDL_B` and `RXMDH_B`.
def rxData (box : CanRxMailBox) (index : Fin 8) : BitVec 8 :=
  if index.val < 4 then field box.rxmdl (8 * index.val) 8
  else field box.rxmdh (8 * (index.val - 4)) 8

/-- One of the two identifiers keeps what it held. -/
def rxMessage (can : Can) (fifo : CanFifo) (message : CanRxMessage) : Can × CanRxMessage :=
  let box := can.rxMailBox fifo
  let typeID := 0x04 &&& box.rxmid
  let message :=
    if typeID = CanTypeId.std.value then
      { message with stdID := (box.rxmid >>> 21) &&& 0x000007FF }
    else { message with extID := (box.rxmid >>> 3) &&& 0x1FFFFFFF }
  (can.setRfom fifo,
    { message with
      typeID := typeID
      remoteTxReq := (field box.rxmid 1 1).setWidth 32
      dataLengthCode := (field box.rxdlen 0 4).setWidth 8
      filterMatchIndex := field box.rxdlen 8 8
      data := rxData box })

/-! ## What has to hold -/

-- TXMEFLG.
def isEmpty (can : Can) (box : Fin 3) : Bool := can.txsts.getLsbD (26 + box.val)

def Lowest (can : Can) (box : Fin 3) : Prop :=
  can.isEmpty box = true ∧ ∀ lower < box, can.isEmpty lower = false

/-- Only one mailbox is written, and the last write requests the transmission. -/
structure Sent (before after : Can) (box : Fin 3) : Prop where
  others : ∀ other ≠ box, after.txMailBox other = before.txMailBox other
  rest : { after with txMailBox := before.txMailBox, writes := before.writes } = before
  request : ∃ earlier value,
    after.writes = before.writes ++ (earlier ++ [⟨box, .txmid, value⟩]) ∧
    value.getLsbD 0 = true ∧
    (∀ write ∈ earlier, write.mailbox = box ∧
      (write.register = .txmid → write.value.getLsbD 0 = false)) ∧
    ∀ register ≠ .txmid, ∃ write ∈ earlier, write.register = register

/-- The entry has the identifier, the length and the data of the mailbox. -/
structure Holds (entry : CanRxMailBox) (box : CanTxMailBox) : Prop where
  identifier : ∀ bit, 1 ≤ bit → bit < 32 → entry.rxmid.getLsbD bit = box.txmid.getLsbD bit
  length : field entry.rxdlen 0 4 = field box.txdlen 0 4
  low : entry.rxmdl = box.txmdl
  high : entry.rxmdh = box.txmdh

structure Same (message : CanTxMessage) (received : CanRxMessage) : Prop where
  typeID : received.typeID = message.typeID.value
  stdID : message.typeID = .std → received.stdID = message.stdID
  extID : message.typeID = .ext → received.extID = message.extID
  remoteTxReq : received.remoteTxReq = message.remoteTxReq.value
  dataLengthCode : received.dataLengthCode = message.dataLengthCode
  data : received.data = message.data

def RoundTrip (message : CanTxMessage) (box : CanTxMailBox) : Prop :=
  ∀ (can : Can) (fifo : CanFifo) (received : CanRxMessage), Holds (can.rxMailBox fifo) box →
    Same message (can.rxMessage fifo received).2

/-- `CAN_TxMessage` finds its mailbox, leaves the others, and what it writes can be read back. -/
structure Transmits (can : Can) (message : CanTxMessage) : Prop where
  full : ((can.txMessage message).2.2 = 3 ∧ (can.txMessage message).1 = can) ↔
    ∀ box, can.isEmpty box = false
  sent : ∀ box, can.Lowest box →
    (can.txMessage message).2.2 = box.val ∧ Sent can (can.txMessage message).1 box ∧
      RoundTrip message ((can.txMessage message).1.txMailBox box)

/-! ## The choice of the mailbox -/

theorem and_twoPow_eq_self (register : BitVec 32) (bit : Fin 32) :
    register &&& BitVec.twoPow 32 bit = BitVec.twoPow 32 bit ↔
      register.getLsbD bit.val = true := by
  have set : (BitVec.twoPow 32 bit).getLsbD bit.val = true := by simp
  constructor
  · intro same
    rw [← same, BitVec.getLsbD_and] at set
    exact ((Bool.and_eq_true _ _).mp set).1
  · intro named
    rw [BitVec.and_twoPow, if_pos named]

theorem emptyMailBox_eq (can : Can) : can.emptyMailBox =
    if can.isEmpty 0 then some 0 else if can.isEmpty 1 then some 1
    else if can.isEmpty 2 then some 2 else none := by
  have first : can.txsts &&& 0x04000000 = 0x04000000 ↔ can.isEmpty 0 = true :=
    and_twoPow_eq_self can.txsts 26
  have second : can.txsts &&& 0x08000000 = 0x08000000 ↔ can.isEmpty 1 = true :=
    and_twoPow_eq_self can.txsts 27
  have third : can.txsts &&& 0x10000000 = 0x10000000 ↔ can.isEmpty 2 = true :=
    and_twoPow_eq_self can.txsts 28
  simp only [emptyMailBox, first, second, third]

theorem emptyMailBox_none (can : Can) :
    can.emptyMailBox = none ↔ ∀ box, can.isEmpty box = false := by
  rw [emptyMailBox_eq, Fin.forall_fin_succ, Fin.forall_fin_two]
  cases first : can.isEmpty 0 <;> cases second : can.isEmpty 1 <;>
    cases third : can.isEmpty 2 <;> simp_all

theorem emptyMailBox_some {can : Can} {box : Fin 3} (lowest : can.Lowest box) :
    can.emptyMailBox = some box := by
  obtain ⟨empty, full⟩ := lowest
  rw [emptyMailBox_eq]
  match box with
  | 0 => rw [if_pos empty]
  | 1 => rw [full 0 (by decide), if_neg (by decide), if_pos empty]
  | 2 =>
    rw [full 0 (by decide), full 1 (by decide), if_neg (by decide), if_neg (by decide),
      if_pos empty]

/-! ## What is written -/

-- The identifier register at the end.
def sentMid (box : CanTxMailBox) (message : CanTxMessage) : BitVec 32 :=
  ((box.txmid &&& 0x00000001) ||| message.idWord) ||| 0x00000001

def sentDlen (box : CanTxMailBox) (message : CanTxMessage) : BitVec 32 :=
  (box.txdlen &&& 0xFFFFFFF0) ||| (message.dataLengthCode &&& 0x0F).setWidth 32

def sentMdl (message : CanTxMessage) : BitVec 32 :=
  dataWord (message.data 3) (message.data 2) (message.data 1) (message.data 0)

def sentMdh (message : CanTxMessage) : BitVec 32 :=
  dataWord (message.data 7) (message.data 6) (message.data 5) (message.data 4)

-- The six writes before the request.
def preparing (old : CanTxMailBox) (box : Fin 3) (message : CanTxMessage) : List CanWrite :=
  [⟨box, .txmid, old.txmid &&& 0x00000001⟩,
    ⟨box, .txmid, (old.txmid &&& 0x00000001) ||| message.idWord⟩,
    ⟨box, .txdlen, old.txdlen &&& 0xFFFFFFF0⟩, ⟨box, .txdlen, sentDlen old message⟩,
    ⟨box, .txmdl, sentMdl message⟩, ⟨box, .txmdh, sentMdh message⟩]

variable {can : Can} {message : CanTxMessage} {box : Fin 3}

theorem txMessage_empty (empty : can.emptyMailBox = some box) :
    (can.txMessage message).2.2 = box.val ∧
      (can.txMessage message).1 = { can with
        txMailBox := Function.update can.txMailBox box
          ⟨sentMid (can.txMailBox box) message, sentDlen (can.txMailBox box) message,
            sentMdl message, sentMdh message⟩
        writes := can.writes ++ (preparing (can.txMailBox box) box message ++
          [⟨box, .txmid, sentMid (can.txMailBox box) message⟩]) } := by
  rw [txMessage, empty]
  refine ⟨rfl, ?_⟩
  simp only [writeTx, CanTxMailBox.write, Function.update_self, Function.update_idem,
    List.append_assoc, List.cons_append, List.nil_append]
  rfl

theorem txMessage_full (full : can.emptyMailBox = none) :
    can.txMessage message = (can, message, 3) := by
  rw [txMessage, full]

theorem idWord_low (message : CanTxMessage) : message.idWord.getLsbD 0 = false := by
  unfold CanTxMessage.idWord
  cases message.typeID <;> cases message.remoteTxReq <;>
    simp [CanRtxr.value, CanTypeId.value]

theorem preparing_request (old : CanTxMailBox) (box : Fin 3) (message : CanTxMessage) :
    (∀ write ∈ preparing old box message, write.mailbox = box ∧
      (write.register = .txmid → write.value.getLsbD 0 = false)) ↔
    old.txmid.getLsbD 0 = false := by
  constructor
  · intro quiet
    have first := (quiet _ List.mem_cons_self).2 rfl
    simpa using first
  · intro clear
    have low := idWord_low message
    simp only [BitVec.getLsbD_eq_getElem (Nat.zero_lt_succ 31)] at clear low
    simp [preparing, clear, low]

theorem sent_iff (empty : can.emptyMailBox = some box) :
    Sent can (can.txMessage message).1 box ↔ (can.txMailBox box).txmid.getLsbD 0 = false := by
  rw [(txMessage_empty empty).2, ← preparing_request _ box message]
  constructor
  · rintro ⟨-, -, earlier, value, written, -, quiet, -⟩
    have same := List.append_cancel_left written
    obtain ⟨rfl, -⟩ := List.append_inj' same rfl
    exact quiet
  · intro quiet
    refine ⟨fun other apart => Function.update_of_ne apart _ _, rfl, _, _, rfl, ?_, quiet, ?_⟩
    · simp [sentMid]
    · intro register other
      cases register with
      | txmid => exact absurd rfl other
      | txdlen =>
        exact ⟨⟨box, .txdlen, sentDlen (can.txMailBox box) message⟩, by simp [preparing], rfl⟩
      | txmdl => exact ⟨⟨box, .txmdl, sentMdl message⟩, by simp [preparing], rfl⟩
      | txmdh => exact ⟨⟨box, .txmdh, sentMdh message⟩, by simp [preparing], rfl⟩

/-! ## What is read back -/

theorem getLsbD_of_small {width : Nat} {value : BitVec width} {count : Nat}
    (small : value.toNat < 2 ^ count) {bit : Nat} (beyond : count ≤ bit) :
    value.getLsbD bit = false :=
  Nat.testBit_lt_two_pow (Nat.lt_of_lt_of_le small (Nat.pow_le_pow_right (by decide) beyond))

theorem getLsbD_ones {width : Nat} (count : Nat) {bit : Nat} (within : bit < width) :
    (ones width count).getLsbD bit = decide (bit < count) := by
  simp [ones, within]

theorem shiftRight_and_ones {word value : BitVec 32} {offset count : Nat}
    (small : value.toNat < 2 ^ count)
    (bits : ∀ bit < count, word.getLsbD (offset + bit) = value.getLsbD bit) :
    (word >>> offset) &&& ones 32 count = value := by
  apply BitVec.eq_of_getLsbD_eq
  intro bit within
  rw [BitVec.getLsbD_and, BitVec.getLsbD_ushiftRight, getLsbD_ones _ within]
  by_cases inside : bit < count
  · simp [inside, bits bit inside]
  · simp [inside, getLsbD_of_small small (Nat.not_lt.mp inside)]

theorem getLsbD_sentMid (old : CanTxMailBox) (message : CanTxMessage) {bit : Nat}
    (positive : 1 ≤ bit) :
    (sentMid old message).getLsbD bit = message.idWord.getLsbD bit := by
  have zero : ¬ bit = 0 := by omega
  simp [sentMid, zero]

variable {entry : CanRxMailBox} {old : CanTxMailBox}

theorem Holds.idWord {dlen mdl mdh : BitVec 32}
    (holds : Holds entry ⟨sentMid old message, dlen, mdl, mdh⟩) {bit : Nat} (positive : 1 ≤ bit)
    (within : bit < 32) : entry.rxmid.getLsbD bit = message.idWord.getLsbD bit :=
  (holds.identifier bit positive within).trans (getLsbD_sentMid old message positive)

theorem idWord_type (message : CanTxMessage) :
    message.idWord.getLsbD 2 = decide (message.typeID = .ext) := by
  unfold CanTxMessage.idWord
  cases message.typeID <;> cases message.remoteTxReq <;>
    simp [CanRtxr.value, CanTypeId.value]

theorem idWord_remote (message : CanTxMessage) :
    message.idWord.getLsbD 1 = decide (message.remoteTxReq = .remote) := by
  unfold CanTxMessage.idWord
  cases message.typeID <;> cases message.remoteTxReq <;>
    simp [CanRtxr.value, CanTypeId.value]

theorem value_high (request : CanRtxr) {bit : Nat} (high : 3 ≤ bit) :
    request.value.getLsbD bit = false ∧ CanTypeId.ext.value.getLsbD bit = false :=
  ⟨getLsbD_of_small (by cases request <;> decide) high, getLsbD_of_small (by decide) high⟩

theorem idWord_std (type : message.typeID = .std) {bit : Nat} (below : bit < 11) :
    message.idWord.getLsbD (21 + bit) = message.stdID.getLsbD bit := by
  have inside : 21 + bit < 32 := by omega
  have beyond : ¬ 21 + bit < 21 := by omega
  rw [CanTxMessage.idWord, type]
  simp only [BitVec.getLsbD_or, BitVec.getLsbD_shiftLeft,
    (value_high message.remoteTxReq (Nat.le_add_right_of_le (by decide : 3 ≤ 21))).1, inside, beyond,
    decide_true, decide_false, Bool.not_false, Bool.true_and, Bool.or_false,
    Nat.add_sub_cancel_left]

theorem idWord_ext (type : message.typeID = .ext) {bit : Nat} (below : bit < 29) :
    message.idWord.getLsbD (3 + bit) = message.extID.getLsbD bit := by
  have inside : 3 + bit < 32 := by omega
  have beyond : ¬ 3 + bit < 3 := by omega
  have high := value_high message.remoteTxReq (Nat.le_add_right 3 bit)
  rw [CanTxMessage.idWord, type]
  simp only [BitVec.getLsbD_or, BitVec.getLsbD_shiftLeft, high, inside, beyond,
    decide_true, decide_false, Bool.not_false, Bool.true_and, Bool.or_false,
    Nat.add_sub_cancel_left]

/-! ## The round trip -/

theorem read_typeID {word : BitVec 32} (bit : word.getLsbD 2 = decide (message.typeID = .ext)) :
    0x04 &&& word = message.typeID.value := by
  have mask : (0x04 : BitVec 32) = BitVec.twoPow 32 2 := by decide
  rw [mask, BitVec.and_comm, BitVec.and_twoPow, bit]
  cases message.typeID <;> rfl

theorem field_dataWord (byte3 byte2 byte1 byte0 : BitVec 8) :
    field (dataWord byte3 byte2 byte1 byte0) 0 8 = byte0 ∧
    field (dataWord byte3 byte2 byte1 byte0) 8 8 = byte1 ∧
    field (dataWord byte3 byte2 byte1 byte0) 16 8 = byte2 ∧
    field (dataWord byte3 byte2 byte1 byte0) 24 8 = byte3 := by
  refine ⟨?_, ?_, ?_, ?_⟩ <;>
  · apply BitVec.eq_of_getLsbD_eq
    intro bit inside
    rw [field, BitVec.getLsbD_extractLsb', dataWord]
    simp only [BitVec.getLsbD_or, BitVec.getLsbD_shiftLeft, BitVec.getLsbD_setWidth]
    grind

theorem read_length {dlen old : BitVec 32} {length : BitVec 8} (small : length.toNat ≤ 8)
    (same : field dlen 0 4 = field ((old &&& 0xFFFFFFF0) ||| (length &&& 0x0F).setWidth 32) 0 4) :
    (field dlen 0 4).setWidth 8 = length := by
  have high : (0xFFFFFFF0 : BitVec 32) = ~~~ones 32 4 := by decide
  have low : (0x0F : BitVec 8) = ones 8 4 := by decide
  have fits : length.toNat < 2 ^ 4 := by omega
  rw [same, high, low]
  apply BitVec.eq_of_getLsbD_eq
  intro bit within
  have below : bit < 32 := by omega
  simp only [field, BitVec.getLsbD_setWidth, BitVec.getLsbD_extractLsb', BitVec.getLsbD_or,
    BitVec.getLsbD_and, BitVec.getLsbD_not, getLsbD_ones _ within, getLsbD_ones _ below, within,
    below, Nat.zero_add]
  by_cases inside : bit < 4
  · simp only [inside, decide_true, Bool.not_true, Bool.true_and, Bool.and_false, Bool.false_or,
      Bool.and_true]
  · simp only [inside, decide_true, decide_false, Bool.and_false, Bool.false_and,
      getLsbD_of_small fits (Nat.not_lt.mp inside)]

theorem rxData_eq {entry : CanRxMailBox} (low : entry.rxmdl = sentMdl message)
    (high : entry.rxmdh = sentMdh message) : rxData entry = message.data := by
  obtain ⟨zero, one, two, three⟩ :=
    field_dataWord (message.data 3) (message.data 2) (message.data 1) (message.data 0)
  obtain ⟨four, five, six, seven⟩ :=
    field_dataWord (message.data 7) (message.data 6) (message.data 5) (message.data 4)
  funext index
  unfold rxData
  rw [low, high]
  match index with
  | 0 => exact zero
  | 1 => exact one
  | 2 => exact two
  | 3 => exact three
  | 4 => exact four
  | 5 => exact five
  | 6 => exact six
  | 7 => exact seven

/-- RFTXREQ is one bit, and the enumerator of a remote frame is 2. -/
theorem read_remote {word : BitVec 32}
    (bit : word.getLsbD 1 = decide (message.remoteTxReq = .remote)) :
    (field word 1 1).setWidth 32 = message.remoteTxReq.value ↔ message.remoteTxReq = .data := by
  have one : field word 1 1 = BitVec.ofBool (decide (message.remoteTxReq = .remote)) := by
    apply BitVec.eq_of_getLsbD_eq
    intro index inside
    obtain rfl : index = 0 := by omega
    rw [field, BitVec.getLsbD_extractLsb', Nat.add_zero, bit]
    simp
  rw [one]
  cases message.remoteTxReq <;> decide

theorem same_iff (valid : message.Valid) (fifo : CanFifo) (received : CanRxMessage)
    (holds : Holds (can.rxMailBox fifo)
      ⟨sentMid old message, sentDlen old message, sentMdl message, sentMdh message⟩) :
    Same message (can.rxMessage fifo received).2 ↔ message.remoteTxReq = .data := by
  have bit2 := (holds.idWord (by decide) (by decide)).trans (idWord_type message)
  have bit1 := (holds.idWord (by decide) (by decide)).trans (idWord_remote message)
  have typeID := read_typeID bit2
  rw [← read_remote bit1]
  constructor
  · intro same
    have remote := same.remoteTxReq
    unfold rxMessage at remote
    simpa only [apply_ite] using remote
  · intro remote
    refine ⟨typeID, fun std => ?_, fun ext => ?_, remote, ?_, rxData_eq holds.low holds.high⟩
    · have std' : 0x04 &&& (can.rxMailBox fifo).rxmid = CanTypeId.std.value := by
        rw [typeID, std]
      have mask : (0x000007FF : BitVec 32) = ones 32 11 := by decide
      simp only [rxMessage, std', if_true]
      rw [mask]
      refine shiftRight_and_ones (Nat.lt_succ_of_le (valid.stdID std)) fun bit below => ?_
      rw [holds.idWord (by omega) (by omega), idWord_std std below]
    · have ext' : 0x04 &&& (can.rxMailBox fifo).rxmid ≠ CanTypeId.std.value := by
        rw [typeID, ext]
        decide
      have mask : (0x1FFFFFFF : BitVec 32) = ones 32 29 := by decide
      simp only [rxMessage, ext', if_false]
      rw [mask]
      refine shiftRight_and_ones (Nat.lt_succ_of_le (valid.extID ext)) fun bit below => ?_
      rw [holds.idWord (by omega) (by omega), idWord_ext ext below]
    · exact read_length valid.dataLengthCode holds.length

theorem roundTrip_iff (valid : message.Valid) (old : CanTxMailBox) :
    RoundTrip message
      ⟨sentMid old message, sentDlen old message, sentMdl message, sentMdh message⟩ ↔
      message.remoteTxReq = .data := by
  constructor
  · intro trip
    let entry : CanRxMailBox :=
      ⟨sentMid old message, sentDlen old message, sentMdl message, sentMdh message⟩
    let holding : Can := ⟨0, 0, fun _ => 0, 0, fun _ => old, fun _ => entry, [], fun _ => 0⟩
    let received : CanRxMessage := ⟨0, 0, 0, 0, 0, fun _ => 0, 0⟩
    have holds : Holds (holding.rxMailBox .fifo0)
        ⟨sentMid old message, sentDlen old message, sentMdl message, sentMdh message⟩ :=
      ⟨fun _ _ _ => rfl, rfl, rfl, rfl⟩
    exact (same_iff valid .fifo0 received holds).mp (trip holding .fifo0 received holds)
  · intro data can fifo received holds
    exact (same_iff valid fifo received holds).mpr data

theorem full_iff (can : Can) (message : CanTxMessage) :
    ((can.txMessage message).2.2 = 3 ∧ (can.txMessage message).1 = can) ↔
      ∀ box, can.isEmpty box = false := by
  rw [← emptyMailBox_none]
  cases empty : can.emptyMailBox with
  | none => simp [txMessage_full empty]
  | some box =>
    rw [(txMessage_empty empty).1]
    have below := box.isLt
    exact iff_of_false (fun three => by omega) (by simp)

/-- A message is transmitted and can be read back exactly when no mailbox is empty, or it is a data
frame and the mailbox that is chosen does not hold a request. -/
theorem transmits_iff (can : Can) {message : CanTxMessage} (valid : message.Valid) :
    can.Transmits message ↔ ∀ box, can.Lowest box →
      message.remoteTxReq = .data ∧ (can.txMailBox box).txmid.getLsbD 0 = false := by
  constructor
  · intro transmits box lowest
    have empty := emptyMailBox_some lowest
    obtain ⟨-, sent, trip⟩ := transmits.sent box lowest
    rw [(txMessage_empty empty).2] at trip
    dsimp only at trip
    rw [Function.update_self] at trip
    exact ⟨(roundTrip_iff valid _).mp trip, (sent_iff empty).mp sent⟩
  · intro right
    refine ⟨full_iff can message, fun box lowest => ?_⟩
    have empty := emptyMailBox_some lowest
    obtain ⟨data, clear⟩ := right box lowest
    refine ⟨(txMessage_empty empty).1, (sent_iff empty).mpr clear, ?_⟩
    rw [(txMessage_empty empty).2]
    dsimp only
    rw [Function.update_self]
    exact (roundTrip_iff valid _).mpr data

-- The mailboxes 1 and 2 are empty.
def twoEmpty : Can :=
  ⟨0, 0x18000000, fun _ => 0, 0, fun _ => ⟨0xFFFFFFFE, 0xFFFFFFFF, 1, 2⟩, fun _ => ⟨0, 0, 0, 0⟩,
    [], fun _ => 0⟩

def frame (remoteTxReq : CanRtxr) : CanTxMessage :=
  ⟨0x123, 0x1FFFFFFF, .ext, remoteTxReq, 8, fun index => BitVec.ofNat 8 (0x11 * index)⟩

theorem frame_valid (remoteTxReq : CanRtxr) : (frame remoteTxReq).Valid :=
  ⟨fun std => (by cases std), fun _ => Nat.le_refl 0x1FFFFFFF, Nat.le_refl 8⟩

theorem dataFrame_transmits : twoEmpty.Transmits (frame .data) :=
  (transmits_iff twoEmpty (frame_valid .data)).mpr fun box _ =>
    ⟨rfl, (by decide : ∀ box, (twoEmpty.txMailBox box).txmid.getLsbD 0 = false) box⟩

theorem remoteFrame_changed : ¬ ∀ (can : Can) (message : CanTxMessage), message.Valid →
    can.Transmits message := by
  intro always
  have lowest : twoEmpty.Lowest 1 := ⟨by decide, by decide⟩
  obtain ⟨-, -, trip⟩ := (always twoEmpty (frame .remote) (frame_valid .remote)).sent 1 lowest
  rw [(txMessage_empty (emptyMailBox_some lowest)).2] at trip
  dsimp only at trip
  rw [Function.update_self] at trip
  exact absurd ((roundTrip_iff (frame_valid .remote) _).mp trip) (by decide)

end Can

end ApmSdk.StdPeriph
