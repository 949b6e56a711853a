import ApmSdk.Lib.FlatMemory
import ApmSdk.Otg.InTransfer
import ApmSdk.Otg.RxFifo

set_option autoImplicit false

/-!
# Packets as words

`USB_FIFO_WriteFifoPacket` and `USB_FIFO_ReadRxFifoPacket` word by word, over the memory of the
CPU.
-/

namespace ApmSdk.Otg.UsbFifo

open FlatMemory Chunks
open Usbd (Byte Memory Ptr)

-- `struct USB_FIFO_PACKET`: the byte at the lowest address is the lowest of the word.
def readWord (memory : Nat → Byte) (address : Nat) : BitVec 32 :=
  (memory (address + 3)).toBitVec ++ (memory (address + 2)).toBitVec ++
    (memory (address + 1)).toBitVec ++ (memory address).toBitVec

/-- What has been written to each FIFO. -/
abbrev TxFifos := Nat → List (BitVec 32)

def writeTxFifoData (fifos : TxFifos) (fifoNum : Nat) (data : BitVec 32) : TxFifos :=
  Function.update fifos fifoNum (fifos fifoNum ++ [data])

-- The passes that are left of the loop.
def writeWords (memory : Nat → Byte) (ep : Nat) : (left wBuf : Nat) → TxFifos → TxFifos
  | 0, _, fifos => fifos
  | left + 1, wBuf, fifos =>
      writeWords memory ep left (wBuf + 4) (writeTxFifoData fifos ep (readWord memory wBuf))

def writeFifoPacket (memory : Nat → Byte) (fifos : TxFifos) (ep wBuf : Nat) (wlen : BitVec 32) :
    TxFifos :=
  let wordCnt := (wlen + 3) / 4
  writeWords memory ep wordCnt.toNat wBuf fifos

structure RxState where
  memory : Nat → Byte
  fifo : List (BitVec 32)

def RxState.readRxFifoData (state : RxState) : BitVec 32 × RxState :=
  (state.fifo.headD 0, { state with fifo := state.fifo.tail })

def readWholeWords : (left rBuf : Nat) → RxState → RxState
  | 0, _, state => state
  | left + 1, rBuf, state =>
      let data := state.readRxFifoData
      readWholeWords left (rBuf + 4)
        { data.2 with memory := store data.2.memory rBuf (wordBytes data.1) }

-- The loop over the bytes of the last word, at byte `i`.
def storeBytes (temp : BitVec 32) (rBuf : Nat) : (left i : Nat) → (Nat → Byte) → Nat → Byte
  | 0, _, memory => memory
  | left + 1, i, memory =>
      storeBytes temp rBuf left (i + 1)
        (Function.update memory (rBuf + i) (UInt8.ofNat (temp >>> (i <<< 3)).toNat))

def readRxFifoPacket (state : RxState) (rBuf : Nat) (rLen : BitVec 32) : RxState :=
  let state := readWholeWords (rLen / 4).toNat rBuf state
  let rBuf := rBuf + 4 * (rLen / 4).toNat
  if rLen &&& 0x3 ≠ 0 then
    let temp := state.readRxFifoData
    { temp.2 with memory := storeBytes temp.1 rBuf (rLen &&& 0x3).toNat 0 temp.2.memory }
  else state

/-! ## The words of a packet -/

def packetWords (memory : Nat → Byte) : (count address : Nat) → List (BitVec 32)
  | 0, _ => []
  | count + 1, address => readWord memory address :: packetWords memory count (address + 4)

variable (memory : Nat → Byte)

theorem packetWords_length (count address : Nat) :
    (packetWords memory count address).length = count := by
  induction count generalizing address with
  | zero => rfl
  | succ count ih => simp [packetWords, ih]

theorem packetWords_add (first second address : Nat) :
    packetWords memory (first + second) address =
      packetWords memory first address ++ packetWords memory second (address + 4 * first) := by
  induction first generalizing address with
  | zero => simp [packetWords]
  | succ first ih =>
    have further : address + 4 + 4 * first = address + 4 * (first + 1) := by omega
    rw [Nat.add_right_comm]
    simp only [packetWords, ih, List.cons_append, further]

theorem writeWords_eq (ep count address : Nat) (fifos : TxFifos) :
    writeWords memory ep count address fifos =
      Function.update fifos ep (fifos ep ++ packetWords memory count address) := by
  induction count generalizing address fifos with
  | zero => simp [writeWords, packetWords]
  | succ count ih => simp [writeWords, packetWords, ih, writeTxFifoData]

theorem readWord_byte (address : Nat) {index : Nat} (inside : index < 4) :
    UInt8.ofNat (readWord memory address >>> (8 * index)).toNat = memory (address + index) := by
  apply UInt8.toBitVec_inj.mp
  change BitVec.ofNat 8 (readWord memory address >>> (8 * index)).toNat = _
  rw [BitVec.ofNat_toNat]
  obtain rfl | rfl | rfl | rfl : index = 0 ∨ index = 1 ∨ index = 2 ∨ index = 3 := by omega
  all_goals
    apply BitVec.eq_of_getLsbD_eq
    intro bit small
    simp only [readWord, BitVec.getLsbD_setWidth, BitVec.getLsbD_ushiftRight, BitVec.getLsbD_append]
    grind

theorem wordBytes_readWord (address : Nat) :
    wordBytes (readWord memory address) = load memory address 4 := by
  rw [wordBytes, load, List.range'_eq_map_range, List.map_map]
  apply List.map_congr_left
  intro index member
  exact readWord_byte memory address (List.mem_range.mp member)

theorem readWords_packetWords (count address : Nat) (rest : List (BitVec 32)) :
    readWords count (packetWords memory count address ++ rest) =
      (load memory address (4 * count), rest) := by
  induction count generalizing address with
  | zero => rfl
  | succ count ih =>
    have whole : 4 * (count + 1) = 4 + 4 * count := by omega
    simp only [packetWords, List.cons_append, readWords, List.tail_cons, List.headD_cons, ih,
      wordBytes_readWord, whole, load_add]

/-- The bytes that were packed come out again, and the words behind them stay. -/
theorem readRxFifoPacket_packetWords (address length : Nat) (rest : List (BitVec 32)) :
    Otg.readRxFifoPacket (packetWords memory (pieces 4 length) address ++ rest) length =
      (load memory address length, rest) := by
  unfold Otg.readRxFifoPacket
  by_cases tail : length % 4 = 0
  · have count : pieces 4 length = length / 4 := by
      unfold pieces
      omega
    have whole : 4 * (length / 4) = length := by omega
    simp only [tail, count, ne_eq, not_true, if_false, readWords_packetWords, whole]
  · have count : pieces 4 length = length / 4 + 1 := by
      unfold pieces
      omega
    have split : length = 4 * (length / 4) + length % 4 := by omega
    have last := packetWords_add memory (length / 4) 1 address
    simp only [count, last, tail, ne_eq, not_false_eq_true, if_true, List.append_assoc,
      readWords_packetWords, packetWords, List.cons_append, List.nil_append, List.headD_cons,
      List.tail_cons, wordBytes_readWord]
    rw [take_load memory _ (Nat.le_of_lt (Nat.mod_lt length (by decide))), ← load_add, ← split]

/-! ## The loops over the memory -/

theorem readWholeWords_eq (count rBuf : Nat) (state : RxState) :
    readWholeWords count rBuf state =
      ⟨store state.memory rBuf (readWords count state.fifo).1, (readWords count state.fifo).2⟩ := by
  induction count generalizing rBuf state with
  | zero => rfl
  | succ count ih =>
    simp only [readWholeWords, RxState.readRxFifoData, ih, readWords, store_append, wordBytes_length]

theorem storeBytes_eq (temp : BitVec 32) (rBuf left i : Nat) (bytes : Nat → Byte)
    (inside : i + left ≤ 4) : storeBytes temp rBuf left i bytes =
      store bytes (rBuf + i) (((wordBytes temp).drop i).take left) := by
  induction left generalizing i bytes with
  | zero => simp [storeBytes, store]
  | succ left ih =>
    have within : i < (wordBytes temp).length := by
      rw [wordBytes_length]
      omega
    have byte : (wordBytes temp)[i] = UInt8.ofNat (temp >>> (i <<< 3)).toNat := by
      simp [wordBytes, Nat.shiftLeft_eq, Nat.mul_comm]
    rw [storeBytes, ih (i + 1) _ (by omega), List.drop_eq_getElem_cons within, List.take_succ_cons,
      store, byte, Nat.add_assoc]

/-- The packet as it is read is the one that the passes over the RxFIFO are given. -/
theorem readRxFifoPacket_eq (state : RxState) (rBuf : Nat) (rLen : BitVec 32) :
    readRxFifoPacket state rBuf rLen =
      ⟨store state.memory rBuf (Otg.readRxFifoPacket state.fifo rLen.toNat).1,
        (Otg.readRxFifoPacket state.fifo rLen.toNat).2⟩ := by
  have words : (rLen / 4).toNat = rLen.toNat / 4 := rfl
  have bytes : (rLen &&& 0x3).toNat = rLen.toNat % 4 := by
    rw [BitVec.toNat_and]
    exact Nat.and_two_pow_sub_one_eq_mod _ 2
  have tail : rLen &&& 0x3 ≠ 0 ↔ rLen.toNat % 4 ≠ 0 := by
    rw [← bytes, ne_eq, ne_eq, ← BitVec.toNat_inj]
    rfl
  have short : 0 + rLen.toNat % 4 ≤ 4 := by omega
  unfold readRxFifoPacket Otg.readRxFifoPacket
  simp only [words, bytes, tail, readWholeWords_eq, RxState.readRxFifoData]
  by_cases whole : rLen.toNat % 4 = 0
  · simp only [whole, ne_eq, not_true, if_false]
  · simp only [whole, ne_eq, not_false_eq_true, if_true, storeBytes_eq _ _ _ _ _ short,
      store_append, readWords_length, List.drop_zero, Nat.add_zero]

/-! ## Buffers -/

/-- A buffer of the program. It is not at address 0, and the words that a packet of it takes lie
below the end of the 32-bit addresses. -/
structure Buffer where
  address : Nat
  length : Nat
  nonNull : 0 < address
  addressable : address + 4 * pieces 4 length ≤ 2 ^ 32

def Buffer.wlen (buf : Buffer) : BitVec 32 := BitVec.ofNat 32 buf.length

/-- The words that a write of the buffer puts into an empty FIFO. -/
def written (ep : Nat) (buf : Buffer) : List (BitVec 32) :=
  writeFifoPacket memory (fun _ => []) ep buf.address buf.wlen ep

-- `words` stand for the buffer.
structure RoundTrip (ep : Nat) (buf : Buffer) (words : List (BitVec 32)) : Prop where
  count : words.length = pieces 4 buf.length
  appended : ∀ fifos, writeFifoPacket memory fifos ep buf.address buf.wlen =
    Function.update fifos ep (fifos ep ++ words)
  consumed : ∀ state rBuf rest, state.fifo = words ++ rest →
    (readRxFifoPacket state rBuf buf.wlen).fifo = rest
  stored : ∀ state rBuf rest, state.fifo = words ++ rest → ∀ index < buf.length,
    (readRxFifoPacket state rBuf buf.wlen).memory (rBuf + index) = memory (buf.address + index)
  spared : ∀ state rBuf rest, state.fifo = words ++ rest → ∀ address,
    address < rBuf ∨ rBuf + buf.length ≤ address →
    (readRxFifoPacket state rBuf buf.wlen).memory address = state.memory address
  split : ∀ fifos first, 4 ∣ first → first ≤ buf.length →
    writeFifoPacket memory
        (writeFifoPacket memory fifos ep buf.address (BitVec.ofNat 32 first)) ep
        (buf.address + first) (BitVec.ofNat 32 (buf.length - first)) =
      writeFifoPacket memory fifos ep buf.address buf.wlen

theorem toNat_wordCnt {length : Nat} (small : 4 * pieces 4 length < 2 ^ 32) :
    ((BitVec.ofNat 32 length + 3) / 4).toNat = pieces 4 length := by
  rw [BitVec.toNat_udiv, BitVec.toNat_add, BitVec.toNat_ofNat]
  change (length % 2 ^ 32 + 3) % 2 ^ 32 / 4 = pieces 4 length
  unfold pieces at small ⊢
  omega

theorem Buffer.small (buf : Buffer) {length : Nat} (part : length ≤ buf.length) :
    4 * pieces 4 length < 2 ^ 32 := by
  have positive := buf.nonNull
  have within := buf.addressable
  unfold pieces at within ⊢
  omega

theorem Buffer.toNat_wlen (buf : Buffer) : buf.wlen.toNat = buf.length := by
  have small := buf.small (Nat.le_refl _)
  rw [Buffer.wlen, BitVec.toNat_ofNat]
  unfold pieces at small
  omega

theorem writeFifoPacket_eq (buf : Buffer) {length : Nat} (part : length ≤ buf.length)
    (fifos : TxFifos) (ep address : Nat) :
    writeFifoPacket memory fifos ep address (BitVec.ofNat 32 length) =
      Function.update fifos ep (fifos ep ++ packetWords memory (pieces 4 length) address) := by
  simp only [writeFifoPacket, writeWords_eq, toNat_wordCnt (buf.small part)]

theorem written_eq (ep : Nat) (buf : Buffer) :
    written memory ep buf = packetWords memory (pieces 4 buf.length) buf.address := by
  rw [written, Buffer.wlen, writeFifoPacket_eq memory buf (Nat.le_refl _)]
  simp

/-- The bytes of the words are those that the transfers count as written. -/
theorem flatMap_written (ep : Nat) (buf : Buffer) : (written memory ep buf).flatMap wordBytes =
    Otg.writeFifoPacket (fun _ => memory) ⟨(), buf.address⟩ buf.length := by
  have bytes (count address : Nat) :
      (packetWords memory count address).flatMap wordBytes = load memory address (4 * count) := by
    induction count generalizing address with
    | zero => rfl
    | succ count ih =>
      have whole : 4 * (count + 1) = 4 + 4 * count := by omega
      simp only [packetWords, List.flatMap_cons, ih, wordBytes_readWord, whole, load_add]
  rw [written_eq, bytes, load, List.range'_eq_map_range, List.map_map]
  rfl

/-- Every buffer comes back as it was packed, and can be packed in parts. -/
theorem packet_round_trip (ep : Nat) (buf : Buffer) :
    RoundTrip memory ep buf (written memory ep buf) := by
  have read (state : RxState) (rBuf : Nat) (rest : List (BitVec 32))
      (front : state.fifo = written memory ep buf ++ rest) :
      readRxFifoPacket state rBuf buf.wlen =
        ⟨store state.memory rBuf (load memory buf.address buf.length), rest⟩ := by
    rw [readRxFifoPacket_eq, front, buf.toNat_wlen, written_eq, readRxFifoPacket_packetWords]
  constructor
  case count => rw [written_eq, packetWords_length]
  case appended =>
    intro fifos
    rw [written_eq]
    exact writeFifoPacket_eq memory buf (Nat.le_refl _) fifos ep buf.address
  case consumed =>
    intro state rBuf rest front
    rw [read state rBuf rest front]
  case stored =>
    intro state rBuf rest front index inside
    rw [read state rBuf rest front]
    exact store_inside _ _ (getElem?_load _ _ inside)
  case spared =>
    intro state rBuf rest front address outside
    rw [read state rBuf rest front]
    exact store_outside _ _ (by simpa using outside)
  case split =>
    rintro fifos first ⟨count, rfl⟩ within
    have words : pieces 4 buf.length = count + pieces 4 (buf.length - 4 * count) := by
      unfold pieces
      omega
    have whole : pieces 4 (4 * count) = count := by
      unfold pieces
      omega
    rw [Buffer.wlen, writeFifoPacket_eq memory buf within,
      writeFifoPacket_eq memory buf (Nat.sub_le _ _), writeFifoPacket_eq memory buf (Nat.le_refl _),
      words, packetWords_add, whole]
    simp

theorem sevenBytes_addressable : 0x20000400 + 4 * pieces 4 7 ≤ 2 ^ 32 := by decide

def sevenBytes : Buffer := ⟨0x20000400, 7, Nat.succ_pos _, sevenBytes_addressable⟩

theorem sevenBytes_round_trip :
    RoundTrip UInt8.ofNat 1 sevenBytes (written UInt8.ofNat 1 sevenBytes) :=
  packet_round_trip UInt8.ofNat 1 sevenBytes

end ApmSdk.Otg.UsbFifo
