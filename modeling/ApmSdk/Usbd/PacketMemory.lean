import ApmSdk.Lib.FlatMemory
import ApmSdk.Usbd.Endpoint

set_option autoImplicit false

/-!
# Packet memory

`USBD_WriteDataToEP` and `USBD_ReadDataFromEP` over the halfwords that the CPU finds at every
fourth address.
-/

namespace ApmSdk.Usbd

open FlatMemory Chunks

/-- The packet memory and BUFFTB. The upper half of a word of it has no memory: what it reads as is
left open. -/
structure PacketMemory where
  halfwords : Nat → BitVec 16
  upper : Nat → BitVec 16
  bufftb : BitVec 13

namespace PacketMemory

/-! Addresses count from `USBD_PMA_ADDR`. Those of words are multiples of 4, since
`USBD_SetEPTxAddr` and `USBD_SetEPRxAddr` write even entries. -/

def read (pma : PacketMemory) (address : Nat) : BitVec 32 :=
  pma.upper (address / 4) ++ pma.halfwords (address / 4)

def write (pma : PacketMemory) (address : Nat) (value : BitVec 32) : PacketMemory :=
  { pma with halfwords := Function.update pma.halfwords (address / 4) (value.setWidth 16) }

-- The three low bits of BUFFTB are reserved.
def readBufftb (pma : PacketMemory) : Nat := (pma.bufftb ++ 0#3).toNat

def readEPTxAddrPointer (pma : PacketMemory) (ep : Nat) : Nat := (pma.readBufftb + ep * 8) * 2
def readEPRxAddrPointer (pma : PacketMemory) (ep : Nat) : Nat := (pma.readBufftb + ep * 8 + 4) * 2

def readEPTxAddr (pma : PacketMemory) (ep : Nat) : BitVec 16 :=
  (pma.read (pma.readEPTxAddrPointer ep)).setWidth 16

def readEPRxAddr (pma : PacketMemory) (ep : Nat) : BitVec 16 :=
  (pma.read (pma.readEPRxAddrPointer ep)).setWidth 16

def readEPTxBufferPointer (pma : PacketMemory) (ep : Nat) : Nat := (pma.readEPTxAddr ep).toNat <<< 1
def readEPRxBufferPointer (pma : PacketMemory) (ep : Nat) : Nat := (pma.readEPRxAddr ep).toNat <<< 1

-- The passes that are left of the loop.
def writeHalfwords (memory : Nat → Byte) :
    (left wBuf epAddr : Nat) → PacketMemory → PacketMemory
  | 0, _, _, pma => pma
  | left + 1, wBuf, epAddr, pma =>
      let tmp := (memory wBuf).toBitVec.setWidth 32
      let tmp := ((memory (wBuf + 1)).toBitVec.setWidth 32 <<< 8) ||| tmp
      writeHalfwords memory left (wBuf + 2) (epAddr + 4) (pma.write epAddr tmp)

def writeDataToEP (pma : PacketMemory) (memory : Nat → Byte) (ep wBuf : Nat) (wLen : BitVec 32) :
    PacketMemory :=
  writeHalfwords memory ((wLen + 1) >>> 1).toNat wBuf (pma.readEPTxBufferPointer ep) pma

def readHalfwords (pma : PacketMemory) :
    (left rBuf epAddr : Nat) → (Nat → Byte) → Nat → Byte
  | 0, _, _, memory => memory
  | left + 1, rBuf, epAddr, memory =>
      let tmp := pma.read epAddr
      let memory := Function.update memory rBuf (UInt8.ofBitVec ((tmp &&& 0xFF).setWidth 8))
      let memory :=
        Function.update memory (rBuf + 1) (UInt8.ofBitVec ((tmp >>> 8 &&& 0xFF).setWidth 8))
      readHalfwords pma left (rBuf + 2) (epAddr + 4) memory

def readDataFromEP (pma : PacketMemory) (memory : Nat → Byte) (ep rBuf : Nat) (rLen : BitVec 32) :
    Nat → Byte :=
  let cnt := (rLen >>> 1).toNat
  let epAddr := pma.readEPRxBufferPointer ep
  let memory := pma.readHalfwords cnt rBuf epAddr memory
  if rLen &&& 1 ≠ 0 then
    let tmp := pma.read (epAddr + 4 * cnt)
    Function.update memory (rBuf + 2 * cnt) (UInt8.ofBitVec ((tmp &&& 0xFF).setWidth 8))
  else memory

/-! ## Halfwords and bytes -/

def halfwordBytes (halfword : BitVec 16) : List Byte :=
  [UInt8.ofBitVec (halfword.setWidth 8), UInt8.ofBitVec ((halfword >>> 8).setWidth 8)]

def packed (memory : Nat → Byte) : (count address : Nat) → List (BitVec 16)
  | 0, _ => []
  | count + 1, address =>
      ((memory (address + 1)).toBitVec ++ (memory address).toBitVec) ::
        packed memory count (address + 2)

/-- The packet of `length` bytes that the peripheral finds at `start`. -/
def packet (pma : PacketMemory) (start length : Nat) : List Byte :=
  ((load pma.halfwords (start / 2) (pieces 2 length)).flatMap halfwordBytes).take length

theorem length_packed (memory : Nat → Byte) (count address : Nat) :
    (packed memory count address).length = count := by
  induction count generalizing address with
  | zero => rfl
  | succ count ih => simp [packed, ih]

theorem length_halfwordBytes (halfwords : List (BitVec 16)) :
    (halfwords.flatMap halfwordBytes).length = 2 * halfwords.length := by
  induction halfwords with
  | nil => rfl
  | cons halfword rest ih =>
    simp only [List.flatMap_cons, List.length_append, ih, halfwordBytes, List.length_cons,
      List.length_nil]
    omega

theorem halfwordBytes_append (high low : Byte) :
    halfwordBytes (high.toBitVec ++ low.toBitVec) = [low, high] := by
  have first : (high.toBitVec ++ low.toBitVec).setWidth 8 = low.toBitVec := by
    apply BitVec.eq_of_getLsbD_eq
    intro bit small
    simp only [BitVec.getLsbD_setWidth, BitVec.getLsbD_append, small, decide_true, Bool.true_and,
      if_true]
  have second : ((high.toBitVec ++ low.toBitVec) >>> 8).setWidth 8 = high.toBitVec := by
    apply BitVec.eq_of_getLsbD_eq
    intro bit small
    have above : ¬8 + bit < 8 := by omega
    simp only [BitVec.getLsbD_setWidth, BitVec.getLsbD_ushiftRight, BitVec.getLsbD_append, small,
      above, decide_true, Bool.true_and, if_false, Nat.add_sub_cancel_left]
  rw [halfwordBytes, first, second]

theorem bytes_packed (memory : Nat → Byte) (count address : Nat) :
    (packed memory count address).flatMap halfwordBytes = load memory address (2 * count) := by
  induction count generalizing address with
  | zero => rfl
  | succ count ih =>
    have whole : 2 * (count + 1) = 2 + 2 * count := by omega
    rw [packed, List.flatMap_cons, ih, halfwordBytes_append, whole, load_add]
    rfl

/-! ## The loops -/

theorem packed_word (high low : Byte) :
    ((high.toBitVec.setWidth 32 <<< 8) ||| low.toBitVec.setWidth 32).setWidth 16 =
      high.toBitVec ++ low.toBitVec := by
  apply BitVec.eq_of_getLsbD_eq
  intro bit small
  simp only [BitVec.getLsbD_setWidth, BitVec.getLsbD_or, BitVec.getLsbD_shiftLeft,
    BitVec.getLsbD_append]
  by_cases first : bit < 8
  · simp [first, small, show bit < 32 by omega]
  · have none : low.toBitVec.getLsbD bit = false := BitVec.getLsbD_of_ge _ _ (by omega)
    simp [first, small, none, show bit < 32 by omega, show bit - 8 < 32 by omega]

theorem writeHalfwords_eq (memory : Nat → Byte) (count wBuf epAddr : Nat) (pma : PacketMemory) :
    writeHalfwords memory count wBuf epAddr pma =
      { pma with halfwords := store pma.halfwords (epAddr / 4) (packed memory count wBuf) } := by
  induction count generalizing wBuf epAddr pma with
  | zero => rfl
  | succ count ih =>
    have next : (epAddr + 4) / 4 = epAddr / 4 + 1 := by omega
    simp only [writeHalfwords, ih, write, packed, store, packed_word, next]

theorem mask_byte (word : BitVec 32) : (word &&& 0xFF).setWidth 8 = word.setWidth 8 := by
  have mask : (0xFF : BitVec 32).setWidth 8 = BitVec.allOnes 8 := rfl
  rw [BitVec.setWidth_and, mask, BitVec.and_allOnes]

theorem low_byte (upper halfword : BitVec 16) :
    (upper ++ halfword : BitVec 32).setWidth 8 = halfword.setWidth 8 := by
  apply BitVec.eq_of_getLsbD_eq
  intro bit small
  simp only [BitVec.getLsbD_setWidth, BitVec.getLsbD_append, show bit < 16 by omega, if_true]

theorem high_byte (upper halfword : BitVec 16) :
    ((upper ++ halfword : BitVec 32) >>> 8).setWidth 8 = (halfword >>> 8).setWidth 8 := by
  apply BitVec.eq_of_getLsbD_eq
  intro bit small
  simp only [BitVec.getLsbD_setWidth, BitVec.getLsbD_ushiftRight, BitVec.getLsbD_append,
    show 8 + bit < 16 by omega, if_true]

theorem readHalfwords_eq (pma : PacketMemory) (count rBuf epAddr : Nat) (memory : Nat → Byte) :
    pma.readHalfwords count rBuf epAddr memory =
      store memory rBuf ((load pma.halfwords (epAddr / 4) count).flatMap halfwordBytes) := by
  induction count generalizing rBuf epAddr memory with
  | zero => rfl
  | succ count ih =>
    have next : (epAddr + 4) / 4 = epAddr / 4 + 1 := by omega
    simp only [readHalfwords, ih, read, mask_byte, low_byte, high_byte, load_succ,
      List.flatMap_cons, halfwordBytes, List.cons_append, List.nil_append, store, next]

/-- What is read is the packet at the address in the buffer table. -/
theorem readDataFromEP_eq (pma : PacketMemory) (memory : Nat → Byte) (ep rBuf : Nat)
    (rLen : BitVec 32) : pma.readDataFromEP memory ep rBuf rLen =
      store memory rBuf (pma.packet (pma.readEPRxAddr ep).toNat rLen.toNat) := by
  have cnt : (rLen >>> 1).toNat = rLen.toNat / 2 := by
    rw [BitVec.toNat_ushiftRight, Nat.shiftRight_eq_div_pow]
  have odd : rLen &&& 1 ≠ 0 ↔ rLen.toNat % 2 ≠ 0 := by
    rw [ne_eq, ne_eq, ← BitVec.toNat_inj, BitVec.toNat_and]
    exact not_congr (Eq.congr_left (Nat.and_two_pow_sub_one_eq_mod _ 1))
  have start : (pma.readEPRxBufferPointer ep) / 4 = (pma.readEPRxAddr ep).toNat / 2 := by
    rw [readEPRxBufferPointer, Nat.shiftLeft_eq]
    omega
  have last : (pma.readEPRxBufferPointer ep + 4 * (rLen.toNat / 2)) / 4 =
      (pma.readEPRxAddr ep).toNat / 2 + rLen.toNat / 2 := by
    rw [← start]
    omega
  simp only [readDataFromEP, packet, cnt, odd, readHalfwords_eq, start]
  by_cases even : rLen.toNat % 2 = 0
  · have count : pieces 2 rLen.toNat = rLen.toNat / 2 := by
      unfold pieces
      omega
    have whole : ((load pma.halfwords ((pma.readEPRxAddr ep).toNat / 2)
        (rLen.toNat / 2)).flatMap halfwordBytes).length ≤ rLen.toNat := by
      rw [length_halfwordBytes, length_load]
      omega
    simp only [even, ne_eq, not_true, if_false, count]
    rw [List.take_of_length_le whole]
  · have count : pieces 2 rLen.toNat = rLen.toNat / 2 + 1 := by
      unfold pieces
      omega
    have split : rLen.toNat = 2 * (rLen.toNat / 2) + 1 := by omega
    have front : ((load pma.halfwords ((pma.readEPRxAddr ep).toNat / 2)
        (rLen.toNat / 2)).flatMap halfwordBytes).length = 2 * (rLen.toNat / 2) := by
      rw [length_halfwordBytes, length_load]
    simp only [even, ne_eq, not_false_eq_true, if_true, count, load_add, List.flatMap_append]
    rw [read, last, mask_byte, low_byte]
    generalize (load pma.halfwords ((pma.readEPRxAddr ep).toNat / 2)
        (rLen.toNat / 2)).flatMap halfwordBytes = bytes at front ⊢
    have taken (rest : List Byte) :
        (bytes ++ rest).take rLen.toNat = bytes ++ rest.take 1 := by
      rw [split, ← front, List.take_length_add_append]
    rw [taken, store_append, ← front]
    rfl

theorem writeDataToEP_eq (pma : PacketMemory) (memory : Nat → Byte) (ep wBuf : Nat) {length : Nat}
    (small : length + 1 < 2 ^ 32) :
    pma.writeDataToEP memory ep wBuf (BitVec.ofNat 32 length) =
      { pma with
        halfwords := store pma.halfwords ((pma.readEPTxAddr ep).toNat / 2)
          (packed memory (pieces 2 length) wBuf) } := by
  have count : ((BitVec.ofNat 32 length + 1) >>> 1).toNat = pieces 2 length := by
    rw [BitVec.toNat_ushiftRight, BitVec.toNat_add, BitVec.toNat_ofNat, Nat.shiftRight_eq_div_pow]
    change (length % 2 ^ 32 + 1) % 2 ^ 32 / 2 ^ 1 = (length + 1) / 2
    omega
  have start : (pma.readEPTxBufferPointer ep) / 4 = (pma.readEPTxAddr ep).toNat / 2 := by
    rw [readEPTxBufferPointer, Nat.shiftLeft_eq]
    omega
  rw [writeDataToEP, count, writeHalfwords_eq, start]

/-! ## There and back -/

/-- `later` has at `start` what `pma` has, as far as `length` bytes go. -/
def SameRange (pma later : PacketMemory) (start length : Nat) : Prop :=
  ∀ index < pieces 2 length,
    later.halfwords (start / 2 + index) = pma.halfwords (start / 2 + index)

theorem packet_same {pma later : PacketMemory} {start length : Nat}
    (same : pma.SameRange later start length) : later.packet start length = pma.packet start length := by
  rw [packet, packet, load_congr same]

/-- The packet that the peripheral takes is the one that is queued for the endpoint. -/
theorem packet_written (pma : PacketMemory) (memory : Nat → Byte) (ep wBuf : Nat) {length : Nat}
    (small : length + 1 < 2 ^ 32) :
    (pma.writeDataToEP memory ep wBuf (BitVec.ofNat 32 length)).packet
        (pma.readEPTxAddr ep).toNat length =
      Memory.read (fun _ => memory) (some ⟨(), wBuf⟩) length := by
  have stored := load_store pma.halfwords ((pma.readEPTxAddr ep).toNat / 2)
    (packed memory (pieces 2 length) wBuf)
  rw [length_packed] at stored
  have enough : length ≤ 2 * pieces 2 length := by
    unfold pieces
    omega
  rw [writeDataToEP_eq pma memory ep wBuf small, packet, stored, bytes_packed,
    take_load memory wBuf enough, load, List.range'_eq_map_range, List.map_map]
  rfl

/-- What a write of `length` bytes has left in `after`, and what a read of the same range finds
there: by whatever endpoint, and whatever else has changed in between. -/
structure RoundTrip (pma : PacketMemory) (memory : Nat → Byte) (ep wBuf length : Nat)
    (after : PacketMemory) : Prop where
  kept : ∀ index, index < (pma.readEPTxAddr ep).toNat / 2 ∨
    (pma.readEPTxAddr ep).toNat / 2 + pieces 2 length ≤ index →
    after.halfwords index = pma.halfwords index
  stored : ∀ later reader, later.readEPRxAddr reader = pma.readEPTxAddr ep →
    after.SameRange later (pma.readEPTxAddr ep).toNat length →
    ∀ before rBuf, ∀ index < length,
      later.readDataFromEP before reader rBuf (BitVec.ofNat 32 length) (rBuf + index) =
        memory (wBuf + index)
  spared : ∀ (later : PacketMemory) reader before rBuf address,
    address < rBuf ∨ rBuf + length ≤ address →
    later.readDataFromEP before reader rBuf (BitVec.ofNat 32 length) address = before address

/-- `length` bytes at the address of the endpoint end where the 16-bit addresses do or before. -/
def Room (pma : PacketMemory) (ep length : Nat) : Prop :=
  (pma.readEPTxAddr ep).toNat + length ≤ 2 ^ 16

theorem packet_memory_round_trip (pma : PacketMemory) (memory : Nat → Byte) (ep wBuf : Nat)
    {length : Nat} (room : pma.Room ep length) :
    RoundTrip pma memory ep wBuf length
      (pma.writeDataToEP memory ep wBuf (BitVec.ofNat 32 length)) := by
  have small : length + 1 < 2 ^ 32 := by
    unfold Room at room
    omega
  have rLen : (BitVec.ofNat 32 length).toNat = length := by
    rw [BitVec.toNat_ofNat]
    omega
  constructor
  case kept =>
    intro index outside
    rw [writeDataToEP_eq pma memory ep wBuf small]
    exact store_outside _ _ (by simpa [length_packed] using outside)
  case stored =>
    intro later reader there same before rBuf index inside
    rw [readDataFromEP_eq, there, rLen, packet_same same, packet_written pma memory ep wBuf small]
    exact store_inside _ _ (by simp [Memory.read, inside])
  case spared =>
    intro later reader before rBuf address outside
    have whole : (later.packet (later.readEPRxAddr reader).toNat length).length = length := by
      rw [packet, List.length_take, length_halfwordBytes, length_load]
      unfold pieces
      omega
    rw [readDataFromEP_eq, rLen]
    exact store_outside _ _ (by rwa [whole])

/-- Endpoint 1 has its buffer at 0x40; the table is at 0. -/
def oneEndpoint : PacketMemory where
  halfwords index := if index = 4 ∨ index = 6 then 0x40 else 0
  upper _ := 0
  bufftb := 0

theorem threeBytes_round_trip : RoundTrip oneEndpoint (fun index => UInt8.ofNat index) 1 0x100 3
    (oneEndpoint.writeDataToEP (fun index => UInt8.ofNat index) 1 0x100 (BitVec.ofNat 32 3)) :=
  packet_memory_round_trip oneEndpoint (fun index => UInt8.ofNat index) 1 0x100
    (show oneEndpoint.Room 1 3 by unfold Room; decide)

end PacketMemory

end ApmSdk.Usbd
