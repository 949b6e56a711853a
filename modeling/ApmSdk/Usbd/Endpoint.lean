import ApmSdk.Lib.Chunks

set_option autoImplicit false

/-!
# One endpoint of the USB device core

`USBD_CtrlBuf_T` with the status bits and the packet memory of its endpoint, and the functions
of the driver and the core that touch nothing else.
-/

namespace ApmSdk.Usbd

abbrev Byte := UInt8

inductive EpStatus where
  | disable
  | stall
  | nak
  | valid
  deriving DecidableEq, Repr

/-- A non-null pointer: an object of the program and an offset into it. -/
structure Ptr (Obj : Type) where
  obj : Obj
  offset : Nat
  deriving DecidableEq, Repr

def Ptr.add {Obj : Type} (pointer : Ptr Obj) (count : Nat) : Ptr Obj :=
  { pointer with offset := pointer.offset + count }

abbrev Memory (Obj : Type) := Obj → Nat → Byte

-- `none` is `NULL`.
def Memory.read {Obj : Type} (memory : Memory Obj) (buf : Option (Ptr Obj)) (len : Nat) :
    List Byte :=
  match buf with
  | some pointer => (List.range len).map fun index => memory pointer.obj (pointer.offset + index)
  | none => List.replicate len 0

def Memory.write {Obj : Type} [DecidableEq Obj] (memory : Memory Obj) (pointer : Ptr Obj)
    (bytes : List Byte) : Memory Obj :=
  fun obj index =>
    if obj = pointer.obj ∧ pointer.offset ≤ index then
      (bytes[index - pointer.offset]?).getD (memory obj index)
    else memory obj index

structure CtrlBuf (Obj : Type) where
  pBuf : Option (Ptr Obj)
  bufLen : Nat
  packNum : Nat
  zeroPackFill : Bool
  maxPackSize : Nat
  xferCnt : Nat

-- The IN half of an endpoint; `packets` records every packet queued so far.
structure InEp (Obj : Type) extends CtrlBuf Obj where
  txStatus : EpStatus
  packets : List (List Byte)

-- The OUT half of an endpoint; `rxCount` is the buffer size written by `USBD_SetEPRxCnt`.
structure OutEp (Obj : Type) extends CtrlBuf Obj where
  rxStatus : EpStatus
  rxCount : BitVec 16

def CtrlBuf.reset {Obj : Type} (maxPackSize : Nat) : CtrlBuf Obj where
  pBuf := none
  bufLen := 0
  packNum := 0
  zeroPackFill := false
  maxPackSize := maxPackSize
  xferCnt := 0

def setEPRxCnt (cnt : Nat) : BitVec 16 :=
  if 62 < cnt then
    let block := if cnt % 32 = 0 then cnt / 32 - 1 else cnt / 32
    (BitVec.ofNat 16 block <<< 10) ||| 0x8000
  else
    let block := if cnt % 2 = 1 then cnt / 2 + 1 else cnt / 2
    BitVec.ofNat 16 block <<< 10

/-- The bytes the peripheral accepts for a count register: blocks of 2, or of 32 when the
block size bit is set. -/
def rxCapacity (register : BitVec 16) : Nat :=
  let blocks := ((register >>> 10) &&& 31).toNat
  -- no packet is longer than the ten bits that `USBD_ReadEPRxCnt` reads
  min 1023 (if register.getLsbD 15 then (blocks + 1) * 32 else blocks * 2)

def armed (cnt : Nat) : Nat := rxCapacity (setEPRxCnt cnt)

def packetCount (len maxPackSize : Nat) : Nat :=
  (len + (maxPackSize - 1)) % 4294967296 / maxPackSize % 256

theorem le_armed {cnt : Nat} (small : cnt ≤ 1023) : cnt ≤ armed cnt := by
  have each : ∀ cnt < 1024, cnt ≤ armed cnt := by decide +kernel
  exact each cnt (by omega)

theorem armed_pos {cnt : Nat} (some : 0 < cnt) : 0 < armed cnt := by
  by_cases small : cnt ≤ 1023
  · exact Nat.lt_of_lt_of_le some (le_armed small)
  · have long : 62 < cnt := by omega
    have wide : (setEPRxCnt cnt).getLsbD 15 = true := by simp [setEPRxCnt, long]
    simp only [armed, rxCapacity, wide, if_true]
    omega

theorem packetCount_zero (maxPackSize : Nat) : packetCount 0 maxPackSize = 0 := by
  rw [packetCount, Nat.zero_add]
  by_cases unsized : maxPackSize = 0
  · simp [unsized]
  · rw [Nat.div_eq_of_lt]
    exact Nat.lt_of_le_of_lt (Nat.mod_le _ _) (by omega)

theorem expected_pos {len maxPackSize : Nat} (expected : packetCount len maxPackSize ≠ 0) :
    0 < armed (min len maxPackSize) := by
  apply armed_pos
  by_contra none
  apply expected
  rcases Nat.min_eq_zero_iff.mp (Nat.eq_zero_of_not_pos none) with empty | unsized
  · rw [empty, packetCount_zero]
  · simp [packetCount, unsized]

section

variable {Obj : Type}

def InEp.queue (ep : InEp Obj) (memory : Memory Obj) (buf : Option (Ptr Obj)) (len : Nat) :
    InEp Obj :=
  { ep with txStatus := .valid, packets := ep.packets ++ [memory.read buf len] }

def InEp.txData (ep : InEp Obj) (memory : Memory Obj) (buf : Option (Ptr Obj)) (len : Nat) :
    InEp Obj :=
  if ep.maxPackSize ≤ len then
    { ep.queue memory buf ep.maxPackSize with
      pBuf := buf.map (Ptr.add · ep.maxPackSize)
      bufLen := len - ep.maxPackSize
      packNum := packetCount (len - ep.maxPackSize) ep.maxPackSize }
  else
    { ep.queue memory buf len with packNum := 0, bufLen := 0 }

/-- The next packet of a transfer in progress, as `USBD_DataInProcess` and
`USBD_CtrlInProcess` queue it. -/
def InEp.nextPacket (ep : InEp Obj) (memory : Memory Obj) : InEp Obj :=
  let len := min ep.bufLen ep.maxPackSize
  { ep.queue memory ep.pBuf len with
    pBuf := ep.pBuf.map (Ptr.add · len)
    bufLen := ep.bufLen - len
    packNum := ep.packNum - 1 }

def OutEp.rxData (ep : OutEp Obj) (buf : Option (Ptr Obj)) (len : Nat) : OutEp Obj :=
  { ep with
    pBuf := buf
    bufLen := len
    packNum := packetCount len ep.maxPackSize
    rxCount := setEPRxCnt (min len ep.maxPackSize)
    rxStatus := .valid }

-- The peripheral answers NAK after it has acknowledged a packet.
def OutEp.acknowledged (ep : OutEp Obj) : OutEp Obj := { ep with rxStatus := .nak }

-- `USBD_DataOutProcess` on a packet of `count` bytes, up to the call of `outEpHandler`.
def OutEp.receive (ep : OutEp Obj) (count : Nat) : OutEp Obj :=
  if ep.packNum = 0 then ep
  else
    let stored := count ≠ 0 ∧ ep.pBuf ≠ none
    let packNum := if stored then ep.packNum - 1 else ep.packNum
    { ep with
      xferCnt := count
      bufLen := if stored then (ep.bufLen + 4294967296 - count) % 4294967296 else ep.bufLen
      pBuf := if stored then ep.pBuf.map (Ptr.add · count) else ep.pBuf
      packNum := packNum
      rxStatus := if packNum = 0 then ep.rxStatus else .valid }

-- Where `USBD_DataOutProcess` stores a packet of `count` bytes, when it stores it.
def OutEp.target (ep : OutEp Obj) (count : Nat) : Option (Ptr Obj) :=
  if ep.packNum = 0 ∨ count = 0 then none else ep.pBuf

@[simp] theorem Memory.read_length (memory : Memory Obj) (buf : Option (Ptr Obj)) (len : Nat) :
    (memory.read buf len).length = len := by
  cases buf <;> simp [Memory.read]

theorem OutEp.receive_unexpected {ep : OutEp Obj} (expected : ep.packNum = 0) (count : Nat) :
    ep.receive count = ep := by
  simp [OutEp.receive, expected]

theorem OutEp.receive_dropped {ep : OutEp Obj} (expected : ep.packNum ≠ 0) {count : Nat}
    (dropped : count = 0 ∨ ep.pBuf = none) :
    ep.receive count = { ep with xferCnt := count, rxStatus := .valid } := by
  have unstored : ¬ (count ≠ 0 ∧ ep.pBuf ≠ none) := by
    rintro ⟨some, present⟩
    exact dropped.elim some present
  simp only [OutEp.receive, expected, unstored, if_false]

theorem OutEp.receive_stored {ep : OutEp Obj} {more count : Nat} {pointer : Ptr Obj}
    (expected : ep.packNum = more + 1) (some : count ≠ 0)
    (present : ep.pBuf = Option.some pointer) :
    ep.receive count =
      { ep with
        xferCnt := count
        bufLen := (ep.bufLen + 4294967296 - count) % 4294967296
        pBuf := Option.some (pointer.add count)
        packNum := more
        rxStatus := if more = 0 then ep.rxStatus else .valid } := by
  simp [OutEp.receive, expected, some, present]

theorem OutEp.receive_maxPackSize (ep : OutEp Obj) (count : Nat) :
    (ep.receive count).maxPackSize = ep.maxPackSize := by
  unfold OutEp.receive
  split <;> rfl

/-- An endpoint that has acknowledged a packet stays armed exactly while it expects more. -/
theorem OutEp.rxStatus_receive (ep : OutEp Obj) (count : Nat) :
    (ep.acknowledged.receive count).rxStatus =
      if (ep.acknowledged.receive count).packNum = 0 then .nak else .valid := by
  unfold OutEp.receive
  by_cases expected : ep.acknowledged.packNum = 0
  · simp only [expected, if_true]
    rfl
  · simp only [expected, if_false]
    rfl

theorem OutEp.expected_receive {ep : OutEp Obj} {count : Nat}
    (expected : (ep.acknowledged.receive count).packNum ≠ 0) : ep.packNum ≠ 0 := by
  intro none
  have unexpected : ep.acknowledged.packNum = 0 := none
  rw [OutEp.receive_unexpected unexpected] at expected
  exact expected none

theorem OutEp.obj_receive (ep : OutEp Obj) (count : Nat) :
    (ep.acknowledged.receive count).pBuf.map Ptr.obj = ep.pBuf.map Ptr.obj := by
  unfold OutEp.receive
  split
  · rfl
  · simp only
    split
    · simp only [OutEp.acknowledged, Option.map_map]
      rfl
    · rfl

theorem OutEp.target_eq_some {ep : OutEp Obj} {count : Nat} {pointer : Ptr Obj} :
    ep.target count = Option.some pointer ↔
      ep.packNum ≠ 0 ∧ count ≠ 0 ∧ ep.pBuf = Option.some pointer := by
  simp only [OutEp.target]
  split
  · next none => rcases none with none | none <;> simp [none]
  · next some => simp_all

end

end ApmSdk.Usbd
