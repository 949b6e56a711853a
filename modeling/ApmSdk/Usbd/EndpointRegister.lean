import ApmSdk.Usbd.Endpoint

set_option autoImplicit false

/-!
# The endpoint register of the USB device peripheral

The read-modify-write functions of `drv_usb_device.c` on a register with four kinds of bits,
raced by the peripheral, which sets CTFR and CTFT.
-/

namespace ApmSdk.Usbd

-- Bits 0 to 15 of `USBD->EP[ep].EP`; the others are reserved.
abbrev Reg := BitVec 16

def bitAddr : Reg := 0x000F
def bitTxsts : Reg := 0x0030
def bitTxdtog : Reg := 0x0040
def bitCtft : Reg := 0x0080
def bitKind : Reg := 0x0100
def bitType : Reg := 0x0600
def bitSetup : Reg := 0x0800
def bitRxsts : Reg := 0x3000
def bitRxdtog : Reg := 0x4000
def bitCtfr : Reg := 0x8000

def epMaskDefault : Reg := bitCtfr ||| bitSetup ||| bitType ||| bitKind ||| bitCtft ||| bitAddr

/-- Writing 0 clears, writing 1 leaves. -/
def flagBits : Reg := bitCtfr ||| bitCtft

/-- Writing 1 toggles, writing 0 leaves. -/
def toggleBits : Reg := bitRxdtog ||| bitRxsts ||| bitTxdtog ||| bitTxsts

-- The register after `written` is written to it.
def Reg.write (before written : Reg) : Reg :=
  (before &&& written &&& flagBits) ||| ((before ^^^ written) &&& toggleBits) |||
    (written &&& ~~~(flagBits ||| toggleBits))

inductive RegEpType where
  | bulk
  | control
  | iso
  | interrupt
  deriving DecidableEq, Repr

def RegEpType.code : RegEpType → Reg
  | .bulk => 0
  | .control => 1
  | .iso => 2
  | .interrupt => 3

def EpStatus.code : EpStatus → Reg
  | .disable => 0
  | .stall => 1
  | .nak => 2
  | .valid => 3

/-- The functions of the driver that write an endpoint register. -/
inductive RegOp where
  | setEPType (type : RegEpType)
  | setEPKind
  | resetEPKind
  | resetEPRxFlag
  | resetEPTxFlag
  | toggleTx
  | toggleRx
  | resetTxToggle
  | resetRxToggle
  | setEpAddr (addr : BitVec 8)
  | setEPTxStatus (status : EpStatus)
  | setEPRxStatus (status : EpStatus)
  | setEPTxRxStatus (txStatus rxStatus : EpStatus)

-- What the function writes, from the value `reg` it has read.
def RegOp.value (reg : Reg) : RegOp → Reg
  | .setEPType type => reg &&& epMaskDefault &&& ~~~bitType ||| type.code <<< 9
  | .setEPKind => reg &&& epMaskDefault ||| bitKind
  | .resetEPKind => reg &&& epMaskDefault &&& ~~~bitKind
  | .resetEPRxFlag => reg &&& epMaskDefault &&& ~~~bitCtfr
  | .resetEPTxFlag => reg &&& epMaskDefault &&& ~~~bitCtft
  | .toggleTx | .resetTxToggle => reg &&& epMaskDefault ||| bitTxdtog
  | .toggleRx | .resetRxToggle => reg &&& epMaskDefault ||| bitRxdtog
  | .setEpAddr addr => reg &&& epMaskDefault &&& ~~~bitAddr ||| addr.setWidth 16
  | .setEPTxStatus status =>
      (reg &&& (epMaskDefault ||| bitTxsts)) ^^^ (status.code <<< 4 &&& bitTxsts)
  | .setEPRxStatus status =>
      (reg &&& (epMaskDefault ||| bitRxsts)) ^^^ (status.code <<< 12 &&& bitRxsts)
  | .setEPTxRxStatus txStatus rxStatus =>
      (reg &&& (epMaskDefault ||| bitRxsts ||| bitTxsts)) ^^^
        (rxStatus.code <<< 12 &&& bitRxsts) ^^^ (txStatus.code <<< 4 &&& bitTxsts)

/-- The test made before the read-modify-write. -/
def RegOp.applies (reg : Reg) : RegOp → Bool
  | .resetTxToggle => reg &&& bitTxdtog != 0
  | .resetRxToggle => reg &&& bitRxdtog != 0
  | _ => true

/-- The function run on a register that holds `reg`, when the peripheral sets the flags of
`early` between its test and its read and those of `late` between its read and its write. -/
def RegOp.run (reg early late : Reg) (op : RegOp) : Reg :=
  let read := reg ||| (early &&& flagBits)
  let current := read ||| (late &&& flagBits)
  if op.applies reg then Reg.write current (op.value read) else current

-- `reg` with the bits of `field` replaced.
def Reg.put (reg field bits : Reg) : Reg := (reg &&& ~~~field) ||| (bits &&& field)

/-- What the function is asked for: one field changed, everything else as it is. -/
def RegOp.requested (reg : Reg) : RegOp → Reg
  | .setEPType type => Reg.put reg bitType (type.code <<< 9)
  | .setEPKind => Reg.put reg bitKind bitKind
  | .resetEPKind => Reg.put reg bitKind 0
  | .resetEPRxFlag => Reg.put reg bitCtfr 0
  | .resetEPTxFlag => Reg.put reg bitCtft 0
  | .toggleTx => reg ^^^ bitTxdtog
  | .toggleRx => reg ^^^ bitRxdtog
  | .resetTxToggle => Reg.put reg bitTxdtog 0
  | .resetRxToggle => Reg.put reg bitRxdtog 0
  | .setEpAddr addr => Reg.put reg bitAddr (addr.setWidth 16)
  | .setEPTxStatus status => Reg.put reg bitTxsts (status.code <<< 4)
  | .setEPRxStatus status => Reg.put reg bitRxsts (status.code <<< 12)
  | .setEPTxRxStatus txStatus rxStatus =>
      Reg.put (Reg.put reg bitRxsts (rxStatus.code <<< 12)) bitTxsts (txStatus.code <<< 4)

/-- The bits of the argument that reach the register outside the field asked for. -/
def RegOp.stray : RegOp → Reg
  | .setEpAddr addr => addr.setWidth 16 &&& ~~~bitAddr
  | _ => 0

/-- The flag the function is asked to clear. -/
def RegOp.cleared : RegOp → Reg
  | .resetEPRxFlag => bitCtfr
  | .resetEPTxFlag => bitCtft
  | _ => 0

/-- The flags that are set after the read, clear when read, and not meant to be cleared. -/
def RegOp.raced (reg early late : Reg) (op : RegOp) : Reg :=
  late &&& flagBits &&& ~~~(reg ||| early) &&& ~~~op.cleared &&& ~~~op.stray

/-! ## The fields of the register, bit by bit -/

theorem Reg.eq_iff_bits {left right : Reg} :
    left = right ↔ ∀ index < 16, left.getLsbD index = right.getLsbD index := by
  constructor
  · rintro rfl index _
    rfl
  · intro same
    exact BitVec.eq_of_getLsbD_eq same

theorem flag_bit : ∀ index < 16, flagBits.getLsbD index = true →
    epMaskDefault.getLsbD index = true ∧ toggleBits.getLsbD index = false ∧
      bitAddr.getLsbD index = false ∧ bitKind.getLsbD index = false ∧
      bitType.getLsbD index = false ∧ bitTxsts.getLsbD index = false ∧
      bitTxdtog.getLsbD index = false ∧ bitRxsts.getLsbD index = false ∧
      bitRxdtog.getLsbD index = false := by
  decide

theorem toggle_bit : ∀ index < 16, toggleBits.getLsbD index = true →
    epMaskDefault.getLsbD index = false ∧ flagBits.getLsbD index = false ∧
      bitAddr.getLsbD index = false ∧ bitKind.getLsbD index = false ∧
      bitType.getLsbD index = false ∧ bitCtfr.getLsbD index = false ∧
      bitCtft.getLsbD index = false ∧
      (bitTxsts.getLsbD index = true → bitRxsts.getLsbD index = false) := by
  decide

theorem plain_bit : ∀ index < 16, flagBits.getLsbD index = false →
    toggleBits.getLsbD index = false →
    epMaskDefault.getLsbD index = true ∧ bitTxsts.getLsbD index = false ∧
      bitTxdtog.getLsbD index = false ∧ bitRxsts.getLsbD index = false ∧
      bitRxdtog.getLsbD index = false ∧ bitCtfr.getLsbD index = false ∧
      bitCtft.getLsbD index = false := by
  decide

theorem type_code_bit (type : RegEpType) {index : Nat} (within : index < 16)
    (outside : bitType.getLsbD index = false) : (type.code <<< 9).getLsbD index = false := by
  have inside : ∀ bit < 16, (type.code <<< 9).getLsbD bit = true →
      bitType.getLsbD bit = true := by
    cases type <;> decide
  by_contra set
  have field := inside index within (Bool.eq_true_of_not_eq_false set)
  exact absurd (outside.symm.trans field) (by decide)

theorem addr_bit (addr : BitVec 8) {index : Nat} (within : index < 16)
    (flag : flagBits.getLsbD index = false) (toggle : toggleBits.getLsbD index = false)
    (outside : bitAddr.getLsbD index = false) : (addr.setWidth 16).getLsbD index = false := by
  have high : ∀ bit < 16, flagBits.getLsbD bit = false → toggleBits.getLsbD bit = false →
      bitAddr.getLsbD bit = false → 8 ≤ bit := by decide
  rw [BitVec.getLsbD_setWidth, BitVec.getLsbD_of_ge _ _ (high index within flag toggle outside),
    Bool.and_false]

/-- The test of a field of one bit. -/
theorem test_bit {reg field : Reg} {index : Nat}
    (single : ∀ bit < 16, field.getLsbD bit = decide (bit = index)) (within : index < 16) :
    (reg &&& field != 0) = reg.getLsbD index := by
  cases set : reg.getLsbD index with
  | false =>
    have clear : reg &&& field = 0 := by
      rw [Reg.eq_iff_bits]
      intro bit bounded
      by_cases same : bit = index
      · subst same
        simp [BitVec.getLsbD_and, set]
      · simp [BitVec.getLsbD_and, single bit bounded, same]
    rw [clear]
    rfl
  | true =>
    rw [bne_iff_ne]
    intro clear
    have bit := Reg.eq_iff_bits.mp clear index within
    rw [BitVec.getLsbD_and, set, single index within] at bit
    simp at bit

theorem txdtog_test (reg : Reg) {index : Nat} (within : index < 16)
    (field : bitTxdtog.getLsbD index = true) :
    (reg &&& bitTxdtog != 0) = reg.getLsbD index := by
  have position : ∀ bit < 16, bitTxdtog.getLsbD bit = decide (bit = 6) := by decide
  obtain rfl : index = 6 := by simpa [position index within] using field
  exact test_bit position within

theorem rxdtog_test (reg : Reg) {index : Nat} (within : index < 16)
    (field : bitRxdtog.getLsbD index = true) :
    (reg &&& bitRxdtog != 0) = reg.getLsbD index := by
  have position : ∀ bit < 16, bitRxdtog.getLsbD bit = decide (bit = 14) := by decide
  obtain rfl : index = 14 := by simpa [position index within] using field
  exact test_bit position within

section

variable (op : RegOp) (reg early late : Reg) {index : Nat}

-- One bit of the claim that what `op` writes does what it is asked for.
def RegOp.ObeysAt (index : Nat) : Prop :=
  let read := reg ||| (early &&& flagBits)
  let current := read ||| (late &&& flagBits)
  (Reg.write current (op.value read)).getLsbD index = (op.requested current).getLsbD index ↔
    (op.raced reg early late).getLsbD index = false ∧
      (op.stray &&& toggleBits).getLsbD index = false

theorem obeys_flag (within : index < 16) (flag : flagBits.getLsbD index = true) :
    op.ObeysAt reg early late index := by
  obtain ⟨mask, toggle, addr, kind, type, txsts, txdtog, rxsts, rxdtog⟩ :=
    flag_bit index within flag
  cases op with
  | setEPType ty =>
    have code := type_code_bit ty within type
    simp only [RegOp.ObeysAt, RegOp.requested, RegOp.raced, RegOp.stray, RegOp.value,
      RegOp.cleared, Reg.write, Reg.put, BitVec.getLsbD_and, BitVec.getLsbD_or,
      BitVec.getLsbD_xor, BitVec.getLsbD_not, *]
    grind
  | _ =>
    simp only [RegOp.ObeysAt, RegOp.requested, RegOp.raced, RegOp.stray, RegOp.value,
      RegOp.cleared, Reg.write, Reg.put, BitVec.getLsbD_and, BitVec.getLsbD_or,
      BitVec.getLsbD_xor, BitVec.getLsbD_not, *]
    grind

theorem obeys_toggle (within : index < 16) (toggle : toggleBits.getLsbD index = true)
    (applies : op.applies reg = true) : op.ObeysAt reg early late index := by
  obtain ⟨mask, flag, addr, kind, type, ctfr, ctft, apart⟩ := toggle_bit index within toggle
  have tx := txdtog_test reg within
  have rx := rxdtog_test reg within
  cases op with
  | setEPType ty =>
    have code := type_code_bit ty within type
    simp only [RegOp.ObeysAt, RegOp.requested, RegOp.raced, RegOp.stray, RegOp.value,
      RegOp.cleared, Reg.write, Reg.put, BitVec.getLsbD_and, BitVec.getLsbD_or,
      BitVec.getLsbD_xor, BitVec.getLsbD_not, *]
    grind
  | _ =>
    simp only [RegOp.applies] at applies
    simp only [RegOp.ObeysAt, RegOp.requested, RegOp.raced, RegOp.stray, RegOp.value,
      RegOp.cleared, Reg.write, Reg.put, BitVec.getLsbD_and, BitVec.getLsbD_or,
      BitVec.getLsbD_xor, BitVec.getLsbD_not, mask, toggle, flag, addr, kind, ctfr, ctft]
    grind

theorem obeys_plain (within : index < 16) (flag : flagBits.getLsbD index = false)
    (toggle : toggleBits.getLsbD index = false) : op.ObeysAt reg early late index := by
  obtain ⟨mask, txsts, txdtog, rxsts, rxdtog, ctfr, ctft⟩ := plain_bit index within flag toggle
  cases op with
  | setEPType ty =>
    have code := fun outside => type_code_bit ty within outside
    simp only [RegOp.ObeysAt, RegOp.requested, RegOp.raced, RegOp.stray, RegOp.value,
      RegOp.cleared, Reg.write, Reg.put, BitVec.getLsbD_and, BitVec.getLsbD_or,
      BitVec.getLsbD_xor, BitVec.getLsbD_not, mask, toggle, flag]
    grind
  | setEpAddr address =>
    have low := addr_bit address within flag toggle
    simp only [RegOp.ObeysAt, RegOp.requested, RegOp.raced, RegOp.stray, RegOp.value,
      RegOp.cleared, Reg.write, Reg.put, BitVec.getLsbD_and, BitVec.getLsbD_or,
      BitVec.getLsbD_xor, BitVec.getLsbD_not, mask, toggle, flag]
    grind
  | _ =>
    simp only [RegOp.ObeysAt, RegOp.requested, RegOp.raced, RegOp.stray, RegOp.value,
      RegOp.cleared, Reg.write, Reg.put, BitVec.getLsbD_and, BitVec.getLsbD_or,
      BitVec.getLsbD_xor, BitVec.getLsbD_not, *]
    grind

/-- A toggle that is already reset is left alone. -/
theorem put_zero {current field : Reg}
    (clear : ∀ index < 16, field.getLsbD index = true → current.getLsbD index = false) :
    Reg.put current field 0 = current := by
  rw [Reg.eq_iff_bits]
  intro index within
  have bit := clear index within
  simp only [Reg.put, BitVec.getLsbD_and, BitVec.getLsbD_or, BitVec.getLsbD_not, within,
    decide_true, Bool.true_and]
  grind

/-- Each function does what it is asked for, and nothing else, exactly when no other flag is set
between its read and its write and no bit of an address toggles another field. -/
theorem obeys_iff_unraced :
    op.run reg early late = op.requested (reg ||| ((early ||| late) &&& flagBits)) ↔
      (op.applies reg = true → op.raced reg early late = 0) ∧ op.stray &&& toggleBits = 0 := by
  have current : reg ||| ((early ||| late) &&& flagBits) =
      reg ||| (early &&& flagBits) ||| (late &&& flagBits) := by
    rw [Reg.eq_iff_bits]
    intro index _
    simp only [BitVec.getLsbD_and, BitVec.getLsbD_or]
    grind
  rw [current]
  cases applies : op.applies reg with
  | true =>
    simp only [RegOp.run, applies, if_true, forall_const, Reg.eq_iff_bits, ← forall_and]
    have bits : ∀ index < 16, op.ObeysAt reg early late index := by
      intro index within
      cases flag : flagBits.getLsbD index with
      | true => exact obeys_flag op reg early late within flag
      | false =>
        cases toggle : toggleBits.getLsbD index with
        | true => exact obeys_toggle op reg early late within toggle applies
        | false => exact obeys_plain op reg early late within flag toggle
    constructor
    · intro obeys index within
      have bit := (bits index within).mp (obeys index within)
      simpa using bit
    · intro unraced index within
      have bit := unraced index within
      exact (bits index within).mpr (by simpa using bit)
  | false =>
    rw [RegOp.run, if_neg (by simp [applies])]
    cases op with
    | resetTxToggle =>
      have clear : ∀ index < 16, bitTxdtog.getLsbD index = true →
          (reg ||| (early &&& flagBits) ||| (late &&& flagBits)).getLsbD index = false := by
        intro index within field
        have plain : ∀ bit < 16, bitTxdtog.getLsbD bit = true →
            flagBits.getLsbD bit = false := by decide
        have test := (txdtog_test reg within field).symm.trans applies
        simp [BitVec.getLsbD_or, BitVec.getLsbD_and, test, plain index within field]
      simp only [RegOp.requested, put_zero clear, RegOp.stray, Bool.false_eq_true,
        false_implies, true_and, true_iff]
      rfl
    | resetRxToggle =>
      have clear : ∀ index < 16, bitRxdtog.getLsbD index = true →
          (reg ||| (early &&& flagBits) ||| (late &&& flagBits)).getLsbD index = false := by
        intro index within field
        have plain : ∀ bit < 16, bitRxdtog.getLsbD bit = true →
            flagBits.getLsbD bit = false := by decide
        have test := (rxdtog_test reg within field).symm.trans applies
        simp [BitVec.getLsbD_or, BitVec.getLsbD_and, test, plain index within field]
      simp only [RegOp.requested, put_zero clear, RegOp.stray, Bool.false_eq_true,
        false_implies, true_and, true_iff]
      rfl
    | _ => simp [RegOp.applies] at applies

end

/-- CTFR is set between the read and the write of `USBD_SetEPTxStatus`. -/
theorem setEPTxStatus_loses_flag :
    ¬ ∀ (op : RegOp) (reg early late : Reg), op.stray = 0 →
      op.run reg early late = op.requested (reg ||| ((early ||| late) &&& flagBits)) := by
  intro obeys
  exact absurd (obeys (.setEPTxStatus .valid) 0 0 bitCtfr rfl) (by decide)

end ApmSdk.Usbd
