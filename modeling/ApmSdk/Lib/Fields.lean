import Mathlib.Algebra.Group.Nat.Defs

set_option autoImplicit false

/-!
# Bit fields of registers

Writing a field with a mask and a shift, and what the other fields are afterwards.
-/

namespace ApmSdk.Fields

variable {width : Nat}

-- The mask of the `count` lowest bits.
def ones (width count : Nat) : BitVec width := (BitVec.allOnes count).setWidth width

-- `(register & ~(mask << offset)) | value << offset`.
def place (register : BitVec width) (offset count : Nat) (value : BitVec width) : BitVec width :=
  (register &&& ~~~(ones width count <<< offset)) ||| (value <<< offset)

def field (register : BitVec width) (offset count : Nat) : BitVec count :=
  register.extractLsb' offset count

theorem getLsbD_ones_shiftLeft (count offset : Nat) {bit : Nat} (within : bit < width) :
    (ones width count <<< offset).getLsbD bit = decide (offset ≤ bit ∧ bit < offset + count) := by
  rw [BitVec.getLsbD_shiftLeft, ones, BitVec.getLsbD_setWidth, BitVec.getLsbD_allOnes]
  by_cases below : bit < offset
  · simp [below, Nat.not_le.mpr below]
  · have inside : bit - offset < width := by omega
    simp only [within, below, inside, Nat.not_lt.mp below, decide_true, decide_false, Bool.not_false,
      Bool.true_and, true_and]
    exact decide_eq_decide.mpr (by omega)

theorem getLsbD_place (register : BitVec width) (offset count : Nat) (value : BitVec width)
    (small : ∀ bit, count ≤ bit → value.getLsbD bit = false) {bit : Nat} (within : bit < width) :
    (place register offset count value).getLsbD bit =
      if offset ≤ bit ∧ bit < offset + count then value.getLsbD (bit - offset)
      else register.getLsbD bit := by
  rw [place, BitVec.getLsbD_or, BitVec.getLsbD_and, BitVec.getLsbD_not,
    getLsbD_ones_shiftLeft _ _ within, BitVec.getLsbD_shiftLeft]
  by_cases inside : offset ≤ bit ∧ bit < offset + count
  · simp [inside, within, Nat.not_lt.mpr inside.1]
  · by_cases below : bit < offset
    · simp [inside, within, below]
    · simp [inside, within, below, small (bit - offset) (by omega)]

theorem field_place_self (register : BitVec width) {offset count : Nat} (value : BitVec width)
    (small : ∀ bit, count ≤ bit → value.getLsbD bit = false) (fits : offset + count ≤ width) :
    field (place register offset count value) offset count = value.setWidth count := by
  apply BitVec.eq_of_getLsbD_eq
  intro bit inside
  rw [field, BitVec.getLsbD_extractLsb', getLsbD_place _ _ _ _ small (by omega)]
  simp [inside]

/-- Writing one field leaves a field beside it. -/
theorem field_place_apart (register : BitVec width) {offset count other otherCount : Nat}
    (value : BitVec width) (small : ∀ bit, count ≤ bit → value.getLsbD bit = false)
    (fits : other + otherCount ≤ width)
    (apart : other + otherCount ≤ offset ∨ offset + count ≤ other) :
    field (place register offset count value) other otherCount =
      field register other otherCount := by
  apply BitVec.eq_of_getLsbD_eq
  intro bit inside
  simp only [field, BitVec.getLsbD_extractLsb', inside, decide_true, Bool.true_and]
  rw [getLsbD_place _ _ _ _ small (by omega), if_neg (by omega)]

-- An assignment to a bit field of `count` bits.
def assign (register : BitVec width) (offset count : Nat) (value : BitVec width) : BitVec width :=
  place register offset count ((value.setWidth count).setWidth width)

theorem small_truncated (count : Nat) (value : BitVec width) :
    ∀ bit, count ≤ bit → ((value.setWidth count).setWidth width).getLsbD bit = false := by
  intro bit above
  have outside : ¬bit < count := Nat.not_lt.mpr above
  simp [outside]

theorem getLsbD_assign (register : BitVec width) (offset count : Nat) (value : BitVec width)
    {bit : Nat} (within : bit < width) : (assign register offset count value).getLsbD bit =
      if offset ≤ bit ∧ bit < offset + count then value.getLsbD (bit - offset)
      else register.getLsbD bit := by
  rw [assign, getLsbD_place _ _ _ _ (small_truncated count value) within]
  by_cases inside : offset ≤ bit ∧ bit < offset + count
  · have low : bit - offset < count := by omega
    have small : bit - offset < width := by omega
    simp [inside, low, small]
  · simp [inside]

theorem assign_of_lt (register : BitVec width) (offset : Nat) {count : Nat} {value : BitVec width}
    (small : value.toNat < 2 ^ count) :
    assign register offset count value = place register offset count value := by
  have whole : (value.setWidth count).setWidth width = value := by
    apply BitVec.eq_of_toNat_eq
    rw [BitVec.toNat_setWidth, BitVec.toNat_setWidth, Nat.mod_eq_of_lt small,
      Nat.mod_eq_of_lt value.isLt]
  rw [assign, whole]

/-- A field that is written together with others may as well be written after them. -/
theorem place_together (register mask others : BitVec width) (offset count : Nat)
    (value : BitVec width) (apart : others &&& (ones width count <<< offset) = 0) :
    (register &&& ~~~(mask ||| ones width count <<< offset)) ||| (others ||| value <<< offset) =
      place ((register &&& ~~~mask) ||| others) offset count value := by
  rw [place]
  generalize ones width count <<< offset = selected at apart ⊢
  apply BitVec.eq_of_getLsbD_eq
  intro bit within
  have clear : (others &&& selected).getLsbD bit = false := by simp [apart]
  simp only [BitVec.getLsbD_or, BitVec.getLsbD_and, BitVec.getLsbD_not, within, decide_true,
    Bool.true_and] at clear ⊢
  generalize (value <<< offset).getLsbD bit = shifted
  revert clear
  cases register.getLsbD bit <;> cases mask.getLsbD bit <;> cases others.getLsbD bit <;>
    cases selected.getLsbD bit <;> simp

theorem ones_one : ones width 1 = 1 := by
  apply BitVec.eq_of_toNat_eq
  simp [ones]

theorem or_one_shiftLeft (register : BitVec width) (bit : Nat) :
    register ||| (1 : BitVec width) <<< bit = assign register bit 1 1 := by
  have small : (1 : BitVec width).toNat < 2 ^ 1 :=
    Nat.lt_of_le_of_lt (Nat.mod_le _ _) (by decide)
  rw [assign_of_lt _ _ small, place, ones_one]
  generalize (1 : BitVec width) <<< bit = selected
  apply BitVec.eq_of_getLsbD_eq
  intro position within
  simp only [BitVec.getLsbD_or, BitVec.getLsbD_and, BitVec.getLsbD_not, within, decide_true,
    Bool.true_and]
  cases register.getLsbD position <;> cases selected.getLsbD position <;> rfl

theorem and_not_one_shiftLeft (register : BitVec width) (bit : Nat) :
    register &&& ~~~((1 : BitVec width) <<< bit) = assign register bit 1 0 := by
  rw [assign, place, ones_one]
  simp

theorem and_ones_ushiftRight (register : BitVec width) (offset count : Nat) :
    (register &&& (ones width count <<< offset)) >>> offset =
      (field register offset count).setWidth width := by
  apply BitVec.eq_of_getLsbD_eq
  intro bit within
  rw [BitVec.getLsbD_ushiftRight, BitVec.getLsbD_and, BitVec.getLsbD_setWidth, field,
    BitVec.getLsbD_extractLsb']
  by_cases upper : offset + bit < width
  · rw [getLsbD_ones_shiftLeft _ _ upper]
    simp [within, Bool.and_comm]
  · simp [BitVec.getLsbD_of_ge register (offset + bit) (Nat.le_of_not_lt upper)]

theorem toNat_field_setWidth_lt (register : BitVec width) (offset count size : Nat) :
    ((field register offset count).setWidth size).toNat < 2 ^ count := by
  rw [BitVec.toNat_setWidth]
  exact Nat.lt_of_le_of_lt (Nat.mod_le _ _) (field register offset count).isLt

theorem getLsbD_of_and_ones {register : BitVec width} {count offset : Nat}
    (clear : register &&& (ones width count <<< offset) = 0) {bit : Nat} (above : offset ≤ bit)
    (below : bit < offset + count) : register.getLsbD bit = false := by
  by_cases within : bit < width
  · have none := congrArg (BitVec.getLsbD · bit) clear
    simpa [getLsbD_ones_shiftLeft _ _ within, above, below] using none
  · exact BitVec.getLsbD_of_ge _ _ (Nat.le_of_not_lt within)

theorem and_twoPow_ne_zero (register : BitVec width) {bit : Nat} (within : bit < width) :
    register &&& BitVec.twoPow width bit ≠ 0 ↔ register.getLsbD bit = true := by
  rw [BitVec.and_twoPow]
  cases set : register.getLsbD bit with
  | false => simp
  | true =>
    have last : (BitVec.twoPow width bit).getLsbD bit = true := by simp [within]
    simp only [if_true, ne_eq, iff_true]
    intro zero
    simp [zero] at last

theorem assign_and (register mask : BitVec width) (offset count : Nat) (value : BitVec width) :
    assign register offset count value &&& mask =
      assign (register &&& mask) offset count value &&& mask := by
  apply BitVec.eq_of_getLsbD_eq
  intro bit within
  rw [BitVec.getLsbD_and, BitVec.getLsbD_and, getLsbD_assign _ _ _ _ within,
    getLsbD_assign _ _ _ _ within, BitVec.getLsbD_and]
  split
  next => rfl
  next => cases mask.getLsbD bit <;> simp

/-- A mask that leaves the field out does not see what is assigned to it. -/
theorem assign_and_outside {mask : BitVec width} (register : BitVec width) {offset count : Nat}
    (value : BitVec width) (outside : mask &&& (ones width count <<< offset) = 0) :
    assign register offset count value &&& mask = register &&& mask := by
  apply BitVec.eq_of_getLsbD_eq
  intro bit within
  rw [BitVec.getLsbD_and, BitVec.getLsbD_and, getLsbD_assign _ _ _ _ within]
  split
  next inside => simp [getLsbD_of_and_ones outside inside.1 inside.2]
  next => rfl

theorem field_and_inside {mask : BitVec width} (register : BitVec width) {offset count : Nat}
    (inside : field mask offset count = BitVec.allOnes count) :
    field (register &&& mask) offset count = field register offset count := by
  have both : field (register &&& mask) offset count =
      field register offset count &&& field mask offset count := by
    apply BitVec.eq_of_getLsbD_eq
    intro bit within
    simp [field, within]
  rw [both, inside, BitVec.and_allOnes]

theorem field_assign_apart (register : BitVec width) {offset count other otherCount : Nat}
    (value : BitVec width) (fits : other + otherCount ≤ width)
    (apart : other + otherCount ≤ offset ∨ offset + count ≤ other) :
    field (assign register offset count value) other otherCount = field register other otherCount :=
  field_place_apart register _ (small_truncated count value) fits apart

theorem field_assign_self (register : BitVec width) {offset count : Nat} (value : BitVec width)
    (fits : offset + count ≤ width) :
    field (assign register offset count value) offset count = value.setWidth count := by
  rw [assign, field_place_self _ _ (small_truncated count value) fits]
  apply BitVec.eq_of_getLsbD_eq
  intro bit within
  simp [within]
  omega
end ApmSdk.Fields
