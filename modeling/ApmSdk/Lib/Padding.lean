import ApmSdk.Lib.Chunks

set_option autoImplicit false

/-!
# Padded windows

A window of an object that is consumed from its front in chunks, each chunk rounded up to whole
units.
-/

namespace ApmSdk.Padding

open Chunks

/-- The length in whole units. -/
def pad (unit length : Nat) : Nat := pieces unit length * unit

-- The padded window lies in an object of `extent` bytes.
def Fits (extent unit offset length : Nat) : Prop :=
  length = 0 ∨ offset + pad unit length ≤ extent

instance (extent unit offset length : Nat) : Decidable (Fits extent unit offset length) := by
  unfold Fits; infer_instance

section

variable {unit : Nat}

theorem pad_add (positive : 0 < unit) {first : Nat} (whole : unit ∣ first) (second : Nat) :
    pad unit (first + second) = first + pad unit second := by
  obtain ⟨count, rfl⟩ := whole
  have shifted : unit * count + second + (unit - 1) = second + (unit - 1) + unit * count := by
    omega
  rw [pad, pad, pieces, pieces, shifted, Nat.add_mul_div_left _ _ positive, Nat.add_mul]
  ring

theorem pad_whole (positive : 0 < unit) {length : Nat} (whole : unit ∣ length) :
    pad unit length = length := by
  have alone := pad_add positive whole 0
  simpa [pad, pieces_zero positive] using alone

theorem pad_one (length : Nat) : pad 1 length = length := pad_whole Nat.one_pos (one_dvd length)

theorem Fits.nothing (extent unit offset : Nat) : Fits extent unit offset 0 := .inl rfl

/-- A window fits when its first chunk and the rest of it do. -/
theorem fits_chunk (positive : 0 < unit) {size : Nat} (whole : unit ∣ size)
    (extent offset length : Nat) : Fits extent unit offset length ↔
      Fits extent unit offset (min length size) ∧
        Fits extent unit (offset + min length size) (length - min length size) := by
  by_cases short : length ≤ size
  · rw [Nat.min_eq_left short, Nat.sub_self]
    exact (and_iff_left (Fits.nothing _ _ _)).symm
  · have padded : pad unit length = size + pad unit (length - size) := by
      rw [← pad_add positive whole]
      congr 1
      omega
    rw [Nat.min_eq_right (by omega)]
    unfold Fits
    rw [padded, pad_whole positive whole]
    omega

end

end ApmSdk.Padding
