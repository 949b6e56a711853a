import Mathlib.Data.List.Basic
import Mathlib.Tactic.Ring

set_option autoImplicit false

/-!
# Cutting a list into pieces

A list cut into pieces of a given size, the last one possibly shorter.
-/

namespace ApmSdk.Chunks

variable {A : Type}

-- The first `count` pieces of `size` elements.
def chunksOf (size : Nat) : Nat → List A → List (List A)
  | 0, _ => []
  | count + 1, values => values.take size :: chunksOf size count (values.drop size)

def pieces (size length : Nat) : Nat := (length + (size - 1)) / size

def chunks (size : Nat) (values : List A) : List (List A) :=
  chunksOf size (pieces size values.length) values

theorem chunksOf_length (size count : Nat) (values : List A) :
    (chunksOf size count values).length = count := by
  induction count generalizing values with
  | zero => rfl
  | succ count ih => simp [chunksOf, ih]

theorem chunksOf_flatten (size count : Nat) (values : List A) :
    (chunksOf size count values).flatten = values.take (count * size) := by
  induction count generalizing values with
  | zero => simp [chunksOf]
  | succ count ih =>
    simp only [chunksOf, List.flatten_cons, ih]
    rw [Nat.succ_mul, Nat.add_comm, List.take_add]

theorem chunksOf_take (size count limit : Nat) (values : List A) :
    chunksOf size count (values.take (count * size + limit)) = chunksOf size count values := by
  induction count generalizing values limit with
  | zero => rfl
  | succ count ih =>
    have bound : size ≤ (count + 1) * size + limit := by
      rw [Nat.succ_mul]
      omega
    have rest : (count + 1) * size + limit - size = count * size + limit := by
      rw [Nat.succ_mul]
      omega
    simp only [chunksOf, List.take_take, Nat.min_eq_left bound, List.drop_take, rest, ih]

theorem pieces_mul {size : Nat} (positive : 0 < size) (length : Nat) :
    length ≤ pieces size length * size := by
  have whole := Nat.div_add_mod (length + (size - 1)) size
  have short := Nat.mod_lt (length + (size - 1)) positive
  have commuted := Nat.mul_comm size ((length + (size - 1)) / size)
  unfold pieces
  omega

theorem pieces_of_mul_lt {size : Nat} (positive : 0 < size) {count length : Nat}
    (longer : count * size < length) : count < pieces size length := by
  unfold pieces
  rw [Nat.lt_iff_add_one_le, Nat.le_div_iff_mul_le positive, Nat.succ_mul]
  omega

theorem pieces_le {size : Nat} (positive : 0 < size) {count length : Nat}
    (fits : length ≤ count * size) : pieces size length ≤ count := by
  unfold pieces
  rw [Nat.div_le_iff_le_mul_add_pred positive, Nat.mul_comm]
  omega

theorem pieces_zero {size : Nat} (positive : 0 < size) : pieces size 0 = 0 :=
  Nat.le_zero.mp (pieces_le positive (by simp))

theorem pieces_of_pos {size length : Nat} (positive : 0 < size) (some : 0 < length) :
    pieces size length = (length - 1) / size + 1 := by
  have shifted : length + (size - 1) = length - 1 + size := by omega
  rw [pieces, shifted, Nat.add_div_right _ positive]

theorem pieces_next {size length : Nat} (positive : 0 < size) (some : 0 < length) :
    pieces size (length - min length size) + 1 = pieces size length := by
  rw [pieces_of_pos positive some]
  by_cases last : length ≤ size
  · rw [Nat.min_eq_left last, Nat.sub_self, pieces_zero positive, Nat.div_eq_of_lt (by omega)]
  · have shifted : length - 1 = length - size - 1 + size := by omega
    rw [Nat.min_eq_right (by omega), pieces_of_pos positive (by omega), shifted,
      Nat.add_div_right _ positive]

theorem pieces_ne_zero {size length : Nat} (positive : 0 < size) :
    pieces size length ≠ 0 ↔ 0 < length := by
  by_cases some : 0 < length
  · rw [pieces_of_pos positive some]
    exact iff_of_true (Nat.succ_ne_zero _) some
  · rw [Nat.eq_zero_of_not_pos some, pieces_zero positive]
    simp

theorem chunks_flatten {size : Nat} (positive : 0 < size) (values : List A) :
    (chunks size values).flatten = values := by
  rw [chunks, chunksOf_flatten]
  exact List.take_of_length_le (pieces_mul positive _)

/-- Fewer pieces than the list has are the pieces of a shorter list. -/
theorem chunksOf_eq_chunks {size : Nat} (positive : 0 < size) {count : Nat} {values : List A}
    (few : count ≤ pieces size values.length) :
    chunksOf size count values = chunks size (values.take (count * size)) := by
  have exactly : pieces size (values.take (count * size)).length = count := by
    apply Nat.le_antisymm
    · exact pieces_le positive (by simp)
    · cases count with
      | zero => exact Nat.zero_le _
      | succ below =>
        apply pieces_of_mul_lt positive
        have short : below * size < values.length := by
          by_contra long
          have enough := pieces_le positive (Nat.le_of_not_lt long)
          omega
        rw [List.length_take, Nat.succ_mul]
        omega
  rw [chunks, exactly]
  exact (chunksOf_take size count 0 values).symm

theorem chunks_append_injective {size : Nat} (positive : 0 < size) {first second : List A}
    {firstEnd secondEnd : Bool} :
    chunks size first ++ (if firstEnd then [[]] else []) =
        chunks size second ++ (if secondEnd then [[]] else []) ↔
      first = second ∧ firstEnd = secondEnd := by
  constructor
  · intro same
    have values := congrArg List.flatten same
    have nothing (last : Bool) : (if last then [[]] else [] : List (List A)).flatten = [] := by
      cases last <;> rfl
    simp only [List.flatten_append, chunks_flatten positive, nothing, List.append_nil] at values
    subst values
    have ends := List.append_cancel_left same
    cases firstEnd <;> cases secondEnd <;> simp_all
  · rintro ⟨rfl, rfl⟩
    rfl

theorem chunks_of_length_le {size : Nat} {values : List A} (some : values ≠ [])
    (fits : values.length ≤ size) : chunks size values = [values] := by
  have positive : 0 < size := Nat.lt_of_lt_of_le (List.length_pos_iff.mpr some) fits
  have single : pieces size values.length = 1 := by
    apply Nat.le_antisymm
    · exact pieces_le positive (by omega)
    · exact pieces_of_mul_lt positive (by simpa using List.length_pos_iff.mpr some)
  simp [chunks, single, chunksOf, List.take_of_length_le fits]

theorem chunks_nil {size : Nat} (positive : 0 < size) : chunks size ([] : List A) = [] := by
  simp [chunks, pieces_zero positive, chunksOf]

/-- The pieces of a range of numbers, laid end to end. -/
theorem flatMap_range' (start size length count : Nat) :
    (List.range count).flatMap (fun index =>
      List.range' (start + index * size) (min size (length - index * size))) =
      List.range' start (min length (count * size)) := by
  induction count with
  | zero => simp
  | succ count ih =>
    rw [List.range_succ, List.flatMap_append, ih, List.flatMap_singleton, Nat.succ_mul]
    by_cases more : count * size ≤ length
    · have rest : min length (count * size + size) =
          count * size + min size (length - count * size) := by omega
      rw [Nat.min_eq_right more, rest, List.range'_append_1]
    · have nothing : min size (length - count * size) = 0 := by omega
      have same : min length (count * size + size) = min length (count * size) := by omega
      rw [nothing, same, List.range'_zero, List.append_nil]

end ApmSdk.Chunks
