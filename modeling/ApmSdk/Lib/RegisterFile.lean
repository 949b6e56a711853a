import ApmSdk.Lib.Fields
import Mathlib.Logic.Function.Basic

set_option autoImplicit false

/-!
# Files of registers

Bit fields by the register that they are in, and what an assignment to one of them leaves in the
others.
-/

namespace ApmSdk.RegisterFile

open Fields

structure Slot (Register : Type) where
  register : Register
  offset : Nat
  count : Nat
  deriving DecidableEq, Repr

variable {Register : Type} {width : Nat}

namespace Slot

/-- The slot has the bit. -/
def Has (slot : Slot Register) (register : Register) (bit : Nat) : Prop :=
  slot.register = register ∧ slot.offset ≤ bit ∧ bit < slot.offset + slot.count

instance [DecidableEq Register] (slot : Slot Register) (register : Register) (bit : Nat) :
    Decidable (slot.Has register bit) := by unfold Has; infer_instance

def Apart (slot other : Slot Register) : Prop :=
  slot.register = other.register →
    slot.offset + slot.count ≤ other.offset ∨ other.offset + other.count ≤ slot.offset

instance [DecidableEq Register] (slot other : Slot Register) : Decidable (slot.Apart other) := by
  unfold Apart; infer_instance

theorem Apart.not_has {slot other : Slot Register} (apart : slot.Apart other) {bit : Nat}
    (inside : bit < other.count) : ¬slot.Has other.register (other.offset + bit) := by
  rintro ⟨same, lower, upper⟩
  have beside := apart same
  omega

end Slot

def read (file : Register → BitVec width) (slot : Slot Register) : Nat :=
  (field (file slot.register) slot.offset slot.count).toNat

variable [DecidableEq Register]

def assign (file : Register → BitVec width) (slot : Slot Register) (value : BitVec width) :
    Register → BitVec width :=
  Function.update file slot.register
    (Fields.assign (file slot.register) slot.offset slot.count value)

theorem getLsbD_assign (file : Register → BitVec width) (slot : Slot Register)
    (value : BitVec width) (register : Register) {bit : Nat} (within : bit < width) :
    (assign file slot value register).getLsbD bit =
      if slot.Has register bit then value.getLsbD (bit - slot.offset)
      else (file register).getLsbD bit := by
  by_cases same : slot.register = register
  · subst same
    rw [assign, Function.update_self, Fields.getLsbD_assign _ _ _ _ within]
    simp [Slot.Has]
  · rw [assign, Function.update_of_ne (Ne.symm same)]
    simp [Slot.Has, same]

theorem assign_assign_self (file : Register → BitVec width) (slot : Slot Register)
    (first second : BitVec width) :
    assign (assign file slot first) slot second = assign file slot second := by
  funext register
  apply BitVec.eq_of_getLsbD_eq
  intro bit within
  rw [getLsbD_assign _ _ _ _ within, getLsbD_assign _ _ _ _ within, getLsbD_assign _ _ _ _ within]
  split <;> rfl

omit [DecidableEq Register] in
/-- A field is read alike where its bits are. -/
theorem read_congr {file other : Register → BitVec width} {slot : Slot Register}
    (same : ∀ bit < slot.count, (file slot.register).getLsbD (slot.offset + bit) =
      (other slot.register).getLsbD (slot.offset + bit)) : read file slot = read other slot := by
  have fields : field (file slot.register) slot.offset slot.count =
      field (other slot.register) slot.offset slot.count := by
    apply BitVec.eq_of_getLsbD_eq
    intro bit inside
    simp [field, inside, same bit inside]
  rw [read, read, fields]

/-- The low bits of a field that has been assigned are those of the value. -/
theorem read_assign_low (file : Register → BitVec width) {slot : Slot Register} {count : Nat}
    (value : BitVec width) (low : count ≤ slot.count) (fits : slot.offset + count ≤ width) :
    read (assign file slot value) ⟨slot.register, slot.offset, count⟩ =
      value.toNat % 2 ^ count := by
  have bits : field (Fields.assign (file slot.register) slot.offset slot.count value)
      slot.offset count = value.setWidth count := by
    apply BitVec.eq_of_getLsbD_eq
    intro bit inside
    rw [field, BitVec.getLsbD_extractLsb', Fields.getLsbD_assign _ _ _ _ (by omega),
      if_pos (by omega), BitVec.getLsbD_setWidth, Nat.add_sub_cancel_left]
  rw [read, assign, Function.update_self, bits, BitVec.toNat_setWidth]

theorem read_assign_self (file : Register → BitVec width) {slot : Slot Register}
    (value : BitVec width) (fits : slot.offset + slot.count ≤ width) :
    read (assign file slot value) slot = value.toNat % 2 ^ slot.count :=
  read_assign_low file value (Nat.le_refl _) fits

theorem read_assign_apart (file : Register → BitVec width) {slot other : Slot Register}
    (value : BitVec width) (apart : slot.Apart other) (fits : other.offset + other.count ≤ width) :
    read (assign file slot value) other = read file other := by
  apply read_congr
  intro bit inside
  rw [getLsbD_assign _ _ _ _ (by omega), if_neg (apart.not_has inside)]

/-- A sequence of assignments to fields. -/
def assignAll (file : Register → BitVec width) :
    List (Slot Register × BitVec width) → Register → BitVec width
  | [] => file
  | (slot, value) :: rest => assignAll (assign file slot value) rest

theorem assignAll_append (file : Register → BitVec width)
    (first second : List (Slot Register × BitVec width)) :
    assignAll file (first ++ second) = assignAll (assignAll file first) second := by
  induction first generalizing file with
  | nil => rfl
  | cons assignment rest ih => exact ih (assign file assignment.1 assignment.2)

-- What a register becomes depends on that register only.
theorem assignAll_congr {file other : Register → BitVec width} {register : Register}
    (same : file register = other register)
    (assignments : List (Slot Register × BitVec width)) :
    assignAll file assignments register = assignAll other assignments register := by
  induction assignments generalizing file other with
  | nil => exact same
  | cons assignment rest ih =>
    apply ih
    by_cases here : register = assignment.1.register
    · subst here
      rw [assign, assign, Function.update_self, Function.update_self, same]
    · rw [assign, assign, Function.update_of_ne here, Function.update_of_ne here, same]

theorem read_assignAll_apart (file : Register → BitVec width) {other : Slot Register}
    (fits : other.offset + other.count ≤ width)
    (assignments : List (Slot Register × BitVec width))
    (apart : ∀ assignment ∈ assignments, assignment.1.Apart other) :
    read (assignAll file assignments) other = read file other := by
  induction assignments generalizing file with
  | nil => rfl
  | cons assignment rest ih =>
    rw [assignAll, ih _ fun later mem => apart later (.tail _ mem),
      read_assign_apart _ _ (apart _ (.head _)) fits]

section Layout

variable {Name : Type}

/-- The fields of a family are in their registers and apart from each other. -/
structure Layout (width : Nat) (slot : Name → Slot Register) : Prop where
  fits : ∀ name, (slot name).offset + (slot name).count ≤ width
  apart : ∀ name other, name ≠ other → (slot name).Apart (slot other)

theorem Layout.read_assign [DecidableEq Name] {slot : Name → Slot Register}
    (layout : Layout width slot) (file : Register → BitVec width) (name other : Name)
    (value : BitVec width) : read (assign file (slot name) value) (slot other) =
      if other = name then value.toNat % 2 ^ (slot name).count else read file (slot other) := by
  by_cases same : other = name
  · subst same
    rw [if_pos rfl, read_assign_self file value (layout.fits other)]
  · rw [if_neg same, read_assign_apart file value (layout.apart name other (Ne.symm same))
      (layout.fits other)]

end Layout

end ApmSdk.RegisterFile
