import Mathlib.Data.Nat.Notation

set_option autoImplicit false

/-!
# Write-1-to-clear registers

Flags that the hardware sets and the program clears by writing ones.
-/

namespace ApmSdk.FlagRegister

variable {width : Nat}

-- What a write of `value` leaves.
def written (register value : BitVec width) : BitVec width := register &&& ~~~value

-- A read, an or and a write; the hardware sets `raised` between the read and the write.
def orAssign (register raised flags : BitVec width) : BitVec width :=
  written (register ||| raised) (register ||| flags)

theorem getLsbD_written (register value : BitVec width) (bit : Nat) :
    (written register value).getLsbD bit = (register.getLsbD bit && !value.getLsbD bit) := by
  by_cases within : bit < width
  · simp [written, within]
  · simp [written, BitVec.getLsbD_of_ge _ _ (Nat.le_of_not_lt within)]

theorem getLsbD_twoPow_or (register : BitVec width) {flag : Nat} (within : flag < width)
    (bit : Nat) : (register ||| BitVec.twoPow width flag).getLsbD bit =
      (register.getLsbD bit || decide (flag = bit)) := by
  by_cases same : flag = bit
  · subst same
    simp [within]
  · simp [same]

/-- Or-assignment clears the flags it names and no other exactly when no other was set. -/
theorem orAssign_exact_iff (register raised flags : BitVec width) :
    orAssign register raised flags = written (register ||| raised) flags ↔
      register &&& ~~~flags = 0 := by
  constructor
  · intro exactly
    apply BitVec.eq_of_getLsbD_eq
    intro bit within
    have same := congrArg (BitVec.getLsbD · bit) exactly
    simp only [orAssign, getLsbD_written, BitVec.getLsbD_or] at same
    cases pending : register.getLsbD bit <;> cases named : flags.getLsbD bit <;>
      simp_all
  · intro alone
    apply BitVec.eq_of_getLsbD_eq
    intro bit _
    have none : (written register flags).getLsbD bit = false := by
      rw [show written register flags = 0 from alone]
      simp
    rw [getLsbD_written] at none
    simp only [orAssign, getLsbD_written, BitVec.getLsbD_or]
    revert none
    cases register.getLsbD bit <;> cases flags.getLsbD bit <;> simp

/-! ## Mixed registers -/

/-- The bits of a register that ones clear and those that writes leave alone; the others are
plain. -/
structure Layout (width : Nat) where
  clearing : BitVec width
  readOnly : BitVec width

-- What a write of `value` leaves.
def Layout.stored (layout : Layout width) (register value : BitVec width) : BitVec width :=
  (register &&& layout.readOnly) |||
    ((written register value &&& layout.clearing |||
      value &&& ~~~layout.clearing) &&& ~~~layout.readOnly)

/-- The value that a read-modify-write of one bit writes. -/
def withBit (register : BitVec width) (bit : Nat) (value : Bool) : BitVec width :=
  if value then register ||| BitVec.twoPow width bit
  else register &&& ~~~(BitVec.twoPow width bit)

/-- An assignment to a one-bit field. -/
def Layout.assign (layout : Layout width) (register : BitVec width) (bit : Nat) (value : Bool) :
    BitVec width :=
  layout.stored register (withBit register bit value)

theorem getLsbD_withBit (register : BitVec width) {bit : Nat} (within : bit < width)
    (value : Bool) (other : Nat) : (withBit register bit value).getLsbD other =
      if bit = other then value else register.getLsbD other := by
  cases value with
  | true =>
    simp only [withBit, if_true, getLsbD_twoPow_or register within]
    by_cases same : bit = other <;> simp [same]
  | false =>
    by_cases same : bit = other
    · subst same
      simp [withBit, within]
    · by_cases small : other < width
      · simp [withBit, same, small, Ne.symm same]
      · simp [withBit, same, BitVec.getLsbD_of_ge _ _ (Nat.le_of_not_lt small)]

theorem Layout.getLsbD_stored (layout : Layout width) (register value : BitVec width)
    {bit : Nat} (within : bit < width) : (layout.stored register value).getLsbD bit =
      if layout.readOnly.getLsbD bit then register.getLsbD bit
      else if layout.clearing.getLsbD bit then register.getLsbD bit && !value.getLsbD bit
      else value.getLsbD bit := by
  simp only [Layout.stored, BitVec.getLsbD_or, BitVec.getLsbD_and, getLsbD_written,
    BitVec.getLsbD_not, within, decide_true, Bool.true_and]
  cases layout.readOnly.getLsbD bit <;> cases layout.clearing.getLsbD bit <;> simp

/-- Assigning one bit clears every flag but the one it names. -/
theorem Layout.getLsbD_assign (layout : Layout width) (register : BitVec width) {bit other : Nat}
    (within : bit < width) (value : Bool) (inside : other < width) :
    (layout.assign register bit value).getLsbD other =
      if layout.readOnly.getLsbD other then register.getLsbD other
      else if layout.clearing.getLsbD other then
        (decide (bit = other) && register.getLsbD other && !value)
      else if bit = other then value else register.getLsbD other := by
  rw [Layout.assign, layout.getLsbD_stored _ _ inside, getLsbD_withBit register within]
  by_cases same : bit = other <;> simp [same]

end ApmSdk.FlagRegister
