import ApmSdk.StdPeriph.Clock
import Mathlib.Tactic.Ring
import Mathlib.Tactic.Linarith

set_option autoImplicit false

/-!
# The baud-rate divisor

`USART_Config`, and how far the divisor that it writes is from the quotient of the bus clock
and the baud rate.
-/

namespace ApmSdk.StdPeriph

inductive Usart where
  | usart1
  | usart2
  | usart3
  | uart4
  | uart5
  deriving DecidableEq, Repr

inductive UsartWordLen where
  | len8B
  | len9B
  deriving DecidableEq, Repr

def UsartWordLen.value : UsartWordLen → BitVec 32
  | len8B => 0
  | len9B => 0x1000

inductive UsartStopBit where
  | bit1
  | bit0_5
  | bit2
  | bit1_5
  deriving DecidableEq, Repr

def UsartStopBit.value : UsartStopBit → BitVec 32
  | bit1 => 0
  | bit0_5 => 0x1000
  | bit2 => 0x2000
  | bit1_5 => 0x3000

inductive UsartParity where
  | none
  | even
  | odd
  deriving DecidableEq, Repr

def UsartParity.value : UsartParity → BitVec 32
  | none => 0
  | even => 0x400
  | odd => 0x600

inductive UsartMode where
  | rx
  | tx
  | txRx
  deriving DecidableEq, Repr

def UsartMode.value : UsartMode → BitVec 32
  | rx => 0x4
  | tx => 0x8
  | txRx => 0xC

inductive UsartHardwareFlow where
  | none
  | rts
  | cts
  | rtsCts
  deriving DecidableEq, Repr

def UsartHardwareFlow.value : UsartHardwareFlow → BitVec 32
  | none => 0
  | rts => 0x100
  | cts => 0x200
  | rtsCts => 0x300

structure UsartConfig where
  baudRate : BitVec 32
  wordLength : UsartWordLen
  stopBits : UsartStopBit
  parity : UsartParity
  mode : UsartMode
  hardwareFlow : UsartHardwareFlow

structure UsartRegisters where
  ctrl1 : BitVec 32
  ctrl2 : BitVec 32
  ctrl3 : BitVec 32
  br : BitVec 32

/-- The clock of the bus that the peripheral is on. -/
def busClock (build : Build) (rcm : Rcm) (uart : Usart) : BitVec 32 :=
  if uart = .usart1 then (readPclkFreq build rcm).2 else (readPclkFreq build rcm).1

def brValue (fCLK baudRate : BitVec 32) : BitVec 32 :=
  let intDiv := 25 * fCLK / (4 * baudRate)
  let temp := (intDiv / 100) <<< 4
  let fractionalDiv := intDiv - 100#32 * (temp >>> 4)
  temp ||| ((fractionalDiv * 16 + 50) / 100 &&& 0x0F)

def usartConfig (build : Build) (rcm : Rcm) (uart : Usart) (config : UsartConfig)
    (registers : UsartRegisters) : UsartRegisters where
  ctrl1 := (registers.ctrl1 &&& 0xE9F3) |||
    (config.mode.value ||| config.parity.value ||| config.wordLength.value)
  ctrl2 := (registers.ctrl2 &&& 0xCFFF) ||| config.stopBits.value
  ctrl3 := (registers.ctrl3 &&& 0xFCFF) ||| config.hardwareFlow.value
  br := brValue (busClock build rcm uart) config.baudRate

/-! ## The computation without wraps -/

/-- The divisor in hundredths. -/
def hundredths (clock baud : Nat) : Nat := 25 * clock / (4 * baud)

/-- Every intermediate value of the computation is below `2 ^ 32`, no divisor is zero and no
difference negative. -/
structure NoOverflow (clock baud : Nat) : Prop where
  scaled : 25 * clock < 2 ^ 32
  divisor : 4 * baud < 2 ^ 32
  nonzero : 4 * baud ≠ 0
  mantissa : hundredths clock baud / 100 * 2 ^ 4 < 2 ^ 32
  whole : 100 * (hundredths clock baud / 100) < 2 ^ 32
  difference : 100 * (hundredths clock baud / 100) ≤ hundredths clock baud
  sixteenths : hundredths clock baud % 100 * 16 + 50 < 2 ^ 32

theorem toNat_brValue (fCLK baudRate : BitVec 32) (fits : NoOverflow fCLK.toNat baudRate.toNat) :
    (brValue fCLK baudRate).toNat =
      16 * (hundredths fCLK.toNat baudRate.toNat / 100) +
        (hundredths fCLK.toNat baudRate.toNat % 100 * 16 + 50) / 100 % 16 := by
  have intDiv : (25 * fCLK / (4 * baudRate)).toNat = hundredths fCLK.toNat baudRate.toNat := by
    rw [BitVec.toNat_udiv, BitVec.toNat_mul, BitVec.toNat_mul]
    exact congrArg₂ _ (Nat.mod_eq_of_lt fits.scaled) (Nat.mod_eq_of_lt fits.divisor)
  simp only [brValue]
  generalize 25 * fCLK / (4 * baudRate) = value at intDiv ⊢
  have mantissa := fits.mantissa
  have whole := fits.whole
  have difference := fits.difference
  rw [← intDiv] at mantissa whole difference ⊢
  have temp : ((value / 100) <<< 4).toNat = value.toNat / 100 * 2 ^ 4 := by
    rw [BitVec.toNat_shiftLeft, Nat.shiftLeft_eq, BitVec.toNat_udiv]
    exact Nat.mod_eq_of_lt mantissa
  have back : (100#32 * (((value / 100) <<< 4) >>> 4)).toNat = 100 * (value.toNat / 100) := by
    rw [BitVec.toNat_mul, BitVec.toNat_ushiftRight, temp, Nat.shiftRight_eq_div_pow,
      Nat.mul_div_cancel _ (by decide)]
    exact Nat.mod_eq_of_lt whole
  have fraction : (value - 100#32 * (((value / 100) <<< 4) >>> 4)).toNat = value.toNat % 100 := by
    rw [BitVec.toNat_sub_of_le (by rw [BitVec.le_def, back]; exact difference), back]
    omega
  generalize value - 100#32 * (((value / 100) <<< 4) >>> 4) = rest at fraction ⊢
  have low : ((rest * 16 + 50) / 100 &&& 0x0F).toNat = (value.toNat % 100 * 16 + 50) / 100 % 16 := by
    have small : value.toNat % 100 < 100 := Nat.mod_lt _ (by decide)
    have rounded : (rest * 16 + 50).toNat = value.toNat % 100 * 16 + 50 := by
      rw [BitVec.toNat_add, BitVec.toNat_mul, fraction]
      change (value.toNat % 100 * 16 % 2 ^ 32 + 50) % 2 ^ 32 = _
      omega
    rw [BitVec.toNat_and, BitVec.toNat_udiv, rounded]
    exact Nat.and_two_pow_sub_one_eq_mod _ 4
  have below : (value.toNat % 100 * 16 + 50) / 100 % 16 < 2 ^ 4 := Nat.mod_lt _ (by decide)
  rw [BitVec.toNat_or, temp, low, Nat.mul_comm _ (2 ^ 4), ← Nat.two_pow_add_eq_or_of_lt below]

/-! ## The error of the divisor -/

-- The mantissa is the whole part of `clock / (16 * baud)`; the hundredths left over are those of
-- its fractional part.
theorem hundredths_eq (clock : Nat) {baud : Nat} (positive : 0 < baud) :
    hundredths clock baud =
      100 * (clock / (16 * baud)) + 25 * (clock % (16 * baud)) / (4 * baud) := by
  have split := Nat.div_add_mod clock (16 * baud)
  generalize clock / (16 * baud) = mantissa at split ⊢
  generalize clock % (16 * baud) = rest at split ⊢
  have scaled : 25 * clock = 25 * rest + 4 * baud * (100 * mantissa) := by
    rw [← split]
    ring
  rw [hundredths, scaled, Nat.add_mul_div_left _ _ (by omega), Nat.add_comm]

theorem hundredths_rest_lt (clock : Nat) {baud : Nat} (positive : 0 < baud) :
    25 * (clock % (16 * baud)) / (4 * baud) < 100 := by
  have rest := Nat.mod_lt clock (by omega : 0 < 16 * baud)
  rw [Nat.div_lt_iff_lt_mul (by omega)]
  omega

theorem noOverflow {clock baud : Nat} (scaled : 25 * clock < 2 ^ 32) (positive : 1 ≤ baud)
    (least : 16 * baud ≤ clock) : NoOverflow clock baud := by
  have bound : hundredths clock baud ≤ 25 * clock / 4 :=
    Nat.div_le_div_left (by omega) (by decide)
  exact ⟨scaled, by omega, by omega, by omega, by omega, by omega, by omega⟩

-- `BR` counts sixteenths, so that one `baud` is one of them.
def Accurate (value clock baud : Nat) : Prop :=
  value * baud ≤ clock + baud ∧ clock ≤ value * baud + baud

theorem accurate_iff {clock baud : Nat} (positive : 1 ≤ baud) :
    Accurate (16 * (hundredths clock baud / 100) + (hundredths clock baud % 100 * 16 + 50) / 100 % 16)
        clock baud ↔ 25 * (clock % (16 * baud)) < 388 * baud := by
  have rest_lt := hundredths_rest_lt clock positive
  have condition : 25 * (clock % (16 * baud)) < 388 * baud ↔
      25 * (clock % (16 * baud)) / (4 * baud) < 97 := by
    rw [Nat.div_lt_iff_lt_mul (by omega)]
    omega
  rw [hundredths_eq clock positive, condition]
  have split := Nat.div_add_mod clock (16 * baud)
  have lower := Nat.div_mul_le_self (25 * (clock % (16 * baud))) (4 * baud)
  have upper := Nat.lt_div_mul_add (by omega : 0 < 4 * baud) (a := 25 * (clock % (16 * baud)))
  generalize 25 * (clock % (16 * baud)) / (4 * baud) = part at rest_lt lower upper ⊢
  generalize clock / (16 * baud) = mantissa at split ⊢
  generalize clock % (16 * baud) = rest at split lower upper
  have whole : (100 * mantissa + part) / 100 = mantissa := by omega
  have fraction : (100 * mantissa + part) % 100 = part := by omega
  rw [whole, fraction, Accurate]
  have product : (16 * mantissa) * baud = 16 * baud * mantissa := by ring
  constructor
  · intro accurate
    by_contra carried
    -- The rounded fraction is sixteen sixteenths, of which the mask leaves none.
    have none : (part * 16 + 50) / 100 % 16 = 0 := by
      obtain rfl | rfl | rfl : part = 97 ∨ part = 98 ∨ part = 99 := by omega
      all_goals rfl
    rw [none, Nat.add_zero, product] at accurate
    have far : 97 * (4 * baud) ≤ part * (4 * baud) := Nat.mul_le_mul_right _ (by omega)
    omega
  · intro low
    have kept : (part * 16 + 50) / 100 % 16 = (part * 16 + 50) / 100 := by omega
    rw [kept, Nat.add_mul, product]
    have under : 100 * ((part * 16 + 50) / 100) ≤ part * 16 + 50 := by omega
    have above : part * 16 + 50 ≤ 100 * ((part * 16 + 50) / 100) + 99 := by omega
    generalize (part * 16 + 50) / 100 = sixteenths at under above ⊢
    have under' := Nat.mul_le_mul_right baud under
    have above' := Nat.mul_le_mul_right baud above
    constructor <;> nlinarith

-- The divisor is right where its fractional part is below 0.97; from there on the sixteenths round
-- to sixteen, and the mantissa misses the carry.
theorem baud_rate_exact_iff (build : Build) (rcm : Rcm) (uart : Usart) (config : UsartConfig)
    (registers : UsartRegisters) (scaled : 25 * (busClock build rcm uart).toNat < 2 ^ 32)
    (positive : 1 ≤ config.baudRate.toNat)
    (least : 16 * config.baudRate.toNat ≤ (busClock build rcm uart).toNat)
    (most : (busClock build rcm uart).toNat < 65535 * config.baudRate.toNat) :
    (NoOverflow (busClock build rcm uart).toNat config.baudRate.toNat ∧
      (usartConfig build rcm uart config registers).br.toNat < 2 ^ 16 ∧
      Accurate (usartConfig build rcm uart config registers).br.toNat
        (busClock build rcm uart).toNat config.baudRate.toNat) ↔
      25 * ((busClock build rcm uart).toNat % (16 * config.baudRate.toNat)) <
        388 * config.baudRate.toNat := by
  have fits := noOverflow scaled positive least
  have value : (usartConfig build rcm uart config registers).br.toNat = _ :=
    toNat_brValue (busClock build rcm uart) config.baudRate fits
  have mantissa : hundredths (busClock build rcm uart).toNat config.baudRate.toNat < 409594 := by
    rw [hundredths, Nat.div_lt_iff_lt_mul (by omega)]
    omega
  have narrow : (usartConfig build rcm uart config registers).br.toNat < 2 ^ 16 := by
    rw [value]
    omega
  rw [← accurate_iff positive, ← value]
  exact ⟨fun holds => holds.2.2, fun accurate => ⟨fits, narrow, accurate⟩⟩

def internalClock : Build := ⟨false, 8000000, 8000000⟩

def serial (baudRate : BitVec 32) : UsartConfig where
  baudRate
  wordLength := .len8B
  stopBits := .bit1
  parity := .none
  mode := .txRx
  hardwareFlow := .none

theorem baud_rate_9600 :
    NoOverflow (busClock internalClock ⟨0, 0⟩ .usart1).toNat 9600 ∧
      (usartConfig internalClock ⟨0, 0⟩ .usart1 (serial 9600) ⟨0, 0, 0, 0⟩).br.toNat < 2 ^ 16 ∧
      Accurate (usartConfig internalClock ⟨0, 0⟩ .usart1 (serial 9600) ⟨0, 0, 0, 0⟩).br.toNat
        (busClock internalClock ⟨0, 0⟩ .usart1).toNat 9600 :=
  (baud_rate_exact_iff internalClock ⟨0, 0⟩ .usart1 (serial 9600) ⟨0, 0, 0, 0⟩ (by decide)
    (by decide) (by decide) (by decide)).mpr (by decide)

-- 8 MHz and 16680 baud: `BR` is 29 whole, and 29.976 was wanted.
theorem baud_rate_carry_lost :
    ¬ ∀ (build : Build) (rcm : Rcm) (uart : Usart) (config : UsartConfig)
        (registers : UsartRegisters), 25 * (busClock build rcm uart).toNat < 2 ^ 32 →
        1 ≤ config.baudRate.toNat →
        16 * config.baudRate.toNat ≤ (busClock build rcm uart).toNat →
        (busClock build rcm uart).toNat < 65535 * config.baudRate.toNat →
        NoOverflow (busClock build rcm uart).toNat config.baudRate.toNat ∧
          (usartConfig build rcm uart config registers).br.toNat < 2 ^ 16 ∧
          Accurate (usartConfig build rcm uart config registers).br.toNat
            (busClock build rcm uart).toNat config.baudRate.toNat := by
  intro accurate
  have close := (accurate internalClock ⟨0, 0⟩ .usart1 (serial 16680) ⟨0, 0, 0, 0⟩ (by decide)
    (by decide) (by decide) (by decide)).2.2.2
  exact absurd close (by decide)

end ApmSdk.StdPeriph
