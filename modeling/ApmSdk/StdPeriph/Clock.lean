import ApmSdk.Lib.Fields

set_option autoImplicit false

/-!
# The clock decoders

What `SystemCoreClockUpdate` and the functions of the RCM driver read out of the clock
registers.
-/

namespace ApmSdk.StdPeriph

open Fields

structure Build where
  /-- `APM32F10X_CL`. -/
  connectivityLine : Bool
  hseValue : BitVec 32
  hsiValue : BitVec 32

structure Rcm where
  cfg : BitVec 32
  cfg2 : BitVec 32

namespace Rcm

def sclksel (rcm : Rcm) : BitVec 32 := (field rcm.cfg 0 2).setWidth 32
def ahbpsc (rcm : Rcm) : BitVec 4 := field rcm.cfg 4 4
def apb1psc (rcm : Rcm) : BitVec 3 := field rcm.cfg 8 3
def apb2psc (rcm : Rcm) : BitVec 3 := field rcm.cfg 11 3
def pll1srcsel (rcm : Rcm) : BitVec 32 := (field rcm.cfg 16 1).setWidth 32
def pllhsepsc (rcm : Rcm) : BitVec 32 := (field rcm.cfg 17 1).setWidth 32
def pll1mulcfg (rcm : Rcm) : BitVec 32 := (field rcm.cfg 18 4).setWidth 32
def pllpsc1 (rcm : Rcm) : BitVec 32 := (field rcm.cfg2 0 4).setWidth 32
def pllpsc2 (rcm : Rcm) : BitVec 32 := (field rcm.cfg2 4 4).setWidth 32
def pll2mul (rcm : Rcm) : BitVec 32 := (field rcm.cfg2 8 4).setWidth 32
def pllpsc1src (rcm : Rcm) : BitVec 32 := (field rcm.cfg2 16 1).setWidth 32

end Rcm

-- The case of the PLL is the same text in both files.
def pllClockCl (build : Build) (rcm : Rcm) : BitVec 32 :=
  let pllSource :=
    if rcm.pll1srcsel ≠ 0 then
      let pllPsc1 := rcm.pllpsc1 + 1
      if rcm.pllpsc1src ≠ 0 then
        let pll2Mull := if rcm.pll2mul ≠ 15 then rcm.pll2mul + 2 else 20
        let pllPsc2 := rcm.pllpsc2 + 1
        build.hseValue / pllPsc2 * pll2Mull / pllPsc1
      else build.hseValue / pllPsc1
    else build.hsiValue >>> 1
  let pllMull := rcm.pll1mulcfg
  if pllMull = 13 then pllSource * pllMull / 2 else pllSource * (pllMull + 2)

def pllClock (build : Build) (rcm : Rcm) : BitVec 32 :=
  let pllMull := rcm.pll1mulcfg + 2
  let pllSource := rcm.pll1srcsel
  if pllSource = 1 then
    let sysClock := build.hseValue * pllMull
    if pllSource = rcm.pllhsepsc then sysClock >>> 1 else sysClock
  else (build.hsiValue >>> 1) * pllMull

-- The value that `SystemCoreClockUpdate` gives `SystemCoreClock`.
def systemCoreClockUpdate (build : Build) (rcm : Rcm) : BitVec 32 :=
  match rcm.sclksel.toNat with
  | 0 => build.hsiValue
  | 1 => build.hseValue
  | 2 => if build.connectivityLine then pllClockCl build rcm else pllClock build rcm
  | _ => build.hsiValue

-- `RCM_SYSCLK_SEL_T`.
inductive SysclkSel where
  | hsi
  | hse
  | pll

def SysclkSel.value : SysclkSel → BitVec 32
  | hsi => 0
  | hse => 1
  | pll => 2

def readSysclkFreq (build : Build) (rcm : Rcm) : BitVec 32 :=
  let sysClock := rcm.sclksel
  if sysClock = SysclkSel.hsi.value then build.hsiValue
  else if sysClock = SysclkSel.hse.value then build.hseValue
  else if sysClock = SysclkSel.pll.value then
    if build.connectivityLine then pllClockCl build rcm else pllClock build rcm
  else build.hsiValue

def ahbPrescTable : List Nat := [0, 0, 0, 0, 0, 0, 0, 0, 1, 2, 3, 4, 6, 7, 8, 9]

def readHclkFreq (build : Build) (rcm : Rcm) : BitVec 32 :=
  let sysClk := readSysclkFreq build rcm
  let divider := ahbPrescTable.getD rcm.ahbpsc.toNat 0
  sysClk >>> divider

def apbPrescTable : List Nat := [0, 0, 0, 0, 1, 2, 3, 4]

-- `PCLK1` and `PCLK2`.
def readPclkFreq (build : Build) (rcm : Rcm) : BitVec 32 × BitVec 32 :=
  let hclk := readHclkFreq build rcm
  (hclk >>> apbPrescTable.getD rcm.apb1psc.toNat 0, hclk >>> apbPrescTable.getD rcm.apb2psc.toNat 0)

/-! ## The clock that the registers select -/

/-- A frequency as an input clock, a factor and a divisor. -/
structure Source where
  input : Nat
  factor : Nat
  divisor : Nat
  positive : 0 < divisor := by decide

/-- What 32-bit arithmetic makes of the frequency. -/
def Source.frequency (source : Source) : Nat := source.input * source.factor % 2 ^ 32 / source.divisor

/-- The PLL's input in the connectivity line. -/
def pllInput (build : Build) (rcm : Rcm) : Nat :=
  if rcm.pll1srcsel = 0 then build.hsiValue.toNat / 2
  else if rcm.pllpsc1src = 0 then build.hseValue.toNat / (rcm.pllpsc1.toNat + 1)
  else
    build.hseValue.toNat / (rcm.pllpsc2.toNat + 1) *
      (if rcm.pll2mul = 15 then 20 else rcm.pll2mul.toNat + 2) % 2 ^ 32 / (rcm.pllpsc1.toNat + 1)

def pllSource (build : Build) (rcm : Rcm) : Source :=
  let factor := rcm.pll1mulcfg.toNat + 2
  if build.connectivityLine then
    if rcm.pll1mulcfg = 13 then { input := pllInput build rcm, factor := 13, divisor := 2 }
    else { input := pllInput build rcm, factor, divisor := 1 }
  else if rcm.pll1srcsel = 0 then { input := build.hsiValue.toNat / 2, factor, divisor := 1 }
  else if rcm.pllhsepsc = 0 then { input := build.hseValue.toNat, factor, divisor := 1 }
  else { input := build.hseValue.toNat, factor, divisor := 2 }

def Source.whole (value : BitVec 32) : Source where
  input := value.toNat
  factor := 1
  divisor := 1

def selected (build : Build) (rcm : Rcm) : Source :=
  match rcm.sclksel.toNat with
  | 1 => .whole build.hseValue
  | 2 => pllSource build rcm
  | _ => .whole build.hsiValue

theorem Source.frequency_whole (value : BitVec 32) : (Source.whole value).frequency = value.toNat := by
  rw [frequency, whole, Nat.mul_one, Nat.div_one]
  exact Nat.mod_eq_of_lt value.isLt

theorem Source.frequency_eq_zero_iff (source : Source) :
    source.frequency = 0 ↔ source.input * source.factor % 2 ^ 32 < source.divisor :=
  Nat.div_eq_zero_iff_lt source.positive

theorem flag_cases (register : BitVec 32) (offset : Nat) :
    (field register offset 1).setWidth 32 = 0#32 ∨ (field register offset 1).setWidth 32 = 1#32 := by
  have small := toNat_field_setWidth_lt register offset 1 32
  generalize (field register offset 1).setWidth 32 = value at small
  obtain zero | one : value.toNat = 0 ∨ value.toNat = 1 := by omega
  · exact .inl (BitVec.eq_of_toNat_eq zero)
  · exact .inr (BitVec.eq_of_toNat_eq one)

theorem toNat_add_small {value : BitVec 32} (small : value.toNat < 2 ^ 4) (count : BitVec 32)
    (low : count.toNat < 2 ^ 4) : (value + count).toNat = value.toNat + count.toNat := by
  rw [BitVec.toNat_add]
  omega

theorem toNat_pllClock {build : Build} (line : build.connectivityLine = false) (rcm : Rcm) :
    (pllClock build rcm).toNat = (pllSource build rcm).frequency := by
  have factor : (rcm.pll1mulcfg + 2).toNat = rcm.pll1mulcfg.toNat + 2 :=
    toNat_add_small (toNat_field_setWidth_lt _ _ _ _) 2 (by decide)
  obtain hsi | hse : rcm.pll1srcsel = 0#32 ∨ rcm.pll1srcsel = 1#32 := flag_cases rcm.cfg 16
  · have low : build.hsiValue.toNat / 2 * (rcm.pll1mulcfg.toNat + 2) =
        (build.hsiValue >>> 1).toNat * (rcm.pll1mulcfg + 2).toNat := by
      rw [factor, BitVec.toNat_ushiftRight, Nat.shiftRight_eq_div_pow, Nat.pow_one]
    simp only [pllClock, pllSource, line, hsi, Source.frequency]
    simp [low]
  · obtain whole | halved : rcm.pllhsepsc = 0#32 ∨ rcm.pllhsepsc = 1#32 := flag_cases rcm.cfg 17
    · simp [pllClock, pllSource, line, hse, whole, Source.frequency]
    · simp [pllClock, pllSource, line, hse, halved, Source.frequency, Nat.shiftRight_eq_div_pow]

theorem toNat_pllClockCl {build : Build} (line : build.connectivityLine = true) (rcm : Rcm) :
    (pllClockCl build rcm).toNat = (pllSource build rcm).frequency := by
  have factor : (rcm.pll1mulcfg + 2).toNat = rcm.pll1mulcfg.toNat + 2 :=
    toNat_add_small (toNat_field_setWidth_lt _ _ _ _) 2 (by decide)
  have factor2 : (rcm.pll2mul + 2).toNat = rcm.pll2mul.toNat + 2 :=
    toNat_add_small (toNat_field_setWidth_lt _ _ _ _) 2 (by decide)
  have divisor1 : (rcm.pllpsc1 + 1).toNat = rcm.pllpsc1.toNat + 1 :=
    toNat_add_small (toNat_field_setWidth_lt _ _ _ _) 1 (by decide)
  have divisor2 : (rcm.pllpsc2 + 1).toNat = rcm.pllpsc2.toNat + 1 :=
    toNat_add_small (toNat_field_setWidth_lt _ _ _ _) 1 (by decide)
  have input : (if rcm.pll1srcsel ≠ 0 then
        if rcm.pllpsc1src ≠ 0 then
          build.hseValue / (rcm.pllpsc2 + 1) *
            (if rcm.pll2mul ≠ 15 then rcm.pll2mul + 2 else 20) / (rcm.pllpsc1 + 1)
        else build.hseValue / (rcm.pllpsc1 + 1)
      else build.hsiValue >>> 1 : BitVec 32).toNat = pllInput build rcm := by
    unfold pllInput
    by_cases hsi : rcm.pll1srcsel = 0
    · simp [hsi, Nat.shiftRight_eq_div_pow]
    · by_cases hse : rcm.pllpsc1src = 0
      · simp only [hsi, hse, ne_eq, not_true, not_false_eq_true, if_true, if_false,
          BitVec.toNat_udiv, divisor1]
      · by_cases twenty : rcm.pll2mul = 15
        · simp only [hsi, hse, twenty, ne_eq, not_true, not_false_eq_true, if_true, if_false,
            BitVec.toNat_udiv, BitVec.toNat_mul, divisor1, divisor2]
          rfl
        · simp only [hsi, hse, twenty, ne_eq, not_false_eq_true, if_true, if_false,
            BitVec.toNat_udiv, BitVec.toNat_mul, divisor1, divisor2, factor2]
  unfold pllClockCl pllSource Source.frequency
  simp only [line, if_true]
  by_cases half : rcm.pll1mulcfg = 13
  · simp only [half, if_true, BitVec.toNat_udiv, BitVec.toNat_mul, input]
    rfl
  · simp only [half, if_false, BitVec.toNat_mul, input, factor, Nat.div_one]

theorem toNat_readSysclkFreq (build : Build) (rcm : Rcm) :
    (readSysclkFreq build rcm).toNat = (selected build rcm).frequency := by
  have small : rcm.sclksel.toNat < 2 ^ 2 := toNat_field_setWidth_lt _ _ _ _
  have pll : (if build.connectivityLine then pllClockCl build rcm
      else pllClock build rcm).toNat = (pllSource build rcm).frequency := by
    cases line : build.connectivityLine with
    | true => exact toNat_pllClockCl line rcm
    | false => exact toNat_pllClock line rcm
  unfold readSysclkFreq selected
  generalize rcm.sclksel = select at small ⊢
  obtain hsi | hse | last | other : select = 0#32 ∨ select = 1#32 ∨ select = 2#32 ∨ select = 3#32 := by
    simp only [← BitVec.toNat_inj, BitVec.toNat_ofNat]
    omega
  · subst hsi
    exact (Source.frequency_whole _).symm
  · subst hse
    exact (Source.frequency_whole _).symm
  · subst last
    exact pll
  · subst other
    exact (Source.frequency_whole _).symm

theorem systemCoreClockUpdate_eq (build : Build) (rcm : Rcm) :
    systemCoreClockUpdate build rcm = readSysclkFreq build rcm := by
  have small : rcm.sclksel.toNat < 2 ^ 2 := toNat_field_setWidth_lt _ _ _ _
  unfold systemCoreClockUpdate readSysclkFreq
  generalize rcm.sclksel = select at small ⊢
  obtain rfl | rfl | rfl | rfl : select = 0#32 ∨ select = 1#32 ∨ select = 2#32 ∨ select = 3#32 := by
    simp only [← BitVec.toNat_inj, BitVec.toNat_ofNat]
    omega
  all_goals rfl

theorem divider_eq_zero_iff (psc : BitVec 4) :
    ahbPrescTable.getD psc.toNat 0 = 0 ↔ psc.toNat < 8 := by
  revert psc
  decide

theorem ushiftRight_eq_self_iff (value : BitVec 32) (count : Nat) :
    value = value >>> count ↔ count = 0 ∨ value.toNat = 0 := by
  rw [← BitVec.toNat_inj, BitVec.toNat_ushiftRight, Nat.shiftRight_eq_div_pow, eq_comm,
    Nat.div_eq_self]
  simp [or_comm]

/-- The decoders agree exactly when the AHB prescaler does not divide or the selected clock is
zero. -/
theorem core_clock_eq_hclk_iff (build : Build) (rcm : Rcm) :
    systemCoreClockUpdate build rcm = readHclkFreq build rcm ↔
      rcm.ahbpsc.toNat < 8 ∨
        (selected build rcm).input * (selected build rcm).factor % 2 ^ 32 <
          (selected build rcm).divisor := by
  rw [systemCoreClockUpdate_eq, readHclkFreq, ushiftRight_eq_self_iff, divider_eq_zero_iff,
    toNat_readSysclkFreq, Source.frequency_eq_zero_iff]

/-- A system clock of 8 MHz from the oscillator, and the bus at half of it. -/
def halvedBus : Rcm := ⟨0x81, 0⟩

theorem core_clock_not_hclk :
    ¬ ∀ build rcm, systemCoreClockUpdate build rcm = readHclkFreq build rcm := by
  intro agree
  have same := agree ⟨false, 8000000, 8000000⟩ halvedBus
  exact absurd same (by decide)

end ApmSdk.StdPeriph
