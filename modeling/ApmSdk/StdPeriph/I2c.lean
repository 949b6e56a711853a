import ApmSdk.StdPeriph.Clock

set_option autoImplicit false

/-!
# The I2C clock divider

`I2C_Config`, and the frequency that the divider which it writes gives.
-/

namespace ApmSdk.StdPeriph

open Fields

inductive I2cMode where
  | i2c
  | smbusDevice
  | smbusHost
  deriving DecidableEq, Repr

def I2cMode.value : I2cMode → BitVec 32
  | i2c => 0x0000
  | smbusDevice => 0x0002
  | smbusHost => 0x000A

inductive I2cDutyCycle where
  | ratio16_9
  | ratio2
  deriving DecidableEq, Repr

def I2cDutyCycle.value : I2cDutyCycle → BitVec 16
  | ratio16_9 => 0x4000
  | ratio2 => 0xBFFF

inductive I2cAck where
  | disable
  | enable
  deriving DecidableEq, Repr

def I2cAck.value : I2cAck → BitVec 32
  | disable => 0
  | enable => 1

inductive I2cAckAddress where
  | bits7
  | bits10
  deriving DecidableEq, Repr

def I2cAckAddress.value : I2cAckAddress → BitVec 32
  | bits7 => 0x4000
  | bits10 => 0xC000

structure I2cConfig where
  clockSpeed : BitVec 32
  mode : I2cMode
  dutyCycle : I2cDutyCycle
  ownAddress1 : BitVec 16
  ack : I2cAck
  ackAddress : I2cAckAddress

structure I2cRegisters where
  ctrl1 : BitVec 32
  ctrl2 : BitVec 32
  saddr1 : BitVec 32
  clkctrl : BitVec 32
  risetmax : BitVec 32
  switch : BitVec 32

-- `result` has 16 bits, the quotients have 32.
def i2cResult (pclk1 : BitVec 32) (config : I2cConfig) : BitVec 16 :=
  if config.clockSpeed ≤ 100000 then
    let result := (pclk1 / (config.clockSpeed <<< 1)).setWidth 16
    if result < 0x04 then 0x04 else result
  else
    let result :=
      if config.dutyCycle.value = I2cDutyCycle.ratio2.value then
        (pclk1 / (config.clockSpeed * 3)).setWidth 16
      else (pclk1 / (config.clockSpeed * 25)).setWidth 16 ||| I2cDutyCycle.ratio16_9.value
    if result &&& 0x0FFF = 0 then result ||| 0x0001 else result

def i2cTmpreg (pclk1 : BitVec 32) (config : I2cConfig) : BitVec 16 :=
  if config.clockSpeed ≤ 100000 then i2cResult pclk1 config else i2cResult pclk1 config ||| 0x8000

def i2cRisetmax (freqrange : BitVec 16) (config : I2cConfig) : BitVec 32 :=
  if config.clockSpeed ≤ 100000 then freqrange.setWidth 32 + 1
  else freqrange.setWidth 32 * 300 / 1000 + 1

def i2cConfig (build : Build) (rcm : Rcm) (i2c : I2cRegisters) (config : I2cConfig) :
    I2cRegisters :=
  let pclk1 := (readPclkFreq build rcm).1
  let freqrange := (pclk1 / 1000000).setWidth 16
  -- I2CEN, around CLKCTRL
  let ctrl1 := assign (assign i2c.ctrl1 0 1 0) 0 1 1
  -- ACKEN, SMBTCFG and SMBEN
  let ctrl1 := assign (assign (assign ctrl1 10 1 0) 3 1 0) 1 1 0
  { ctrl1 := assign (ctrl1 ||| config.mode.value) 10 1 config.ack.value
    ctrl2 := assign i2c.ctrl2 0 6 (freqrange.setWidth 32)
    saddr1 := config.ackAddress.value ||| config.ownAddress1.setWidth 32
    clkctrl := (i2cTmpreg pclk1 config).setWidth 32
    risetmax := i2cRisetmax freqrange config
    switch := 0 }

/-! ## The clock -/

namespace I2cConfig

def Fast (config : I2cConfig) : Prop := 100000 < config.clockSpeed.toNat

instance (config : I2cConfig) : Decidable config.Fast := by unfold Fast; infer_instance

-- The input clock is divided by this factor and by the divider.
def factor (config : I2cConfig) : Nat :=
  if config.Fast then
    match config.dutyCycle with
    | .ratio2 => 3
    | .ratio16_9 => 25
  else 2

/-- What a divider of 1 counts for: the clock that the requested speed needs is this many hertz
for each. -/
def step (config : I2cConfig) : Nat := config.factor * config.clockSpeed.toNat

end I2cConfig

-- `divider` is the quotient, rounded to a whole number either way.
def IsQuotient (divider clock step : Nat) : Prop :=
  divider * step < clock + step ∧ clock < divider * step + step

/-- CLKCTRL as it has to be: SPEEDCFG, FDUTYCFG, nothing in the bits above CLKS that are reserved,
the quotient in CLKS (or the largest divider, where the quotient has no room), and a bus that is no
faster than requested. -/
structure ClockRight (pclk1 : Nat) (config : I2cConfig) (clkctrl : BitVec 32) : Prop where
  speed : clkctrl.getLsbD 15 = decide config.Fast
  duty : clkctrl.getLsbD 14 = decide (config.Fast ∧ config.dutyCycle = .ratio16_9)
  reserved : field clkctrl 12 2 = 0
  divider : IsQuotient (field clkctrl 0 12).toNat pclk1 config.step ∨
    4095 * config.step < pclk1 ∧ (field clkctrl 0 12).toNat = 4095
  slow : pclk1 ≤ config.clockSpeed.toNat * (config.factor * (field clkctrl 0 12).toNat)

/-- The divider is exact and has room, or the smallest one is slow enough already. -/
def Divides (pclk1 : Nat) (config : I2cConfig) : Prop :=
  config.step ∣ pclk1 ∧ pclk1 ≤ 4095 * config.step ∨ pclk1 < config.step

/-! ## The value of CLKCTRL -/

theorem bit_eq (value : BitVec 16) {bit : Nat} (inside : bit < 16) :
    (value.setWidth 32).getLsbD bit = decide (value.toNat / 2 ^ bit % 2 = 1) := by
  have within : bit < 32 := by omega
  rw [BitVec.getLsbD_setWidth, BitVec.getLsbD, Nat.testBit_eq_decide_div_mod_eq]
  simp [within]

theorem toNat_field (value : BitVec 16) (offset count : Nat) :
    (field (value.setWidth 32) offset count).toNat = value.toNat / 2 ^ offset % 2 ^ count := by
  have small := value.isLt
  rw [field, BitVec.extractLsb'_toNat, BitVec.toNat_setWidth, Nat.shiftRight_eq_div_pow,
    Nat.mod_eq_of_lt (by omega : value.toNat < 2 ^ 32)]

theorem toNat_or_high (value : BitVec 16) {bit : Nat} (small : value.toNat < 2 ^ bit)
    (inside : bit < 16) : (value ||| BitVec.ofNat 16 (2 ^ bit)).toNat = 2 ^ bit + value.toNat := by
  have fits : 2 ^ bit < 2 ^ 16 := Nat.pow_lt_pow_right (by decide) inside
  have sum := Nat.two_pow_add_eq_or_of_lt small 1
  rw [BitVec.toNat_or, BitVec.toNat_ofNat, Nat.mod_eq_of_lt fits, Nat.or_comm]
  simpa using sum.symm

section

variable {pclk1 : BitVec 32} {config : I2cConfig}

theorem clockSpeed_le_iff : config.clockSpeed ≤ 100000 ↔ ¬config.Fast := by
  rw [I2cConfig.Fast, Nat.not_lt]
  exact Iff.rfl

theorem toNat_tmpreg_standard (standard : ¬config.Fast) : (i2cTmpreg pclk1 config).toNat =
    max 4 (pclk1.toNat / config.step % 2 ^ 16) := by
  have slow : config.clockSpeed.toNat ≤ 100000 := Nat.le_of_not_lt standard
  have twice : (config.clockSpeed <<< 1).toNat = config.step := by
    rw [BitVec.toNat_shiftLeft, Nat.shiftLeft_eq, I2cConfig.step, I2cConfig.factor,
      if_neg standard]
    omega
  have quotient : ((pclk1 / (config.clockSpeed <<< 1)).setWidth 16).toNat =
      pclk1.toNat / config.step % 2 ^ 16 := by
    rw [BitVec.toNat_setWidth, BitVec.toNat_udiv, twice]
  rw [i2cTmpreg, if_pos (clockSpeed_le_iff.mpr standard), i2cResult,
    if_pos (clockSpeed_le_iff.mpr standard)]
  simp only [BitVec.lt_def, quotient]
  change (if pclk1.toNat / config.step % 2 ^ 16 < 4 then _ else _ : BitVec 16).toNat = _
  by_cases few : pclk1.toNat / config.step % 2 ^ 16 < 4
  · rw [if_pos few]
    change 4 = _
    omega
  · rw [if_neg few, quotient]
    omega

-- An empty quotient is filled up to 1.
theorem toNat_filled {result : BitVec 16} {base quotient : Nat} (value : result.toNat = base + quotient)
    (small : quotient < 4096) (high : base = 0 ∨ base = 16384) :
    (if result &&& 0x0FFF = 0 then result ||| 0x0001 else result).toNat = base + max 1 quotient := by
  have low : (result &&& 0x0FFF).toNat = quotient := by
    rw [BitVec.toNat_and, value]
    refine (Nat.and_two_pow_sub_one_eq_mod _ 12).trans ?_
    omega
  have empty : result &&& 0x0FFF = 0 ↔ quotient = 0 := by
    rw [← low, ← BitVec.toNat_inj]
    rfl
  by_cases none : quotient = 0
  · rw [if_pos (empty.mpr none)]
    subst none
    rcases high with rfl | rfl
    · obtain rfl : result = 0x0000 := BitVec.eq_of_toNat_eq value
      rfl
    · obtain rfl : result = 0x4000 := BitVec.eq_of_toNat_eq value
      rfl
  · rw [if_neg (mt empty.mp none), value]
    omega

theorem toNat_tmpreg_fast (fast : config.Fast) (most : config.clockSpeed.toNat ≤ 400000)
    (small : pclk1.toNat / config.step < 4096) : (i2cTmpreg pclk1 config).toNat =
      32768 + (if config.dutyCycle = .ratio16_9 then 16384 else 0) +
        max 1 (pclk1.toNat / config.step) := by
  have standard : ¬config.clockSpeed ≤ 100000 := fun slow => clockSpeed_le_iff.mp slow fast
  have speedBit (result : BitVec 16) (below : result.toNat < 2 ^ 15) :
      (result ||| 0x8000).toNat = 32768 + result.toNat := toNat_or_high result below (by decide)
  rw [i2cTmpreg, if_neg standard, i2cResult, if_neg standard]
  cases duty : config.dutyCycle with
  | ratio2 =>
    have scaled : (config.clockSpeed * 3).toNat = config.step := by
      rw [BitVec.toNat_mul, I2cConfig.step, I2cConfig.factor, if_pos fast, duty]
      change config.clockSpeed.toNat * 3 % 2 ^ 32 = 3 * config.clockSpeed.toNat
      omega
    have quotient : ((pclk1 / (config.clockSpeed * 3)).setWidth 16).toNat =
        0 + pclk1.toNat / config.step := by
      rw [BitVec.toNat_setWidth, BitVec.toNat_udiv, scaled, Nat.zero_add]
      exact Nat.mod_eq_of_lt (Nat.lt_trans small (by decide))
    have filled := toNat_filled quotient small (.inl rfl)
    simp only [if_true]
    rw [speedBit _ (by omega), filled]
    simp
  | ratio16_9 =>
    have scaled : (config.clockSpeed * 25).toNat = config.step := by
      rw [BitVec.toNat_mul, I2cConfig.step, I2cConfig.factor, if_pos fast, duty]
      change config.clockSpeed.toNat * 25 % 2 ^ 32 = 25 * config.clockSpeed.toNat
      omega
    have plain : ((pclk1 / (config.clockSpeed * 25)).setWidth 16).toNat =
        pclk1.toNat / config.step := by
      rw [BitVec.toNat_setWidth, BitVec.toNat_udiv, scaled]
      exact Nat.mod_eq_of_lt (Nat.lt_trans small (by decide))
    have quotient : ((pclk1 / (config.clockSpeed * 25)).setWidth 16 |||
        I2cDutyCycle.ratio16_9.value).toNat = 16384 + pclk1.toNat / config.step := by
      have dutyBit (result : BitVec 16) (below : result.toNat < 2 ^ 14) :
          (result ||| 0x4000).toNat = 16384 + result.toNat := toNat_or_high result below (by decide)
      rw [← plain]
      exact dutyBit _ (by omega)
    have filled := toNat_filled quotient small (.inr rfl)
    have unequal : I2cDutyCycle.ratio16_9.value ≠ I2cDutyCycle.ratio2.value := by decide
    simp only [unequal, if_false, if_true]
    rw [speedBit _ (by omega), filled]
    omega

/-! ## Which requests are met -/

theorem step_pos (positive : 1 ≤ config.clockSpeed.toNat) : 0 < config.step := by
  unfold I2cConfig.step I2cConfig.factor
  cases config.dutyCycle <;> dsimp only <;> split <;> omega

theorem step_le_standard (standard : ¬config.Fast) : config.step ≤ 200000 := by
  have slow : config.clockSpeed.toNat ≤ 100000 := Nat.le_of_not_lt standard
  rw [I2cConfig.step, I2cConfig.factor, if_neg standard]
  omega

theorem lt_step_fast (fast : config.Fast) : 300000 < config.step := by
  have quick : 100000 < config.clockSpeed.toNat := fast
  rw [I2cConfig.step, I2cConfig.factor, if_pos fast]
  cases config.dutyCycle <;> dsimp only <;> omega

/-- A quotient rounded down is slow enough exactly when it is whole, or when 1 is used for 0. -/
theorem rounded_iff {clock step : Nat} (positive : 0 < step) (some : 0 < clock)
    (room : clock / step < 4096) :
    ((IsQuotient (max 1 (clock / step)) clock step ∨
        4095 * step < clock ∧ max 1 (clock / step) = 4095) ∧
      clock ≤ max 1 (clock / step) * step) ↔
    (step ∣ clock ∧ clock ≤ 4095 * step ∨ clock < step) := by
  have split := Nat.div_add_mod' clock step
  have rest := Nat.mod_lt clock positive
  by_cases none : clock / step = 0
  · have below : clock < step := by
      rw [none] at split
      omega
    have one : max 1 (clock / step) = 1 := by omega
    rw [one, IsQuotient]
    omega
  · have least : max 1 (clock / step) = clock / step :=
      Nat.max_eq_right (Nat.one_le_iff_ne_zero.mpr none)
    have enough : ¬clock < step := by
      rw [← Nat.div_eq_zero_iff_lt positive]
      exact none
    have top : clock / step * step ≤ 4095 * step := Nat.mul_le_mul_right step (Nat.le_of_lt_succ room)
    rw [least, or_iff_left enough, IsQuotient, Nat.dvd_iff_mod_eq_zero]
    constructor
    · rintro ⟨_, slow⟩
      omega
    · rintro ⟨whole, _⟩
      omega

theorem slow_eq (divider : Nat) :
    config.clockSpeed.toNat * (config.factor * divider) = divider * config.step := by
  rw [I2cConfig.step, ← Nat.mul_assoc, Nat.mul_comm, Nat.mul_comm config.clockSpeed.toNat]

-- The bits of a mode stand above a divider that has room.
theorem clockRight_iff {clock divider : Nat} {tmpreg : BitVec 16} (room : divider < 4096)
    (value : tmpreg.toNat = 32768 * (decide config.Fast).toNat +
      16384 * (decide (config.Fast ∧ config.dutyCycle = .ratio16_9)).toNat + divider) :
    ClockRight clock config (tmpreg.setWidth 32) ↔
      (IsQuotient divider clock config.step ∨ 4095 * config.step < clock ∧ divider = 4095) ∧
        clock ≤ divider * config.step := by
  have clks : (field (tmpreg.setWidth 32) 0 12).toNat = divider := by
    rw [toNat_field, value]
    omega
  constructor
  · intro right
    have quotient := right.divider
    have slow := right.slow
    rw [clks] at quotient slow
    exact ⟨quotient, slow_eq divider ▸ slow⟩
  · rintro ⟨quotient, slow⟩
    have dutyBound := Bool.toNat_lt (decide (config.Fast ∧ config.dutyCycle = .ratio16_9))
    have speedBound := Bool.toNat_lt (decide config.Fast)
    have asBit (bit : Bool) : decide (bit.toNat = 1) = bit := by cases bit <;> rfl
    constructor
    case speed =>
      have high : tmpreg.toNat / 2 ^ 15 % 2 = (decide config.Fast).toNat := by omega
      rw [bit_eq _ (by decide), high, asBit]
    case duty =>
      have high : tmpreg.toNat / 2 ^ 14 % 2 =
          (decide (config.Fast ∧ config.dutyCycle = .ratio16_9)).toNat := by omega
      rw [bit_eq _ (by decide), high, asBit]
    case reserved =>
      apply BitVec.eq_of_toNat_eq
      rw [toNat_field, value]
      change _ = 0
      omega
    case divider => rwa [clks]
    case slow => rwa [clks, slow_eq]

theorem fast_right_iff (fast : config.Fast) (least : 2000000 ≤ pclk1.toNat)
    (most : pclk1.toNat ≤ 36000000) (fastest : config.clockSpeed.toNat ≤ 400000) :
    ClockRight pclk1.toNat config ((i2cTmpreg pclk1 config).setWidth 32) ↔
      Divides pclk1.toNat config := by
  have wide := lt_step_fast fast
  have positive : 0 < config.step := by omega
  have small : pclk1.toNat / config.step < 4096 := by
    rw [Nat.div_lt_iff_lt_mul positive]
    omega
  have room : max 1 (pclk1.toNat / config.step) < 4096 := Nat.max_lt.mpr ⟨by decide, small⟩
  have value := toNat_tmpreg_fast fast fastest small
  rw [Divides, ← rounded_iff positive (by omega) small]
  refine clockRight_iff room ?_
  rw [value]
  by_cases ratio : config.dutyCycle = .ratio16_9 <;> simp [fast, ratio]

-- The field has 12 bits: a quotient without room in it leaves the bus too fast.
theorem ClockRight.room {clock : Nat} {clkctrl : BitVec 32} (positive : 0 < config.step)
    (right : ClockRight clock config clkctrl) : clock / config.step < 4096 := by
  have slow := right.slow
  rw [slow_eq] at slow
  have few : (field clkctrl 0 12).toNat < 4096 := BitVec.isLt _
  rw [Nat.div_lt_iff_lt_mul positive]
  exact Nat.lt_of_le_of_lt slow (Nat.mul_lt_mul_of_pos_right few positive)

theorem standard_right_iff (standard : ¬config.Fast) (least : 2000000 ≤ pclk1.toNat)
    (slowest : 1 ≤ config.clockSpeed.toNat) :
    ClockRight pclk1.toNat config ((i2cTmpreg pclk1 config).setWidth 32) ↔
      Divides pclk1.toNat config := by
  have positive := step_pos slowest
  have narrow := step_le_standard standard
  by_cases kept : pclk1.toNat / config.step < 4096
  · have enough : 10 ≤ pclk1.toNat / config.step := by
      rw [Nat.le_div_iff_mul_le positive]
      omega
    have least : max 4 (pclk1.toNat / config.step) = max 1 (pclk1.toNat / config.step) := by omega
    have value : (i2cTmpreg pclk1 config).toNat =
        max 4 (pclk1.toNat / config.step % 2 ^ 16) := toNat_tmpreg_standard standard
    rw [Nat.mod_eq_of_lt (Nat.lt_trans kept (by decide)), least] at value
    rw [Divides, ← rounded_iff positive (by omega) kept]
    refine clockRight_iff (Nat.max_lt.mpr ⟨by decide, kept⟩) ?_
    rw [value]
    simp [standard]
  · refine iff_of_false (fun right => kept (right.room positive)) ?_
    rw [Nat.div_lt_iff_lt_mul positive] at kept
    rintro (⟨_, top⟩ | below) <;> omega

end

/-- The divider is right exactly when the clock is a multiple of what the request divides it by,
up to the 4095 that CLKS holds, or is below it. -/
theorem i2cConfig_right_iff (build : Build) (rcm : Rcm) (i2c : I2cRegisters) (config : I2cConfig)
    (least : 2000000 ≤ (readPclkFreq build rcm).1.toNat)
    (most : (readPclkFreq build rcm).1.toNat ≤ 36000000)
    (slowest : 1 ≤ config.clockSpeed.toNat) (fastest : config.clockSpeed.toNat ≤ 400000) :
    ClockRight (readPclkFreq build rcm).1.toNat config (i2cConfig build rcm i2c config).clkctrl ↔
      Divides (readPclkFreq build rcm).1.toNat config := by
  by_cases fast : config.Fast
  · exact fast_right_iff fast least most fastest
  · exact standard_right_iff fast least slowest

def i2cMaster (clockSpeed : BitVec 32) (dutyCycle : I2cDutyCycle) : I2cConfig where
  clockSpeed
  mode := .i2c
  dutyCycle
  ownAddress1 := 0
  ack := .enable
  ackAddress := .bits7

-- 8 MHz from the internal oscillator.
theorem i2c_100kHz_right :
    ClockRight (readPclkFreq ⟨false, 8000000, 8000000⟩ ⟨0, 0⟩).1.toNat (i2cMaster 100000 .ratio2)
      (i2cConfig ⟨false, 8000000, 8000000⟩ ⟨0, 0⟩ ⟨0, 0, 0, 0, 0, 0⟩
        (i2cMaster 100000 .ratio2)).clkctrl :=
  (i2cConfig_right_iff ⟨false, 8000000, 8000000⟩ ⟨0, 0⟩ ⟨0, 0, 0, 0, 0, 0⟩
    (i2cMaster 100000 .ratio2) (by decide) (by decide) (by decide) (by decide)).mpr
      (.inl ⟨by decide, by decide⟩)

-- 8 MHz and 400 kHz: the quotient 6.67 becomes 6, and the bus runs at 444 kHz.
theorem i2c_too_fast :
    ¬ ∀ (build : Build) (rcm : Rcm) (i2c : I2cRegisters) (config : I2cConfig),
        2000000 ≤ (readPclkFreq build rcm).1.toNat →
        (readPclkFreq build rcm).1.toNat ≤ 36000000 →
        1 ≤ config.clockSpeed.toNat → config.clockSpeed.toNat ≤ 400000 →
        ClockRight (readPclkFreq build rcm).1.toNat config
          (i2cConfig build rcm i2c config).clkctrl := by
  intro right
  have slow := (right ⟨false, 8000000, 8000000⟩ ⟨0, 0⟩ ⟨0, 0, 0, 0, 0, 0⟩
    (i2cMaster 400000 .ratio2) (by decide) (by decide) (by decide) (by decide)).slow
  exact absurd slow (by decide)

end ApmSdk.StdPeriph
