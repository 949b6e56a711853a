import ApmSdk.Lib.Fields
import Mathlib.Tactic.SplitIfs

set_option autoImplicit false

/-!
# Configuring the pins of a port

`GPIO_Config` with its two loops over the low and the high pins.
-/

namespace ApmSdk.StdPeriph

open Fields

inductive GpioSpeed where
  | speed10MHz
  | speed2MHz
  | speed50MHz
  deriving DecidableEq, Repr

def GpioSpeed.value : GpioSpeed → BitVec 32
  | speed10MHz => 1
  | speed2MHz => 2
  | speed50MHz => 3

inductive GpioMode where
  | analog
  | inFloating
  | inPd
  | inPu
  | outPp
  | outOd
  | afPp
  | afOd
  deriving DecidableEq, Repr

def GpioMode.value : GpioMode → BitVec 32
  | analog => 0x0
  | inFloating => 0x04
  | inPd => 0x28
  | inPu => 0x48
  | outPp => 0x80
  | outOd => 0x84
  | afPp => 0x88
  | afOd => 0x8C

structure GpioConfig where
  pin : BitVec 16
  speed : GpioSpeed
  mode : GpioMode

structure GpioPort where
  cfglow : BitVec 32
  cfghig : BitVec 32
  /-- The output latch `ODATA`. -/
  odata : BitVec 16
  deriving DecidableEq, Repr

-- A write to `BC` clears the latch bits that are ones.
def writeBc (odata : BitVec 16) (value : BitVec 32) : BitVec 16 :=
  odata &&& ~~~(field value 0 16)

-- A write to `BSC` clears by its high half and sets by its low half.
def writeBsc (odata : BitVec 16) (value : BitVec 32) : BitVec 16 :=
  (odata &&& ~~~(field value 16 16)) ||| field value 0 16

-- One pass of a loop, for pin `i`; the loop starts at pin `first`.
def configPin (config : GpioConfig) (mode : BitVec 32) (first i : Nat) (shift : BitVec 32)
    (cr : BitVec 32) (odata : BitVec 16) : BitVec 32 × BitVec 16 :=
  if config.pin.setWidth 32 &&& shift ≠ 0 then
    let temp := (i - first) <<< 2
    -- `0x0f << 28` does not fit an `int`; its 32 bits are taken.
    let cr := cr &&& ~~~(0x0F#32 <<< temp)
    let cr := cr ||| (mode <<< temp)
    if config.mode.value = GpioMode.inPd.value then (cr, writeBc odata shift)
    else if config.mode.value = GpioMode.inPu.value then (cr, writeBsc odata shift)
    else (cr, odata)
  else (cr, odata)

-- The passes that are left of a loop which is at pin `i`.
def configPins (config : GpioConfig) (mode : BitVec 32) (first : Nat) :
    (left i : Nat) → (shift cr : BitVec 32) → BitVec 16 → BitVec 32 × BitVec 16
  | 0, _, _, cr, odata => (cr, odata)
  | left + 1, i, shift, cr, odata =>
      let next := configPin config mode first i shift cr odata
      configPins config mode first left (i + 1) (shift <<< 1) next.1 next.2

def modeBits (mode : GpioMode) (speed : GpioSpeed) : BitVec 32 :=
  let bits := mode.value &&& 0x0F
  if mode.value &&& 0x80 ≠ 0 then bits ||| speed.value else bits

def gpioConfig (port : GpioPort) (config : GpioConfig) : GpioPort :=
  let port :=
    if config.pin &&& 0xFF ≠ 0 then
      let result :=
        configPins config (modeBits config.mode config.speed) 0 8 0 0x01 port.cfglow port.odata
      { port with cfglow := result.1, odata := result.2 }
    else port
  if config.pin &&& 0xFF00 ≠ 0 then
    let result :=
      configPins config (modeBits config.mode config.speed) 8 8 8 0x100 port.cfghig port.odata
    { port with cfghig := result.1, odata := result.2 }
  else port

/-! ## What the pins are to be -/

/-- The configuration field of a mode: the two low bits are the speed of an output. -/
def encoding (speed : GpioSpeed) : GpioMode → BitVec 4
  | .analog => 0
  | .inFloating => 4
  | .inPd | .inPu => 8
  | .outPp => speed.value.setWidth 4
  | .outOd => 4 ||| speed.value.setWidth 4
  | .afPp => 8 ||| speed.value.setWidth 4
  | .afOd => 12 ||| speed.value.setWidth 4

def GpioConfig.selects (config : GpioConfig) (pin : Fin 16) : Bool := config.pin.getLsbD pin

/-- What a selected pin's latch becomes, where the mode sets it. -/
def GpioMode.pull : GpioMode → Option Bool
  | inPd => some false
  | inPu => some true
  | _ => none

namespace GpioPort

/-- The four bits that configure a pin. -/
def pinField (port : GpioPort) (pin : Fin 16) : BitVec 4 :=
  if pin.val < 8 then field port.cfglow (4 * pin) 4 else field port.cfghig (4 * (pin - 8)) 4

end GpioPort

structure Configured (config : GpioConfig) (before after : GpioPort) : Prop where
  fields : ∀ pin, after.pinField pin =
    if config.selects pin then encoding config.speed config.mode else before.pinField pin
  latches : ∀ pin : Fin 16, after.odata.getLsbD pin =
    if config.selects pin then config.mode.pull.getD (before.odata.getLsbD pin)
    else before.odata.getLsbD pin

/-! ## The loops -/

theorem modeBits_small (mode : GpioMode) (speed : GpioSpeed) :
    ∀ bit, 4 ≤ bit → (modeBits mode speed).getLsbD bit = false := by
  have below : (modeBits mode speed).toNat < 2 ^ 4 := by
    cases speed <;> cases mode <;> decide
  intro bit large
  exact Nat.testBit_lt_two_pow (Nat.lt_of_lt_of_le below (Nat.pow_le_pow_right (by decide) large))

theorem modeBits_encoding (mode : GpioMode) (speed : GpioSpeed) :
    (modeBits mode speed).setWidth 4 = encoding speed mode := by
  cases speed <;> cases mode <;> rfl

-- A loop has passed the pins from `i` to `stop`.
structure Passed (config : GpioConfig) (first i stop : Nat) (before after : BitVec 32 × BitVec 16) :
    Prop where
  fields : ∀ pin, first ≤ pin → pin < first + 8 → field after.1 (4 * (pin - first)) 4 =
    if i ≤ pin ∧ pin < stop ∧ config.pin.getLsbD pin then encoding config.speed config.mode
    else field before.1 (4 * (pin - first)) 4
  latches : ∀ pin, pin < 16 → after.2.getLsbD pin =
    if i ≤ pin ∧ pin < stop ∧ config.pin.getLsbD pin then
      config.mode.pull.getD (before.2.getLsbD pin)
    else before.2.getLsbD pin

theorem Passed.none {config : GpioConfig} {first i stop : Nat} (state : BitVec 32 × BitVec 16)
    (unselected : ∀ pin, i ≤ pin → pin < stop → config.pin.getLsbD pin = false) :
    Passed config first i stop state state := by
  have never (pin : Nat) : ¬ (i ≤ pin ∧ pin < stop ∧ config.pin.getLsbD pin) := by
    rintro ⟨from_, below, selected⟩
    simp [unselected pin from_ below] at selected
  exact ⟨fun pin _ _ => by rw [if_neg (never pin)], fun pin _ => by rw [if_neg (never pin)]⟩

theorem Passed.trans {config : GpioConfig} {first i middle stop : Nat}
    {before between after : BitVec 32 × BitVec 16} (low : i ≤ middle) (high : middle ≤ stop)
    (left : Passed config first i middle before between)
    (right : Passed config first middle stop between after) :
    Passed config first i stop before after := by
  constructor
  case fields =>
    intro pin from_ below
    rw [right.fields pin from_ below, left.fields pin from_ below]
    by_cases selected : config.pin.getLsbD pin = true
    · simp only [selected, and_true]
      split_ifs <;> first | rfl | omega
    · simp [selected]
  case latches =>
    intro pin inside
    rw [right.latches pin inside, left.latches pin inside]
    by_cases selected : config.pin.getLsbD pin = true
    · simp only [selected, and_true]
      split_ifs <;> first | rfl | omega
    · simp [selected]

theorem getLsbD_writeBc (odata : BitVec 16) {i pin : Nat} (inside : pin < 16) :
    (writeBc odata (BitVec.twoPow 32 i)).getLsbD pin =
      if i = pin then false else odata.getLsbD pin := by
  have within : pin < 32 := by omega
  by_cases same : i = pin
  · simp [writeBc, field, same, inside, within]
  · simp [writeBc, field, same, Ne.symm same, inside, within]

theorem getLsbD_writeBsc (odata : BitVec 16) {i pin : Nat} (low : i < 16) (inside : pin < 16) :
    (writeBsc odata (BitVec.twoPow 32 i)).getLsbD pin =
      if i = pin then true else odata.getLsbD pin := by
  have within : pin < 32 := by omega
  have apart : i ≠ 16 + pin := by omega
  by_cases same : i = pin
  · simp [writeBsc, field, same, inside, within]
  · simp [writeBsc, field, same, Ne.symm same, inside, within, apart]

theorem getLsbD_pulled (mode : GpioMode) (odata : BitVec 16) {i pin : Nat} (low : i < 16)
    (inside : pin < 16) :
    (if mode.value = GpioMode.inPd.value then writeBc odata (BitVec.twoPow 32 i)
      else if mode.value = GpioMode.inPu.value then writeBsc odata (BitVec.twoPow 32 i)
      else odata).getLsbD pin =
      if i = pin then mode.pull.getD (odata.getLsbD pin) else odata.getLsbD pin := by
  cases mode with
  | inPd => exact getLsbD_writeBc odata inside
  | inPu => exact getLsbD_writeBsc odata low inside
  | analog | inFloating | outPp | outOd | afPp | afOd => exact (ite_self _).symm

theorem configPin_passed (config : GpioConfig) {first i : Nat} (cr : BitVec 32) (odata : BitVec 16)
    (from_ : first ≤ i) (below : i < first + 8) (low : i < 16) :
    Passed config first i (i + 1) (cr, odata)
      (configPin config (modeBits config.mode config.speed) first i (BitVec.twoPow 32 i) cr odata) := by
  have tested : config.pin.setWidth 32 &&& BitVec.twoPow 32 i ≠ 0 ↔
      config.pin.getLsbD i = true := by
    rw [and_twoPow_ne_zero _ (by omega)]
    simp [show i < 32 by omega]
  have only (pin : Nat) : (i ≤ pin ∧ pin < i + 1 ∧ config.pin.getLsbD pin) ↔
      i = pin ∧ config.pin.getLsbD i := by
    constructor
    · rintro ⟨lower, upper, selected⟩
      obtain rfl : i = pin := by omega
      exact ⟨rfl, selected⟩
    · rintro ⟨rfl, selected⟩
      exact ⟨Nat.le_refl i, Nat.lt_succ_self i, selected⟩
  by_cases selected : config.pin.getLsbD i = true
  · have placed : configPin config (modeBits config.mode config.speed) first i (BitVec.twoPow 32 i)
        cr odata =
        (place cr (4 * (i - first)) 4 (modeBits config.mode config.speed),
          if config.mode.value = GpioMode.inPd.value then writeBc odata (BitVec.twoPow 32 i)
          else if config.mode.value = GpioMode.inPu.value then
            writeBsc odata (BitVec.twoPow 32 i)
          else odata) := by
      have shifted : (i - first) <<< 2 = 4 * (i - first) := by
        rw [Nat.shiftLeft_eq, Nat.mul_comm]
      simp only [configPin, if_pos (tested.mpr selected), shifted]
      split_ifs <;> rfl
    rw [placed]
    constructor
    case fields =>
      intro pin lower upper
      simp only [only]
      by_cases same : i = pin
      · subst same
        simp only [selected, and_self, if_true]
        rw [field_place_self _ _ (modeBits_small _ _) (by omega), modeBits_encoding]
      · simp only [same, false_and, if_false]
        exact field_place_apart _ _ (modeBits_small _ _) (by omega) (by omega)
    case latches =>
      intro pin inside
      simp only [only]
      simp only [selected, and_true]
      exact getLsbD_pulled config.mode odata low inside
  · have kept : configPin config (modeBits config.mode config.speed) first i (BitVec.twoPow 32 i)
        cr odata = (cr, odata) := by
      rw [configPin, if_neg (fun nonzero => selected (tested.mp nonzero))]
    rw [kept]
    refine Passed.none _ fun pin lower upper => ?_
    obtain rfl : i = pin := by omega
    simpa using selected

theorem configPins_passed (config : GpioConfig) (first : Nat) (half : first + 8 ≤ 16)
    (left i : Nat) (cr : BitVec 32) (odata : BitVec 16) (from_ : first ≤ i)
    (stop : i + left = first + 8) :
    Passed config first i (i + left) (cr, odata)
      (configPins config (modeBits config.mode config.speed) first left i (BitVec.twoPow 32 i)
        cr odata) := by
  induction left generalizing i cr odata with
  | zero => exact Passed.none _ fun pin lower upper => by omega
  | succ left ih =>
    have head := configPin_passed config cr odata from_ (by omega) (by omega)
    have shifted : BitVec.twoPow 32 i <<< 1 = BitVec.twoPow 32 (i + 1) := by
      simp [BitVec.twoPow, BitVec.shiftLeft_add]
    rw [configPins, shifted]
    generalize configPin config _ first i _ cr odata = next at head ⊢
    have tail := ih (i + 1) next.1 next.2 (by omega) (by omega)
    rw [Nat.add_right_comm, Nat.add_assoc] at tail
    exact head.trans (by omega) (by omega) tail

/-- A loop with the test in front of it. -/
def half (config : GpioConfig) (first : Nat) (cr : BitVec 32) (odata : BitVec 16) :
    BitVec 32 × BitVec 16 :=
  if config.pin &&& (ones 16 8 <<< first) ≠ 0 then
    configPins config (modeBits config.mode config.speed) first 8 first (BitVec.twoPow 32 first)
      cr odata
  else (cr, odata)

theorem half_passed (config : GpioConfig) {first : Nat} (inside : first + 8 ≤ 16) (cr : BitVec 32)
    (odata : BitVec 16) :
    Passed config first first (first + 8) (cr, odata) (half config first cr odata) := by
  unfold half
  split
  case isTrue => exact configPins_passed config first inside 8 first cr odata (Nat.le_refl _) rfl
  case isFalse none =>
    exact Passed.none _ fun pin from_ below =>
      getLsbD_of_and_ones (Decidable.not_not.mp none) from_ below

theorem gpioConfig_eq (port : GpioPort) (config : GpioConfig) : gpioConfig port config =
    { cfglow := (half config 0 port.cfglow port.odata).1
      cfghig := (half config 8 port.cfghig (half config 0 port.cfglow port.odata).2).1
      odata := (half config 8 port.cfghig (half config 0 port.cfglow port.odata).2).2 } := by
  have low : half config 0 port.cfglow port.odata =
      if config.pin &&& 0xFF ≠ 0 then
        configPins config (modeBits config.mode config.speed) 0 8 0 0x01 port.cfglow port.odata
      else (port.cfglow, port.odata) := rfl
  have high (odata : BitVec 16) : half config 8 port.cfghig odata =
      if config.pin &&& 0xFF00 ≠ 0 then
        configPins config (modeBits config.mode config.speed) 8 8 8 0x100 port.cfghig odata
      else (port.cfghig, odata) := rfl
  rw [low, high, gpioConfig]
  split_ifs <;> rfl

/-- Exactly the selected pins get the mode's field and pull. -/
theorem gpioConfig_configured (port : GpioPort) (config : GpioConfig) :
    Configured config port (gpioConfig port config) := by
  have low := half_passed config (by decide : 0 + 8 ≤ 16) port.cfglow port.odata
  have high := half_passed config (by decide : 8 + 8 ≤ 16) port.cfghig
    (half config 0 port.cfglow port.odata).2
  rw [gpioConfig_eq]
  generalize half config 0 port.cfglow port.odata = first at low high ⊢
  generalize half config 8 port.cfghig first.2 = second at high ⊢
  constructor
  case fields =>
    intro pin
    have inside := pin.isLt
    simp only [GpioPort.pinField, GpioConfig.selects]
    by_cases below : pin.val < 8
    · simpa [below] using low.fields pin (Nat.zero_le _) (by omega)
    · have above : 8 ≤ pin.val := by omega
      simpa [below, above] using high.fields pin above (by omega)
  case latches =>
    intro pin
    have inside := pin.isLt
    have latch := high.latches pin inside
    rw [low.latches pin inside] at latch
    rw [latch, GpioConfig.selects]
    by_cases selected : config.pin.getLsbD pin = true
    · simp only [selected, and_true, if_true]
      split_ifs <;> first | rfl | omega
    · simp only [selected, Bool.false_eq_true, and_false, if_false]

end ApmSdk.StdPeriph
