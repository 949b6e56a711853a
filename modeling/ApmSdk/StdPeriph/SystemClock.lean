import ApmSdk.Lib.Polling
import ApmSdk.StdPeriph.Clock

set_option autoImplicit false

/-!
# The start of the system clock

`SystemInit` and the `SystemClock` functions, of which a build has one, against oscillators that
become ready when they like.
-/

namespace ApmSdk.StdPeriph.SystemClock

open Fields Polling
open Interleaved (Device Label events)

-- The macro that a build defines, `SYSTEM_CLOCK_HSE` to `SYSTEM_CLOCK_96MHz`.
inductive Choice where
  | hse
  | mhz24
  | mhz36
  | mhz48
  | mhz56
  | mhz72
  | mhz96
  deriving DecidableEq, Repr

/-- `HSE_VALUE` and `HSI_VALUE` as apm32f10x.h has them. -/
def build (line : Bool) : Build where
  connectivityLine := line
  hseValue := if line then 25000000 else 8000000
  hsiValue := 8000000

-- The initial value of `SystemCoreClock`.
def Choice.systemCoreClock (line : Bool) : Choice → BitVec 32
  | hse => (build line).hseValue
  | mhz24 => 24000000
  | mhz36 => 36000000
  | mhz48 => 48000000
  | mhz56 => 56000000
  | mhz72 => 72000000
  | mhz96 => 96000000

inductive Register where
  | ctrl
  | cfg
  | int
  | cfg2
  -- `FMC->CTRL1`.
  | ctrl1
  -- `SCB->VTOR`.
  | vtor
  deriving DecidableEq, Repr

/-- The registers as they were written, and beside them what only the hardware sets: the ready
flags of `CTRL` and `SCLKSELSTS` of `CFG`. -/
structure Hardware where
  ctrl : BitVec 32
  cfg : BitVec 32
  int : BitVec 32
  cfg2 : BitVec 32
  ctrl1 : BitVec 32
  vtor : BitVec 32
  hseReady : Bool
  pll1Ready : Bool
  pll2Ready : Bool
  used : BitVec 2

def flag (ready : Bool) : BitVec 32 := if ready then 1 else 0

namespace Hardware

def fetch (hardware : Hardware) : Register → BitVec 32
  | .ctrl => assign (assign (assign hardware.ctrl 17 1 (flag hardware.hseReady))
      25 1 (flag hardware.pll1Ready)) 27 1 (flag hardware.pll2Ready)
  | .cfg => assign hardware.cfg 2 2 (hardware.used.setWidth 32)
  | .int => hardware.int
  | .cfg2 => hardware.cfg2
  | .ctrl1 => hardware.ctrl1
  | .vtor => hardware.vtor

def store (hardware : Hardware) : Register → BitVec 32 → Hardware
  | .ctrl, value => { hardware with ctrl := value }
  | .cfg, value => { hardware with cfg := value }
  | .int, value => { hardware with int := value }
  | .cfg2, value => { hardware with cfg2 := value }
  | .ctrl1, value => { hardware with ctrl1 := value }
  | .vtor, value => { hardware with vtor := value }

end Hardware

inductive Event where
  | hseReady
  | pll1Ready
  | pll2Ready
  -- The multiplexer takes the selected clock over.
  | switched
  deriving DecidableEq, Repr

-- An oscillator that is enabled may become ready, and one that is ready may be taken over.
def Hardware.move (hardware : Hardware) : Event → Hardware
  | .hseReady => { hardware with hseReady := hardware.hseReady || hardware.ctrl.getLsbD 16 }
  | .pll1Ready => { hardware with pll1Ready := hardware.pll1Ready || hardware.ctrl.getLsbD 24 }
  | .pll2Ready => { hardware with pll2Ready := hardware.pll2Ready || hardware.ctrl.getLsbD 26 }
  | .switched =>
      match (field hardware.cfg 0 2).toNat with
      | 0 => { hardware with used := 0 }
      | 1 => if hardware.hseReady then { hardware with used := 1 } else hardware
      | 2 => if hardware.pll1Ready then { hardware with used := 2 } else hardware
      | _ => hardware

def device : Device Register 32 Hardware Event := ⟨Hardware.fetch, Hardware.store, Hardware.move⟩

abbrev Program := Polling.Program Register 32 Unit

def assignField (register : Register) (offset count : Nat) (value : BitVec 32) : Program :=
  .modify register fun old => assign old offset count value

-- `register &= mask;`
def andRegister (register : Register) (mask : BitVec 32) : Program :=
  .modify register fun old => old &&& mask

def hseStartupTimeout : Nat := 0x05000

-- What all the functions begin with.
def startHse (configure : Program) : Program := do
  assignField .ctrl 16 1 1
  .attempt .ctrl (fun ctrl => ctrl.getLsbD 17) hseStartupTimeout
  let ctrl ← .get .ctrl
  if ctrl.getLsbD 17 then configure else pure ()

def hseWaitStates (build : Build) : BitVec 32 :=
  if build.connectivityLine then if build.hseValue ≤ 24000000 then 0 else 1 else 0

def systemClockHSE (build : Build) : Program := startHse do
  assignField .ctrl1 4 1 1
  assignField .ctrl1 0 3 (hseWaitStates build)
  assignField .cfg 4 4 0
  assignField .cfg 11 3 0
  assignField .cfg 8 3 0
  assignField .cfg 0 2 1
  .wait .cfg fun cfg => field cfg 2 2 = 1

/-- The values in which the functions for the PLL differ. -/
structure Plan where
  ws : BitVec 32
  apb1psc : BitVec 32
  pllpsc1 : BitVec 32
  pll2mul : BitVec 32
  pll1mulcfgCl : BitVec 32
  -- `PLLHSEPSC` is written in two of them only.
  halved : Bool
  pll1mulcfg : BitVec 32

def configurePll2 (plan : Plan) : Program := do
  assignField .cfg2 4 4 4
  assignField .cfg2 8 4 plan.pll2mul
  assignField .cfg2 16 1 1
  assignField .cfg2 0 4 plan.pllpsc1
  assignField .ctrl 26 1 1
  .wait .ctrl fun ctrl => ctrl.getLsbD 27
  assignField .cfg 16 1 1
  assignField .cfg 18 4 plan.pll1mulcfgCl

def configureHse (plan : Plan) : Program := do
  assignField .cfg 16 1 1
  (if plan.halved then assignField .cfg 17 1 1 else pure ())
  assignField .cfg 18 4 plan.pll1mulcfg

def configurePll (build : Build) (plan : Plan) : Program := do
  assignField .ctrl1 4 1 1
  assignField .ctrl1 0 3 plan.ws
  assignField .cfg 4 4 0
  assignField .cfg 11 3 0
  assignField .cfg 8 3 plan.apb1psc
  (if build.connectivityLine then configurePll2 plan else configureHse plan)
  assignField .ctrl 24 1 1
  .wait .ctrl fun ctrl => ctrl.getLsbD 25
  assignField .cfg 0 2 2
  .wait .cfg fun cfg => field cfg 2 2 = 2

def plan24M : Plan := ⟨0, 0, 9, 0x06, 4, true, 4⟩
def plan36M : Plan := ⟨1, 0, 9, 0x06, 7, true, 7⟩
def plan48M : Plan := ⟨1, 4, 0x4, 0x06, 4, false, 4⟩
def plan56M : Plan := ⟨2, 4, 0x4, 0x06, 5, false, 5⟩
def plan72M : Plan := ⟨2, 4, 0x4, 0x06, 7, false, 7⟩
def plan96M : Plan := ⟨3, 4, 4, 10, 6, false, 10⟩

def systemClock24M (build : Build) : Program := startHse (configurePll build plan24M)
def systemClock36M (build : Build) : Program := startHse (configurePll build plan36M)
def systemClock48M (build : Build) : Program := startHse (configurePll build plan48M)
def systemClock56M (build : Build) : Program := startHse (configurePll build plan56M)
def systemClock72M (build : Build) : Program := startHse (configurePll build plan72M)
def systemClock96M (build : Build) : Program := startHse (configurePll build plan96M)

def systemClockConfig (build : Build) : Choice → Program
  | .hse => systemClockHSE build
  | .mhz24 => systemClock24M build
  | .mhz36 => systemClock36M build
  | .mhz48 => systemClock48M build
  | .mhz56 => systemClock56M build
  | .mhz72 => systemClock72M build
  | .mhz96 => systemClock96M build

def resetPlls (build : Build) : Program :=
  if build.connectivityLine then do
    andRegister .ctrl 0xEBFFFFFF
    .put .int 0x00FF0000
    .put .cfg2 0x00000000
  else .put .int 0x009F0000

def systemInit (build : Build) (choice : Choice) : Program := do
  assignField .ctrl 0 1 1
  andRegister .cfg (if build.connectivityLine then 0xF0FF0000 else 0xF8FF0000)
  andRegister .ctrl 0xFEF6FFFF
  assignField .ctrl 18 1 0
  andRegister .cfg 0xFF80FFFF
  resetPlls build
  systemClockConfig build choice
  -- `FMC_BASE | VECT_TAB_OFFSET`.
  .put .vtor 0x08000000

/-! ## What is safe -/

/-- The clock registers with the clock in use at the place of the clock selected. -/
def Hardware.inUse (hardware : Hardware) : Rcm :=
  ⟨assign hardware.cfg 0 2 (hardware.used.setWidth 32), hardware.cfg2⟩

-- The limits are those of the device, no comment of the source has them. A wait state for every
-- 24 MHz after the first.
def flashLimit (ws : BitVec 3) : Nat := 24000000 * (ws.toNat + 1)

-- The devices that run at 96 MHz have the faster bus.
def pclk1Limit : Choice → Nat
  | .mhz96 => 48000000
  | _ => 36000000

structure Safe (line : Bool) (choice : Choice) (hardware : Hardware) : Prop where
  hse : hardware.used = 1 → hardware.hseReady = true
  pll : hardware.used = 2 →
    hardware.pll1Ready = true ∧ (line = true → hardware.pll2Ready = true)
  other : hardware.used ≠ 3
  flash : (readSysclkFreq (build line) hardware.inUse).toNat ≤ flashLimit (field hardware.ctrl1 0 3)
  pclk1 : (readPclkFreq (build line) hardware.inUse).1.toNat ≤ pclk1Limit choice
  /-- The PLL is on only with the multiplication of this choice. -/
  locked : hardware.ctrl.getLsbD 24 = true →
    readSysclkFreq (build line) ⟨assign hardware.cfg 0 2 2, hardware.cfg2⟩ =
      choice.systemCoreClock line

/-- HSI is selected and in use, nothing else runs. -/
structure AfterReset (hardware : Hardware) : Prop where
  selected : field hardware.cfg 0 2 = 0
  used : hardware.used = 0
  disabled : hardware.ctrl &&& 0x05010000 = 0
  stopped : hardware.hseReady = false ∧ hardware.pll1Ready = false ∧ hardware.pll2Ready = false

-- The registers after a reset.
def reset : Hardware where
  ctrl := 0x00000083
  cfg := 0
  int := 0
  cfg2 := 0
  ctrl1 := 0x00000030
  vtor := 0
  hseReady := false
  pll1Ready := false
  pll2Ready := false
  used := 0

theorem afterReset_reset : AfterReset reset := ⟨by decide, rfl, by decide, rfl, rfl, rfl⟩

/-! ## The fields that matter -/

def ctrlMask : BitVec 32 := 0x05000000
def cfgMask : BitVec 32 := 0x003F3FF3
def cfg2Mask (line : Bool) : BitVec 32 := if line then 0x00010FFF else 0

structure Words where
  ctrl : BitVec 32
  cfg : BitVec 32
  cfg2 : BitVec 32
  ws : BitVec 3
  deriving DecidableEq

def Hardware.words (line : Bool) (hardware : Hardware) : Words where
  ctrl := hardware.ctrl &&& ctrlMask
  cfg := hardware.cfg &&& cfgMask
  cfg2 := hardware.cfg2 &&& cfg2Mask line
  ws := field hardware.ctrl1 0 3

def Words.select (words : Words) : BitVec 2 := field words.cfg 0 2

def Words.rcm (words : Words) (source : BitVec 2) : Rcm :=
  ⟨assign words.cfg 0 2 (source.setWidth 32) &&& cfgMask, words.cfg2⟩

theorem readSysclkFreq_masked (line : Bool) (rcm : Rcm) :
    readSysclkFreq (build line) ⟨rcm.cfg &&& cfgMask, rcm.cfg2 &&& cfg2Mask line⟩ =
      readSysclkFreq (build line) rcm := by
  have select : field (rcm.cfg &&& cfgMask) 0 2 = field rcm.cfg 0 2 :=
    field_and_inside rcm.cfg (by decide)
  have source : field (rcm.cfg &&& cfgMask) 16 1 = field rcm.cfg 16 1 :=
    field_and_inside rcm.cfg (by decide)
  have half : field (rcm.cfg &&& cfgMask) 17 1 = field rcm.cfg 17 1 :=
    field_and_inside rcm.cfg (by decide)
  have factor : field (rcm.cfg &&& cfgMask) 18 4 = field rcm.cfg 18 4 :=
    field_and_inside rcm.cfg (by decide)
  cases line with
  | false =>
    simp only [readSysclkFreq, pllClock, Rcm.sclksel, Rcm.pll1mulcfg, Rcm.pll1srcsel, Rcm.pllhsepsc,
      select, source, half, factor, build]
    rfl
  | true =>
    have first : field (rcm.cfg2 &&& cfg2Mask true) 0 4 = field rcm.cfg2 0 4 :=
      field_and_inside rcm.cfg2 (by decide)
    have second : field (rcm.cfg2 &&& cfg2Mask true) 4 4 = field rcm.cfg2 4 4 :=
      field_and_inside rcm.cfg2 (by decide)
    have factor2 : field (rcm.cfg2 &&& cfg2Mask true) 8 4 = field rcm.cfg2 8 4 :=
      field_and_inside rcm.cfg2 (by decide)
    have source2 : field (rcm.cfg2 &&& cfg2Mask true) 16 1 = field rcm.cfg2 16 1 :=
      field_and_inside rcm.cfg2 (by decide)
    simp only [readSysclkFreq, pllClockCl, Rcm.sclksel, Rcm.pll1mulcfg, Rcm.pll1srcsel, Rcm.pllpsc1,
      Rcm.pllpsc2, Rcm.pll2mul, Rcm.pllpsc1src, select, source, factor, first, second, factor2,
      source2, build]
    rfl

theorem readPclkFreq_masked (line : Bool) (rcm : Rcm) :
    readPclkFreq (build line) ⟨rcm.cfg &&& cfgMask, rcm.cfg2 &&& cfg2Mask line⟩ =
      readPclkFreq (build line) rcm := by
  have ahb : field (rcm.cfg &&& cfgMask) 4 4 = field rcm.cfg 4 4 :=
    field_and_inside rcm.cfg (by decide)
  have apb1 : field (rcm.cfg &&& cfgMask) 8 3 = field rcm.cfg 8 3 :=
    field_and_inside rcm.cfg (by decide)
  have apb2 : field (rcm.cfg &&& cfgMask) 11 3 = field rcm.cfg 11 3 :=
    field_and_inside rcm.cfg (by decide)
  simp only [readPclkFreq, readHclkFreq, readSysclkFreq_masked, Rcm.ahbpsc, Rcm.apb1psc,
    Rcm.apb2psc, ahb, apb1, apb2]

theorem rcm_words (line : Bool) (hardware : Hardware) (source : BitVec 2) :
    (hardware.words line).rcm source =
      ⟨assign hardware.cfg 0 2 (source.setWidth 32) &&& cfgMask,
        hardware.cfg2 &&& cfg2Mask line⟩ := by
  rw [Words.rcm, Hardware.words, ← assign_and]

theorem readSysclkFreq_words (line : Bool) (hardware : Hardware) (source : BitVec 2) :
    readSysclkFreq (build line) ((hardware.words line).rcm source) =
      readSysclkFreq (build line) ⟨assign hardware.cfg 0 2 (source.setWidth 32), hardware.cfg2⟩ := by
  rw [rcm_words]
  exact readSysclkFreq_masked line ⟨assign hardware.cfg 0 2 (source.setWidth 32), hardware.cfg2⟩

theorem readPclkFreq_words (line : Bool) (hardware : Hardware) (source : BitVec 2) :
    readPclkFreq (build line) ((hardware.words line).rcm source) =
      readPclkFreq (build line) ⟨assign hardware.cfg 0 2 (source.setWidth 32), hardware.cfg2⟩ := by
  rw [rcm_words]
  exact readPclkFreq_masked line ⟨assign hardware.cfg 0 2 (source.setWidth 32), hardware.cfg2⟩

theorem select_words (line : Bool) (hardware : Hardware) :
    (hardware.words line).select = field hardware.cfg 0 2 :=
  field_and_inside hardware.cfg (by decide)

/-! ## Stages of the program -/

structure Known where
  hse : Bool
  pll1 : Bool
  pll2 : Bool

/-- The fields are these, and these oscillators are known to be ready. -/
structure Stage (line : Bool) (words : Words) (known : Known) (hardware : Hardware) : Prop where
  same : hardware.words line = words
  hse : known.hse = true → hardware.hseReady = true
  pll1 : known.pll1 = true → hardware.pll1Ready = true
  pll2 : known.pll2 = true → hardware.pll2Ready = true
  used : hardware.used = 0 ∨ hardware.used = words.select

/-- A clock that may be in use is ready and not too fast. -/
structure Fine (line : Bool) (choice : Choice) (words : Words) (known : Known)
    (source : BitVec 2) : Prop where
  hse : source = 1 → known.hse = true
  pll : source = 2 → known.pll1 = true ∧ (line = true → known.pll2 = true)
  other : source ≠ 3
  flash : (readSysclkFreq (build line) (words.rcm source)).toNat ≤ flashLimit words.ws
  pclk1 : (readPclkFreq (build line) (words.rcm source)).1.toNat ≤ pclk1Limit choice

structure Checked (line : Bool) (choice : Choice) (words : Words) (known : Known) : Prop where
  initial : Fine line choice words known 0
  selected : Fine line choice words known words.select
  locked : words.ctrl.getLsbD 24 = true →
    readSysclkFreq (build line) (words.rcm 2) = choice.systemCoreClock line

theorem Stage.safe {line : Bool} {choice : Choice} {words : Words} {known : Known}
    {hardware : Hardware} (checked : Checked line choice words known)
    (held : Stage line words known hardware) : Safe line choice hardware := by
  have fine : Fine line choice words known hardware.used := by
    obtain hsi | switched := held.used
    next => exact hsi ▸ checked.initial
    next => exact switched ▸ checked.selected
  obtain rfl := held.same
  exact {
    hse := fun used => held.hse (fine.hse used)
    pll := fun used => ⟨held.pll1 (fine.pll used).1, fun on => held.pll2 ((fine.pll used).2 on)⟩
    other := fine.other
    flash := readSysclkFreq_words line hardware hardware.used ▸ fine.flash
    pclk1 := readPclkFreq_words line hardware hardware.used ▸ fine.pclk1
    locked := fun on => by
      have enabled : (hardware.words line).ctrl.getLsbD 24 = true := by
        simp only [Hardware.words, ctrlMask, BitVec.getLsbD_and, on, Bool.true_and]
        decide
      rw [← checked.locked enabled, readSysclkFreq_words]
      rfl }

theorem Stage.moved {line : Bool} {words : Words} {known : Known} {hardware : Hardware}
    (held : Stage line words known hardware) (event : Event) :
    Stage line words known (hardware.move event) := by
  cases event with
  | hseReady => exact { held with hse := fun on => by simp [Hardware.move, held.hse on] }
  | pll1Ready => exact { held with pll1 := fun on => by simp [Hardware.move, held.pll1 on] }
  | pll2Ready => exact { held with pll2 := fun on => by simp [Hardware.move, held.pll2 on] }
  | switched =>
    have selected : field hardware.cfg 0 2 = words.select := by
      rw [← held.same, select_words]
    have taken : ∀ source, source = words.select →
        Stage line words known { hardware with used := source } := fun source same =>
      ⟨held.same, held.hse, held.pll1, held.pll2, .inr same⟩
    simp only [Hardware.move, selected]
    split
    next zero => exact taken 0 (BitVec.eq_of_toNat_eq zero.symm)
    next one =>
      split
      next => exact taken 1 (BitVec.eq_of_toNat_eq one.symm)
      next => exact held
    next two =>
      split
      next => exact taken 2 (BitVec.eq_of_toNat_eq two.symm)
      next => exact held
    next => exact held

def free : Event → Prop := fun _ => True

theorem Checked.stable {line : Bool} {choice : Choice} {words : Words} {known : Known}
    (checked : Checked line choice words known) :
    Stable device free (Safe line choice) (Stage line words known) where
  kept _ event held _ := held.moved event
  safe _ held := held.safe checked

theorem words_eq_of_comes {line : Bool} {allowed : Event → Prop} {hardware later : Hardware}
    (comes : Comes device allowed hardware later) : later.words line = hardware.words line := by
  have kept : ∀ now event, now.words line = hardware.words line → allowed event →
      (device.move now event).words line = hardware.words line := by
    intro now event same _
    rw [← same]
    cases event with
    | switched =>
      simp only [device, Hardware.move]
      split
      next => rfl
      next => split <;> rfl
      next => split <;> rfl
      next => rfl
    | _ => rfl
  exact comes.keeps kept rfl

/-! ### Assignments -/

def Words.assign (line : Bool) (words : Words) (register : Register) (offset count : Nat)
    (value : BitVec 32) : Words :=
  match register with
  | .ctrl => { words with ctrl := Fields.assign words.ctrl offset count value &&& ctrlMask }
  | .cfg => { words with cfg := Fields.assign words.cfg offset count value &&& cfgMask }
  | .cfg2 => { words with cfg2 := Fields.assign words.cfg2 offset count value &&& cfg2Mask line }
  | .ctrl1 => { words with ws := if offset = 0 then value.setWidth 3 else words.ws }
  | _ => words

/-- The assignments that `Words.assign` follows. -/
def followed : Register → Nat → Nat → Bool
  | .ctrl1, offset, count => (offset == 0 && count == 3) || decide (3 ≤ offset)
  | .int, _, _ => false
  | .vtor, _, _ => false
  | _, _, _ => true

theorem fetch_ctrl_and (hardware : Hardware) :
    hardware.fetch .ctrl &&& ctrlMask = hardware.ctrl &&& ctrlMask := by
  rw [Hardware.fetch, assign_and_outside _ _ (by decide), assign_and_outside _ _ (by decide),
    assign_and_outside _ _ (by decide)]

theorem fetch_cfg_and (hardware : Hardware) :
    hardware.fetch .cfg &&& cfgMask = hardware.cfg &&& cfgMask := by
  rw [Hardware.fetch, assign_and_outside _ _ (by decide)]

theorem words_assign {line : Bool} {state later : Hardware} {register : Register}
    {offset count : Nat} (follows : followed register offset count = true) (value : BitVec 32)
    (same : later.words line = state.words line) :
    (later.store register (assign (state.fetch register) offset count value)).words line =
      (state.words line).assign line register offset count value := by
  have parts := Words.mk.injEq .. ▸ same
  obtain ⟨ctrl, cfg, cfg2, ws⟩ := parts
  cases register with
  | ctrl =>
    simp only [Hardware.words, Hardware.store, Words.assign, cfg, cfg2, ws]
    rw [assign_and, fetch_ctrl_and]
  | cfg =>
    simp only [Hardware.words, Hardware.store, Words.assign, ctrl, cfg2, ws]
    rw [assign_and, fetch_cfg_and]
  | cfg2 =>
    simp only [Hardware.words, Hardware.store, Words.assign, ctrl, cfg, ws]
    rw [assign_and]
    rfl
  | ctrl1 =>
    simp only [Hardware.words, Hardware.store, Words.assign, ctrl, cfg, cfg2]
    obtain ⟨rfl, rfl⟩ | above : offset = 0 ∧ count = 3 ∨ 3 ≤ offset := by
      simpa [followed] using follows
    next => simp [field_assign_self]
    next =>
      have outside : offset ≠ 0 := by omega
      rw [if_neg outside, field_assign_apart _ _ (by decide) (by omega)]
      rfl
  | int => cases follows
  | vtor => cases follows

theorem Stage.stored {line : Bool} {words next : Words} {known : Known} {hardware : Hardware}
    (held : Stage line words known hardware) {register : Register} {value : BitVec 32}
    (same : (hardware.store register value).words line = next)
    (select : words.select = 0 ∨ next.select = words.select) :
    Stage line next known (hardware.store register value) := by
  have flags : (hardware.store register value).used = hardware.used ∧
      (hardware.store register value).hseReady = hardware.hseReady ∧
      (hardware.store register value).pll1Ready = hardware.pll1Ready ∧
      (hardware.store register value).pll2Ready = hardware.pll2Ready := by
    cases register <;> exact ⟨rfl, rfl, rfl, rfl⟩
  obtain ⟨used, hse, pll1, pll2⟩ := flags
  constructor
  case same => exact same
  case hse => exact fun on => hse.trans (held.hse on)
  case pll1 => exact fun on => pll1.trans (held.pll1 on)
  case pll2 => exact fun on => pll2.trans (held.pll2 on)
  case used =>
    obtain hsi | switched := held.used
    next => exact .inl (used.trans hsi)
    next =>
      obtain zero | kept := select
      next => exact .inl (used.trans (switched.trans zero))
      next => exact .inr (used.trans (switched.trans kept.symm))

section Rules

variable {line : Bool} {choice : Choice} {words : Words} {known : Known} {hardware : Hardware}
  {register : Register} {offset count : Nat} {value : BitVec 32}

theorem Stage.assignField (held : Stage line words known hardware)
    (checked : Checked line choice words known)
    (next : Checked line choice (words.assign line register offset count value) known)
    (follows : followed register offset count = true)
    (select : words.select = 0 ∨
      (words.assign line register offset count value).select = words.select) :
    Assured device free (Safe line choice)
      (fun _ => Stage line (words.assign line register offset count value) known)
      (assignField register offset count value) hardware := by
  refine checked.stable.modify next.stable ?_ held
  intro state later before comes after
  exact after.stored (before.same ▸ words_assign follows value (words_eq_of_comes comes)) select

theorem Stage.wait {found : BitVec 32 → Bool} {more : Known}
    (held : Stage line words known hardware) (checked : Checked line choice words known)
    (next : Checked line choice words more)
    (learns : ∀ hardware : Hardware, Stage line words known hardware →
      found (hardware.fetch register) = true → Stage line words more hardware) :
    Assured device free (Safe line choice) (fun _ => Stage line words more)
      (Polling.Program.wait register found) hardware :=
  checked.stable.wait next.stable learns held

end Rules

/-- While HSI is selected and the PLL is off there is nothing to check. -/
structure Idle (words : Words) : Prop where
  select : words.select = 0
  off : words.ctrl.getLsbD 24 = false

theorem pclk1_le_sysclk (build : Build) (rcm : Rcm) :
    (readPclkFreq build rcm).1.toNat ≤ (readSysclkFreq build rcm).toNat := by
  simp only [readPclkFreq, readHclkFreq, BitVec.toNat_ushiftRight, Nat.shiftRight_eq_div_pow]
  exact (Nat.div_le_self _ _).trans (Nat.div_le_self _ _)

theorem Idle.checked {words : Words} (idle : Idle words) (line : Bool) (choice : Choice)
    (known : Known) : Checked line choice words known := by
  have hsi : readSysclkFreq (build line) (words.rcm 0) = 8000000 := by
    have source : (words.rcm 0).sclksel = 0 := by
      have kept : field (words.rcm 0).cfg 0 2 = 0 := by
        rw [Words.rcm, field_and_inside _ (by decide), field_assign_self _ _ (by decide)]
        rfl
      rw [Rcm.sclksel, kept]
      rfl
    simp only [readSysclkFreq, source]
    rfl
  have fine : Fine line choice words known 0 := by
    constructor
    case hse => exact fun used => absurd used (by decide)
    case pll => exact fun used => absurd used (by decide)
    case other => decide
    case flash =>
      rw [hsi, flashLimit]
      have few : (8000000 : BitVec 32).toNat = 8000000 := rfl
      omega
    case pclk1 =>
      refine (pclk1_le_sysclk _ _).trans ?_
      rw [hsi]
      cases choice <;> decide
  exact ⟨fine, idle.select ▸ fine, fun on => absurd on (idle.off ▸ Bool.false_ne_true)⟩

/-- The assignments that leave the selection and the switch of the PLL. -/
def apart : Register → Nat → Nat → Bool
  | .cfg, offset, _ => decide (2 ≤ offset)
  | .ctrl, offset, count => decide (24 < offset ∨ offset + count ≤ 24)
  | _, _, _ => true

theorem Idle.assign {words : Words} (idle : Idle words) (line : Bool) {register : Register}
    {offset count : Nat} (leaves : apart register offset count = true) (value : BitVec 32) :
    Idle (words.assign line register offset count value) := by
  cases register with
  | cfg =>
    have above : 2 ≤ offset := by simpa [apart] using leaves
    constructor
    case select =>
      rw [Words.select, Words.assign, field_and_inside _ (by decide),
        field_assign_apart _ _ (by decide) (by omega)]
      exact idle.select
    case off => exact idle.off
  | ctrl =>
    have outside : 24 < offset ∨ offset + count ≤ 24 := by simpa [apart] using leaves
    constructor
    case select => exact idle.select
    case off =>
      rw [Words.assign, BitVec.getLsbD_and, getLsbD_assign _ _ _ _ (by decide), if_neg (by omega),
        idle.off, Bool.false_and]
  | int => exact idle
  | cfg2 => exact ⟨idle.select, idle.off⟩
  | ctrl1 => exact ⟨idle.select, idle.off⟩
  | vtor => exact idle

structure Resting (line : Bool) (words : Words) (known : Known) (hardware : Hardware) : Prop
    extends Stage line words known hardware where
  idle : Idle words

theorem Idle.stable {words : Words} (idle : Idle words) (line : Bool) (choice : Choice)
    (known : Known) :
    Stable device free (Safe line choice) (Resting line words known) where
  safe _ held := held.toStage.safe (idle.checked line choice known)
  kept _ event held _ := ⟨held.toStage.moved event, idle⟩

/-- Writing what does not concern the clock in use. -/
theorem Resting.configure {line : Bool} {choice : Choice} {words : Words} {known : Known}
    {hardware : Hardware} {register : Register} {offset count : Nat} {value : BitVec 32}
    (held : Resting line words known hardware)
    (follows : followed register offset count = true)
    (leaves : apart register offset count = true) :
    Assured device free (Safe line choice)
      (fun _ => Resting line (words.assign line register offset count value) known)
      (assignField register offset count value) hardware := by
  have idle := held.idle.assign line leaves value
  have assured := held.assignField (held.idle.checked line choice known)
    (idle.checked line choice known) follows (.inl held.idle.select)
  exact assured.mono fun _ _ stage => ⟨stage, idle⟩

/-! ### The PLL -/

/-- The bus prescalers and the wait states are written. -/
def Plan.bus (line : Bool) (plan : Plan) : Words :=
  (((Words.mk 0 0 0 (plan.ws.setWidth 3)).assign line .cfg 4 4 0).assign line .cfg 11 3 0).assign
    line .cfg 8 3 plan.apb1psc

/-- PLL2 is on. -/
def Plan.pll2 (plan : Plan) : Words :=
  (((((plan.bus true).assign true .cfg2 4 4 4).assign true .cfg2 8 4 plan.pll2mul).assign
    true .cfg2 16 1 1).assign true .cfg2 0 4 plan.pllpsc1).assign true .ctrl 26 1 1

/-- The PLL is about to be enabled. -/
def Plan.words (plan : Plan) : Bool → Words
  | true => (plan.pll2.assign true .cfg 16 1 1).assign true .cfg 18 4 plan.pll1mulcfgCl
  | false =>
      let source := (plan.bus false).assign false .cfg 16 1 1
      (if plan.halved then source.assign false .cfg 17 1 1 else source).assign
        false .cfg 18 4 plan.pll1mulcfg

structure Plan.Right (line : Bool) (choice : Choice) (plan : Plan) : Prop where
  enabled : Checked line choice ((plan.words line).assign line .ctrl 24 1 1) ⟨true, false, line⟩
  ready : Checked line choice ((plan.words line).assign line .ctrl 24 1 1) ⟨true, true, line⟩
  selected : Checked line choice
    (((plan.words line).assign line .ctrl 24 1 1).assign line .cfg 0 2 2) ⟨true, true, line⟩

/-- The clock selected is in use. -/
structure Settled (line : Bool) (words : Words) (known : Known) (hardware : Hardware) : Prop
    extends Stage line words known hardware where
  switched : hardware.used = words.select

theorem Settled.stable {line : Bool} {choice : Choice} {words : Words} {known : Known}
    (checked : Checked line choice words known) :
    Stable device free (Safe line choice) (Settled line words known) where
  safe _ held := held.toStage.safe checked
  kept now event held _ := by
    refine ⟨held.toStage.moved event, ?_⟩
    have selected : field now.cfg 0 2 = words.select := by rw [← held.same, select_words]
    cases event with
    | switched =>
      simp only [device, Hardware.move, selected]
      split
      next zero => exact BitVec.eq_of_toNat_eq zero.symm
      next one =>
        split
        next => exact BitVec.eq_of_toNat_eq one.symm
        next => exact held.switched
      next two =>
        split
        next => exact BitVec.eq_of_toNat_eq two.symm
        next => exact held.switched
      next => exact held.switched
    | _ => exact held.switched

theorem field_fetch_cfg (hardware : Hardware) : field (hardware.fetch .cfg) 2 2 = hardware.used := by
  rw [Hardware.fetch, field_assign_self _ _ (by decide)]
  simp

theorem Stage.settle {line : Bool} {choice : Choice} {words : Words} {known : Known}
    {hardware : Hardware} (held : Stage line words known hardware)
    (checked : Checked line choice words known) {source : BitVec 2}
    (selected : words.select = source) :
    Assured device free (Safe line choice) (fun _ => Settled line words known)
      (.wait .cfg fun cfg => field cfg 2 2 = source) hardware := by
  refine checked.stable.wait (Settled.stable checked) ?_ held
  intro now stage seen
  refine ⟨stage, ?_⟩
  rw [← field_fetch_cfg now, selected]
  exact of_decide_eq_true seen

theorem select_assign (line : Bool) (words : Words) (value : BitVec 32) :
    (words.assign line .cfg 0 2 value).select = value.setWidth 2 := by
  rw [Words.select, Words.assign, field_and_inside _ (by decide), field_assign_self _ _ (by decide)]

theorem Stage.learn_pll2 {words : Words} {hardware : Hardware}
    (held : Stage true words ⟨true, false, false⟩ hardware)
    (seen : (hardware.fetch .ctrl).getLsbD 27 = true) :
    Stage true words ⟨true, false, true⟩ hardware := by
  refine { held with pll2 := fun _ => ?_ }
  rw [Hardware.fetch, getLsbD_assign _ _ _ _ (by decide)] at seen
  cases ready : hardware.pll2Ready with
  | true => rfl
  | false => simp [flag, ready] at seen

theorem Stage.learn_pll1 {line : Bool} {words : Words} {hardware : Hardware}
    (held : Stage line words ⟨true, false, line⟩ hardware)
    (seen : (hardware.fetch .ctrl).getLsbD 25 = true) :
    Stage line words ⟨true, true, line⟩ hardware := by
  refine { held with pll1 := fun _ => ?_ }
  rw [Hardware.fetch, getLsbD_assign _ _ _ _ (by decide), if_neg (by decide),
    getLsbD_assign _ _ _ _ (by decide)] at seen
  cases ready : hardware.pll1Ready with
  | true => rfl
  | false => simp [flag, ready] at seen

theorem configureSource_assured {line : Bool} {choice : Choice} {plan : Plan}
    {hardware : Hardware} (held : Resting line (plan.bus line) ⟨true, false, false⟩ hardware) :
    Assured device free (Safe line choice)
      (fun _ => Resting line (plan.words line) ⟨true, false, line⟩)
      (if (build line).connectivityLine then configurePll2 plan else configureHse plan) hardware := by
  cases line with
  | false =>
    refine (held.configure rfl rfl).then fun _ now held => ?_
    have halve : Assured device free (Safe false choice)
        (fun _ => Resting false
          (if plan.halved then ((plan.bus false).assign false .cfg 16 1 1).assign false .cfg 17 1 1
            else (plan.bus false).assign false .cfg 16 1 1) ⟨true, false, false⟩)
        (if plan.halved then assignField .cfg 17 1 1 else pure ()) now := by
      cases plan.halved with
      | false => exact (held.idle.stable false choice _).done () held
      | true => exact held.configure rfl rfl
    refine halve.then fun _ _ held => ?_
    exact held.configure rfl rfl
  | true =>
    refine (held.configure rfl rfl).then fun _ _ held => ?_
    refine (held.configure rfl rfl).then fun _ _ held => ?_
    refine (held.configure rfl rfl).then fun _ _ held => ?_
    refine (held.configure rfl rfl).then fun _ _ held => ?_
    refine (held.configure rfl rfl).then fun _ _ held => ?_
    have idle := held.idle
    have learned : Assured device free (Safe true choice)
        (fun _ => Stage true plan.pll2 ⟨true, false, true⟩)
        (.wait .ctrl fun ctrl => ctrl.getLsbD 27) _ :=
      held.wait (idle.checked true choice _) (idle.checked true choice _)
        fun _ stage seen => stage.learn_pll2 seen
    refine learned.then fun _ _ stage => ?_
    have held : Resting true _ ⟨true, false, true⟩ _ := ⟨stage, idle⟩
    refine (held.configure rfl rfl).then fun _ _ held => ?_
    exact held.configure rfl rfl

theorem configurePll_assured {line : Bool} {choice : Choice} {plan : Plan}
    (right : plan.Right line choice) {hardware : Hardware} {ws : BitVec 3}
    (held : Resting line ⟨0, 0, 0, ws⟩ ⟨true, false, false⟩ hardware) :
    Assured device free (Safe line choice)
      (fun _ => Settled line
        (((plan.words line).assign line .ctrl 24 1 1).assign line .cfg 0 2 2) ⟨true, true, line⟩)
      (configurePll (build line) plan) hardware := by
  refine (held.configure rfl rfl).then fun _ _ held => ?_
  refine (held.configure rfl rfl).then fun _ _ held => ?_
  refine (held.configure rfl rfl).then fun _ _ held => ?_
  refine (held.configure rfl rfl).then fun _ _ held => ?_
  refine (held.configure rfl rfl).then fun _ _ held => ?_
  refine (configureSource_assured held).then fun _ _ held => ?_
  have idle := held.idle
  have on : Assured device free (Safe line choice)
      (fun _ => Stage line ((plan.words line).assign line .ctrl 24 1 1) ⟨true, false, line⟩)
      (assignField .ctrl 24 1 1) _ :=
    held.assignField (held.idle.checked line choice _) right.enabled rfl (.inl held.idle.select)
  refine on.then fun _ _ held => ?_
  refine (held.wait right.enabled right.ready fun _ stage seen => stage.learn_pll1 seen).then
    fun _ _ held => ?_
  have selected : Assured device free (Safe line choice)
      (fun _ => Stage line (((plan.words line).assign line .ctrl 24 1 1).assign line .cfg 0 2 2)
        ⟨true, true, line⟩) (assignField .cfg 0 2 2) _ :=
    held.assignField right.ready right.selected rfl (.inl idle.select)
  refine selected.then fun _ _ held => ?_
  exact held.settle right.selected (select_assign line _ 2)

/-! ### The whole -/

instance (line : Bool) (choice : Choice) (words : Words) (known : Known) (source : BitVec 2) :
    Decidable (Fine line choice words known source) :=
  decidable_of_iff
    ((source = 1 → known.hse = true) ∧
      (source = 2 → known.pll1 = true ∧ (line = true → known.pll2 = true)) ∧ source ≠ 3 ∧
      (readSysclkFreq (build line) (words.rcm source)).toNat ≤ flashLimit words.ws ∧
      (readPclkFreq (build line) (words.rcm source)).1.toNat ≤ pclk1Limit choice)
    ⟨fun ⟨hse, pll, other, flash, pclk1⟩ => ⟨hse, pll, other, flash, pclk1⟩,
      fun fine => ⟨fine.hse, fine.pll, fine.other, fine.flash, fine.pclk1⟩⟩

instance (line : Bool) (choice : Choice) (words : Words) (known : Known) :
    Decidable (Checked line choice words known) :=
  decidable_of_iff
    (Fine line choice words known 0 ∧ Fine line choice words known words.select ∧
      (words.ctrl.getLsbD 24 = true →
        readSysclkFreq (build line) (words.rcm 2) = choice.systemCoreClock line))
    ⟨fun ⟨initial, selected, locked⟩ => ⟨initial, selected, locked⟩,
      fun checked => ⟨checked.initial, checked.selected, checked.locked⟩⟩

theorem plan24M_right (line : Bool) : plan24M.Right line .mhz24 := by
  cases line <;> exact ⟨by decide +kernel, by decide +kernel, by decide +kernel⟩

theorem plan36M_right (line : Bool) : plan36M.Right line .mhz36 := by
  cases line <;> exact ⟨by decide +kernel, by decide +kernel, by decide +kernel⟩

theorem plan48M_right (line : Bool) : plan48M.Right line .mhz48 := by
  cases line <;> exact ⟨by decide +kernel, by decide +kernel, by decide +kernel⟩

theorem plan56M_right (line : Bool) : plan56M.Right line .mhz56 := by
  cases line <;> exact ⟨by decide +kernel, by decide +kernel, by decide +kernel⟩

theorem plan72M_right (line : Bool) : plan72M.Right line .mhz72 := by
  cases line <;> exact ⟨by decide +kernel, by decide +kernel, by decide +kernel⟩

theorem plan96M_right (line : Bool) : plan96M.Right line .mhz96 := by
  cases line <;> exact ⟨by decide +kernel, by decide +kernel, by decide +kernel⟩

/-- The two ways to end. -/
inductive Ended (line : Bool) (choice : Choice) (hardware : Hardware) : Prop
  | hsi (words : Words) (known : Known) (idle : Idle words)
      (settled : Settled line words known hardware) : Ended line choice hardware
  | chosen (words : Words) (known : Known) (checked : Checked line choice words known)
      (apart : words.select ≠ 0) (ready : known.hse = true)
      (clock : readSysclkFreq (build line) (words.rcm words.select) = choice.systemCoreClock line)
      (settled : Settled line words known hardware) : Ended line choice hardware

theorem Ended.stable (line : Bool) (choice : Choice) :
    Stable device free (Safe line choice) (Ended line choice) where
  safe now ended := by
    cases ended with
    | hsi words known idle settled => exact settled.toStage.safe (idle.checked line choice known)
    | chosen words known checked apart ready clock settled => exact settled.toStage.safe checked
  kept now event ended admitted := by
    cases ended with
    | hsi words known idle settled =>
      have stable := Settled.stable (idle.checked line choice known)
      exact .hsi words known idle (stable.kept now event settled admitted)
    | chosen words known checked apart ready clock settled =>
      exact .chosen words known checked apart ready clock
        ((Settled.stable checked).kept now event settled admitted)

theorem Ended.put_vtor {line : Bool} {choice : Choice} {hardware : Hardware}
    (ended : Ended line choice hardware) (value : BitVec 32) :
    Ended line choice (hardware.store .vtor value) := by
  cases ended with
  | hsi words known idle settled =>
    exact .hsi words known idle ⟨settled.toStage.stored settled.same (.inr rfl), settled.switched⟩
  | chosen words known checked apart ready clock settled =>
    exact .chosen words known checked apart ready clock
      ⟨settled.toStage.stored settled.same (.inr rfl), settled.switched⟩

-- What a function has to assure once HSE is ready.
def Configures (line : Bool) (choice : Choice) (configure : Program) : Prop :=
  ∀ (hardware : Hardware) (ws : BitVec 3),
    Resting line ⟨0, 0, 0, ws⟩ ⟨true, false, false⟩ hardware →
    Assured device free (Safe line choice) (fun _ => Ended line choice) configure hardware

theorem Plan.Right.configures {line : Bool} {choice : Choice} {plan : Plan}
    (right : plan.Right line choice)
    (clock : readSysclkFreq (build line)
      ((((plan.words line).assign line .ctrl 24 1 1).assign line .cfg 0 2 2).rcm 2) =
        choice.systemCoreClock line) :
    Configures line choice (configurePll (build line) plan) := by
  intro hardware ws held
  refine (configurePll_assured right held).mono fun _ now settled => ?_
  have select := select_assign line ((plan.words line).assign line .ctrl 24 1 1) 2
  refine .chosen _ _ right.selected ?_ rfl ?_ settled
  next =>
    rw [select]
    decide
  next =>
    rw [select]
    exact clock

/-- The fields when HSE is about to be selected. -/
def hseWords (line : Bool) : Words :=
  (((Words.mk 0 0 0 ((hseWaitStates (build line)).setWidth 3)).assign line .cfg 4 4 0).assign
    line .cfg 11 3 0).assign line .cfg 8 3 0

theorem systemClockHSE_configures (line : Bool) :
    Configures line .hse (do
      assignField .ctrl1 4 1 1
      assignField .ctrl1 0 3 (hseWaitStates (build line))
      assignField .cfg 4 4 0
      assignField .cfg 11 3 0
      assignField .cfg 8 3 0
      assignField .cfg 0 2 1
      .wait .cfg fun cfg => field cfg 2 2 = 1) := by
  have checked : Checked line .hse ((hseWords line).assign line .cfg 0 2 1) ⟨true, false, false⟩ := by
    cases line <;> decide +kernel
  have clock : readSysclkFreq (build line) (((hseWords line).assign line .cfg 0 2 1).rcm 1) =
      Choice.hse.systemCoreClock line := by
    cases line <;> decide +kernel
  have select := select_assign line (hseWords line) 1
  intro hardware ws held
  refine (held.configure rfl rfl).then fun _ _ held => ?_
  refine (held.configure rfl rfl).then fun _ _ held => ?_
  refine (held.configure rfl rfl).then fun _ _ held => ?_
  refine (held.configure rfl rfl).then fun _ _ held => ?_
  refine (held.configure rfl rfl).then fun _ now held => ?_
  have selected : Assured device free (Safe line .hse)
      (fun _ => Stage line ((hseWords line).assign line .cfg 0 2 1) ⟨true, false, false⟩)
      (assignField .cfg 0 2 1) now :=
    held.assignField (held.idle.checked line _ _) checked rfl (.inl held.idle.select)
  refine selected.then fun _ _ held => ?_
  refine (held.settle checked select).mono fun _ _ settled => ?_
  refine .chosen _ _ checked ?_ rfl ?_ settled
  next =>
    rw [select]
    decide
  next =>
    rw [select]
    exact clock

theorem Stage.learn_hse {line : Bool} {words : Words} {hardware : Hardware}
    (held : Stage line words ⟨false, false, false⟩ hardware) (ready : hardware.hseReady = true) :
    Stage line words ⟨true, false, false⟩ hardware := { held with hse := fun _ => ready }

theorem hseReady_of_fetch {hardware : Hardware}
    (seen : (hardware.fetch .ctrl).getLsbD 17 = true) : hardware.hseReady = true := by
  rw [Hardware.fetch, getLsbD_assign _ _ _ _ (by decide), if_neg (by decide),
    getLsbD_assign _ _ _ _ (by decide), if_neg (by decide),
    getLsbD_assign _ _ _ _ (by decide)] at seen
  cases ready : hardware.hseReady with
  | true => rfl
  | false => simp [flag, ready] at seen

theorem hseReady_of_comes {allowed : Event → Prop} {hardware later : Hardware}
    (comes : Comes device allowed hardware later) (ready : hardware.hseReady = true) :
    later.hseReady = true := by
  have kept : ∀ now event, now.hseReady = true → allowed event →
      (device.move now event).hseReady = true := by
    intro now event on _
    cases event with
    | hseReady => simp [device, Hardware.move, on]
    | switched =>
      simp only [device, Hardware.move]
      split
      next => exact on
      next => split <;> exact on
      next => split <;> exact on
      next => exact on
    | _ => exact on
  exact comes.keeps kept ready

/-- `HSEEN` is not among the fields that are followed. -/
theorem assign_ctrl_zero (line : Bool) {words : Words} (zero : words.ctrl = 0) {offset count : Nat}
    {value : BitVec 32} (cleared : Fields.assign 0 offset count value &&& ctrlMask = 0) :
    words.assign line .ctrl offset count value = words := by
  obtain ⟨ctrl, cfg, cfg2, ws⟩ := words
  obtain rfl : ctrl = 0 := zero
  rw [Words.assign, cleared]

theorem startHse_assured {line : Bool} {choice : Choice} {configure : Program}
    (configures : Configures line choice configure) {hardware : Hardware} {ws : BitVec 3}
    (held : Resting line ⟨0, 0, 0, ws⟩ ⟨false, false, false⟩ hardware) :
    Assured device free (Safe line choice) (fun _ => Ended line choice) (startHse configure)
      hardware := by
  refine (held.configure rfl rfl).then fun _ _ held => ?_
  rw [assign_ctrl_zero line rfl (by decide)] at held
  have stable := held.idle.stable line choice ⟨false, false, false⟩
  refine (stable.attempt .ctrl _ hseStartupTimeout held).then fun _ _ held => ?_
  refine (stable.get .ctrl held).then fun ctrl now seen => ?_
  obtain ⟨held, earlier, -, comes, read⟩ := seen
  split
  next ready =>
    have on : earlier.hseReady = true := hseReady_of_fetch (by rw [← ready, ← read]; rfl)
    exact configures now ws ⟨held.toStage.learn_hse (hseReady_of_comes comes on), held.idle⟩
  next =>
    have used : now.used = (Words.mk 0 0 0 ws).select := by
      obtain zero | same := held.used
      next => exact zero.trans held.idle.select.symm
      next => exact same
    exact (Ended.stable line choice).done () (.hsi _ _ held.idle ⟨held.toStage, used⟩)

theorem systemClockConfig_assured {line : Bool} (choice : Choice) {hardware : Hardware}
    {ws : BitVec 3} (held : Resting line ⟨0, 0, 0, ws⟩ ⟨false, false, false⟩ hardware) :
    Assured device free (Safe line choice) (fun _ => Ended line choice)
      (systemClockConfig (build line) choice) hardware := by
  cases choice with
  | hse => exact startHse_assured (systemClockHSE_configures line) held
  | mhz24 =>
    exact startHse_assured ((plan24M_right line).configures (by cases line <;> decide +kernel)) held
  | mhz36 =>
    exact startHse_assured ((plan36M_right line).configures (by cases line <;> decide +kernel)) held
  | mhz48 =>
    exact startHse_assured ((plan48M_right line).configures (by cases line <;> decide +kernel)) held
  | mhz56 =>
    exact startHse_assured ((plan56M_right line).configures (by cases line <;> decide +kernel)) held
  | mhz72 =>
    exact startHse_assured ((plan72M_right line).configures (by cases line <;> decide +kernel)) held
  | mhz96 =>
    exact startHse_assured ((plan96M_right line).configures (by cases line <;> decide +kernel)) held

/-! ### The reset before -/

def Words.and (words : Words) (register : Register) (mask : BitVec 32) : Words :=
  match register with
  | .ctrl => { words with ctrl := words.ctrl &&& mask }
  | .cfg => { words with cfg := words.cfg &&& mask }
  | _ => words

theorem and_ctrl_zero {words : Words} (zero : words.ctrl = 0) (mask : BitVec 32) :
    words.and .ctrl mask = words := by
  obtain ⟨ctrl, cfg, cfg2, ws⟩ := words
  obtain rfl : ctrl = 0 := zero
  rw [Words.and]
  simp

theorem and_right_comm (value first second : BitVec 32) :
    value &&& first &&& second = value &&& second &&& first := by
  rw [BitVec.and_assoc, BitVec.and_comm first, BitVec.and_assoc]

theorem words_and {line : Bool} {state later : Hardware} {register : Register} (mask : BitVec 32)
    (follows : register = .ctrl ∨ register = .cfg) (same : later.words line = state.words line) :
    (later.store register (state.fetch register &&& mask)).words line =
      (state.words line).and register mask := by
  have parts := Words.mk.injEq .. ▸ same
  obtain ⟨ctrl, cfg, cfg2, ws⟩ := parts
  obtain rfl | rfl := follows
  next =>
    simp only [Hardware.words, Hardware.store, Words.and, cfg, cfg2, ws]
    rw [and_right_comm, fetch_ctrl_and]
  next =>
    simp only [Hardware.words, Hardware.store, Words.and, ctrl, cfg2, ws]
    rw [and_right_comm, fetch_cfg_and]

theorem Idle.and {words : Words} (idle : Idle words) (register : Register) (mask : BitVec 32) :
    Idle (words.and register mask) := by
  have select : (words.and register mask).select = 0 := by
    cases register with
    | cfg =>
      have both : field (words.cfg &&& mask) 0 2 = field words.cfg 0 2 &&& field mask 0 2 := by
        apply BitVec.eq_of_getLsbD_eq
        intro bit within
        simp [field, within]
      have zero := idle.select
      rw [Words.select] at zero
      rw [Words.select, Words.and, both, zero]
      simp
    | _ => exact idle.select
  refine ⟨select, ?_⟩
  cases register with
  | ctrl => rw [Words.and, BitVec.getLsbD_and, idle.off, Bool.false_and]
  | _ => exact idle.off

theorem Resting.andRegister {line : Bool} {choice : Choice} {words : Words} {known : Known}
    {hardware : Hardware} {register : Register} {mask : BitVec 32}
    (held : Resting line words known hardware) (follows : register = .ctrl ∨ register = .cfg) :
    Assured device free (Safe line choice) (fun _ => Resting line (words.and register mask) known)
      (andRegister register mask) hardware := by
  have idle := held.idle.and register mask
  refine (held.idle.stable line choice known).modify (idle.stable line choice known) ?_ held
  intro state later before comes after
  exact ⟨after.toStage.stored (before.same ▸ words_and mask follows (words_eq_of_comes comes))
    (.inl held.idle.select), idle⟩

theorem Resting.put {line : Bool} {choice : Choice} {words next : Words} {known : Known}
    {hardware : Hardware} {register : Register} {value : BitVec 32}
    (held : Resting line words known hardware) (idle : Idle next)
    (same : ∀ now : Hardware, now.words line = words →
      (now.store register value).words line = next) :
    Assured device free (Safe line choice) (fun _ => Resting line next known)
      (Polling.Program.put register value) hardware := by
  refine (held.idle.stable line choice known).put (idle.stable line choice known) ?_ held
  intro now before
  exact ⟨before.toStage.stored (same now before.same) (.inl held.idle.select), idle⟩

theorem idle_zero (ws : BitVec 3) : Idle ⟨0, 0, 0, ws⟩ := by
  constructor
  case select => rfl
  case off => exact (by decide : (0 : BitVec 32).getLsbD 24 = false)

theorem resetPlls_assured {line : Bool} {choice : Choice} {cfg2 : BitVec 32} {ws : BitVec 3}
    {hardware : Hardware}
    (held : Resting line ⟨0, 0, cfg2 &&& cfg2Mask line, ws⟩ ⟨false, false, false⟩ hardware) :
    Assured device free (Safe line choice)
      (fun _ => Resting line ⟨0, 0, 0, ws⟩ ⟨false, false, false⟩) (resetPlls (build line))
      hardware := by
  have idle : Idle ⟨0, 0, 0, ws⟩ := idle_zero ws
  cases line with
  | false =>
    refine held.put idle fun now same => ?_
    have zero : cfg2 &&& cfg2Mask false = 0 := by rw [cfg2Mask]; simp
    rw [zero] at same
    exact same
  | true =>
    refine (held.andRegister (.inl rfl)).then fun _ _ held => ?_
    have kept : Assured device free (Safe true choice) (fun _ => Resting true _ _)
        (Polling.Program.put .int 0x00FF0000) _ := held.put held.idle fun now same => same
    refine kept.then fun _ _ held => ?_
    refine held.put idle fun now same => ?_
    have parts := Words.mk.injEq .. ▸ same
    obtain ⟨ctrl, cfg, -, wait⟩ := parts
    simp only [Hardware.words, Hardware.store, ctrl, cfg, wait]
    simp

/-- The two masks leave nothing of the fields of `CFG` that are followed. -/
theorem cfg_cleared (line : Bool) (cfg cfg2 : BitVec 32) (ws : BitVec 3) :
    ((Words.mk 0 (cfg &&& cfgMask) cfg2 ws).and .cfg
      (if (build line).connectivityLine then 0xF0FF0000 else 0xF8FF0000)).and .cfg 0xFF80FFFF =
        ⟨0, 0, cfg2, ws⟩ := by
  have none : cfgMask &&& (if (build line).connectivityLine then 0xF0FF0000 else 0xF8FF0000) &&&
      0xFF80FFFF = 0 := by
    cases line <;> decide
  simp only [Words.and]
  rw [BitVec.and_assoc, BitVec.and_assoc, ← BitVec.and_assoc cfgMask, none]
  simp

theorem systemInit_assured {line : Bool} (choice : Choice) {hardware : Hardware}
    (start : AfterReset hardware) :
    Assured device free (Safe line choice) (fun _ => Ended line choice)
      (systemInit (build line) choice) hardware := by
  have off : hardware.ctrl &&& ctrlMask = 0 := by
    have fewer : ctrlMask = 0x05010000 &&& ctrlMask := by decide
    rw [fewer, ← BitVec.and_assoc, start.disabled]
    simp
  have words : hardware.words line = ⟨0, hardware.cfg &&& cfgMask, hardware.cfg2 &&& cfg2Mask line,
      field hardware.ctrl1 0 3⟩ := by rw [Hardware.words, off]
  have idle : Idle (hardware.words line) := by
    refine ⟨(select_words line hardware).trans start.selected, ?_⟩
    rw [words]
    exact (idle_zero 0).off
  have held : Resting line (hardware.words line) ⟨false, false, false⟩ hardware :=
    ⟨⟨rfl, nofun, nofun, nofun, .inl start.used⟩, idle⟩
  rw [words] at held
  refine (held.configure rfl rfl).then fun _ _ held => ?_
  rw [assign_ctrl_zero line rfl (by decide)] at held
  refine (held.andRegister (.inr rfl)).then fun _ _ held => ?_
  refine (held.andRegister (.inl rfl)).then fun _ _ held => ?_
  rw [and_ctrl_zero rfl] at held
  refine (held.configure rfl rfl).then fun _ _ held => ?_
  rw [assign_ctrl_zero line rfl (by decide)] at held
  refine (held.andRegister (.inr rfl)).then fun _ now held => ?_
  rw [cfg_cleared] at held
  refine (resetPlls_assured held).then fun _ _ held => ?_
  refine (systemClockConfig_assured choice held).then fun _ _ ended => ?_
  have stable := Ended.stable line choice
  have stored : ∀ now, Ended line choice now → Ended line choice (device.store now .vtor 0x08000000) :=
    fun now ended => ended.put_vtor 0x08000000
  exact stable.put stable stored ended

/-- At every moment the clock in use is ready and neither the flash nor the slow bus is driven
faster than they may be. -/
theorem clock_safe_throughout (line : Bool) (choice : Choice) (hardware : Hardware)
    (start : AfterReset hardware) (labels : List (Label Event)) :
    Safe line choice (after device ⟨hardware, systemInit (build line) choice⟩ labels).state :=
  ((systemInit_assured choice start).every_moment fun _ _ => trivial).1

theorem clock_safe_throughout_reset :
    Safe true .mhz72 (after device ⟨reset, systemInit (build true) .mhz72⟩
      [.cpu, .cpu, .device .hseReady, .cpu]).state :=
  clock_safe_throughout true .mhz72 reset afterReset_reset _

/-! ## What it comes to -/

theorem assign_field_self (register : BitVec 32) :
    assign register 0 2 ((field register 0 2).setWidth 32) = register := by
  apply BitVec.eq_of_getLsbD_eq
  intro bit within
  rw [getLsbD_assign _ _ _ _ within]
  split
  next inside =>
    have low : bit < 2 := by omega
    simp [field, low]
    omega
  next => rfl

theorem systemCoreClockUpdate_of_settled {line : Bool} {words : Words} {known : Known}
    {hardware : Hardware} (settled : Settled line words known hardware) :
    systemCoreClockUpdate (build line) ⟨hardware.cfg, hardware.cfg2⟩ =
      readSysclkFreq (build line) (words.rcm words.select) := by
  obtain rfl := settled.same
  rw [systemCoreClockUpdate_eq, readSysclkFreq_words, select_words, assign_field_self]

/-- The value that `SystemCoreClockUpdate` finds in the registers. -/
def Hardware.coreClock (line : Bool) (hardware : Hardware) : BitVec 32 :=
  systemCoreClockUpdate (build line) ⟨hardware.cfg, hardware.cfg2⟩

structure OnHsi (line : Bool) (hardware : Hardware) : Prop where
  selected : field hardware.cfg 0 2 = 0
  used : hardware.used = 0
  clock : hardware.coreClock line = (build line).hsiValue

structure OnChoice (line : Bool) (choice : Choice) (hardware : Hardware) : Prop where
  ready : hardware.hseReady = true
  used : hardware.used = field hardware.cfg 0 2
  apart : hardware.used ≠ 0
  clock : hardware.coreClock line = choice.systemCoreClock line

theorem Ended.outcome {line : Bool} {choice : Choice} {hardware : Hardware}
    (ended : Ended line choice hardware) : OnHsi line hardware ∨ OnChoice line choice hardware := by
  cases ended with
  | hsi words known idle settled =>
    have selected : field hardware.cfg 0 2 = 0 := by
      rw [← select_words line, settled.same, idle.select]
    refine .inl ⟨selected, settled.switched.trans idle.select, ?_⟩
    rw [Hardware.coreClock, systemCoreClockUpdate, Rcm.sclksel, selected]
    rfl
  | chosen words known checked apart ready clock settled =>
    refine .inr ⟨settled.hse ready, ?_, settled.switched ▸ apart, ?_⟩
    next => rw [settled.switched, ← select_words line, settled.same]
    next => rw [Hardware.coreClock, systemCoreClockUpdate_of_settled settled, clock]

def crystalSilent (event : Event) : Prop := event ≠ .hseReady

theorem crystal_lasting :
    Lasting device crystalSilent fun hardware => hardware.hseReady = false where
  moved hardware event off silent := by
    cases event with
    | hseReady => exact absurd rfl silent
    | switched =>
      simp only [device, Hardware.move]
      split
      next => exact off
      next => split <;> exact off
      next => split <;> exact off
      next => exact off
    | _ => exact off
  stored hardware register value off := by
    cases register <;> exact off

theorem not_seen_of_silent (hardware : Hardware) (off : hardware.hseReady = false) :
    (device.fetch hardware .ctrl).getLsbD 17 = false := by
  cases seen : (device.fetch hardware .ctrl).getLsbD 17 with
  | false => rfl
  | true => exact absurd (hseReady_of_fetch seen) (by simp [off])

theorem startHse_prompt (configure : Program) (budget : Nat) {hardware : Hardware}
    (off : hardware.hseReady = false) :
    Prompt device crystalSilent (fun _ now left => now.hseReady = false ∧ left = budget)
      (startHse configure) hardware (budget + 1 + hseStartupTimeout + 2) := by
  refine (crystal_lasting.modify _ .ctrl _ off).then fun _ now left done => ?_
  obtain ⟨off, rfl⟩ := done
  refine (crystal_lasting.attempt _ not_seen_of_silent hseStartupTimeout off).then
    fun _ now left done => ?_
  obtain ⟨off, rfl⟩ := done
  refine (crystal_lasting.get _ .ctrl off).then fun ctrl now left done => ?_
  obtain ⟨off, rfl, earlier, silent, read⟩ := done
  have unseen : ctrl.getLsbD 17 = false := read ▸ not_seen_of_silent earlier silent
  simp only [unseen]
  exact crystal_lasting.done _ () off

theorem systemClockConfig_startHse (build : Build) (choice : Choice) :
    ∃ configure, systemClockConfig build choice = startHse configure := by
  cases choice <;> exact ⟨_, rfl⟩

def resetAccesses : Bool → Nat
  | true => 4
  | false => 1

theorem resetPlls_prompt (line : Bool) (budget : Nat) {hardware : Hardware}
    (off : hardware.hseReady = false) :
    Prompt device crystalSilent (fun _ now left => now.hseReady = false ∧ left = budget)
      (resetPlls (build line)) hardware (budget + resetAccesses line) := by
  cases line with
  | false => exact crystal_lasting.put budget .int _ off
  | true =>
    refine (crystal_lasting.modify (budget + 2) .ctrl _ off).then fun _ now left done => ?_
    obtain ⟨off, rfl⟩ := done
    refine (crystal_lasting.put (budget + 1) .int _ off).then fun _ now left done => ?_
    obtain ⟨off, rfl⟩ := done
    exact crystal_lasting.put budget .cfg2 _ off

-- The accesses of `SystemInit` when HSE does not start.
def silentAccesses (line : Bool) : Nat := hseStartupTimeout + resetAccesses line + 14

theorem systemInit_prompt (line : Bool) (choice : Choice) {hardware : Hardware}
    (off : hardware.hseReady = false) :
    Prompt device crystalSilent (fun _ now left => now.hseReady = false ∧ left = 0)
      (systemInit (build line) choice) hardware (silentAccesses line) := by
  have total : silentAccesses line =
      1 + 1 + hseStartupTimeout + 2 + resetAccesses line + 2 + 2 + 2 + 2 + 2 := by
    rw [silentAccesses]
    omega
  obtain ⟨configure, begins⟩ := systemClockConfig_startHse (build line) choice
  rw [total, systemInit, begins]
  refine (crystal_lasting.modify _ .ctrl _ off).then fun _ now left done => ?_
  obtain ⟨off, rfl⟩ := done
  refine (crystal_lasting.modify _ .cfg _ off).then fun _ now left done => ?_
  obtain ⟨off, rfl⟩ := done
  refine (crystal_lasting.modify _ .ctrl _ off).then fun _ now left done => ?_
  obtain ⟨off, rfl⟩ := done
  refine (crystal_lasting.modify _ .ctrl _ off).then fun _ now left done => ?_
  obtain ⟨off, rfl⟩ := done
  refine (crystal_lasting.modify _ .cfg _ off).then fun _ now left done => ?_
  obtain ⟨off, rfl⟩ := done
  refine (resetPlls_prompt line _ off).then fun _ now left done => ?_
  obtain ⟨off, rfl⟩ := done
  refine (startHse_prompt configure 1 off).then fun _ now left done => ?_
  obtain ⟨off, rfl⟩ := done
  exact crystal_lasting.put 0 .vtor _ off

/-- `SystemInit` ends on HSI or, with HSE ready, on the clock that `SystemCoreClock` was set to,
and it ends on HSI after so many accesses where HSE never becomes ready. -/
theorem systemInit_outcome (line : Bool) (choice : Choice) (hardware : Hardware)
    (start : AfterReset hardware) (labels : List (Label Event)) :
    let final := after device ⟨hardware, systemInit (build line) choice⟩ labels
    (final.program = .done () →
      OnHsi line final.state ∨
        (Event.hseReady ∈ events labels ∧ OnChoice line choice final.state)) ∧
    (Event.hseReady ∉ events labels → silentAccesses line ≤ accesses labels →
      final.program = .done () ∧ OnHsi line final.state) := by
  intro final
  have silent : Event.hseReady ∉ events labels →
      (after device ⟨hardware, systemInit (build line) choice⟩ labels).state.hseReady = false :=
    fun never => crystal_lasting.after start.stopped.1
      fun event among same => never (same ▸ among)
  have ends : final.program = .done () →
      OnHsi line final.state ∨ OnChoice line choice final.state := fun finished =>
    (((systemInit_assured choice start).every_moment fun _ _ => trivial).2 () finished).outcome
  constructor
  case left =>
    intro finished
    obtain hsi | chosen := ends finished
    next => exact .inl hsi
    next =>
      by_cases seen : Event.hseReady ∈ events labels
      next => exact .inr ⟨seen, chosen⟩
      next => exact absurd chosen.ready (by simp [final, silent seen])
  case right =>
    intro never enough
    have prompt := systemInit_prompt line choice start.stopped.1
    obtain ⟨result, left, finished, -⟩ := @Prompt.finished _ _ _ _ _ device _ _
      ⟨hardware, systemInit (build line) choice⟩ _ prompt labels
      (fun event among same => never (same ▸ among)) (.inl enough)
    have done : final.program = .done () := finished
    obtain hsi | chosen := ends done
    next => exact ⟨done, hsi⟩
    next => exact absurd chosen.ready (by simp [final, silent never])

theorem systemInit_outcome_reset :
    (after device ⟨reset, systemInit (build true) .mhz72⟩
      (List.replicate (silentAccesses true) .cpu)).program = .done () :=
  ((systemInit_outcome true .mhz72 reset afterReset_reset _).2 (by simp [events_replicate])
    (accesses_replicate _).ge).1

end ApmSdk.StdPeriph.SystemClock
