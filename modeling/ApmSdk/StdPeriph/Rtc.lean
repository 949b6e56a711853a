import ApmSdk.Lib.Fields
import ApmSdk.Lib.FlagRegister
import ApmSdk.Lib.Interleaved

set_option autoImplicit false

/-!
# The RTC under a running counter

The functions on the registers of the RTC against a counter, a divider and flags that move between
any two accesses.
-/

namespace ApmSdk.StdPeriph.Rtc

open Interleaved

/-! ## The device -/

/-- The registers of `RTC_T`, less the interrupt enables. -/
inductive Register where
  | csts
  | pscrldh
  | pscrldl
  | psch
  | pscl
  | cnth
  | cntl
  | alrh
  | alrl
  deriving DecidableEq, Repr

structure State where
  csts : BitVec 32
  reload : BitVec 20
  divider : BitVec 20
  counter : BitVec 32
  alarm : BitVec 32
  deriving DecidableEq, Repr

/-- The flags of CSTS that zeros clear. -/
inductive Flag where
  | sec
  | alr
  | ovr
  | rsync
  deriving DecidableEq, Repr

def Flag.bit : Flag → Nat
  | sec => 0
  | alr => 1
  | ovr => 2
  | rsync => 3

inductive Event where
  | count
  | divide
  | raise (flag : Flag)
  deriving DecidableEq, Repr

def fetch (rtc : State) : Register → BitVec 32
  | .csts => rtc.csts
  | .pscrldh => (rtc.reload >>> 16).setWidth 32
  | .pscrldl => (Fields.field rtc.reload 0 16).setWidth 32
  | .psch => (rtc.divider >>> 16).setWidth 32
  | .pscl => (Fields.field rtc.divider 0 16).setWidth 32
  | .cnth => rtc.counter >>> 16
  | .cntl => (Fields.field rtc.counter 0 16).setWidth 32
  | .alrh => rtc.alarm >>> 16
  | .alrl => (Fields.field rtc.alarm 0 16).setWidth 32

-- Zeros clear the flags, CFGMFLG is written and OCFLG is not.
def storeCsts (csts value : BitVec 32) : BitVec 32 :=
  (csts &&& value &&& 0x0000000F) ||| (value &&& 0x00000010) ||| (csts &&& 0xFFFFFFE0)

def store (rtc : State) (register : Register) (value : BitVec 32) : State :=
  match register with
  | .csts => { rtc with csts := storeCsts rtc.csts value }
  | .pscrldh => { rtc with reload := Fields.assign rtc.reload 16 4 (value.setWidth 20) }
  | .pscrldl => { rtc with reload := Fields.assign rtc.reload 0 16 (value.setWidth 20) }
  | .psch | .pscl => rtc
  | .cnth => { rtc with counter := Fields.assign rtc.counter 16 16 value }
  | .cntl => { rtc with counter := Fields.assign rtc.counter 0 16 value }
  | .alrh => { rtc with alarm := Fields.assign rtc.alarm 16 16 value }
  | .alrl => { rtc with alarm := Fields.assign rtc.alarm 0 16 value }

def move (rtc : State) : Event → State
  | .count => { rtc with counter := rtc.counter + 1 }
  -- The divider is reloaded when it has come to zero.
  | .divide => { rtc with divider := if rtc.divider = 0 then rtc.reload else rtc.divider - 1 }
  | .raise flag => { rtc with csts := rtc.csts ||| BitVec.twoPow 32 flag.bit }

def device : Device Register 32 State Event := ⟨fetch, store, move⟩

/-! ## The functions -/

abbrev Program (Result : Type) := Interleaved.Program Register 32 Result

open Interleaved.Program (get put wait)

-- An assignment to a bit field.
def assignField (register : Register) (offset count : Nat) (value : BitVec 32) : Program Unit := do
  let old ← get register
  put register (Fields.assign old offset count value)

def enableConfigMode : Program Unit := assignField .csts 4 1 1

def disableConfigMode : Program Unit := assignField .csts 4 1 0

def readCounter : Program (BitVec 32) := do
  let reg := (Fields.field (← get .cnth) 0 16).setWidth 32 <<< 16
  let reg := reg ||| (Fields.field (← get .cntl) 0 16).setWidth 32
  return reg

-- The body of `RTC_ConfigCounter`, `RTC_ConfigPrescaler` and `RTC_ConfigAlarm`.
def configHalves (high low : Register) (highCount : Nat) (value : BitVec 32) : Program Unit := do
  enableConfigMode
  assignField high 0 highCount (value >>> 16)
  assignField low 0 16 (value &&& 0x0000FFFF)
  disableConfigMode

def configCounter : BitVec 32 → Program Unit := configHalves .cnth .cntl 16

def configPrescaler : BitVec 32 → Program Unit := configHalves .pscrldh .pscrldl 4

def configAlarm : BitVec 32 → Program Unit := configHalves .alrh .alrl 16

def readDivider : Program (BitVec 32) := do
  let reg := ((Fields.field (← get .psch) 0 4).setWidth 32 &&& 0x000F) <<< 16
  let reg := reg ||| (Fields.field (← get .pscl) 0 16).setWidth 32
  return reg

def waitForSynchro : Program Unit := do
  assignField .csts 3 1 0
  wait .csts 3

def clearStatusFlag (flag : BitVec 16) : Program Unit := do
  let csts ← get .csts
  put .csts (csts &&& ~~~(flag.setWidth 32))

def clearIntFlag (flag : BitVec 16) : Program Unit := do
  let csts ← get .csts
  put .csts (csts &&& ~~~(flag.setWidth 32))

/-- The functions that write CSTS. -/
inductive Writer where
  | clearStatusFlag (flag : BitVec 16)
  | clearIntFlag (flag : BitVec 16)
  | enableConfigMode
  | disableConfigMode
  | configCounter (value : BitVec 32)
  | configPrescaler (value : BitVec 32)
  | configAlarm (value : BitVec 32)
  | waitForSynchro
  deriving DecidableEq, Repr

def Writer.program : Writer → Program Unit
  | clearStatusFlag flag => Rtc.clearStatusFlag flag
  | clearIntFlag flag => Rtc.clearIntFlag flag
  | enableConfigMode => Rtc.enableConfigMode
  | disableConfigMode => Rtc.disableConfigMode
  | configCounter value => Rtc.configCounter value
  | configPrescaler value => Rtc.configPrescaler value
  | configAlarm value => Rtc.configAlarm value
  | waitForSynchro => Rtc.waitForSynchro

-- The flags that a call is to clear.
def Writer.Asked : Writer → Flag → Prop
  | clearStatusFlag flag, asked => flag.getLsbD asked.bit = true
  | clearIntFlag flag, asked => flag.getLsbD asked.bit = true
  | waitForSynchro, asked => asked = .rsync
  | _, _ => False

/-! ## Flags -/

def status : Status device Flag where
  register := .csts
  bit := Flag.bit
  raise := .raise
  stored rtc value flag := by
    change (storeCsts rtc.csts value).getLsbD flag.bit = _
    cases flag <;> simp [storeCsts, Flag.bit, device, fetch]
  apart rtc other value flag different := by
    cases other <;> first | rfl | exact absurd rfl different
  moved rtc event flag := by
    cases event with
    | count => exact (or_iff_left nofun).symm
    | divide => exact (or_iff_left nofun).symm
    | raise raised =>
      have within : raised.bit < 32 := by cases raised <;> decide
      change (rtc.csts ||| BitVec.twoPow 32 raised.bit).getLsbD flag.bit = true ↔
        rtc.csts.getLsbD flag.bit = true ∨ _
      rw [FlagRegister.getLsbD_twoPow_or rtc.csts within]
      cases raised <;> cases flag <;> simp [Flag.bit]

section Modifies

variable {asked : Flag → Prop}

theorem modifies_assign_bit {bit : Nat} (value : BitVec 32)
    (others : ∀ flag, ¬asked flag → flag.bit ≠ bit) :
    status.Modifies asked none (assignField .csts bit 1 value) := by
  intro old
  refine ⟨fun _ => ⟨old, rfl, fun flag unasked => ?_⟩, trivial⟩
  have within : flag.bit < 32 := by cases flag <;> decide
  have apart := others flag unasked
  change (Fields.assign old bit 1 value).getLsbD flag.bit = old.getLsbD flag.bit
  rw [Fields.getLsbD_assign _ _ _ _ within, if_neg (by omega)]

theorem modifies_assign_other {register : Register} (other : register ≠ .csts)
    (offset count : Nat) (value : BitVec 32) :
    status.Modifies asked none (assignField register offset count value) :=
  fun _ => ⟨fun same => absurd same other, trivial⟩

theorem modifies_configMode (value : BitVec 32) :
    status.Modifies asked none (assignField .csts 4 1 value) :=
  modifies_assign_bit value fun flag _ => by cases flag <;> decide

theorem modifies_configHalves (high low : Register) (highOther : high ≠ .csts)
    (lowOther : low ≠ .csts) (highCount : Nat) (value : BitVec 32) :
    status.Modifies asked none (configHalves high low highCount value) :=
  (modifies_configMode 1).bind fun _ => (modifies_assign_other highOther _ _ _).bind fun _ =>
    (modifies_assign_other lowOther _ _ _).bind fun _ => modifies_configMode 0

theorem modifies_clear (flag : BitVec 16)
    (named : ∀ other, ¬asked other → flag.getLsbD other.bit = false) :
    status.Modifies asked none (clearStatusFlag flag) := by
  intro csts
  refine ⟨fun _ => ⟨csts, rfl, fun other unasked => ?_⟩, trivial⟩
  have within : other.bit < 32 := by cases other <;> decide
  change (csts &&& ~~~(flag.setWidth 32)).getLsbD other.bit = csts.getLsbD other.bit
  rw [BitVec.getLsbD_and, BitVec.getLsbD_not, BitVec.getLsbD_setWidth, named other unasked]
  simp [within]

end Modifies

theorem Writer.modifies (writer : Writer) :
    status.Modifies writer.Asked none writer.program := by
  cases writer with
  | clearStatusFlag flag => exact modifies_clear flag fun other => Bool.eq_false_iff.mpr
  | clearIntFlag flag => exact modifies_clear flag fun other => Bool.eq_false_iff.mpr
  | enableConfigMode => exact modifies_configMode 1
  | disableConfigMode => exact modifies_configMode 0
  | configCounter value =>
    exact modifies_configHalves .cnth .cntl (by decide) (by decide) 16 value
  | configPrescaler value =>
    exact modifies_configHalves .pscrldh .pscrldl (by decide) (by decide) 4 value
  | configAlarm value =>
    exact modifies_configHalves .alrh .alrl (by decide) (by decide) 16 value
  | waitForSynchro =>
    have others (flag : Flag) (unasked : flag ≠ .rsync) : flag.bit ≠ 3 := by
      cases flag <;> simp_all [Flag.bit]
    have cleared : status.Modifies (· = Flag.rsync) none (assignField .csts 3 1 0) :=
      modifies_assign_bit 0 others
    exact cleared.bind fun _ => trivial

/-! ## The counter -/

theorem counter_moves (rtc : State) (moves : List Event) :
    (moves.foldl move rtc).counter.toNat =
      (rtc.counter.toNat + moves.count .count) % 2 ^ 32 := by
  induction moves generalizing rtc with
  | nil => simp [Nat.mod_eq_of_lt rtc.counter.isLt]
  | cons event rest ih =>
    rw [List.foldl_cons, ih]
    cases event with
    | count =>
      have next : (rtc.counter + 1).toNat = (rtc.counter.toNat + 1) % 2 ^ 32 :=
        BitVec.toNat_add _ _
      rw [move, next, List.count_cons_self]
      omega
    | divide => simp [move]
    | raise flag => simp [move]

theorem toNat_halves {high low : BitVec 32} (highSmall : high.toNat < 2 ^ 16)
    (lowSmall : low.toNat < 2 ^ 16) :
    (high <<< 16 ||| low).toNat = high.toNat * 2 ^ 16 + low.toNat := by
  rw [BitVec.toNat_or, BitVec.toNat_shiftLeft, Nat.shiftLeft_eq, Nat.mod_eq_of_lt (by omega),
    ← Nat.shiftLeft_eq, ← Nat.shiftLeft_add_eq_or_of_lt lowSmall]

theorem toNat_field {width : Nat} (register : BitVec width) (count : Nat) (fits : count ≤ 32) :
    ((Fields.field register 0 count).setWidth 32).toNat = register.toNat % 2 ^ count := by
  have small : register.toNat % 2 ^ count < 2 ^ 32 :=
    Nat.lt_of_lt_of_le (Nat.mod_lt _ (Nat.two_pow_pos _)) (Nat.pow_le_pow_right (by decide) fits)
  rw [BitVec.toNat_setWidth, Fields.field, BitVec.extractLsb'_toNat, Nat.shiftRight_zero,
    Nat.mod_eq_of_lt small]

/-- The halves of the counter come from counts that the low half does not fall between, or the
counter was at their value before the first, or it came to it all the way round. -/
def CounterWhole (counter before between : Nat) : Prop :=
  let first := (counter + before) % 2 ^ 32
  let second := (counter + before + between) % 2 ^ 32
  first % 2 ^ 16 ≤ second % 2 ^ 16 ∨ first % 2 ^ 16 - second % 2 ^ 16 ≤ before ∨
    2 ^ 32 ≤ between + (first % 2 ^ 16 - second % 2 ^ 16)

instance (counter before between : Nat) : Decidable (CounterWhole counter before between) := by
  unfold CounterWhole
  infer_instance

theorem counterWhole_iff (counter before between : Nat) :
    (∃ number, number ≤ before + between ∧ (counter + number) % 2 ^ 32 =
      (counter + before) % 2 ^ 32 / 2 ^ 16 * 2 ^ 16 +
        (counter + before + between) % 2 ^ 32 % 2 ^ 16) ↔
      CounterWhole counter before between := by
  constructor
  · rintro ⟨number, bound, same⟩
    simp only [CounterWhole]
    omega
  · intro whole
    simp only [CounterWhole] at whole
    by_cases rises : (counter + before) % 2 ^ 32 % 2 ^ 16 ≤
        (counter + before + between) % 2 ^ 32 % 2 ^ 16
    · exact ⟨before + ((counter + before + between) % 2 ^ 32 % 2 ^ 16 -
        (counter + before) % 2 ^ 32 % 2 ^ 16), by omega, by omega⟩
    · obtain passed | round := whole.resolve_left rises
      · exact ⟨before - ((counter + before) % 2 ^ 32 % 2 ^ 16 -
          (counter + before + between) % 2 ^ 32 % 2 ^ 16), by omega, by omega⟩
      · exact ⟨before + (2 ^ 32 - ((counter + before) % 2 ^ 32 % 2 ^ 16 -
          (counter + before + between) % 2 ^ 32 % 2 ^ 16)), by omega, by omega⟩

/-! ## The divider -/

-- What a countdown from `start` that is reloaded at zero comes to.
def countdown (reload : Nat) : Nat → Nat → Nat
  | start, 0 => start
  | start, steps + 1 => countdown reload (if start = 0 then reload else start - 1) steps

theorem divider_moves (rtc : State) (moves : List Event) :
    (moves.foldl move rtc).divider.toNat =
      countdown rtc.reload.toNat rtc.divider.toNat (moves.count .divide) := by
  induction moves generalizing rtc with
  | nil => rfl
  | cons event rest ih =>
    rw [List.foldl_cons, ih]
    cases event with
    | divide =>
      have next : (if rtc.divider = 0 then rtc.reload else rtc.divider - 1).toNat =
          if rtc.divider.toNat = 0 then rtc.reload.toNat else rtc.divider.toNat - 1 := by
        by_cases zero : rtc.divider = 0
        · simp [zero]
        · have positive : rtc.divider.toNat ≠ 0 := fun none => zero (BitVec.eq_of_toNat_eq none)
          have one : (1 : BitVec 20).toNat = 1 := rfl
          have bound := rtc.divider.isLt
          rw [if_neg zero, if_neg positive, BitVec.toNat_sub, one]
          omega
      rw [move, next, List.count_cons_self, countdown]
    | count => simp [move]
    | raise flag => simp [move]

/-- A countdown comes to a value before it is reloaded, or after. -/
def Passes (reload start steps value : Nat) : Prop :=
  value ≤ start ∧ start ≤ value + steps ∨ value ≤ reload ∧ start + 1 + reload ≤ value + steps

theorem passes_iff (reload start steps value : Nat) :
    (∃ number, number ≤ steps ∧ countdown reload start number = value) ↔
      Passes reload start steps value := by
  induction steps generalizing start with
  | zero =>
    have only : (∃ number, number ≤ 0 ∧ countdown reload start number = value) ↔
        start = value := by simp [countdown]
    rw [only, Passes]
    omega
  | succ steps ih =>
    have first : (∃ number, number ≤ steps + 1 ∧ countdown reload start number = value) ↔
        start = value ∨ ∃ number, number ≤ steps ∧
          countdown reload (if start = 0 then reload else start - 1) number = value := by
      constructor
      · rintro ⟨number, bound, same⟩
        cases number with
        | zero => exact .inl same
        | succ number => exact .inr ⟨number, Nat.le_of_succ_le_succ bound, same⟩
      · rintro (same | ⟨number, bound, same⟩)
        · exact ⟨0, Nat.zero_le _, same⟩
        · exact ⟨number + 1, Nat.succ_le_succ bound, same⟩
    rw [first, ih, Passes, Passes]
    split <;> omega

theorem countdown_add (reload start first second : Nat) :
    countdown reload (countdown reload start first) second =
      countdown reload start (first + second) := by
  induction first generalizing start with
  | zero => rw [Nat.zero_add, countdown]
  | succ first ih => rw [Nat.succ_add, countdown, countdown, ih]

/-- The halves of the divider come from values that the low half does not rise between, or the
divider comes to them put together. -/
def DividerWhole (reload divider before between : Nat) : Prop :=
  let first := countdown reload divider before
  let second := countdown reload divider (before + between)
  second % 2 ^ 16 ≤ first % 2 ^ 16 ∨
    Passes reload divider (before + between) (first + (second % 2 ^ 16 - first % 2 ^ 16))

theorem dividerWhole_iff (reload divider before between : Nat) :
    (∃ number, number ≤ before + between ∧ countdown reload divider number =
      countdown reload divider before / 2 ^ 16 * 2 ^ 16 +
        countdown reload divider (before + between) % 2 ^ 16) ↔
      DividerWhole reload divider before between := by
  by_cases falls : countdown reload divider (before + between) % 2 ^ 16 ≤
      countdown reload divider before % 2 ^ 16
  · -- The value put together lies between the two.
    have reached : Passes reload (countdown reload divider before) between
        (countdown reload divider (before + between)) :=
      (passes_iff _ _ _ _).mp ⟨between, Nat.le_refl _, countdown_add _ _ _ _⟩
    have passed : Passes reload (countdown reload divider before) between
        (countdown reload divider before / 2 ^ 16 * 2 ^ 16 +
          countdown reload divider (before + between) % 2 ^ 16) := by
      simp only [Passes] at reached ⊢
      omega
    obtain ⟨number, bound, same⟩ := (passes_iff _ _ _ _).mpr passed
    rw [countdown_add] at same
    exact iff_of_true ⟨before + number, by omega, same⟩ (.inl falls)
  · have together : countdown reload divider before / 2 ^ 16 * 2 ^ 16 +
        countdown reload divider (before + between) % 2 ^ 16 =
          countdown reload divider before +
            (countdown reload divider (before + between) % 2 ^ 16 -
              countdown reload divider before % 2 ^ 16) := by omega
    rw [passes_iff, together, DividerWhole, or_iff_right falls]

/-! ## Every interleaving -/

/-- The counts of the events before and between the accesses of a run of two reads meet
`condition`. -/
def Counted (event : Event) (condition : Nat → Nat → Prop) (labels : List (Label Event)) : Prop :=
  ∀ (before between : List Event) (later : List (Label Event)),
    labels = before.map .device ++ .cpu :: (between.map .device ++ .cpu :: later) →
      condition (before.count event) (between.count event)

theorem toNat_readCounter (first second : State) :
    ((Fields.field (fetch first .cnth) 0 16).setWidth 32 <<< 16 |||
        (Fields.field (fetch second .cntl) 0 16).setWidth 32).toNat =
      first.counter.toNat / 2 ^ 16 * 2 ^ 16 + second.counter.toNat % 2 ^ 16 := by
  have bound := first.counter.isLt
  have high : ((Fields.field (fetch first .cnth) 0 16).setWidth 32).toNat =
      first.counter.toNat / 2 ^ 16 := by
    rw [toNat_field _ 16 (by decide), fetch, BitVec.toNat_ushiftRight, Nat.shiftRight_eq_div_pow]
    omega
  have low : ((Fields.field (fetch second .cntl) 0 16).setWidth 32).toNat =
      second.counter.toNat % 2 ^ 16 := by
    rw [toNat_field _ 16 (by decide), fetch, toNat_field _ 16 (by decide), Nat.mod_mod]
  rw [toNat_halves (by omega) (by omega), high, low]

theorem toNat_readDivider (first second : State) :
    (((Fields.field (fetch first .psch) 0 4).setWidth 32 &&& 0x000F) <<< 16 |||
        (Fields.field (fetch second .pscl) 0 16).setWidth 32).toNat =
      first.divider.toNat / 2 ^ 16 * 2 ^ 16 + second.divider.toNat % 2 ^ 16 := by
  have bound := first.divider.isLt
  have high : ((Fields.field (fetch first .psch) 0 4).setWidth 32 &&& 0x000F).toNat =
      first.divider.toNat / 2 ^ 16 := by
    rw [BitVec.toNat_and, toNat_field _ 4 (by decide), fetch, BitVec.toNat_setWidth,
      BitVec.toNat_ushiftRight, Nat.shiftRight_eq_div_pow]
    have mask : (0x000F : BitVec 32).toNat = 2 ^ 4 - 1 := rfl
    rw [mask, Nat.and_two_pow_sub_one_eq_mod]
    omega
  have low : ((Fields.field (fetch second .pscl) 0 16).setWidth 32).toNat =
      second.divider.toNat % 2 ^ 16 := by
    rw [toNat_field _ 16 (by decide), fetch, toNat_field _ 16 (by decide), Nat.mod_mod]
  rw [toNat_halves (by omega) (by omega), high, low]

theorem held_readCounter_iff (rtc : State) (labels : List (Label Event)) :
    Held device State.counter ⟨rtc, readCounter⟩ labels ↔
      Counted .count (CounterWhole rtc.counter.toNat) labels := by
  refine (held_twoReads_iff device _ .cnth .cntl _ rtc labels).trans ?_
  refine forall₃_congr fun before between later => imp_congr_right fun _ => ?_
  have value (moves : List Event) (result : BitVec 32) :
      (moves.foldl device.move rtc).counter = result ↔
        (rtc.counter.toNat + moves.count .count) % 2 ^ 32 = result.toNat := by
    rw [← BitVec.toNat_inj]
    exact Eq.congr_left (counter_moves rtc moves)
  simp only [value]
  rw [exists_prefix_count_iff .count (before ++ between)
    fun number => (rtc.counter.toNat + number) % 2 ^ 32 = _]
  rw [← counterWhole_iff]
  have together := toNat_readCounter (before.foldl move rtc) ((before ++ between).foldl move rtc)
  rw [counter_moves, counter_moves, List.count_append, ← Nat.add_assoc] at together
  exact exists_congr fun number => and_congr (by rw [List.count_append]) (Eq.congr_right together)

theorem held_readDivider_iff (rtc : State) (labels : List (Label Event)) :
    Held device (fun state => state.divider.setWidth 32) ⟨rtc, readDivider⟩ labels ↔
      Counted .divide (DividerWhole rtc.reload.toNat rtc.divider.toNat) labels := by
  refine (held_twoReads_iff device _ .psch .pscl _ rtc labels).trans ?_
  refine forall₃_congr fun before between later => imp_congr_right fun _ => ?_
  have wide (state : State) : (state.divider.setWidth 32).toNat = state.divider.toNat :=
    BitVec.toNat_setWidth_of_le (by decide)
  have value (moves : List Event) (result : BitVec 32) :
      (moves.foldl device.move rtc).divider.setWidth 32 = result ↔
        countdown rtc.reload.toNat rtc.divider.toNat (moves.count .divide) = result.toNat := by
    rw [← BitVec.toNat_inj, wide]
    exact Eq.congr_left (divider_moves rtc moves)
  simp only [value]
  rw [exists_prefix_count_iff .divide (before ++ between)
    fun number => countdown rtc.reload.toNat rtc.divider.toNat number = _]
  rw [← dividerWhole_iff]
  have together := toNat_readDivider (before.foldl move rtc) ((before ++ between).foldl move rtc)
  rw [divider_moves, divider_moves, List.count_append] at together
  exact exists_congr fun number => and_congr (by rw [List.count_append]) (Eq.congr_right together)

/-- The reads give a value that was held exactly in the runs with halves that belong together, and
the functions that write CSTS keep the flags that they are not to clear exactly in the runs that set
none of them between a read of CSTS and the write. -/
theorem rtc_calls_right_iff (rtc : State) (labels : List (Label Event)) :
    (Held device State.counter ⟨rtc, readCounter⟩ labels ↔
      Counted .count (CounterWhole rtc.counter.toNat) labels) ∧
    (Held device (fun state => state.divider.setWidth 32) ⟨rtc, readDivider⟩ labels ↔
      Counted .divide (DividerWhole rtc.reload.toNat rtc.divider.toNat) labels) ∧
    ∀ writer : Writer, status.Keeps writer.Asked ⟨rtc, writer.program⟩ labels ↔
      status.Unraced writer.Asked ⟨rtc, writer.program⟩ labels :=
  ⟨held_readCounter_iff rtc labels, held_readDivider_iff rtc labels,
    fun writer => status.keeps_iff_unraced writer.modifies labels⟩

/-- A carry between the two reads of the counter, and an alarm between the read and the write of
CSTS. -/
theorem rtc_calls_not_right :
    ¬Held device State.counter ⟨⟨0, 0, 0, 0x0000FFFF, 0⟩, readCounter⟩
      [.cpu, .device .count, .cpu] ∧
    ¬status.Keeps (Writer.enableConfigMode).Asked
      ⟨⟨0, 0, 0, 0, 0⟩, Writer.enableConfigMode.program⟩
      [.cpu, .device (.raise .alr), .cpu] := by
  constructor
  · rw [held_readCounter_iff]
    intro whole
    have torn := whole [] [.count] [] rfl
    revert torn
    decide
  · rw [status.keeps_iff_unraced (Writer.modifies _)]
    intro unraced
    simp only [Status.Unraced] at unraced
    obtain ⟨-, raised, -⟩ := unraced
    have unasked : ¬Writer.enableConfigMode.Asked .alr := id
    have set : (0 : BitVec 32).getLsbD 1 = true := raised .alr rfl unasked rfl (by decide)
    cases set

end ApmSdk.StdPeriph.Rtc
