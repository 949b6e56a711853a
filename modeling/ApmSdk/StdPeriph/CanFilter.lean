import ApmSdk.StdPeriph.Can

set_option autoImplicit false

/-!
# Acceptance filters of the CAN controller

`CAN_ConfigFilter`, as it is built for devices with one set of filters for each controller, and the
messages that the filter banks then let into the FIFOs.
-/

namespace ApmSdk.StdPeriph

open Fields

structure CanFilterRegister where
  fbank1 : BitVec 32
  fbank2 : BitVec 32
  deriving DecidableEq, Repr

/-- The registers of the filters; the bits of FMCFG, FSCFG, FFASS and FACT belong to the banks. -/
structure CanFilters where
  fctrl : BitVec 32
  fmcfg : BitVec 32
  fscfg : BitVec 32
  ffass : BitVec 32
  fact : BitVec 32
  sFilterRegister : Nat → CanFilterRegister

-- `CAN_FILTER_MODE_T`.
inductive CanFilterMode where
  | idMask
  | idList
  deriving DecidableEq, Repr

-- `CAN_FILTER_SCALE_T`.
inductive CanFilterScale where
  | scale16
  | scale32
  deriving DecidableEq, Repr

/-- `CAN_FilterConfig_T`; `CAN_FILTER_FIFO_T` names the same two FIFOs as `CAN_RX_FIFO_T`. -/
structure CanFilterConfig where
  filterNumber : BitVec 8
  filterIdHigh : BitVec 16
  filterIdLow : BitVec 16
  filterMaskIdHigh : BitVec 16
  filterMaskIdLow : BitVec 16
  filterActivation : BitVec 16
  filterFIFO : CanFifo
  filterMode : CanFilterMode
  filterScale : CanFilterScale
  deriving DecidableEq, Repr

-- "It can be 0 to 13."
def filterBanks : Nat := 14

-- `((0x0000FFFF & high) << 16) | (0x0000FFFF & low)`.
def halves (high low : BitVec 16) : BitVec 32 :=
  ((0x0000FFFF &&& high.setWidth 32) <<< 16) ||| (0x0000FFFF &&& low.setWidth 32)

def CanFilters.configFilter (filters : CanFilters) (config : CanFilterConfig) : CanFilters :=
  let filters := { filters with fctrl := assign filters.fctrl 0 1 1 }
  let number := config.filterNumber.toNat
  let bit := (1 : BitVec 32) <<< number
  let filters := { filters with fact := filters.fact &&& ~~~bit }
  let filters := match config.filterScale with
    | .scale16 =>
        { filters with
          fscfg := filters.fscfg &&& ~~~bit
          sFilterRegister := Function.update filters.sFilterRegister number
            ⟨halves config.filterMaskIdLow config.filterIdLow,
              halves config.filterMaskIdHigh config.filterIdHigh⟩ }
    | .scale32 =>
        { filters with
          fscfg := filters.fscfg ||| bit
          sFilterRegister := Function.update filters.sFilterRegister number
            ⟨halves config.filterIdHigh config.filterIdLow,
              halves config.filterMaskIdHigh config.filterMaskIdLow⟩ }
  let filters := match config.filterMode with
    | .idMask => { filters with fmcfg := filters.fmcfg &&& ~~~bit }
    | .idList => { filters with fmcfg := filters.fmcfg ||| bit }
  let filters := match config.filterFIFO with
    | .fifo0 => { filters with ffass := filters.ffass &&& ~~~bit }
    | .fifo1 => { filters with ffass := filters.ffass ||| bit }
  let filters :=
    if config.filterActivation = 1 then { filters with fact := filters.fact ||| bit } else filters
  { filters with fctrl := assign filters.fctrl 0 1 0 }

/-! ## What the filters let in -/

/-- One bank, as its registers say. -/
structure CanFilterBank where
  active : Bool
  wide : Bool
  list : Bool
  fifo : CanFifo
  register : CanFilterRegister
  deriving DecidableEq, Repr

def CanFilters.bank (filters : CanFilters) (number : Nat) : CanFilterBank where
  active := filters.fact.getLsbD number
  wide := filters.fscfg.getLsbD number
  list := filters.fmcfg.getLsbD number
  fifo := if filters.ffass.getLsbD number then .fifo1 else .fifo0
  register := filters.sFilterRegister number

-- The standard identifier, RTXR, IDE and the three highest bits of the rest of an extended one.
def shortWord (word : BitVec 32) : BitVec 16 :=
  field word 21 11 ++ field word 1 1 ++ field word 2 1 ++ field word 18 3

/-- A bank compares with one or two identifiers and masks, or with two or four identifiers. -/
def CanFilterBank.accepts (bank : CanFilterBank) (word : BitVec 32) : Bool :=
  let fbank1 := bank.register.fbank1
  let fbank2 := bank.register.fbank2
  let short := shortWord word
  bank.active &&
    if bank.wide then
      if bank.list then word = fbank1 || word = fbank2
      else (word ^^^ fbank1) &&& fbank2 = 0
    else
      if bank.list then
        short = field fbank1 0 16 || short = field fbank1 16 16 || short = field fbank2 0 16 ||
          short = field fbank2 16 16
      else
        (short ^^^ field fbank1 0 16) &&& field fbank1 16 16 = 0 ||
          (short ^^^ field fbank2 0 16) &&& field fbank2 16 16 = 0

/-- The FIFO for a message with this identifier word, where the choice between banks that both let
it in is left open. Nothing is received while FINITEN is set. -/
def CanFilters.Selects (filters : CanFilters) (word : BitVec 32) : Option CanFifo → Prop
  | some fifo => filters.fctrl.getLsbD 0 = false ∧
      ∃ number < filterBanks, (filters.bank number).accepts word ∧ (filters.bank number).fifo = fifo
  | none => filters.fctrl.getLsbD 0 = true ∨
      ∀ number < filterBanks, (filters.bank number).accepts word = false

/-! ## What has been asked for -/

-- The bits that the mask names are those of the identifier.
def Fits {width : Nat} (word identifier mask : BitVec width) : Prop :=
  ∀ bit, mask.getLsbD bit = true → word.getLsbD bit = identifier.getLsbD bit

namespace CanFilterConfig

def Accepts (config : CanFilterConfig) (word : BitVec 32) : Prop :=
  config.filterActivation = 1 ∧
    match config.filterScale, config.filterMode with
    | .scale32, .idMask => Fits word (config.filterIdHigh ++ config.filterIdLow)
        (config.filterMaskIdHigh ++ config.filterMaskIdLow)
    | .scale32, .idList => word ∈ [config.filterIdHigh ++ config.filterIdLow,
        config.filterMaskIdHigh ++ config.filterMaskIdLow]
    | .scale16, .idMask => Fits (shortWord word) config.filterIdLow config.filterMaskIdLow ∨
        Fits (shortWord word) config.filterIdHigh config.filterMaskIdHigh
    | .scale16, .idList => shortWord word ∈ [config.filterIdLow, config.filterMaskIdLow,
        config.filterIdHigh, config.filterMaskIdHigh]

/-- The range that `apm32f10x_can.h` states. -/
def Valid (config : CanFilterConfig) : Prop := config.filterNumber.toNat < filterBanks

instance (config : CanFilterConfig) : Decidable config.Valid :=
  inferInstanceAs (Decidable (_ < _))

end CanFilterConfig

-- The last configuration of each bank.
abbrev CanPolicy := Nat → Option CanFilterConfig

namespace CanPolicy

def change (policy : CanPolicy) (config : CanFilterConfig) : CanPolicy :=
  Function.update policy config.filterNumber.toNat (some config)

/-- Some bank asks for the message and wants it in this FIFO, or none asks for it. -/
def Routes (policy : CanPolicy) (word : BitVec 32) : Option CanFifo → Prop
  | some fifo => ∃ number config, policy number = some config ∧ config.Accepts word ∧
      config.filterFIFO = fifo
  | none => ∀ number config, policy number = some config → ¬ config.Accepts word

end CanPolicy

/-! ## One bank -/

theorem fits_iff {width : Nat} (word identifier mask : BitVec width) :
    Fits word identifier mask ↔ (word ^^^ identifier) &&& mask = 0 := by
  constructor
  next =>
    intro fits
    apply BitVec.eq_of_getLsbD_eq
    intro bit _
    rw [BitVec.getLsbD_and, BitVec.getLsbD_xor]
    cases named : mask.getLsbD bit with
    | false => simp
    | true => simp [fits bit named]
  next =>
    intro clear bit named
    have same := congrArg (BitVec.getLsbD · bit) clear
    simpa [named] using same

theorem halves_eq (high low : BitVec 16) : halves high low = high ++ low := by
  apply BitVec.eq_of_getLsbD_eq
  intro bit within
  have ones16 : (0x0000FFFF : BitVec 32) = ones 32 16 := by decide
  rw [halves, ones16, BitVec.getLsbD_append, BitVec.getLsbD_or, BitVec.getLsbD_shiftLeft]
  simp only [BitVec.getLsbD_and, BitVec.getLsbD_setWidth, ones, BitVec.getLsbD_allOnes, within,
    decide_true, Bool.true_and]
  by_cases inside : bit < 16
  next => simp [inside]
  next =>
    have above : bit - 16 < 16 := by omega
    have below : bit - 16 < 32 := by omega
    simp [inside, above, below]

theorem field_append (high low : BitVec 16) :
    field (high ++ low) 0 16 = low ∧ field (high ++ low) 16 16 = high := by
  constructor <;>
  · apply BitVec.eq_of_getLsbD_eq
    intro bit inside
    rw [field, BitVec.getLsbD_extractLsb', BitVec.getLsbD_append]
    simp [inside]

/-- The bank that a configuration asks for. -/
def CanFilterConfig.bank (config : CanFilterConfig) : CanFilterBank where
  active := config.filterActivation = 1
  wide := config.filterScale = .scale32
  list := config.filterMode = .idList
  fifo := config.filterFIFO
  register :=
    match config.filterScale with
    | .scale16 => ⟨halves config.filterMaskIdLow config.filterIdLow,
        halves config.filterMaskIdHigh config.filterIdHigh⟩
    | .scale32 => ⟨halves config.filterIdHigh config.filterIdLow,
        halves config.filterMaskIdHigh config.filterMaskIdLow⟩

theorem bank_accepts (config : CanFilterConfig) (word : BitVec 32) :
    config.bank.accepts word = true ↔ config.Accepts word := by
  obtain ⟨number, idHigh, idLow, maskHigh, maskLow, activation, fifo, mode, scale⟩ := config
  unfold CanFilterConfig.Accepts CanFilterBank.accepts CanFilterConfig.bank
  rw [Bool.and_eq_true, decide_eq_true_iff]
  refine and_congr_right fun _ => ?_
  cases scale with
  | scale16 =>
    cases mode with
    | idMask => simp [halves_eq, field_append, fits_iff]
    | idList => simp [halves_eq, field_append, or_assoc]
  | scale32 =>
    cases mode with
    | idMask => simp [halves_eq, fits_iff]
    | idList => simp [halves_eq]

/-! ## The calls -/

theorem getLsbD_or_one (register : BitVec 32) (number : Nat) {other : Nat} (within : other < 32) :
    (register ||| (1 : BitVec 32) <<< number).getLsbD other =
      (decide (other = number) || register.getLsbD other) := by
  rw [or_one_shiftLeft, getLsbD_assign _ _ _ _ within]
  by_cases same : other = number
  next =>
    subst same
    simp
  next =>
    rw [if_neg (by omega)]
    simp [same]

theorem getLsbD_and_not_one (register : BitVec 32) (number : Nat) {other : Nat}
    (within : other < 32) : (register &&& ~~~((1 : BitVec 32) <<< number)).getLsbD other =
      (!decide (other = number) && register.getLsbD other) := by
  rw [and_not_one_shiftLeft, getLsbD_assign _ _ _ _ within]
  by_cases same : other = number
  next =>
    subst same
    simp
  next =>
    rw [if_neg (by omega)]
    simp [same]

theorem bank_configFilter (filters : CanFilters) (config : CanFilterConfig) {number : Nat}
    (within : number < filterBanks) : (filters.configFilter config).bank number =
      if number = config.filterNumber.toNat then config.bank else filters.bank number := by
  have inside : number < 32 := Nat.lt_trans within (by decide)
  obtain ⟨filterNumber, idHigh, idLow, maskHigh, maskLow, activation, fifo, mode, scale⟩ := config
  dsimp only
  generalize place : filterNumber.toNat = chosen
  by_cases same : number = chosen
  next =>
    subst same
    cases scale <;> cases mode <;> cases fifo <;> by_cases enabled : activation = 1 <;>
      simp only [CanFilters.configFilter, CanFilters.bank, CanFilterConfig.bank, place, enabled,
        getLsbD_or_one _ _ inside, getLsbD_and_not_one _ _ inside, Function.update_self, if_true,
        if_false, decide_true, decide_false, Bool.not_true, Bool.true_or, Bool.false_and,
        Bool.false_eq_true, reduceCtorEq]
  next =>
    cases scale <;> cases mode <;> cases fifo <;> by_cases enabled : activation = 1 <;>
      simp only [CanFilters.configFilter, CanFilters.bank, place, enabled, same,
        getLsbD_or_one _ _ inside, getLsbD_and_not_one _ _ inside, Function.update_of_ne same,
        if_true, if_false, decide_false, Bool.not_false, Bool.false_or, Bool.true_and]

theorem fctrl_configFilter (filters : CanFilters) (config : CanFilterConfig) :
    (filters.configFilter config).fctrl.getLsbD 0 = false := by
  have last : (filters.configFilter config).fctrl =
      assign (assign filters.fctrl 0 1 1) 0 1 0 := by
    obtain ⟨number, idHigh, idLow, maskHigh, maskLow, activation, fifo, mode, scale⟩ := config
    unfold CanFilters.configFilter
    by_cases enabled : activation = 1 <;> cases scale <;> cases mode <;> cases fifo <;>
      simp only [enabled, if_true, if_false]
  rw [last, getLsbD_assign _ _ _ _ (by decide)]
  rfl

/-- The banks are as the last configurations of them ask for. -/
structure CanFilters.Follows (filters : CanFilters) (policy : CanPolicy) : Prop where
  configured : ∀ number config, policy number = some config →
    number < filterBanks ∧ filters.bank number = config.bank
  others : ∀ number < filterBanks, policy number = none → (filters.bank number).active = false
  started : filters.fctrl.getLsbD 0 = true → ∀ number, policy number = none

namespace CanFilters

variable {filters : CanFilters} {policy : CanPolicy}

theorem Follows.configFilter (follows : filters.Follows policy) {config : CanFilterConfig}
    (valid : config.Valid) :
    (filters.configFilter config).Follows (policy.change config) := by
  refine ⟨fun number asked last => ?_, fun number within none => ?_, fun set => ?_⟩
  · unfold CanPolicy.change at last
    by_cases same : number = config.filterNumber.toNat
    next =>
      subst same
      rw [Function.update_self] at last
      obtain rfl := Option.some.inj last
      exact ⟨valid, by rw [bank_configFilter _ _ valid, if_pos rfl]⟩
    next =>
      rw [Function.update_of_ne same] at last
      obtain ⟨within, bank⟩ := follows.configured number asked last
      exact ⟨within, by rw [bank_configFilter _ _ within, if_neg same, bank]⟩
  · unfold CanPolicy.change at none
    by_cases same : number = config.filterNumber.toNat
    next =>
      subst same
      simp at none
    next =>
      rw [Function.update_of_ne same] at none
      rw [bank_configFilter _ _ within, if_neg same]
      exact follows.others number within none
  · rw [fctrl_configFilter] at set
    cases set

theorem Follows.accepts (follows : filters.Follows policy) (word : BitVec 32) {number : Nat}
    (within : number < filterBanks) : (filters.bank number).accepts word = true ↔
      ∃ config, policy number = some config ∧ config.Accepts word := by
  cases last : policy number with
  | none =>
    have inactive := follows.others number within last
    simp [CanFilterBank.accepts, inactive]
  | some config =>
    rw [(follows.configured number config last).2, bank_accepts]
    simp

/-- The filters let a message in, and where to, as the configurations ask for. -/
theorem Follows.selects_iff (follows : filters.Follows policy) (word : BitVec 32)
    (route : Option CanFifo) : filters.Selects word route ↔ policy.Routes word route := by
  cases route with
  | none =>
    constructor
    next =>
      rintro (starting | refused) number config last accepts
      next =>
        rw [follows.started starting number] at last
        cases last
      next =>
        have within := (follows.configured number config last).1
        have accepted := (follows.accepts word within).mpr ⟨config, last, accepts⟩
        rw [refused number within] at accepted
        cases accepted
    next =>
      intro refused
      refine Or.inr fun number within => ?_
      rw [Bool.eq_false_iff]
      intro accepted
      obtain ⟨config, last, accepts⟩ := (follows.accepts word within).mp accepted
      exact refused number config last accepts
  | some fifo =>
    constructor
    next =>
      rintro ⟨_, number, within, accepted, there⟩
      obtain ⟨config, last, accepts⟩ := (follows.accepts word within).mp accepted
      rw [(follows.configured number config last).2] at there
      exact ⟨number, config, last, accepts, there⟩
    next =>
      rintro ⟨number, config, last, accepts, there⟩
      obtain ⟨within, bank⟩ := follows.configured number config last
      refine ⟨?_, number, within, (follows.accepts word within).mpr ⟨config, last, accepts⟩, ?_⟩
      · cases starting : filters.fctrl.getLsbD 0 with
        | false => rfl
        | true =>
          rw [follows.started starting number] at last
          cases last
      · rw [bank]
        exact there

/-- The filters after a reset, whatever the banks hold. -/
def reset (sFilterRegister : Nat → CanFilterRegister) : CanFilters :=
  ⟨0x2A1C0E01, 0, 0, 0, 0, sFilterRegister⟩

theorem reset_follows (sFilterRegister : Nat → CanFilterRegister) :
    (reset sFilterRegister).Follows fun _ => none :=
  ⟨fun _ _ none => (by cases none), fun _ _ _ => BitVec.getLsbD_zero, fun _ _ => rfl⟩

theorem configFilters_follow {start : CanFilters} (follows : start.Follows policy)
    {configs : List CanFilterConfig} (valid : ∀ config ∈ configs, config.Valid) :
    (configs.foldl configFilter start).Follows (configs.foldl CanPolicy.change policy) := by
  induction configs generalizing start policy with
  | nil => exact follows
  | cons config rest ih =>
    exact ih (follows.configFilter (valid config List.mem_cons_self)) fun later member =>
      valid later (List.mem_cons_of_mem _ member)

/-- After any calls, what a controller receives, and into which FIFO, is what the last call for
each filter number asks for. Of two that ask for different FIFOs either may be the one. -/
theorem filters_as_asked (sFilterRegister : Nat → CanFilterRegister)
    {configs : List CanFilterConfig} (valid : ∀ config ∈ configs, config.Valid)
    (message : CanTxMessage) (route : Option CanFifo) :
    (configs.foldl configFilter (reset sFilterRegister)).Selects message.idWord route ↔
      CanPolicy.Routes (configs.foldl CanPolicy.change fun _ => none) message.idWord route :=
  (configFilters_follow (reset_follows sFilterRegister) valid).selects_iff message.idWord route

-- The standard identifiers 0x100 to 0x10F, in both scales.
def wideFilter : CanFilterConfig := ⟨0, 0x2000, 0, 0xFE00, 0x0006, 1, .fifo0, .idMask, .scale32⟩

def shortFilter : CanFilterConfig :=
  ⟨13, 0x2000, 0x2000, 0xFE18, 0xFE18, 1, .fifo1, .idMask, .scale16⟩

def sixth : CanTxMessage := ⟨0x105, 0, .std, .data, 0, fun _ => 0⟩

theorem shortFilter_accepts : shortFilter.Accepts sixth.idWord :=
  ⟨rfl, .inl ((fits_iff _ _ _).mpr (by decide))⟩

theorem sixteen_as_asked : ([wideFilter, shortFilter].foldl configFilter
    (reset fun _ => ⟨0, 0⟩)).Selects sixth.idWord (some .fifo1) :=
  (filters_as_asked (fun _ => ⟨0, 0⟩) (by decide) sixth (some .fifo1)).mpr
    ⟨13, shortFilter, rfl, shortFilter_accepts, rfl⟩

end CanFilters

end ApmSdk.StdPeriph
