import ApmSdk.Lib.RegisterFile

set_option autoImplicit false

/-!
# Channels of the timers

The functions on one channel of a timer, and which fields of the shared registers they change.
-/

namespace ApmSdk.StdPeriph.Tmr

open Fields RegisterFile

/-! ## The registers -/

-- The registers of `TMR_T` that the functions write.
inductive Register where
  | ctrl2
  | ccm1
  | ccm2
  | ccen
  | cc1
  | cc2
  | cc3
  | cc4
  deriving DecidableEq, Repr

abbrev File := Register → BitVec 32

-- `TMR_CHANNEL_T`.
inductive Channel where
  | channel1
  | channel2
  | channel3
  | channel4
  deriving DecidableEq, Repr

def Channel.value : Channel → Nat
  | channel1 => 0x0000
  | channel2 => 0x0004
  | channel3 => 0x0008
  | channel4 => 0x000C

/-- The fields of one channel, in the compare and the capture view of CCMx. -/
inductive Kind where
  | ccEn
  | ccPol
  | ccNEn
  | ccNPol
  | ccSel
  | ocFEn
  | ocPEn
  | ocMod
  | ocCEn
  | icPsc
  | icF
  | ocOIS
  | ocNOIS
  | cc
  deriving DecidableEq, Repr

/-- What of the registers belongs to one channel: bits of CCEN, CCMx and CTRL2, and CCx. -/
inductive Region where
  | control
  | mode
  | idle
  | compare
  deriving DecidableEq, Repr

def Region.count : Region → Nat
  | control => 4
  | mode => 8
  | idle => 2
  | compare => 32

def Region.slot (channel : Channel) : Region → Slot Register
  | control => ⟨.ccen, channel.value, 4⟩
  | mode => match channel with
    | .channel1 => ⟨.ccm1, 0, 8⟩
    | .channel2 => ⟨.ccm1, 8, 8⟩
    | .channel3 => ⟨.ccm2, 0, 8⟩
    | .channel4 => ⟨.ccm2, 8, 8⟩
  | idle => ⟨.ctrl2, 8 + channel.value / 2, 2⟩
  | compare => match channel with
    | .channel1 => ⟨.cc1, 0, 32⟩
    | .channel2 => ⟨.cc2, 0, 32⟩
    | .channel3 => ⟨.cc3, 0, 32⟩
    | .channel4 => ⟨.cc4, 0, 32⟩

def Kind.region : Kind → Region
  | ccEn | ccPol | ccNEn | ccNPol => .control
  | ccSel | ocFEn | ocPEn | ocMod | ocCEn | icPsc | icF => .mode
  | ocOIS | ocNOIS => .idle
  | cc => .compare

-- The first bit in the region and the number of bits.
def Kind.bits : Kind → Nat × Nat
  | ccEn => (0, 1)
  | ccPol => (1, 1)
  | ccNEn => (2, 1)
  | ccNPol => (3, 1)
  | ccSel => (0, 2)
  | ocFEn => (2, 1)
  | ocPEn => (3, 1)
  | ocMod => (4, 3)
  | ocCEn => (7, 1)
  | icPsc => (2, 2)
  | icF => (4, 4)
  | ocOIS => (0, 1)
  | ocNOIS => (1, 1)
  | cc => (0, 32)

def Kind.slot (channel : Channel) (kind : Kind) : Slot Register :=
  let region := kind.region.slot channel
  ⟨region.register, region.offset + kind.bits.1, kind.bits.2⟩

/-- Channel 4 has no complementary output. -/
def Kind.Exists (channel : Channel) (kind : Kind) : Prop :=
  channel = .channel4 → kind ≠ .ccNEn ∧ kind ≠ .ccNPol ∧ kind ≠ .ocNOIS

/-! ## The functions -/

inductive Timer where
  | tmr1 | tmr2 | tmr3 | tmr4 | tmr5 | tmr6 | tmr7 | tmr8 | tmr9
  | tmr10 | tmr11 | tmr12 | tmr13 | tmr14 | tmr15 | tmr16 | tmr17
  deriving DecidableEq, Repr

-- `(tmr == TMR1) || (tmr == TMR8)`.
def advanced (tmr : Timer) : Bool := tmr = .tmr1 || tmr = .tmr8

-- The timers of the first branch in `TI1Config` to `TI3Config`.
def general (tmr : Timer) : Bool :=
  tmr = .tmr1 || tmr = .tmr8 || tmr = .tmr2 || tmr = .tmr3 || tmr = .tmr4 || tmr = .tmr5

-- `TMR_OC_MODE_T`.
inductive OcMode where
  | tmring
  | active
  | inactive
  | toggel
  | lowlevel
  | highlevel
  | pwm1
  | pwm2
  deriving DecidableEq, Repr

def OcMode.value : OcMode → BitVec 32
  | tmring => 0x00
  | active => 0x01
  | inactive => 0x02
  | toggel => 0x03
  | lowlevel => 0x04
  | highlevel => 0x05
  | pwm1 => 0x06
  | pwm2 => 0x07

/-- `TMR_OC_POLARITY_T` and `TMR_OC_NPOLARITY_T`. -/
inductive OcPolarity where
  | high
  | low
  deriving DecidableEq, Repr

def OcPolarity.value : OcPolarity → BitVec 32
  | high => 0
  | low => 1

/-- `TMR_OCConfig_T`; an enabled state and an idle state that is set are `true`. -/
structure OcConfig where
  mode : OcMode
  outputState : Bool
  outputNState : Bool
  polarity : OcPolarity
  nPolarity : OcPolarity
  idleState : Bool
  nIdleState : Bool
  pulse : BitVec 16
  deriving DecidableEq, Repr

def bitReset : BitVec 32 := 0
def bitSet : BitVec 32 := 1

def state (on : Bool) : BitVec 32 := if on then 1 else 0

-- Assignments to fields of a channel, one after another.
def assignFields (file : File) (channel : Channel) (assignments : List (Kind × BitVec 32)) : File :=
  assignAll file (assignments.map fun assignment => (assignment.1.slot channel, assignment.2))

def configOC1 (tmr : Timer) (file : File) (config : OcConfig) : File :=
  assignFields file .channel1 <|
    [(.ccEn, bitReset), (.ccSel, bitReset), (.ocMod, config.mode.value),
      (.ccPol, config.polarity.value), (.ccEn, state config.outputState)] ++
    (if advanced tmr then
      [(.ccNPol, config.nPolarity.value), (.ccNEn, state config.outputNState),
        (.ocOIS, bitReset), (.ocNOIS, bitReset),
        (.ocOIS, state config.idleState), (.ocNOIS, state config.nIdleState)]
    else []) ++
    [(.cc, config.pulse.setWidth 32)]

-- The body of `TMR_ConfigOC2` and `TMR_ConfigOC3`.
def configOC (channel : Channel) (tmr : Timer) (file : File) (config : OcConfig) : File :=
  assignFields file channel <|
    [(.ccEn, bitReset), (.ocMod, bitReset), (.ccSel, bitReset), (.ocMod, config.mode.value),
      (.ccPol, bitReset), (.ccPol, config.polarity.value), (.ccEn, state config.outputState)] ++
    (if advanced tmr then
      [(.ccNPol, bitReset), (.ccNPol, config.nPolarity.value),
        (.ccNEn, bitReset), (.ccNEn, state config.outputNState),
        (.ocOIS, bitReset), (.ocNOIS, bitReset),
        (.ocOIS, state config.idleState), (.ocNOIS, state config.nIdleState)]
    else []) ++
    [(.cc, config.pulse.setWidth 32)]

def configOC2 : Timer → File → OcConfig → File := configOC .channel2

def configOC3 : Timer → File → OcConfig → File := configOC .channel3

def configOC4 (tmr : Timer) (file : File) (config : OcConfig) : File :=
  assignFields file .channel4 <|
    [(.ccEn, bitReset), (.ocMod, bitReset), (.ccSel, bitReset), (.ocMod, config.mode.value),
      (.ccPol, bitReset), (.ccPol, config.polarity.value), (.ccEn, state config.outputState)] ++
    (if advanced tmr then [(.ocOIS, bitReset), (.ocOIS, state config.idleState)] else []) ++
    [(.cc, config.pulse.setWidth 32)]

-- `TMR_IC_POLARITY_T`.
inductive IcPolarity where
  | rising
  | falling
  | bothedge
  deriving DecidableEq, Repr

def IcPolarity.value : IcPolarity → BitVec 16
  | rising => 0x00
  | falling => 0x02
  | bothedge => 0x0A

-- `TMR_IC_SELECTION_T`.
inductive IcSelection where
  | directTi
  | indirectTi
  | trc
  deriving DecidableEq, Repr

def IcSelection.value : IcSelection → BitVec 32
  | directTi => 0x01
  | indirectTi => 0x02
  | trc => 0x03

-- `TMR_IC_PSC_T`.
inductive IcPsc where
  | psc1
  | psc2
  | psc4
  | psc8
  deriving DecidableEq, Repr

def IcPsc.value : IcPsc → BitVec 32
  | psc1 => 0
  | psc2 => 1
  | psc4 => 2
  | psc8 => 3

-- `TMR_ICConfig_T`.
structure IcConfig where
  channel : Channel
  polarity : IcPolarity
  selection : IcSelection
  prescaler : IcPsc
  filter : BitVec 16
  filter_le : filter.toNat ≤ 0x0F
  deriving DecidableEq

-- `tmpchctrl = CCEN`, `tmpchctrl |= ICpolarity << shift`, `CCEN = tmpchctrl`, in 16 bits.
def orPolarity (file : File) (polarity : IcPolarity) (shift : Nat) : File :=
  let tmpchctrl := (file .ccen).setWidth 16
  let tmpchctrl := tmpchctrl ||| polarity.value <<< shift
  Function.update file .ccen (tmpchctrl.setWidth 32)

-- The body of `TI1Config`, `TI2Config` and `TI3Config`.
def tiConfig (channel : Channel) (tmr : Timer) (file : File) (polarity : IcPolarity)
    (selection : IcSelection) (filter : BitVec 16) : File :=
  let file := assignFields file channel
    [(.ccEn, bitReset), (.ccSel, bitReset), (.icF, bitReset), (.ccSel, selection.value),
      (.icF, filter.setWidth 32)]
  if general tmr then
    let file := assignFields file channel [(.ccPol, bitReset), (.ccEn, bitSet)]
    orPolarity file polarity channel.value
  else
    let file := assignFields file channel
      [(.ccPol, bitReset), (.ccNPol, bitReset), (.ccEn, bitSet)]
    orPolarity file polarity channel.value

def ti1Config : Timer → File → IcPolarity → IcSelection → BitVec 16 → File := tiConfig .channel1

def ti2Config : Timer → File → IcPolarity → IcSelection → BitVec 16 → File := tiConfig .channel2

def ti3Config : Timer → File → IcPolarity → IcSelection → BitVec 16 → File := tiConfig .channel3

def ti4Config (file : File) (polarity : IcPolarity) (selection : IcSelection)
    (filter : BitVec 16) : File :=
  let file := assignFields file .channel4
    [(.ccEn, bitReset), (.ccSel, bitReset), (.icF, bitReset), (.ccSel, selection.value),
      (.icF, filter.setWidth 32), (.ccPol, bitReset), (.ccEn, bitSet)]
  orPolarity file polarity 12

-- `TMR_ConfigIC1Prescal` to `TMR_ConfigIC4Prescal`.
def configICPrescal (file : File) (channel : Channel) (prescaler : IcPsc) : File :=
  assignFields file channel [(.icPsc, bitReset), (.icPsc, prescaler.value)]

def configIC (tmr : Timer) (file : File) (config : IcConfig) : File :=
  let configured := match config.channel with
    | .channel1 => ti1Config tmr file config.polarity config.selection config.filter
    | .channel2 => ti2Config tmr file config.polarity config.selection config.filter
    | .channel3 => ti3Config tmr file config.polarity config.selection config.filter
    | .channel4 => ti4Config file config.polarity config.selection config.filter
  configICPrescal configured config.channel config.prescaler

def enableCCxChannel (file : File) (channel : Channel) : File :=
  Function.update file .ccen (file .ccen ||| bitSet <<< channel.value)

def disableCCxChannel (file : File) (channel : Channel) : File :=
  Function.update file .ccen (file .ccen &&& ~~~(bitSet <<< channel.value))

def enableCCxNChannel (file : File) (channel : Channel) : File :=
  Function.update file .ccen (file .ccen ||| (0x04 : BitVec 32) <<< channel.value)

def disableCCxNChannel (file : File) (channel : Channel) : File :=
  Function.update file .ccen (file .ccen &&& ~~~((0x04 : BitVec 32) <<< channel.value))

def selectOCxMode (file : File) (channel : Channel) (mode : OcMode) : File :=
  -- A shift of zero, so that nothing of CCEN is left.
  let file := Function.update file .ccen (file .ccen &&& bitReset <<< channel.value)
  assignFields file channel [(.ocMod, mode.value)]

/-! ## Operations -/

inductive Operation where
  | configOC (channel : Channel) (config : OcConfig)
  | selectOCxMode (channel : Channel) (mode : OcMode)
  | configIC (config : IcConfig)
  | enableCCx (channel : Channel)
  | disableCCx (channel : Channel)
  | enableCCxN (channel : Channel)
  | disableCCxN (channel : Channel)
  deriving DecidableEq

def Operation.channel : Operation → Channel
  | configOC channel _ => channel
  | selectOCxMode channel _ => channel
  | configIC config => config.channel
  | enableCCx channel => channel
  | disableCCx channel => channel
  | enableCCxN channel => channel
  | disableCCxN channel => channel

def Operation.run (tmr : Timer) (file : File) : Operation → File
  | configOC channel config => match channel with
    | .channel1 => configOC1 tmr file config
    | .channel2 => configOC2 tmr file config
    | .channel3 => configOC3 tmr file config
    | .channel4 => configOC4 tmr file config
  | selectOCxMode channel mode => Tmr.selectOCxMode file channel mode
  | configIC config => Tmr.configIC tmr file config
  | enableCCx channel => enableCCxChannel file channel
  | disableCCx channel => disableCCxChannel file channel
  | enableCCxN channel => enableCCxNChannel file channel
  | disableCCxN channel => disableCCxNChannel file channel

/-- What an operation asks for the fields of its channel that it addresses. -/
def Operation.requests (tmr : Timer) : Operation → List (Kind × Nat)
  | configOC _ config =>
      [(.ccSel, 0), (.ocMod, config.mode.value.toNat), (.ccPol, config.polarity.value.toNat),
        (.ccEn, config.outputState.toNat), (.cc, config.pulse.toNat)] ++
      if advanced tmr then
        [(.ccNPol, config.nPolarity.value.toNat), (.ccNEn, config.outputNState.toNat),
          (.ocOIS, config.idleState.toNat), (.ocNOIS, config.nIdleState.toNat)]
      else []
  | selectOCxMode _ mode => [(.ocMod, mode.value.toNat), (.ccEn, 0)]
  -- The polarity has a bit for each of two fields.
  | configIC config =>
      [(.ccSel, config.selection.value.toNat), (.icF, config.filter.toNat),
        (.icPsc, config.prescaler.value.toNat), (.ccEn, 1),
        (.ccPol, (config.polarity.value.getLsbD 1).toNat),
        (.ccNPol, (config.polarity.value.getLsbD 3).toNat)]
  | enableCCx _ => [(.ccEn, 1)]
  | disableCCx _ => [(.ccEn, 0)]
  | enableCCxN _ => [(.ccNEn, 1)]
  | disableCCxN _ => [(.ccNEn, 0)]

/-- The fields of the other channels are unchanged, and those that are addressed as requested. -/
structure Right (tmr : Timer) (before : File) (operation : Operation) : Prop where
  others : ∀ (other : Channel) (kind : Kind), other ≠ operation.channel → kind.Exists other →
    read (operation.run tmr before) (kind.slot other) = read before (kind.slot other)
  own : ∀ request ∈ operation.requests tmr, request.1.Exists operation.channel →
    read (operation.run tmr before) (request.1.slot operation.channel) = request.2

-- What an operation needs of the registers.
def Fine (tmr : Timer) (before : File) : Operation → Prop
  | .selectOCxMode channel _ => ∀ (other : Channel) (kind : Kind), other ≠ channel →
      kind.Exists other → kind.region = .control → read before (kind.slot other) = 0
  | .configIC config => config.channel ≠ .channel4 → general tmr = true →
      config.polarity ≠ .bothedge → read before (Kind.ccNPol.slot config.channel) = 0
  | _ => True

/-! ## The fields are apart -/

def Kind.Apart (kind other : Kind) : Prop :=
  kind.region = other.region →
    kind.bits.1 + kind.bits.2 ≤ other.bits.1 ∨ other.bits.1 + other.bits.2 ≤ kind.bits.1

instance (kind other : Kind) : Decidable (kind.Apart other) := by
  unfold Kind.Apart
  infer_instance

theorem Kind.within (kind : Kind) : kind.bits.1 + kind.bits.2 ≤ kind.region.count := by
  cases kind <;> decide

theorem Region.slot_count (channel : Channel) (region : Region) :
    (region.slot channel).count = region.count := by
  cases region <;> cases channel <;> rfl

theorem Region.slot_fits (channel : Channel) (region : Region) :
    (region.slot channel).offset + region.count ≤ 32 := by
  cases region <;> cases channel <;> decide

theorem Region.slot_register_inj {channel : Channel} {region other : Region}
    (same : (region.slot channel).register = (other.slot channel).register) : region = other := by
  revert same
  cases region <;> cases other <;> cases channel <;> decide

theorem Region.apart {channel other : Channel} (different : channel ≠ other)
    (region second : Region) : (region.slot channel).Apart (second.slot other) := by
  revert different
  cases region <;> cases second <;> cases channel <;> cases other <;> decide

theorem Kind.slot_fits (channel : Channel) (kind : Kind) :
    (kind.slot channel).offset + (kind.slot channel).count ≤ 32 := by
  have region := kind.region.slot_fits channel
  have inside := kind.within
  simp only [Kind.slot]
  omega

theorem Kind.apart_channels {channel other : Channel} (different : channel ≠ other)
    (kind second : Kind) : (kind.slot channel).Apart (second.slot other) := by
  intro same
  have beside := Region.apart different kind.region second.region same
  have inside := kind.within
  have secondInside := second.within
  rw [Region.slot_count, Region.slot_count] at beside
  simp only [Kind.slot]
  omega

theorem Kind.Apart.slots {kind other : Kind} (apart : kind.Apart other) (channel : Channel) :
    (kind.slot channel).Apart (other.slot channel) := by
  intro same
  have region := Region.slot_register_inj same
  have beside := apart region
  simp only [Kind.slot, region]
  omega

section Assignments

variable (file : File) (channel : Channel)

theorem assignFields_append (first second : List (Kind × BitVec 32)) :
    assignFields file channel (first ++ second) =
      assignFields (assignFields file channel first) channel second := by
  rw [assignFields, List.map_append, assignAll_append]
  rfl

theorem read_assignFields_channel {other : Channel} (different : other ≠ channel)
    (assignments : List (Kind × BitVec 32)) (kind : Kind) :
    read (assignFields file channel assignments) (kind.slot other) =
      read file (kind.slot other) := by
  apply read_assignAll_apart file (kind.slot_fits other)
  intro assignment mem
  obtain ⟨own, _, rfl⟩ := List.mem_map.mp mem
  exact Kind.apart_channels different.symm own.1 kind

/-- An assignment to one field leaves the others, unless fields of the two views overlap. -/
theorem read_assign_kind (kind other : Kind) (value : BitVec 32)
    (clear : other = kind ∨ kind.Apart other) :
    read (assign file (kind.slot channel) value) (other.slot channel) =
      if other = kind then value.toNat % 2 ^ kind.bits.2
      else read file (other.slot channel) := by
  by_cases same : other = kind
  · subst same
    rw [if_pos rfl, read_assign_self _ _ (other.slot_fits channel)]
    rfl
  · rw [if_neg same, read_assign_apart _ _ ((clear.resolve_left same).slots channel)
      (other.slot_fits channel)]

end Assignments

/-! ## The functions as assignments -/

theorem enableCCxChannel_eq (file : File) (channel : Channel) :
    enableCCxChannel file channel = assignFields file channel [(.ccEn, 1)] := by
  rw [enableCCxChannel, bitSet, or_one_shiftLeft]
  rfl

theorem disableCCxChannel_eq (file : File) (channel : Channel) :
    disableCCxChannel file channel = assignFields file channel [(.ccEn, 0)] := by
  rw [disableCCxChannel, bitSet, and_not_one_shiftLeft]
  rfl

theorem four_shiftLeft (shift : Nat) :
    (0x04 : BitVec 32) <<< shift = (1 : BitVec 32) <<< (shift + 2) := by
  rw [Nat.add_comm, BitVec.shiftLeft_add]
  rfl

theorem enableCCxNChannel_eq (file : File) (channel : Channel) :
    enableCCxNChannel file channel = assignFields file channel [(.ccNEn, 1)] := by
  rw [enableCCxNChannel, four_shiftLeft, or_one_shiftLeft]
  rfl

theorem disableCCxNChannel_eq (file : File) (channel : Channel) :
    disableCCxNChannel file channel = assignFields file channel [(.ccNEn, 0)] := by
  rw [disableCCxNChannel, four_shiftLeft, and_not_one_shiftLeft]
  rfl

def IcPolarity.assignments : IcPolarity → List (Kind × BitVec 32)
  | rising => []
  | falling => [(.ccPol, 1)]
  | bothedge => [(.ccPol, 1), (.ccNPol, 1)]

theorem or_polarity_eq (file : File) (polarity : IcPolarity) (channel : Channel) :
    Function.update file .ccen
        (file .ccen ||| polarity.value.setWidth 32 <<< channel.value) =
      assignFields file channel polarity.assignments := by
  cases polarity with
  | rising =>
    simp [IcPolarity.value, IcPolarity.assignments, assignFields, assignAll]
  | falling =>
    have two : (0x02 : BitVec 16).setWidth 32 <<< channel.value =
        (1 : BitVec 32) <<< (channel.value + 1) := by cases channel <;> decide
    rw [IcPolarity.value, two, or_one_shiftLeft]
    rfl
  | bothedge =>
    have ten : (0x0A : BitVec 16).setWidth 32 <<< channel.value =
        (1 : BitVec 32) <<< (channel.value + 1) ||| (1 : BitVec 32) <<< (channel.value + 3) := by
      cases channel <;> decide
    rw [IcPolarity.value, ten, ← BitVec.or_assoc, or_one_shiftLeft, or_one_shiftLeft]
    simp [IcPolarity.assignments, assignFields, assignAll, RegisterFile.assign, Kind.slot,
      Kind.region, Region.slot, Kind.bits]

theorem Kind.slot_ccen_le {channel : Channel} (kind : Kind)
    (control : (kind.slot channel).register = .ccen) :
    (kind.slot channel).offset + (kind.slot channel).count ≤ 16 := by
  revert control
  cases kind <;> cases channel <;> decide

/-- The reserved half of CCEN apart, the polarity is a sequence of assignments. -/
theorem read_orPolarity (file : File) (polarity : IcPolarity) (channel other : Channel)
    (kind : Kind) : read (orPolarity file polarity channel.value) (kind.slot other) =
      read (assignFields file channel polarity.assignments) (kind.slot other) := by
  rw [← or_polarity_eq]
  apply read_congr
  intro bit inside
  by_cases control : (kind.slot other).register = .ccen
  · have low := kind.slot_ccen_le control
    have narrow : (kind.slot other).offset + bit < 16 := by omega
    have wide : (kind.slot other).offset + bit < 32 := by omega
    rw [control, orPolarity, Function.update_self, Function.update_self]
    simp only [BitVec.getLsbD_setWidth, BitVec.getLsbD_or, BitVec.getLsbD_shiftLeft, narrow, wide,
      decide_true, Bool.true_and]
    rw [decide_eq_true (show (kind.slot other).offset + bit - channel.value < 32 by omega),
      Bool.true_and]
  · rw [orPolarity, Function.update_of_ne control, Function.update_of_ne control]

-- The assignments of `TMR_ConfigIC` before the polarity is put in.
def IcConfig.assignments (tmr : Timer) (config : IcConfig) : List (Kind × BitVec 32) :=
  [(.ccEn, bitReset), (.ccSel, bitReset), (.icF, bitReset), (.ccSel, config.selection.value),
    (.icF, config.filter.setWidth 32)] ++
  (if config.channel = .channel4 ∨ general tmr then [(.ccPol, bitReset), (.ccEn, bitSet)]
  else [(.ccPol, bitReset), (.ccNPol, bitReset), (.ccEn, bitSet)])

theorem configIC_eq (tmr : Timer) (file : File) (config : IcConfig) : configIC tmr file config =
    assignFields
      (orPolarity (assignFields file config.channel (config.assignments tmr)) config.polarity
        config.channel.value)
      config.channel [(.icPsc, bitReset), (.icPsc, config.prescaler.value)] := by
  obtain ⟨channel, polarity, selection, prescaler, filter, bound⟩ := config
  cases channel with
  | channel4 => rfl
  | _ =>
    cases branch : general tmr <;>
      simp [configIC, ti1Config, ti2Config, ti3Config, tiConfig, IcConfig.assignments, branch,
        configICPrescal] <;>
      rfl

theorem read_configIC (tmr : Timer) (file : File) (config : IcConfig) (other : Channel)
    (kind : Kind) : read (configIC tmr file config) (kind.slot other) =
      read (assignFields file config.channel
        (config.assignments tmr ++ config.polarity.assignments ++
          [(.icPsc, bitReset), (.icPsc, config.prescaler.value)])) (kind.slot other) := by
  rw [configIC_eq, assignFields_append, assignFields_append]
  generalize assignFields file config.channel (config.assignments tmr) = selected
  by_cases control : (kind.slot other).register = .ccen
  · -- The prescaler is in another register.
    have apart : ∀ assignment ∈ [(Kind.icPsc.slot config.channel, bitReset),
        (Kind.icPsc.slot config.channel, config.prescaler.value)],
        assignment.1.Apart (kind.slot other) := by
      have elsewhere : (Kind.icPsc.slot config.channel).register ≠ .ccen := by
        cases config.channel <;> decide
      simp [Slot.Apart, control, elsewhere]
    have skip (before : File) := read_assignAll_apart before (kind.slot_fits other) _ apart
    exact (skip _).trans ((read_orPolarity _ _ _ _ _).trans (skip _).symm)
  · have same : orPolarity selected config.polarity config.channel.value
        (kind.slot other).register =
          assignFields selected config.channel config.polarity.assignments
            (kind.slot other).register := by
      rw [← or_polarity_eq, orPolarity, Function.update_of_ne control,
        Function.update_of_ne control]
    rw [RegisterFile.read, assignFields, assignAll_congr same]
    rfl

/-! ## One operation -/

theorem others_of_assignFields {before after : File} {channel : Channel}
    {assignments : List (Kind × BitVec 32)}
    (reads : ∀ (other : Channel) (kind : Kind), read after (kind.slot other) =
      read (assignFields before channel assignments) (kind.slot other))
    {other : Channel} (kind : Kind) (different : other ≠ channel) :
    read after (kind.slot other) = read before (kind.slot other) := by
  rw [reads, read_assignFields_channel before channel different]

theorem OcMode.value_lt (mode : OcMode) : mode.value.toNat < 8 := by
  cases mode <;> decide

theorem OcPolarity.value_mod (polarity : OcPolarity) :
    polarity.value.toNat % 2 = polarity.value.toNat := by
  cases polarity <;> rfl

theorem state_mod (on : Bool) : (state on).toNat % 2 = on.toNat := by
  cases on <;> rfl

theorem right_configOC (tmr : Timer) (before : File) (channel : Channel) (config : OcConfig) :
    Right tmr before (.configOC channel config) where
  others other kind different _ := by
    cases channel <;> exact read_assignFields_channel _ _ different _ _
  own := by
    have pulse : config.pulse.toNat < 4294967296 :=
      Nat.lt_of_lt_of_le config.pulse.isLt (by decide)
    cases branch : advanced tmr <;> cases channel <;>
      simp (disch := decide) [Operation.requests, branch, Operation.run, Operation.channel,
        configOC1, configOC2, configOC3, configOC4, configOC, assignFields, assignAll,
        read_assign_kind, Kind.bits, Kind.Exists, OcMode.value_lt, OcPolarity.value_mod, state_mod,
        bitReset, pulse]

theorem IcSelection.value_lt (selection : IcSelection) : selection.value.toNat < 4 := by
  cases selection <;> decide

theorem IcPsc.value_lt (prescaler : IcPsc) : prescaler.value.toNat < 4 := by
  cases prescaler <;> decide

/-- The complementary polarity is only cleared for the other timers. -/
theorem read_npol_configIC (tmr : Timer) (before : File) (config : IcConfig)
    (complementary : config.channel ≠ .channel4) :
    read (configIC tmr before config) (Kind.ccNPol.slot config.channel) =
      if config.polarity = .bothedge then 1
      else if general tmr then read before (Kind.ccNPol.slot config.channel) else 0 := by
  rw [read_configIC]
  cases branch : general tmr <;> cases edge : config.polarity <;>
    simp (disch := decide) [IcConfig.assignments, IcPolarity.assignments, branch, complementary,
      assignFields, assignAll, read_assign_kind, Kind.bits, bitReset]

theorem own_configIC (tmr : Timer) (before : File) (config : IcConfig) :
    ∀ request ∈ [(Kind.ccSel, config.selection.value.toNat), (.icF, config.filter.toNat),
        (.icPsc, config.prescaler.value.toNat), (.ccEn, 1),
        (.ccPol, (config.polarity.value.getLsbD 1).toNat)],
      read (configIC tmr before config) (request.1.slot config.channel) = request.2 := by
  have filter : config.filter.toNat < 16 := Nat.lt_succ_of_le config.filter_le
  have wide : config.filter.toNat < 4294967296 := by omega
  simp only [read_configIC]
  by_cases branch : config.channel = .channel4 ∨ general tmr = true <;>
    cases edge : config.polarity <;>
      simp (disch := decide) [IcConfig.assignments, IcPolarity.assignments, branch, assignFields,
        assignAll, read_assign_kind, Kind.bits, bitReset, bitSet, IcSelection.value_lt,
        IcPsc.value_lt, filter, Nat.mod_eq_of_lt wide, IcPolarity.value]

theorem right_configIC_iff (tmr : Timer) (before : File) (config : IcConfig) :
    Right tmr before (.configIC config) ↔ Fine tmr before (.configIC config) := by
  constructor
  · intro right complementary narrow edge
    have npol : read (configIC tmr before config) (Kind.ccNPol.slot config.channel) =
        (config.polarity.value.getLsbD 3).toNat :=
      right.own (.ccNPol, (config.polarity.value.getLsbD 3).toNat) (by simp [Operation.requests])
        (by simp [Kind.Exists, Operation.channel, complementary])
    rw [read_npol_configIC tmr before config complementary, if_neg edge, if_pos narrow] at npol
    rw [npol]
    cases shape : config.polarity with
    | bothedge => exact absurd shape edge
    | _ => rfl
  · intro fine
    refine ⟨fun other kind different _ => ?_, fun request mem present => ?_⟩
    · exact others_of_assignFields (read_configIC tmr before config) kind different
    · have split : request ∈ [(Kind.ccSel, config.selection.value.toNat),
          (.icF, config.filter.toNat), (.icPsc, config.prescaler.value.toNat), (.ccEn, 1),
          (.ccPol, (config.polarity.value.getLsbD 1).toNat)] ∨
            request = (.ccNPol, (config.polarity.value.getLsbD 3).toNat) := by
        simpa [Operation.requests, or_assoc] using mem
      rcases split with five | rfl
      · exact own_configIC tmr before config request five
      · have complementary : config.channel ≠ .channel4 := fun last => (present last).2.1 rfl
        have kept := fine complementary
        change read (configIC tmr before config) (Kind.ccNPol.slot config.channel) = _
        rw [read_npol_configIC tmr before config complementary]
        cases shape : config.polarity <;> cases branch : general tmr <;>
          simp_all [IcPolarity.value]

theorem Kind.slot_register_eq_ccen (channel : Channel) (kind : Kind) :
    (kind.slot channel).register = .ccen ↔ kind.region = .control := by
  cases kind <;> cases channel <;> decide

theorem selectOCxMode_eq (before : File) (channel : Channel) (mode : OcMode) :
    selectOCxMode before channel mode =
      assign (Function.update before .ccen 0) (Kind.ocMod.slot channel) mode.value := by
  simp [selectOCxMode, bitReset, assignFields, assignAll]

/-- Nothing is left of the control of any channel. -/
theorem read_control_selectOCxMode (before : File) (channel other : Channel) (mode : OcMode)
    {kind : Kind} (control : kind.region = .control) :
    read (selectOCxMode before channel mode) (kind.slot other) = 0 := by
  have register := (kind.slot_register_eq_ccen other).mpr control
  have mod : Register.ccen ≠ (Kind.ocMod.slot channel).register := by cases channel <;> decide
  rw [selectOCxMode_eq, RegisterFile.read, register, RegisterFile.assign, Function.update_of_ne mod,
    Function.update_self]
  simp [field]

theorem read_selectOCxMode_channel (before : File) {channel other : Channel} (mode : OcMode)
    (different : other ≠ channel) {kind : Kind} (free : kind.region ≠ .control) :
    read (selectOCxMode before channel mode) (kind.slot other) = read before (kind.slot other) := by
  have register : (kind.slot other).register ≠ .ccen :=
    mt (kind.slot_register_eq_ccen other).mp free
  rw [selectOCxMode_eq, read_assign_apart _ _ (Kind.apart_channels different.symm _ _)
    (kind.slot_fits other), RegisterFile.read, Function.update_of_ne register]
  rfl

theorem right_selectOCxMode_iff (tmr : Timer) (before : File) (channel : Channel) (mode : OcMode) :
    Right tmr before (.selectOCxMode channel mode) ↔
      Fine tmr before (.selectOCxMode channel mode) := by
  constructor
  · intro right other kind different present control
    rw [← right.others other kind different present]
    exact read_control_selectOCxMode before channel other mode control
  · intro fine
    refine ⟨fun other kind different present => ?_, fun request mem _ => ?_⟩
    · by_cases control : kind.region = .control
      · rw [fine other kind different present control]
        exact read_control_selectOCxMode before channel other mode control
      · exact read_selectOCxMode_channel before mode different control
    · have split : request = (.ocMod, mode.value.toNat) ∨ request = (.ccEn, 0) := by
        simpa [Operation.requests] using mem
      rcases split with rfl | rfl
      · change read (selectOCxMode before channel mode) _ = _
        rw [selectOCxMode_eq, Operation.channel, read_assign_kind _ _ _ _ _ (.inl rfl), if_pos rfl]
        exact Nat.mod_eq_of_lt mode.value_lt
      · exact read_control_selectOCxMode before channel channel mode rfl

theorem right_of_assignment {tmr : Timer} {before : File} {operation : Operation} (kind : Kind)
    (value : BitVec 32)
    (run : operation.run tmr before = assignFields before operation.channel [(kind, value)])
    (asked : operation.requests tmr = [(kind, value.toNat)])
    (small : value.toNat < 2 ^ kind.bits.2) : Right tmr before operation where
  others other second different _ := by
    rw [run, read_assignFields_channel _ _ different]
  own request mem _ := by
    rw [asked, List.mem_singleton] at mem
    subst mem
    rw [run]
    change read (assign before (kind.slot operation.channel) value) _ = _
    rw [read_assign_kind _ _ _ _ _ (.inl rfl), if_pos rfl, Nat.mod_eq_of_lt small]

/-- The other channels are unchanged and the requests met, from any content, exactly where a mode
finds nothing of the other channels in CCEN and a capture no complementary polarity. -/
theorem timer_right_iff (tmr : Timer) (before : File) (operation : Operation) :
    Right tmr before operation ↔ Fine tmr before operation := by
  cases operation with
  | configOC channel config => exact iff_true_intro (right_configOC tmr before channel config)
  | selectOCxMode channel mode => exact right_selectOCxMode_iff tmr before channel mode
  | configIC config => exact right_configIC_iff tmr before config
  | enableCCx channel =>
    exact iff_true_intro
      (right_of_assignment .ccEn 1 (enableCCxChannel_eq before channel) rfl (by decide))
  | disableCCx channel =>
    exact iff_true_intro
      (right_of_assignment .ccEn 0 (disableCCxChannel_eq before channel) rfl (by decide))
  | enableCCxN channel =>
    exact iff_true_intro
      (right_of_assignment .ccNEn 1 (enableCCxNChannel_eq before channel) rfl (by decide))
  | disableCCxN channel =>
    exact iff_true_intro
      (right_of_assignment .ccNEn 0 (disableCCxNChannel_eq before channel) rfl (by decide))

/-- Selecting a mode for channel 1 turns channel 2 off, and TMR2 keeps the complementary polarity of
channel 1 when it is to capture falling edges. -/
theorem timer_not_right :
    ¬Right .tmr1 (fun register => if register = .ccen then 0x0011 else 0)
      (.selectOCxMode .channel1 .pwm1) ∧
    ¬Right .tmr2 (fun register => if register = .ccen then 0x000A else 0)
      (.configIC ⟨.channel1, .falling, .directTi, .psc1, 0, by decide⟩) := by
  constructor
  · intro right
    have enabled := right.others .channel2 .ccEn (by decide) (by simp [Kind.Exists])
    revert enabled
    decide
  · intro right
    have complementary := right.own (.ccNPol, 0) (by decide)
      (by simp [Kind.Exists, Operation.channel])
    revert complementary
    decide

end ApmSdk.StdPeriph.Tmr
