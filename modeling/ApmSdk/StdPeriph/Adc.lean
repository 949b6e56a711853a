import ApmSdk.Lib.RegisterFile
import ApmSdk.Lib.Runs

set_option autoImplicit false

/-!
# Sequencers of the ADC

The functions that program the regular and the injected sequence and the sample times, and what
the converter takes from the registers after a sequence of their calls.
-/

namespace ApmSdk.StdPeriph.Adc

open Fields RegisterFile Runs

/-! ## The registers -/

/-- The registers of `ADC_T` that can be written, less the data register. -/
inductive Register where
  | sts
  | ctrl1
  | ctrl2
  | smptim1
  | smptim2
  | injdof1
  | injdof2
  | injdof3
  | injdof4
  | awdht
  | awdlt
  | regseq1
  | regseq2
  | regseq3
  | injseq
  deriving DecidableEq, Repr

abbrev File := Register → BitVec 32

/-- A number from 1 to `most`. -/
abbrev Count (most : Nat) := {number : Nat // 1 ≤ number ∧ number ≤ most}

-- `ADC_CHANNEL_0` to `ADC_CHANNEL_17`.
abbrev Channel := Fin 18

/-- The fields that the functions write; `injected` counts the four slots of INJSEQ from 0. -/
inductive Name where
  | scanen
  | discnumcfg
  | dualmcfg
  | contcen
  | daligncfg
  | regexttrgsel
  | smpcyccfg (channel : Channel)
  | regseqlen
  | regseqc (rank : Count 16)
  | injseqlen
  | injseqc (slot : Fin 4)
  deriving DecidableEq, Repr

def sampleSlot (channel : Nat) : Slot Register :=
  if 9 < channel then ⟨.smptim1, 3 * (channel - 10), 3⟩ else ⟨.smptim2, 3 * channel, 3⟩

def regularSlot (rank : Nat) : Slot Register :=
  if rank < 7 then ⟨.regseq3, 5 * (rank - 1), 5⟩
  else if rank < 13 then ⟨.regseq2, 5 * (rank - 7), 5⟩
  else ⟨.regseq1, 5 * (rank - 13), 5⟩

def Name.slot : Name → Slot Register
  | scanen => ⟨.ctrl1, 8, 1⟩
  | discnumcfg => ⟨.ctrl1, 13, 3⟩
  | dualmcfg => ⟨.ctrl1, 16, 4⟩
  | contcen => ⟨.ctrl2, 1, 1⟩
  | daligncfg => ⟨.ctrl2, 11, 1⟩
  | regexttrgsel => ⟨.ctrl2, 17, 3⟩
  | smpcyccfg channel => sampleSlot channel.val
  | regseqlen => ⟨.regseq1, 20, 4⟩
  | regseqc rank => regularSlot rank.val
  | injseqlen => ⟨.injseq, 20, 2⟩
  | injseqc slot => ⟨.injseq, 5 * slot.val, 5⟩

-- The fields of the registers that no function here writes.
def otherFields : Register → BitVec 32
  | .sts => 0x0000001F
  | .ctrl1 => 0x00C01EFF
  | .ctrl2 => 0x00F0F10D
  | .smptim1 | .smptim2 => 0
  | .injdof1 | .injdof2 | .injdof3 | .injdof4 => 0x00000FFF
  | .awdht | .awdlt => 0x00000FFF
  | .regseq1 | .regseq2 | .regseq3 | .injseq => 0

/-! ## The functions -/

-- `ADC_MODE_T`.
inductive Mode where
  | independent
  | regInjecSimult
  | regSimultAlterTrig
  | injecSimultFastInterl
  | injecSimultSlowInterl
  | injecSimult
  | regSimult
  | fastInterl
  | slowInterl
  | alterTrig
  deriving DecidableEq, Repr

def Mode.value : Mode → BitVec 32
  | independent => 0x00000000
  | regInjecSimult => 0x00010000
  | regSimultAlterTrig => 0x00020000
  | injecSimultFastInterl => 0x00030000
  | injecSimultSlowInterl => 0x00040000
  | injecSimult => 0x00050000
  | regSimult => 0x00060000
  | fastInterl => 0x00070000
  | slowInterl => 0x00080000
  | alterTrig => 0x00090000

-- `ADC_EXT_TRIG_CONV_T`.
inductive ExtTrigConv where
  | tmr1Cc1
  | tmr1Cc2
  | tmr2Cc2
  | tmr3Trgo
  | tmr4Cc4
  | eint11T8Trgo
  | tmr1Cc3
  | none
  | tmr3Cc1
  | tmr2Cc3
  | tmr8Cc1
  | tmr8Trgo
  | tmr5Cc1
  | tmr5Cc3
  deriving DecidableEq, Repr

def ExtTrigConv.value : ExtTrigConv → BitVec 32
  | tmr1Cc1 | tmr3Cc1 => 0x00000000
  | tmr1Cc2 | tmr2Cc3 => 0x00020000
  | tmr1Cc3 => 0x00040000
  | tmr2Cc2 | tmr8Cc1 => 0x00060000
  | tmr3Trgo | tmr8Trgo => 0x00080000
  | tmr4Cc4 | tmr5Cc1 => 0x000A0000
  | eint11T8Trgo | tmr5Cc3 => 0x000C0000
  | none => 0x000E0000

-- `ADC_DATA_ALIGN_T`.
inductive DataAlign where
  | right
  | left
  deriving DecidableEq, Repr

def DataAlign.value : DataAlign → BitVec 32
  | right => 0x00000000
  | left => 0x00000800

-- `ADC_SAMPLETIME_T`.
inductive SampleTime where
  | cycles1_5
  | cycles7_5
  | cycles13_5
  | cycles28_5
  | cycles41_5
  | cycles55_5
  | cycles71_5
  | cycles239_5
  deriving DecidableEq, Repr

def SampleTime.value : SampleTime → BitVec 32
  | cycles1_5 => 0x00
  | cycles7_5 => 0x01
  | cycles13_5 => 0x02
  | cycles28_5 => 0x03
  | cycles41_5 => 0x04
  | cycles55_5 => 0x05
  | cycles71_5 => 0x06
  | cycles239_5 => 0x07

-- `ADC_Config_T`.
structure Config where
  mode : Mode
  scanConvMode : Bool
  continuosConvMode : Bool
  externalTrigConv : ExtTrigConv
  dataAlign : DataAlign
  nbrOfChannel : Count 16
  deriving DecidableEq, Repr

-- `ENABLE` or `DISABLE`.
def functional (on : Bool) : BitVec 32 := if on then 1 else 0

def config (file : File) (adcConfig : Config) : File :=
  let reg := file .ctrl1
  let reg := reg &&& (0xFFF0FEFF : BitVec 32)
  let reg := reg ||| (adcConfig.mode.value ||| functional adcConfig.scanConvMode <<< 8)
  let file := Function.update file .ctrl1 reg
  let reg := file .ctrl2
  let reg := reg &&& (0xFFF1F7FD : BitVec 32)
  let reg := reg ||| (adcConfig.dataAlign.value ||| adcConfig.externalTrigConv.value |||
    functional adcConfig.continuosConvMode <<< 1)
  let file := Function.update file .ctrl2 reg
  let reg := file .regseq1
  let reg := reg &&& (0xFF0FFFFF : BitVec 32)
  let reg := reg ||| BitVec.ofNat 32 (adcConfig.nbrOfChannel.val - 1) <<< 20
  Function.update file .regseq1 reg

-- `temp1 &= ~(mask << offset)`, `temp1 |= value << offset`.
def writeField (file : File) (register : Register) (mask : BitVec 32) (offset : Nat)
    (value : BitVec 32) : File :=
  let temp1 := file register
  let temp2 := mask <<< offset
  let temp1 := temp1 &&& ~~~temp2
  let temp2 := value <<< offset
  let temp1 := temp1 ||| temp2
  Function.update file register temp1

-- The sample time, at the head of both channel functions.
def configSampleTime (file : File) (channel : Channel) (sampleTime : SampleTime) : File :=
  if 9 < channel.val then
    writeField file .smptim1 0x00000007 (3 * (channel.val - 10)) sampleTime.value
  else writeField file .smptim2 0x00000007 (3 * channel.val) sampleTime.value

def configRegularChannel (file : File) (channel : Channel) (rank : Count 16)
    (sampleTime : SampleTime) : File :=
  let file := configSampleTime file channel sampleTime
  if rank.val < 7 then
    writeField file .regseq3 0x0000001F (5 * (rank.val - 1)) (BitVec.ofNat 32 channel.val)
  else if rank.val < 13 then
    writeField file .regseq2 0x0000001F (5 * (rank.val - 7)) (BitVec.ofNat 32 channel.val)
  else writeField file .regseq1 0x0000001F (5 * (rank.val - 13)) (BitVec.ofNat 32 channel.val)

-- `(uint8_t)((rank + 3) - (temp3 + 1))`.
def injectedIndex (file : File) (rank : Count 4) : Nat :=
  let temp3 := ((file .injseq &&& (0x00300000 : BitVec 32)) >>> 20).toNat
  ((rank.val + 3) - (temp3 + 1)) % 2 ^ 8

def configInjectedChannel (file : File) (channel : Channel) (rank : Count 4)
    (sampleTime : SampleTime) : File :=
  let file := configSampleTime file channel sampleTime
  writeField file .injseq 0x0000001F (5 * injectedIndex file rank) (BitVec.ofNat 32 channel.val)

def configInjectedSequencerLength (file : File) (length : Count 4) : File :=
  let file := assign file Name.injseqlen.slot 0
  assign file Name.injseqlen.slot
    (BitVec.ofNat 32 (read file Name.injseqlen.slot) ||| BitVec.ofNat 32 (length.val - 1))

def configDiscMode (file : File) (number : Count 8) : File :=
  assign file Name.discnumcfg.slot
    (BitVec.ofNat 32 (read file Name.discnumcfg.slot) ||| BitVec.ofNat 32 (number.val - 1))

/-! ## What the converter takes -/

-- A count is one more than its field.
def Name.meaning (stored : Nat) : Name → Nat
  | discnumcfg | regseqlen | injseqlen => stored + 1
  | _ => stored

def holds (file : File) (name : Name) : Nat := name.meaning (read file name.slot)

def injectedLength (file : File) : Nat := holds file .injseqlen

/-- The slot of an injected rank, `4 - length + rank` when the slots are counted from 1. -/
def convertedSlot (length : Nat) (rank : Count 4) : Fin 4 := Fin.ofNat 4 (4 - length + rank.val - 1)

-- The channel that is converted for a rank within the length.
def injectedChannel (file : File) (rank : Count 4) : Nat :=
  holds file (.injseqc (convertedSlot (injectedLength file) rank))

/-! ## Sequences of calls -/

inductive Call where
  | config (adcConfig : Config)
  | regularChannel (channel : Channel) (rank : Count 16) (sampleTime : SampleTime)
  | injectedSequencerLength (length : Count 4)
  | injectedChannel (channel : Channel) (rank : Count 4) (sampleTime : SampleTime)
  | discMode (number : Count 8)
  deriving DecidableEq, Repr

def Call.run (file : File) : Call → File
  | config adcConfig => Adc.config file adcConfig
  | regularChannel channel rank sampleTime => configRegularChannel file channel rank sampleTime
  | injectedSequencerLength length => configInjectedSequencerLength file length
  | injectedChannel channel rank sampleTime => configInjectedChannel file channel rank sampleTime
  | discMode number => configDiscMode file number

/-- What a call asks for, field by field. -/
def Call.requests (file : File) : Call → List (Name × Nat)
  | config adcConfig =>
      [(.scanen, (functional adcConfig.scanConvMode).toNat),
        (.dualmcfg, (adcConfig.mode.value >>> 16).toNat),
        (.contcen, (functional adcConfig.continuosConvMode).toNat),
        (.daligncfg, (adcConfig.dataAlign.value >>> 11).toNat),
        (.regexttrgsel, (adcConfig.externalTrigConv.value >>> 17).toNat),
        (.regseqlen, adcConfig.nbrOfChannel)]
  | regularChannel channel rank sampleTime =>
      [(.smpcyccfg channel, sampleTime.value.toNat), (.regseqc rank, channel)]
  | injectedSequencerLength length => [(.injseqlen, length)]
  | injectedChannel channel rank sampleTime =>
      (.smpcyccfg channel, sampleTime.value.toNat) ::
        if rank ≤ injectedLength file then
          [(.injseqc (convertedSlot (injectedLength file) rank), channel)]
        else []
  | discMode number => [(.discnumcfg, number)]

/-- The registers, with the value last asked for each field and the channel last configured for
each injected rank since the length changed. -/
structure Programmed where
  file : File
  asked : Name → Option Nat
  ranked : Count 4 → Option Channel

def Programmed.start (initial : File) : Programmed := ⟨initial, fun _ => none, fun _ => none⟩

def ask (asked : Name → Option Nat) (request : Name × Nat) : Name → Option Nat :=
  Function.update asked request.1 (some request.2)

def Programmed.rankedAfter (state : Programmed) : Call → Count 4 → Option Channel
  | .injectedChannel channel rank _ => Function.update state.ranked rank (some channel)
  | .injectedSequencerLength length =>
      if length.val = injectedLength state.file then state.ranked else fun _ => none
  | _ => state.ranked

def Programmed.call (state : Programmed) (call : Call) : Programmed where
  file := call.run state.file
  asked := (call.requests state.file).foldl ask state.asked
  ranked := state.rankedAfter call

/-- Every field holds what was last asked for it, or what it held at first. -/
structure Right (initial : File) (state : Programmed) : Prop where
  fields : ∀ name, holds state.file name = (state.asked name).getD (holds initial name)
  injected : ∀ rank channel, state.ranked rank = some channel →
    rank.val ≤ injectedLength state.file → injectedChannel state.file rank = channel.val
  others : ∀ register, state.file register &&& otherFields register =
    initial register &&& otherFields register

-- What a call needs to leave what has been asked for.
def Programmed.Fine (state : Programmed) : Call → Prop
  | .injectedChannel channel rank _ =>
      rank.val = injectedLength state.file + 1 → channel.val % 4 + 1 = injectedLength state.file
  | .discMode number =>
      (holds state.file .discnumcfg - 1 ||| number.val - 1) = number.val - 1
  | _ => True

/-! ## The fields are apart -/

theorem layout : Layout 32 Name.slot where
  fits name := by
    cases name with
    | smpcyccfg channel =>
      have bound := channel.isLt
      simp only [Name.slot, sampleSlot]
      split <;> simp only <;> omega
    | regseqc rank =>
      obtain ⟨number, lower, upper⟩ := rank
      simp only [Name.slot, regularSlot]
      split <;> [skip; split] <;> simp only <;> omega
    | injseqc slot => simp only [Name.slot]; omega
    | _ => decide
  apart name other different := by
    intro same
    cases name <;> cases other <;>
      simp only [Name.slot, sampleSlot, regularSlot] at same ⊢ <;> grind

theorem holds_assign (file : File) (name other : Name) (value : BitVec 32) :
    holds (assign file name.slot value) other =
      if other = name then other.meaning (value.toNat % 2 ^ name.slot.count)
      else holds file other := by
  rw [holds, layout.read_assign]
  split <;> rfl

/-- The fields that the functions write are none of the others. -/
theorem otherFields_clear (name : Name) :
    otherFields name.slot.register &&& (ones 32 name.slot.count <<< name.slot.offset) = 0 := by
  cases name with
  | smpcyccfg channel =>
    simp only [Name.slot, sampleSlot]
    split <;> simp [otherFields]
  | regseqc rank =>
    simp only [Name.slot, regularSlot]
    split <;> [skip; split] <;> simp [otherFields]
  | injseqc slot => simp [Name.slot, otherFields]
  | _ => decide

theorem others_assign (file : File) (name : Name) (value : BitVec 32) (register : Register) :
    assign file name.slot value register &&& otherFields register =
      file register &&& otherFields register := by
  apply BitVec.eq_of_getLsbD_eq
  intro bit within
  rw [BitVec.getLsbD_and, BitVec.getLsbD_and, RegisterFile.getLsbD_assign _ _ _ _ within]
  by_cases inside : name.slot.Has register bit
  · obtain ⟨rfl, lower, upper⟩ := inside
    rw [getLsbD_of_and_ones (otherFields_clear name) lower upper, Bool.and_false, Bool.and_false]
  · rw [if_neg inside]

/-! ## Requests as writes -/

-- What is written for a value that is asked for.
def Name.stored (value : Nat) : Name → Nat
  | discnumcfg | regseqlen | injseqlen => value - 1
  | _ => value

/-- The field has room for the value and gives it back. -/
def Fits (request : Name × Nat) : Prop :=
  request.1.stored request.2 < 2 ^ request.1.slot.count ∧
    request.1.meaning (request.1.stored request.2) = request.2

def write (file : File) (request : Name × Nat) : File :=
  assign file request.1.slot (BitVec.ofNat 32 (request.1.stored request.2))

theorem holds_write (file : File) {request : Name × Nat} (fits : Fits request) (other : Name) :
    holds (write file request) other = if other = request.1 then request.2 else holds file other := by
  rw [write, holds_assign]
  by_cases same : other = request.1
  · have narrow : 2 ^ request.1.slot.count ≤ 2 ^ 32 :=
      Nat.pow_le_pow_right (by decide) (Nat.le_of_add_left_le (layout.fits request.1))
    rw [if_pos same, if_pos same, BitVec.toNat_ofNat,
      Nat.mod_eq_of_lt (Nat.lt_of_lt_of_le fits.1 narrow), Nat.mod_eq_of_lt fits.1, same, fits.2]
  · rw [if_neg same, if_neg same]

theorem holds_writes_apart (file : File) (name : Name) (requests : List (Name × Nat))
    (fits : ∀ request ∈ requests, Fits request) (apart : ∀ request ∈ requests, request.1 ≠ name) :
    holds (requests.foldl write file) name = holds file name := by
  induction requests generalizing file with
  | nil => rfl
  | cons request rest ih =>
    rw [List.foldl_cons, ih _ (fun r h => fits r (.tail _ h)) (fun r h => apart r (.tail _ h)),
      holds_write file (fits _ (.head _)), if_neg (apart _ (.head _)).symm]

theorem fields_writes {initial file : File} {asked : Name → Option Nat}
    (held : ∀ name, holds file name = (asked name).getD (holds initial name))
    (requests : List (Name × Nat)) (fits : ∀ request ∈ requests, Fits request) (name : Name) :
    holds (requests.foldl write file) name =
      (requests.foldl ask asked name).getD (holds initial name) := by
  induction requests generalizing file asked with
  | nil => exact held name
  | cons request rest ih =>
    refine ih (fun other => ?_) fun r h => fits r (.tail _ h)
    rw [holds_write file (fits _ (.head _)), ask, Function.update_apply]
    split
    · rfl
    · exact held other

theorem others_writes (file : File) (requests : List (Name × Nat)) (register : Register) :
    requests.foldl write file register &&& otherFields register =
      file register &&& otherFields register := by
  induction requests generalizing file with
  | nil => rfl
  | cons request rest ih => rw [List.foldl_cons, ih, write, others_assign]

/-! ## The functions as writes -/

theorem writeField_eq (file : File) (register : Register) (offset count : Nat) {value : BitVec 32}
    (small : value.toNat < 2 ^ count) :
    writeField file register (ones 32 count) offset value =
      assign file ⟨register, offset, count⟩ value := by
  rw [RegisterFile.assign, assign_of_lt _ _ small]
  rfl

theorem SampleTime.value_lt (sampleTime : SampleTime) : sampleTime.value.toNat < 2 ^ 3 := by
  cases sampleTime <;> decide

theorem SampleTime.fits (sampleTime : SampleTime) (channel : Channel) :
    Fits (.smpcyccfg channel, sampleTime.value.toNat) := by
  have count : (Name.smpcyccfg channel).slot.count = 3 := by
    simp only [Name.slot, sampleSlot]
    split <;> rfl
  refine ⟨?_, rfl⟩
  rw [count]
  exact sampleTime.value_lt

theorem channel_lt (channel : Channel) : (BitVec.ofNat 32 channel.val).toNat < 2 ^ 5 := by
  have bound := channel.isLt
  rw [BitVec.toNat_ofNat]
  omega

theorem configSampleTime_eq (file : File) (channel : Channel) (sampleTime : SampleTime) :
    configSampleTime file channel sampleTime =
      write file (.smpcyccfg channel, sampleTime.value.toNat) := by
  have mask : (0x00000007 : BitVec 32) = ones 32 3 := by decide
  rw [configSampleTime, mask, writeField_eq _ _ _ _ sampleTime.value_lt,
    writeField_eq _ _ _ _ sampleTime.value_lt]
  simp only [write, Name.slot, sampleSlot, Name.stored, BitVec.ofNat_toNat, BitVec.setWidth_eq]
  split <;> rfl

theorem configRegularChannel_eq (file : File) (channel : Channel) (rank : Count 16)
    (sampleTime : SampleTime) : configRegularChannel file channel rank sampleTime =
      ((Call.regularChannel channel rank sampleTime).requests file).foldl write file := by
  have mask : (0x0000001F : BitVec 32) = ones 32 5 := by decide
  simp only [configRegularChannel, mask, writeField_eq _ _ _ _ (channel_lt channel),
    configSampleTime_eq, Call.requests, List.foldl_cons, List.foldl_nil]
  generalize write file (.smpcyccfg channel, sampleTime.value.toNat) = sampled
  simp only [write, Name.slot, regularSlot, Name.stored]
  split
  · rfl
  · split <;> rfl

theorem configInjectedSequencerLength_eq (file : File) (length : Count 4) :
    configInjectedSequencerLength file length =
      ((Call.injectedSequencerLength length).requests file).foldl write file := by
  have clear : read (assign file Name.injseqlen.slot 0) Name.injseqlen.slot = 0 := by
    rw [read_assign_self file 0 (layout.fits .injseqlen)]
    rfl
  rw [configInjectedSequencerLength, clear, assign_assign_self]
  simp [Call.requests, write, Name.stored]

theorem config_ctrl1 (reg : BitVec 32) (mode : Mode) (scanConvMode : Bool) :
    reg &&& (0xFFF0FEFF : BitVec 32) ||| (mode.value ||| functional scanConvMode <<< 8) =
      Fields.assign (Fields.assign reg 8 1 (functional scanConvMode)) 16 4 (mode.value >>> 16) := by
  have mask : (0xFFF0FEFF : BitVec 32) = ~~~(ones 32 1 <<< 8 ||| ones 32 4 <<< 16) := by decide
  have code : mode.value = (mode.value >>> 16) <<< 16 := by cases mode <;> decide
  have narrow : (mode.value >>> 16).toNat < 2 ^ 4 := by cases mode <;> decide
  have bit : (functional scanConvMode).toNat < 2 ^ 1 := by cases scanConvMode <;> decide
  have apart : functional scanConvMode <<< 8 &&& (ones 32 4 <<< 16) = 0 := by
    cases scanConvMode <;> decide
  rw [assign_of_lt _ _ narrow, assign_of_lt _ _ bit, BitVec.or_comm mode.value, mask]
  nth_rewrite 1 [code]
  rw [place_together _ _ _ _ _ _ apart]
  rfl

theorem config_ctrl2 (reg : BitVec 32) (dataAlign : DataAlign) (externalTrigConv : ExtTrigConv)
    (continuosConvMode : Bool) :
    reg &&& (0xFFF1F7FD : BitVec 32) ||| (dataAlign.value ||| externalTrigConv.value |||
        functional continuosConvMode <<< 1) =
      Fields.assign (Fields.assign (Fields.assign reg 1 1 (functional continuosConvMode)) 11 1
        (dataAlign.value >>> 11)) 17 3 (externalTrigConv.value >>> 17) := by
  have mask : (0xFFF1F7FD : BitVec 32) =
      ~~~(ones 32 1 <<< 1 ||| ones 32 1 <<< 11 ||| ones 32 3 <<< 17) := by decide
  have align : dataAlign.value = (dataAlign.value >>> 11) <<< 11 := by
    cases dataAlign <;> decide
  have trigger : externalTrigConv.value = (externalTrigConv.value >>> 17) <<< 17 := by
    cases externalTrigConv <;> decide
  have order : dataAlign.value ||| externalTrigConv.value ||| functional continuosConvMode <<< 1 =
      functional continuosConvMode <<< 1 ||| (dataAlign.value >>> 11) <<< 11 |||
        (externalTrigConv.value >>> 17) <<< 17 := by
    rw [← align, ← trigger, BitVec.or_comm, BitVec.or_assoc]
  have narrow : (externalTrigConv.value >>> 17).toNat < 2 ^ 3 := by
    cases externalTrigConv <;> decide
  have alignBit : (dataAlign.value >>> 11).toNat < 2 ^ 1 := by cases dataAlign <;> decide
  have bit : (functional continuosConvMode).toNat < 2 ^ 1 := by cases continuosConvMode <;> decide
  have below : functional continuosConvMode <<< 1 &&& (ones 32 1 <<< 11) = 0 := by
    cases continuosConvMode <;> decide
  have apart : (functional continuosConvMode <<< 1 ||| (dataAlign.value >>> 11) <<< 11) &&&
      (ones 32 3 <<< 17) = 0 := by
    cases continuosConvMode <;> cases dataAlign <;> decide
  rw [assign_of_lt _ _ narrow, assign_of_lt _ _ alignBit, assign_of_lt _ _ bit, order, mask,
    place_together _ _ _ _ _ _ apart, place_together _ _ _ _ _ _ below]
  rfl

theorem config_eq (file : File) (adcConfig : Config) : config file adcConfig =
    ((Call.config adcConfig).requests file).foldl write file := by
  have bound := adcConfig.nbrOfChannel.property
  have small : (BitVec.ofNat 32 (adcConfig.nbrOfChannel.val - 1)).toNat < 2 ^ 4 := by
    rw [BitVec.toNat_ofNat]
    omega
  have mask : (0xFF0FFFFF : BitVec 32) = ~~~(ones 32 4 <<< 20) := by decide
  have last (reg : BitVec 32) : reg &&& (0xFF0FFFFF : BitVec 32) |||
      BitVec.ofNat 32 (adcConfig.nbrOfChannel.val - 1) <<< 20 =
        Fields.assign reg 20 4 (BitVec.ofNat 32 (adcConfig.nbrOfChannel.val - 1)) := by
    rw [assign_of_lt _ _ small, mask]
    rfl
  simp only [config, config_ctrl1, config_ctrl2, last]
  simp [-BitVec.toNat_ushiftRight, Call.requests, write, RegisterFile.assign, Name.slot,
    Name.stored]

/-! ## The slot of an injected channel -/

theorem injectedLength_bounds (file : File) : 1 ≤ injectedLength file ∧ injectedLength file ≤ 4 := by
  have bound : read file Name.injseqlen.slot < 2 ^ 2 :=
    (field (file .injseq) 20 2).isLt
  simp only [injectedLength, holds, Name.meaning]
  omega

theorem injectedIndex_eq (file : File) (rank : Count 4) :
    injectedIndex file rank = rank.val + 3 - injectedLength file := by
  have mask : (0x00300000 : BitVec 32) = ones 32 2 <<< 20 := by decide
  have bound : read file Name.injseqlen.slot < 4 := (field (file .injseq) 20 2).isLt
  have stored : ((file .injseq &&& (0x00300000 : BitVec 32)) >>> 20).toNat =
      read file Name.injseqlen.slot := by
    rw [mask, and_ones_ushiftRight, BitVec.toNat_setWidth]
    exact Nat.mod_eq_of_lt (Nat.lt_of_lt_of_le bound (by decide))
  have upper := rank.property
  simp only [injectedIndex, stored, injectedLength, holds, Name.meaning]
  omega

-- Beyond the length the index passes the four slots.
theorem configInjectedChannel_eq (file : File) (channel : Channel) (rank : Count 4)
    (sampleTime : SampleTime) : configInjectedChannel file channel rank sampleTime =
      assign (write file (.smpcyccfg channel, sampleTime.value.toNat))
        ⟨.injseq, 5 * (rank.val + 3 - injectedLength file), 5⟩ (BitVec.ofNat 32 channel.val) := by
  have mask : (0x0000001F : BitVec 32) = ones 32 5 := by decide
  have fits : Fits (.smpcyccfg channel, sampleTime.value.toNat) := sampleTime.fits channel
  have length : injectedLength (write file (.smpcyccfg channel, sampleTime.value.toNat)) =
      injectedLength file := by
    rw [injectedLength, holds_write file fits, if_neg (by simp)]
    rfl
  rw [configInjectedChannel, configSampleTime_eq, mask, writeField_eq _ _ _ _ (channel_lt channel),
    injectedIndex_eq, length]

theorem convertedSlot_val {length : Nat} {rank : Count 4} (least : 1 ≤ length) (most : length ≤ 4)
    (within : rank.val ≤ length) : (convertedSlot length rank).val = rank.val + 3 - length := by
  have lower := rank.property
  simp only [convertedSlot, Fin.val_ofNat]
  omega

theorem convertedSlot_inj {length : Nat} {rank other : Count 4} (least : 1 ≤ length)
    (most : length ≤ 4) (within : rank.val ≤ length) (otherWithin : other.val ≤ length)
    (same : convertedSlot length rank = convertedSlot length other) : rank = other := by
  have values := congrArg Fin.val same
  rw [convertedSlot_val least most within, convertedSlot_val least most otherWithin] at values
  have lower := rank.property
  have otherLower := other.property
  apply Subtype.ext
  omega

theorem configInjectedChannel_within (file : File) (channel : Channel) {rank : Count 4}
    (sampleTime : SampleTime) (within : rank.val ≤ injectedLength file) :
    configInjectedChannel file channel rank sampleTime =
      ((Call.injectedChannel channel rank sampleTime).requests file).foldl write file := by
  obtain ⟨least, most⟩ := injectedLength_bounds file
  rw [configInjectedChannel_eq, Call.requests, if_pos within, List.foldl_cons, List.foldl_cons,
    List.foldl_nil, write.eq_1 (write _ _)]
  simp only [Name.slot, Name.stored, convertedSlot_val least most within]

theorem others_configInjectedChannel (file : File) (channel : Channel) (rank : Count 4)
    (sampleTime : SampleTime) (register : Register) :
    configInjectedChannel file channel rank sampleTime register &&& otherFields register =
      file register &&& otherFields register := by
  rw [configInjectedChannel_eq]
  by_cases same : register = .injseq
  · subst same
    simp [otherFields]
  · rw [RegisterFile.assign, Function.update_of_ne same, write, others_assign]

section Beyond

variable {file : File} {channel : Channel} {rank : Count 4} {sampleTime : SampleTime}
  (beyond : injectedLength file < rank.val)

include beyond

theorem holds_configInjectedChannel_beyond {name : Name} (other : name ≠ .injseqlen) :
    holds (configInjectedChannel file channel rank sampleTime) name =
      holds (write file (.smpcyccfg channel, sampleTime.value.toNat)) name := by
  have apart : Slot.Apart ⟨Register.injseq, 5 * (rank.val + 3 - injectedLength file), 5⟩
      name.slot := by
    intro same
    cases name <;> simp only [Name.slot, sampleSlot, regularSlot] at same ⊢ <;> grind
  rw [configInjectedChannel_eq, holds, read_assign_apart _ _ apart (layout.fits name)]
  rfl

/-- A channel for the rank after the last takes the place of the length. -/
theorem injectedLength_configInjectedChannel_beyond :
    injectedLength (configInjectedChannel file channel rank sampleTime) =
      if rank.val = injectedLength file + 1 then channel.val % 4 + 1 else injectedLength file := by
  have sampled : read (write file (.smpcyccfg channel, sampleTime.value.toNat))
      Name.injseqlen.slot = read file Name.injseqlen.slot := by
    rw [write, layout.read_assign, if_neg (by simp)]
  obtain ⟨least, most⟩ := injectedLength_bounds file
  have upper := rank.property
  rw [configInjectedChannel_eq]
  by_cases next : rank.val = injectedLength file + 1
  · have index : 5 * (rank.val + 3 - injectedLength file) = 20 := by omega
    have low : read (assign (write file (.smpcyccfg channel, sampleTime.value.toNat))
        ⟨.injseq, 20, 5⟩ (BitVec.ofNat 32 channel.val)) Name.injseqlen.slot =
          (BitVec.ofNat 32 channel.val).toNat % 2 ^ 2 :=
      read_assign_low _ _ (by decide) (by decide)
    have bound := channel.isLt
    rw [if_pos next, index, injectedLength, holds, low, BitVec.toNat_ofNat, Name.meaning]
    omega
  · have apart : Slot.Apart ⟨Register.injseq, 5 * (rank.val + 3 - injectedLength file), 5⟩
        Name.injseqlen.slot := by
      intro _
      simp only [Name.slot]
      omega
    rw [if_neg next, injectedLength, holds, read_assign_apart _ _ apart (layout.fits _), sampled]
    rfl

end Beyond

/-! ## One call -/

theorem channel_fits (channel : Channel) {name : Name} (five : name.slot.count = 5)
    (plain : ∀ value, name.stored value = value ∧ name.meaning value = value) :
    Fits (name, channel.val) := by
  have bound := channel.isLt
  refine ⟨?_, by rw [(plain _).1, (plain _).2]⟩
  rw [(plain _).1, five]
  omega

theorem regularSlot_count (rank : Nat) : (regularSlot rank).count = 5 := by
  rw [regularSlot]
  split <;> [skip; split] <;> rfl

theorem requests_fit (file : File) (call : Call) : ∀ request ∈ call.requests file, Fits request := by
  cases call with
  | config adcConfig =>
    obtain ⟨mode, scan, continuous, trigger, align, number, lower, upper⟩ := adcConfig
    have length : Fits (.regseqlen, number) := by
      simp only [Fits, Name.stored, Name.slot, Name.meaning]
      omega
    have single (on : Bool) : (functional on).toNat < 2 ^ 1 := by cases on <;> decide
    simp only [Call.requests, List.forall_mem_cons, List.not_mem_nil, false_implies, implies_true,
      and_true]
    refine ⟨⟨single scan, rfl⟩, ⟨?_, rfl⟩, ⟨single continuous, rfl⟩, ⟨?_, rfl⟩, ⟨?_, rfl⟩, length⟩
    · cases mode <;> decide
    · cases align <;> decide
    · cases trigger <;> decide
  | regularChannel channel rank sampleTime =>
    simp only [Call.requests, List.forall_mem_cons, List.not_mem_nil, false_implies, implies_true,
      and_true]
    exact ⟨sampleTime.fits channel,
      channel_fits channel (regularSlot_count rank.val) fun _ => ⟨rfl, rfl⟩⟩
  | injectedSequencerLength length =>
    have bound := length.property
    simp only [Call.requests, List.forall_mem_singleton, Fits, Name.stored, Name.slot, Name.meaning]
    omega
  | injectedChannel channel rank sampleTime =>
    simp only [Call.requests, List.forall_mem_cons]
    refine ⟨sampleTime.fits channel, ?_⟩
    split
    · simpa using channel_fits channel rfl fun _ => ⟨rfl, rfl⟩
    · simp
  | discMode number =>
    have bound := number.property
    simp only [Call.requests, List.forall_mem_singleton, Fits, Name.stored, Name.slot, Name.meaning]
    omega

section Step

variable {initial : File} {state : Programmed} (right : Right initial state)

include right

/-- A call that writes what it is asked for keeps the fields. -/
theorem Right.call_of_written {call : Call}
    (written : call.run state.file = (call.requests state.file).foldl write state.file)
    (injected : ∀ rank channel, state.rankedAfter call rank = some channel →
      rank.val ≤ injectedLength (call.run state.file) →
        injectedChannel (call.run state.file) rank = channel.val) :
    Right initial (state.call call) where
  fields name := by
    have held := fields_writes right.fields (call.requests state.file)
      (requests_fit state.file call) name
    rwa [← written] at held
  injected := injected
  others register := by
    rw [Programmed.call, written, others_writes, right.others]

theorem Right.injected_of_apart {call : Call}
    (written : call.run state.file = (call.requests state.file).foldl write state.file)
    (ranked : state.rankedAfter call = state.ranked)
    (apart : ∀ request ∈ call.requests state.file,
      request.1 ≠ .injseqlen ∧ ∀ slot, request.1 ≠ .injseqc slot)
    (rank : Count 4) (channel : Channel) (asked : state.rankedAfter call rank = some channel)
    (within : rank.val ≤ injectedLength (call.run state.file)) :
    injectedChannel (call.run state.file) rank = channel.val := by
  have fit := requests_fit state.file call
  have length : injectedLength (call.run state.file) = injectedLength state.file := by
    rw [written]
    exact holds_writes_apart _ _ _ fit fun request mem => (apart request mem).1
  rw [length] at within
  rw [injectedChannel, length, written,
    holds_writes_apart _ _ _ fit fun request mem => (apart request mem).2 _]
  exact right.injected rank channel (ranked ▸ asked) within

theorem Right.config (adcConfig : Config) : Right initial (state.call (.config adcConfig)) := by
  have written := config_eq state.file adcConfig
  exact right.call_of_written written
    (right.injected_of_apart written rfl (by simp [Call.requests]))

theorem Right.regularChannel (channel : Channel) (rank : Count 16) (sampleTime : SampleTime) :
    Right initial (state.call (.regularChannel channel rank sampleTime)) := by
  have written := configRegularChannel_eq state.file channel rank sampleTime
  exact right.call_of_written written
    (right.injected_of_apart written rfl (by simp [Call.requests]))

theorem Right.injectedSequencerLength (length : Count 4) :
    Right initial (state.call (.injectedSequencerLength length)) := by
  have written := configInjectedSequencerLength_eq state.file length
  refine right.call_of_written written fun rank channel asked within => ?_
  have fit := requests_fit state.file (.injectedSequencerLength length)
  have slots (slot : Fin 4) : holds ((Call.injectedSequencerLength length).run state.file)
      (.injseqc slot) = holds state.file (.injseqc slot) := by
    rw [Call.run, written]
    exact holds_writes_apart _ _ _ fit (by simp [Call.requests])
  have next : injectedLength ((Call.injectedSequencerLength length).run state.file) =
      length.val := by
    rw [Call.run, written]
    exact (holds_write _ (fit _ (.head _)) _).trans (if_pos rfl)
  by_cases same : length.val = injectedLength state.file
  · rw [Programmed.rankedAfter, if_pos same] at asked
    rw [next, same] at within
    rw [injectedChannel, next, same, slots]
    exact right.injected rank channel asked within
  · rw [Programmed.rankedAfter, if_neg same] at asked
    cases asked

theorem Right.injectedChannel_within (channel : Channel) {rank : Count 4} (sampleTime : SampleTime)
    (within : rank.val ≤ injectedLength state.file) :
    Right initial (state.call (.injectedChannel channel rank sampleTime)) := by
  have written := configInjectedChannel_within state.file channel sampleTime within
  obtain ⟨least, most⟩ := injectedLength_bounds state.file
  have fit := requests_fit state.file (.injectedChannel channel rank sampleTime)
  have length : injectedLength ((Call.injectedChannel channel rank sampleTime).run state.file) =
      injectedLength state.file := by
    rw [Call.run, written]
    exact holds_writes_apart _ _ _ fit (by simp [Call.requests, within])
  have slots (slot : Fin 4) :
      holds ((Call.injectedChannel channel rank sampleTime).run state.file) (.injseqc slot) =
        if slot = convertedSlot (injectedLength state.file) rank then channel.val
        else holds state.file (.injseqc slot) := by
    simp only [Call.requests, if_pos within] at written fit
    rw [Call.run, written, List.foldl_cons, List.foldl_cons, List.foldl_nil,
      holds_write _ (fit _ (.tail _ (.head _))), holds_write _ (fit _ (.head _))]
    simp
  refine right.call_of_written written fun other last asked otherWithin => ?_
  rw [length] at otherWithin
  rw [injectedChannel, length, slots]
  by_cases same : other = rank
  · subst same
    rw [Programmed.rankedAfter, Function.update_self] at asked
    rw [if_pos rfl, Option.some.inj asked]
  · rw [Programmed.rankedAfter, Function.update_of_ne same] at asked
    have different : convertedSlot (injectedLength state.file) other ≠
        convertedSlot (injectedLength state.file) rank :=
      fun equal => same (convertedSlot_inj least most otherWithin within equal)
    rw [if_neg different]
    exact right.injected other last asked otherWithin

/-- A channel for a rank beyond the length writes no field that has been asked for but the length,
so the length has to stay. -/
theorem Right.injectedChannel_stays (channel : Channel) {rank : Count 4} (sampleTime : SampleTime)
    (beyond : injectedLength state.file < rank.val) :
    Right initial (state.call (.injectedChannel channel rank sampleTime)) ↔
      injectedLength (configInjectedChannel state.file channel rank sampleTime) =
        injectedLength state.file := by
  have requests : (Call.injectedChannel channel rank sampleTime).requests state.file =
      [(.smpcyccfg channel, sampleTime.value.toNat)] := by
    rw [Call.requests, if_neg (Nat.not_le.mpr beyond)]
  have fits : ∀ request ∈ [(Name.smpcyccfg channel, sampleTime.value.toNat)], Fits request := by
    simpa using sampleTime.fits channel
  have sampled := fields_writes right.fields _ fits
  have kept (name : Name) (other : name ≠ .smpcyccfg channel) :
      holds (write state.file (.smpcyccfg channel, sampleTime.value.toNat)) name =
        holds state.file name :=
    holds_writes_apart state.file name [_] fits (by simpa using other.symm)
  constructor
  · intro after
    have held := after.fields .injseqlen
    rw [Programmed.call, requests] at held
    exact held.trans ((sampled .injseqlen).symm.trans (kept .injseqlen (by simp)))
  · intro same
    refine ⟨fun name => ?_, fun other last asked otherWithin => ?_, fun register => ?_⟩
    · rw [Programmed.call, requests, ← sampled name]
      by_cases isLength : name = .injseqlen
      · subst isLength
        exact same.trans (kept .injseqlen (by simp)).symm
      · exact holds_configInjectedChannel_beyond beyond isLength
    · have before : other ≠ rank := by
        rintro rfl
        exact absurd (same ▸ otherWithin) (Nat.not_le.mpr beyond)
      have earlier : state.ranked other = some last := by
        simpa [Programmed.call, Programmed.rankedAfter, before] using asked
      rw [← right.injected other last earlier (same ▸ otherWithin), Programmed.call, injectedChannel,
        Call.run, same, holds_configInjectedChannel_beyond beyond (by simp)]
      exact kept _ (by simp)
    · rw [Programmed.call, Call.run, others_configInjectedChannel, right.others]

theorem Right.injectedChannel_beyond (channel : Channel) {rank : Count 4} (sampleTime : SampleTime)
    (beyond : injectedLength state.file < rank.val) :
    Right initial (state.call (.injectedChannel channel rank sampleTime)) ↔
      (rank.val = injectedLength state.file + 1 →
        channel.val % 4 + 1 = injectedLength state.file) := by
  rw [right.injectedChannel_stays channel sampleTime beyond,
    injectedLength_configInjectedChannel_beyond beyond]
  by_cases next : rank.val = injectedLength state.file + 1
  · rw [if_pos next, forall_prop_of_true next]
  · simp [next]

theorem Right.discMode (number : Count 8) : Right initial (state.call (.discMode number)) ↔
    (holds state.file .discnumcfg - 1 ||| number.val - 1) = number.val - 1 := by
  obtain ⟨lower, upper⟩ := number.property
  have stored : holds state.file .discnumcfg - 1 = read state.file Name.discnumcfg.slot := rfl
  have value : BitVec.ofNat 32 (read state.file Name.discnumcfg.slot) |||
      BitVec.ofNat 32 (number.val - 1) =
        BitVec.ofNat 32 (read state.file Name.discnumcfg.slot ||| number.val - 1) :=
    (BitVec.ofNat_or ..).symm
  rw [stored]
  constructor
  · intro after
    have held : holds (configDiscMode state.file number) .discnumcfg = number.val :=
      after.fields .discnumcfg
    have count : Name.discnumcfg.slot.count = 3 := rfl
    have old : read state.file Name.discnumcfg.slot < 2 ^ 3 := (field (state.file .ctrl1) 13 3).isLt
    have small : (read state.file Name.discnumcfg.slot ||| number.val - 1) < 2 ^ 3 :=
      Nat.or_lt_two_pow old (by omega)
    rw [configDiscMode, value, holds, read_assign_self _ _ (layout.fits _), BitVec.toNat_ofNat,
      Nat.mod_eq_of_lt (Nat.lt_of_lt_of_le small (by decide)), count, Nat.mod_eq_of_lt small]
      at held
    exact Nat.eq_sub_of_add_eq held
  · intro within
    have written : configDiscMode state.file number =
        ((Call.discMode number).requests state.file).foldl write state.file := by
      rw [configDiscMode, value, within]
      rfl
    exact right.call_of_written written
      (right.injected_of_apart written rfl (by simp [Call.requests]))

theorem Right.call_iff_fine (call : Call) : Right initial (state.call call) ↔ state.Fine call := by
  cases call with
  | config adcConfig => exact iff_true_intro (right.config adcConfig)
  | regularChannel channel rank sampleTime =>
    exact iff_true_intro (right.regularChannel channel rank sampleTime)
  | injectedSequencerLength length => exact iff_true_intro (right.injectedSequencerLength length)
  | injectedChannel channel rank sampleTime =>
    by_cases within : rank.val ≤ injectedLength state.file
    · refine iff_of_true (right.injectedChannel_within channel sampleTime within) fun next => ?_
      omega
    · exact right.injectedChannel_beyond channel sampleTime (Nat.lt_of_not_le within)
  | discMode number => exact right.discMode number

end Step

/-! ## Every sequence -/

theorem right_start (initial : File) : Right initial (Programmed.start initial) where
  fields _ := rfl
  injected _ _ asked := by cases asked
  others _ := rfl

/-- The registers hold what has been asked for after every call of a sequence when each call is
fine where it is made, and only then. -/
theorem adc_right_iff (initial : File) (calls : List Call) :
    (∀ earlier, earlier <+: calls →
        Right initial (earlier.foldl Programmed.call (Programmed.start initial))) ↔
      Each Programmed.call Programmed.Fine (Programmed.start initial) calls :=
  right_throughout_iff_each (fun _ call right => right.call_iff_fine call) (right_start initial)
    calls

/-- A count of 1 after one of 8 leaves 8, and a channel for rank 2 of a sequence of length 1 makes
the length 4. -/
theorem adc_not_right :
    ¬Right (fun _ => 0) ([Call.discMode ⟨8, by decide⟩, .discMode ⟨1, by decide⟩].foldl
      Programmed.call (Programmed.start fun _ => 0)) ∧
    ¬Right (fun _ => 0) ([Call.injectedSequencerLength ⟨1, by decide⟩,
      .injectedChannel 3 ⟨2, by decide⟩ .cycles1_5].foldl
        Programmed.call (Programmed.start fun _ => 0)) := by
  constructor
  · intro right
    have count := right.fields .discnumcfg
    revert count
    decide
  · intro right
    have length := right.fields .injseqlen
    revert length
    decide

end ApmSdk.StdPeriph.Adc
