import ApmSdk.Lib.Fields
import ApmSdk.Lib.FlagRegister
import Mathlib.Logic.Function.Basic

set_option autoImplicit false

/-!
# Resetting one of the twelve DMA channels

`DMA_Reset` and `DMA_ClearStatusFlag` over the registers of both controllers.
-/

namespace ApmSdk.StdPeriph

open Fields FlagRegister

inductive DmaController where
  | dma1
  | dma2
  deriving DecidableEq, Repr

inductive DmaChannel where
  | dma1Channel1
  | dma1Channel2
  | dma1Channel3
  | dma1Channel4
  | dma1Channel5
  | dma1Channel6
  | dma1Channel7
  | dma2Channel1
  | dma2Channel2
  | dma2Channel3
  | dma2Channel4
  | dma2Channel5
  deriving DecidableEq, Repr

namespace DmaChannel

def controller : DmaChannel → DmaController
  | dma1Channel1 | dma1Channel2 | dma1Channel3 | dma1Channel4 | dma1Channel5 | dma1Channel6
  | dma1Channel7 => .dma1
  | dma2Channel1 | dma2Channel2 | dma2Channel3 | dma2Channel4 | dma2Channel5 => .dma2

def index : DmaChannel → Nat
  | dma1Channel1 | dma2Channel1 => 0
  | dma1Channel2 | dma2Channel2 => 1
  | dma1Channel3 | dma2Channel3 => 2
  | dma1Channel4 | dma2Channel4 => 3
  | dma1Channel5 | dma2Channel5 => 4
  | dma1Channel6 => 5
  | dma1Channel7 => 6

theorem eq_of_index {first second : DmaChannel} (same : first.controller = second.controller)
    (index : first.index = second.index) : first = second := by
  revert same index
  cases first <;> cases second <;> decide

theorem index_lt (channel : DmaChannel) : channel.index < 7 := by
  cases channel <;> decide

end DmaChannel

inductive DmaFlag where
  | gint
  | tc
  | ht
  | terr
  deriving DecidableEq, Repr

def DmaFlag.offset : DmaFlag → Nat
  | gint => 0
  | tc => 1
  | ht => 2
  | terr => 3

theorem DmaFlag.offset_lt (flag : DmaFlag) : flag.offset < 4 := by
  cases flag <;> decide

theorem DmaFlag.eq_of_offset {first second : DmaFlag} (offset : first.offset = second.offset) :
    first = second := by
  revert offset
  cases first <;> cases second <;> decide

-- The place of a flag in `INTSTS` and `INTFCLR`.
def flagBit (channel : DmaChannel) (flag : DmaFlag) : Nat := 4 * channel.index + flag.offset

theorem flagBit_lt (channel : DmaChannel) (flag : DmaFlag) : flagBit channel flag < 28 := by
  have := channel.index_lt
  have := flag.offset_lt
  unfold flagBit
  omega

theorem eq_of_flagBit {channel other : DmaChannel} {flag otherFlag : DmaFlag}
    (same : channel.controller = other.controller)
    (bit : flagBit channel flag = flagBit other otherFlag) :
    channel = other ∧ flag = otherFlag := by
  have := flag.offset_lt
  have := otherFlag.offset_lt
  unfold flagBit at bit
  exact ⟨DmaChannel.eq_of_index same (by omega), DmaFlag.eq_of_offset (by omega)⟩

inductive DmaRegister where
  | chcfg
  | chndata
  | chpaddr
  | chmaddr
  deriving DecidableEq, Repr

structure DmaState where
  channels : DmaChannel → DmaRegister → BitVec 32
  intsts : DmaController → BitVec 32
  -- `INTFCLR` is write-only (`__OM`), and `|=` reads it: what the read gives is left open.
  intfclr : DmaController → BitVec 32

namespace DmaState

def pending (state : DmaState) (channel : DmaChannel) (flag : DmaFlag) : Bool :=
  (state.intsts channel.controller).getLsbD (flagBit channel flag)

-- Count and addresses cannot be written while `CHEN`, bit 0 of `CHCFG`, is set.
def write (state : DmaState) (channel : DmaChannel) (register : DmaRegister) (value : BitVec 32) :
    DmaState :=
  if register ≠ .chcfg ∧ (state.channels channel .chcfg).getLsbD 0 then state
  else
    { state with
      channels := Function.update state.channels channel
        (Function.update (state.channels channel) register value) }

def writeIntfclr (state : DmaState) (controller : DmaController) (value : BitVec 32) : DmaState :=
  { state with
    intsts := Function.update state.intsts controller
      (written (state.intsts controller) value) }

-- `INTFCLR |= mask`.
def orIntfclr (state : DmaState) (controller : DmaController) (mask : BitVec 32) : DmaState :=
  state.writeIntfclr controller (state.intfclr controller ||| mask)

end DmaState

def dmaReset (state : DmaState) (channel : DmaChannel) : DmaState :=
  let state := state.write channel .chcfg (withBit (state.channels channel .chcfg) 0 false)
  let state := state.write channel .chcfg 0
  let state := state.write channel .chndata 0
  let state := state.write channel .chmaddr 0
  let state := state.write channel .chpaddr 0
  match channel with
  | .dma1Channel1 => state.orIntfclr .dma1 0xFFFFFFF0
  | .dma1Channel2 => state.orIntfclr .dma1 0xFFFFFF0F
  | .dma1Channel3 => state.orIntfclr .dma1 0xFFFFF0FF
  | .dma1Channel4 => state.orIntfclr .dma1 0xFFFF0FFF
  | .dma1Channel5 => state.orIntfclr .dma1 0xFFF0FFFF
  | .dma1Channel6 => state.orIntfclr .dma1 0xFF0FFFFF
  | .dma1Channel7 => state.orIntfclr .dma1 0xF0FFFFFF
  | .dma2Channel1 => state.orIntfclr .dma2 0xFFFFFFF0
  | .dma2Channel2 => state.orIntfclr .dma2 0xFFFFFF0F
  | .dma2Channel3 => state.orIntfclr .dma2 0xFFFFF0FF
  | .dma2Channel4 => state.orIntfclr .dma2 0xFFFF0FFF
  | .dma2Channel5 => state.orIntfclr .dma2 0xFFF0FFFF

def dmaClearStatusFlag (state : DmaState) (flag : BitVec 32) : DmaState :=
  if flag &&& 0x10000000 ≠ 0 then state.writeIntfclr .dma2 flag
  else state.writeIntfclr .dma1 flag

/-! ## What a reset writes -/

namespace DmaState

theorem pending_writeIntfclr (state : DmaState) (controller : DmaController) (value : BitVec 32)
    (channel : DmaChannel) (flag : DmaFlag) :
    (state.writeIntfclr controller value).pending channel flag =
      (state.pending channel flag &&
        !(decide (channel.controller = controller) && value.getLsbD (flagBit channel flag))) := by
  by_cases same : channel.controller = controller
  · subst same
    simp [pending, writeIntfclr, getLsbD_written]
  · simp [pending, writeIntfclr, same]

@[simp] theorem intsts_write (state : DmaState) (channel : DmaChannel) (register : DmaRegister)
    (value : BitVec 32) : (state.write channel register value).intsts = state.intsts := by
  unfold write
  split <;> rfl

@[simp] theorem intfclr_write (state : DmaState) (channel : DmaChannel) (register : DmaRegister)
    (value : BitVec 32) : (state.write channel register value).intfclr = state.intfclr := by
  unfold write
  split <;> rfl

theorem channels_write_of_ne (state : DmaState) {channel other : DmaChannel}
    (different : other ≠ channel) (register : DmaRegister) (value : BitVec 32) :
    (state.write channel register value).channels other = state.channels other := by
  unfold write
  split
  · rfl
  · simp [Function.update_of_ne different]

theorem channels_write_chcfg (state : DmaState) (channel : DmaChannel) (value : BitVec 32) :
    (state.write channel .chcfg value).channels channel =
      Function.update (state.channels channel) .chcfg value := by
  simp [write]

theorem channels_write_disabled (state : DmaState) (channel : DmaChannel)
    (disabled : state.channels channel .chcfg = 0) (register : DmaRegister) (value : BitVec 32) :
    (state.write channel register value).channels channel =
      Function.update (state.channels channel) register value := by
  simp [write, disabled]

end DmaState

-- The writes of `DMA_Reset` to the channel itself.
def cleared (state : DmaState) (channel : DmaChannel) : DmaState :=
  ((((state.write channel .chcfg (withBit (state.channels channel .chcfg) 0 false)).write
    channel .chcfg 0).write channel .chndata 0).write channel .chmaddr 0).write channel .chpaddr 0

-- Every mask of `DMA_Reset` is the complement of the four bits of its channel.
theorem dmaReset_eq (state : DmaState) (channel : DmaChannel) :
    dmaReset state channel = (cleared state channel).orIntfclr channel.controller
      (~~~(ones 32 4 <<< (4 * channel.index))) := by
  cases channel <;> rfl

theorem cleared_channel (state : DmaState) (channel : DmaChannel) (register : DmaRegister) :
    (cleared state channel).channels channel register = 0 := by
  -- `CHCFG` is zero from the second write on, so that the later ones are taken.
  have disabled := state.write channel .chcfg (withBit (state.channels channel .chcfg) 0 false)
    |>.channels_write_chcfg channel 0
  unfold cleared
  generalize state.write channel .chcfg _ = first at disabled ⊢
  generalize first.write channel .chcfg 0 = second at disabled ⊢
  have off : second.channels channel .chcfg = 0 := by simp [disabled]
  have third := second.channels_write_disabled channel off .chndata 0
  have off' : (second.write channel .chndata 0).channels channel .chcfg = 0 := by
    rw [third, Function.update_of_ne (by decide), off]
  have fourth := (second.write channel .chndata 0).channels_write_disabled channel off' .chmaddr 0
  have off'' : ((second.write channel .chndata 0).write channel .chmaddr 0).channels channel
      .chcfg = 0 := by
    rw [fourth, Function.update_of_ne (by decide), off']
  rw [DmaState.channels_write_disabled _ _ off'', fourth, third, disabled]
  cases register <;> simp [Function.update]

theorem cleared_other (state : DmaState) {channel other : DmaChannel} (different : other ≠ channel) :
    (cleared state channel).channels other = state.channels other := by
  simp only [cleared, DmaState.channels_write_of_ne _ different]

theorem getLsbD_resetMask (channel other : DmaChannel) (flag : DmaFlag)
    (same : other.controller = channel.controller) :
    (~~~(ones 32 4 <<< (4 * channel.index))).getLsbD (flagBit other flag) =
      decide (other ≠ channel) := by
  have within := flagBit_lt other flag
  have small := flag.offset_lt
  rw [BitVec.getLsbD_not, getLsbD_ones_shiftLeft _ _ (by omega)]
  unfold flagBit at within ⊢
  by_cases equal : other = channel
  · subst equal
    simp [small]
  · have apart : other.index ≠ channel.index := fun index =>
      equal (DmaChannel.eq_of_index same index)
    simp [equal]
    omega

theorem pending_dmaReset (state : DmaState) (channel other : DmaChannel) (flag : DmaFlag) :
    (dmaReset state channel).pending other flag = (state.pending other flag &&
      !(decide (other.controller = channel.controller) &&
        ((state.intfclr channel.controller).getLsbD (flagBit other flag) ||
          decide (other ≠ channel)))) := by
  have flags : (cleared state channel).pending other flag = state.pending other flag := by
    simp [DmaState.pending, cleared]
  have read : (cleared state channel).intfclr = state.intfclr := by simp [cleared]
  rw [dmaReset_eq, DmaState.orIntfclr, DmaState.pending_writeIntfclr, flags, read,
    BitVec.getLsbD_or]
  by_cases same : other.controller = channel.controller
  · rw [getLsbD_resetMask _ _ _ same]
  · simp [same]

/-! ## Isolation -/

structure Isolated (channel : DmaChannel) (before after : DmaState) : Prop where
  registers : ∀ register, after.channels channel register = 0
  flags : ∀ flag, after.pending channel flag = false
  otherRegisters : ∀ other, other ≠ channel → after.channels other = before.channels other
  otherFlags : ∀ other, other ≠ channel → ∀ flag,
    after.pending other flag = before.pending other flag

/-- No other channel of the controller has a flag pending, and each pending flag of the channel is
already a one in what `INTFCLR` reads as. -/
structure Unflagged (channel : DmaChannel) (state : DmaState) : Prop where
  own : ∀ flag, state.pending channel flag = true →
    (state.intfclr channel.controller).getLsbD (flagBit channel flag) = true
  others : ∀ other, other ≠ channel → other.controller = channel.controller → ∀ flag,
    state.pending other flag = false

theorem dmaReset_isolated_iff (channel : DmaChannel) (state : DmaState) :
    Isolated channel state (dmaReset state channel) ↔ Unflagged channel state := by
  constructor
  · intro isolated
    constructor
    case own =>
      intro flag set
      have clear := isolated.flags flag
      simpa [pending_dmaReset, set] using clear
    case others =>
      intro other different same flag
      have kept := isolated.otherFlags other different flag
      simpa [pending_dmaReset, different, same] using kept.symm
  · intro quiet
    constructor
    case registers =>
      intro register
      rw [dmaReset_eq]
      exact cleared_channel state channel register
    case flags =>
      intro flag
      rw [pending_dmaReset]
      cases set : state.pending channel flag with
      | false => rfl
      | true => simp [quiet.own flag set]
    case otherRegisters =>
      intro other different
      rw [dmaReset_eq]
      exact cleared_other state different
    case otherFlags =>
      intro other different flag
      rw [pending_dmaReset]
      by_cases same : other.controller = channel.controller
      · simp [quiet.others other different same flag]
      · simp [same]

/-! ## Named flags -/

-- `DMA_FLAG_T`.
def flagValue (channel : DmaChannel) (flag : DmaFlag) : BitVec 32 :=
  BitVec.twoPow 32 (flagBit channel flag) |||
    if channel.controller = .dma2 then 0x10000000 else 0

/-- The mask is for the flag's controller and has the flag's bit. -/
def names (mask : BitVec 32) (channel : DmaChannel) (flag : DmaFlag) : Bool :=
  mask.getLsbD 28 == decide (channel.controller = .dma2) && mask.getLsbD (flagBit channel flag)

theorem getLsbD_controllerBit (bit : Nat) :
    (0x10000000#32).getLsbD bit = decide (bit = 28) := by
  rw [show (0x10000000#32) = BitVec.twoPow 32 28 from rfl, BitVec.getLsbD_twoPow]
  simp [eq_comm]

theorem names_flagValue (channel other : DmaChannel) (flag otherFlag : DmaFlag) :
    names (flagValue channel flag) other otherFlag =
      decide (other = channel ∧ otherFlag = flag) := by
  have small := flagBit_lt channel flag
  have within := flagBit_lt other otherFlag
  have bit : (flagValue channel flag).getLsbD (flagBit other otherFlag) =
      decide (flagBit channel flag = flagBit other otherFlag) := by
    unfold flagValue
    rw [BitVec.getLsbD_or, BitVec.getLsbD_twoPow]
    have apart : flagBit other otherFlag ≠ 28 := by omega
    have inside : flagBit channel flag < 32 := by omega
    split <;> simp [getLsbD_controllerBit, apart, inside]
  have last : (flagValue channel flag).getLsbD 28 = decide (channel.controller = .dma2) := by
    have apart : ¬28 = flagBit channel flag := by omega
    unfold flagValue
    split <;> simp [*]
  rw [names, bit, last]
  by_cases same : channel.controller = other.controller
  · have exactly : flagBit channel flag = flagBit other otherFlag ↔
        other = channel ∧ otherFlag = flag := by
      constructor
      · intro equal
        obtain ⟨rfl, rfl⟩ := eq_of_flagBit same equal
        exact ⟨rfl, rfl⟩
      · rintro ⟨rfl, rfl⟩
        rfl
    simp [same, exactly]
  · have apart : other ≠ channel := fun equal => same (congrArg _ equal.symm)
    cases first : channel.controller <;> cases second : other.controller <;> simp_all

theorem names_or (first second : BitVec 32) (channel : DmaChannel) (flag : DmaFlag)
    (same : first.getLsbD 28 = second.getLsbD 28) :
    names (first ||| second) channel flag =
      (names first channel flag || names second channel flag) := by
  simp only [names, BitVec.getLsbD_or, same, Bool.or_self]
  cases second.getLsbD 28 == decide (channel.controller = .dma2) <;> rfl

theorem pending_dmaClearStatusFlag (state : DmaState) (mask : BitVec 32) (channel : DmaChannel)
    (flag : DmaFlag) : (dmaClearStatusFlag state mask).pending channel flag =
      (state.pending channel flag && !names mask channel flag) := by
  have selects : mask &&& 0x10000000 ≠ 0 ↔ mask.getLsbD 28 = true :=
    @and_twoPow_ne_zero 32 mask 28 (by decide)
  unfold dmaClearStatusFlag names
  by_cases second : mask.getLsbD 28 = true
  · rw [if_pos (selects.mpr second), DmaState.pending_writeIntfclr, second]
    cases channel.controller <;> simp
  · rw [if_neg (fun nonzero => second (selects.mp nonzero)), DmaState.pending_writeIntfclr]
    have first : mask.getLsbD 28 = false := by simpa using second
    rw [first]
    cases channel.controller <;> simp

theorem channels_dmaClearStatusFlag (state : DmaState) (mask : BitVec 32) :
    (dmaClearStatusFlag state mask).channels = state.channels := by
  unfold dmaClearStatusFlag
  split <;> rfl

-- `mask` clears the flags that it names on their controller, and nothing else.
structure ClearsNamed (mask : BitVec 32) (before after : DmaState) : Prop where
  registers : after.channels = before.channels
  flags : ∀ channel flag,
    after.pending channel flag = (before.pending channel flag && !names mask channel flag)

theorem dmaClearStatusFlag_clearsNamed (state : DmaState) (mask : BitVec 32) :
    ClearsNamed mask state (dmaClearStatusFlag state mask) :=
  ⟨channels_dmaClearStatusFlag state mask, pending_dmaClearStatusFlag state mask⟩

/-- A reset isolates its channel exactly when the controller has no flags to lose; clearing by a
mask is exact. -/
theorem dma_flags_exact (channel : DmaChannel) (state : DmaState) (mask : BitVec 32) :
    (Isolated channel state (dmaReset state channel) ↔ Unflagged channel state) ∧
      ClearsNamed mask state (dmaClearStatusFlag state mask) :=
  ⟨dmaReset_isolated_iff channel state, dmaClearStatusFlag_clearsNamed state mask⟩

/-- Channel 5 has completed when channel 4 is reset. -/
def rxComplete : DmaState where
  channels _ _ := 0
  intsts controller := if controller = .dma1 then flagValue .dma1Channel5 .tc else 0
  intfclr _ := 0

theorem dmaReset_not_isolated :
    ¬ ((∀ channel state, Isolated channel state (dmaReset state channel)) ∧
      ∀ state mask, ClearsNamed mask state (dmaClearStatusFlag state mask)) := by
  rintro ⟨isolated, -⟩
  have kept := (isolated .dma1Channel4 rxComplete).otherFlags .dma1Channel5 (by decide) .tc
  exact absurd kept (by decide)

end ApmSdk.StdPeriph
