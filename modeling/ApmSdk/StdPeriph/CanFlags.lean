import ApmSdk.StdPeriph.Can

set_option autoImplicit false

/-!
# Event flags of the CAN controller

The functions that write RXF0, RXF1, TXSTS, MSTS and ERRSTS, next to flags that are cleared by
ones.
-/

namespace ApmSdk.StdPeriph

open Fields FlagRegister

namespace Can

-- ERRI, WUPI and SLEEPI are cleared by ones; the rest is read only.
def mstsLayout : Layout 32 := ⟨0x0000001C, ~~~0x0000001C⟩

-- REQC, TXSUS, ARBLST and TXERR of each mailbox are cleared by ones.
def txstsLayout : Layout 32 := ⟨0x000F0F0F, ~~~0x000F0F0F⟩

-- ABREQ of the three mailboxes: ones request an abort, zeros do nothing.
def abreqMask : BitVec 32 := 0x00808080

-- Only LERRC can be written.
def errstsLayout : Layout 32 := ⟨0, ~~~0x00000070⟩

def writeMsts (can : Can) (value : BitVec 32) : Can :=
  { can with msts := mstsLayout.stored can.msts value }

def writeTxsts (can : Can) (value : BitVec 32) : Can :=
  { can with txsts := txstsLayout.stored can.txsts value ||| (value &&& abreqMask) }

def writeErrsts (can : Can) (value : BitVec 32) : Can :=
  { can with errsts := errstsLayout.stored can.errsts value }

-- `ERRSTS_B.LERRC = BIT_RESET`.
def resetLerrc (can : Can) : Can := can.writeErrsts (can.errsts &&& ~~~0x00000070)

end Can

-- The registers that hold flags to be cleared by ones.
inductive CanRegister where
  | rxf (fifo : CanFifo)
  | txsts
  | msts
  deriving DecidableEq, Repr

namespace Can

def read (can : Can) : CanRegister → BitVec 32
  | .rxf fifo => can.rxf fifo
  | .txsts => can.txsts
  | .msts => can.msts

def write (can : Can) : CanRegister → BitVec 32 → Can
  | .rxf fifo, value => can.writeRxf fifo value
  | .txsts, value => can.writeTxsts value
  | .msts, value => can.writeMsts value

-- `register_B.bit = BIT_SET`.
def assign (can : Can) (register : CanRegister) (bit : Nat) : Can :=
  can.write register (withBit (can.read register) bit true)

end Can

-- `CAN_INT_T`.
inductive CanInt where
  | txme
  | mp (fifo : CanFifo)
  | full (fifo : CanFifo)
  | ovr (fifo : CanFifo)
  | errw
  | errp
  | bof
  | lec
  | err
  | wup
  | sleep
  deriving DecidableEq, Repr

/-- The values of `CAN_FLAG_T` that `CAN_ClearStatusFlag` is documented for. -/
inductive CanStatusFlag where
  | lerrc
  | wupi
  | sleep
  | full (fifo : CanFifo)
  | ovr (fifo : CanFifo)
  | reqc (box : Fin 3)
  deriving DecidableEq, Repr

def CanStatusFlag.value : CanStatusFlag → BitVec 32
  | .lerrc => 0x30F00070
  | .wupi => 0x31000008
  | .sleep => 0x31000012
  | .full .fifo0 => 0x32000008
  | .ovr .fifo0 => 0x32000010
  | .full .fifo1 => 0x34000008
  | .ovr .fifo1 => 0x34000010
  | .reqc 0 => 0x38000001
  | .reqc 1 => 0x38000100
  | .reqc 2 => 0x38010000

namespace Can

def cancelTxMailbox (can : Can) (box : Fin 3) : Can := can.assign .txsts (8 * box.val + 7)

def releaseFIFO (can : Can) (fifo : CanFifo) : Can := can.setRfom fifo

def clearIntFlag (can : Can) : CanInt → Can
  | .txme => ((can.assign .txsts 0).assign .txsts 8).assign .txsts 16
  | .full fifo => can.assign (.rxf fifo) 3
  | .ovr fifo => can.assign (.rxf fifo) 4
  | .wup => can.assign .msts 3
  | .sleep => can.assign .msts 4
  | .errw | .errp | .bof => can.assign .msts 2
  | .lec | .err => can.resetLerrc.assign .msts 2
  | .mp _ => can

def clearStatusFlag (can : Can) (flag : BitVec 32) : Can :=
  if flag = 0x30F00070 then can.writeErrsts 0
  else
    let flagtmp := flag &&& 0x000FFFFF
    if flag &&& 0x02000000 ≠ 0 then can.writeRxf .fifo0 flagtmp
    else if flag &&& 0x04000000 ≠ 0 then can.writeRxf .fifo1 flagtmp
    else if flag &&& 0x08000000 ≠ 0 then can.writeTxsts flagtmp
    else can.writeMsts flagtmp

end Can

/-! ## What has to hold -/

inductive CanFlag where
  | full (fifo : CanFifo)
  | ovr (fifo : CanFifo)
  | reqc (box : Fin 3)
  | txsus (box : Fin 3)
  | arblst (box : Fin 3)
  | txerr (box : Fin 3)
  | erri
  | wupi
  | sleepi
  deriving DecidableEq, Repr

namespace CanFlag

def register : CanFlag → CanRegister
  | full fifo | ovr fifo => .rxf fifo
  | reqc _ | txsus _ | arblst _ | txerr _ => .txsts
  | erri | wupi | sleepi => .msts

def bit : CanFlag → Nat
  | full _ => 3
  | ovr _ => 4
  | reqc box => 8 * box.val
  | txsus box => 8 * box.val + 1
  | arblst box => 8 * box.val + 2
  | txerr box => 8 * box.val + 3
  | erri => 2
  | wupi => 3
  | sleepi => 4

end CanFlag

def CanRegister.layout : CanRegister → Layout 32
  | rxf _ => rxfLayout
  | txsts => Can.txstsLayout
  | msts => Can.mstsLayout

namespace Can

def pending (can : Can) (flag : CanFlag) : Bool := (can.read flag.register).getLsbD flag.bit

-- ABREQFLG.
def aborting (can : Can) (box : Fin 3) : Bool := can.txsts.getLsbD (8 * box.val + 7)

def lerrc (can : Can) : BitVec 3 := field can.errsts 4 3

end Can

inductive CanOp where
  | rxMessage (fifo : CanFifo) (message : CanRxMessage)
  | releaseFIFO (fifo : CanFifo)
  | cancelTxMailbox (box : Fin 3)
  | clearIntFlag (flag : CanInt)
  | clearStatusFlag (flag : CanStatusFlag)

namespace CanOp

def perform (can : Can) : CanOp → Can
  | rxMessage fifo message => (can.rxMessage fifo message).1
  | releaseFIFO fifo => can.releaseFIFO fifo
  | cancelTxMailbox box => can.cancelTxMailbox box
  | clearIntFlag flag => can.clearIntFlag flag
  | clearStatusFlag flag => can.clearStatusFlag flag.value

/-- The flags that an operation names. -/
def named : CanOp → CanFlag → Bool
  | clearIntFlag .txme, .reqc _ => true
  | clearIntFlag (.full fifo), flag | clearStatusFlag (.full fifo), flag => flag = .full fifo
  | clearIntFlag (.ovr fifo), flag | clearStatusFlag (.ovr fifo), flag => flag = .ovr fifo
  | clearIntFlag .wup, flag | clearStatusFlag .wupi, flag => flag = .wupi
  | clearIntFlag .sleep, flag | clearStatusFlag .sleep, flag => flag = .sleepi
  | clearIntFlag .errw, flag | clearIntFlag .errp, flag | clearIntFlag .bof, flag
  | clearIntFlag .lec, flag | clearIntFlag .err, flag => flag = .erri
  | clearStatusFlag (.reqc box), flag => flag = .reqc box
  | _, _ => false

-- LERRC is a code, and no flag.
def namesLerrc : CanOp → Bool
  | clearIntFlag .lec | clearIntFlag .err | clearStatusFlag .lerrc => true
  | _ => false

/-- The register that an operation reads, changes and writes. -/
def assigned : CanOp → Option CanRegister
  | rxMessage fifo _ | releaseFIFO fifo => some (.rxf fifo)
  | cancelTxMailbox _ | clearIntFlag .txme => some .txsts
  | clearIntFlag (.full fifo) | clearIntFlag (.ovr fifo) => some (.rxf fifo)
  | clearIntFlag (.mp _) | clearStatusFlag _ => none
  | clearIntFlag _ => some .msts

-- The FIFO that an operation takes an entry from.
def taken : CanOp → Option CanFifo
  | rxMessage fifo _ | releaseFIFO fifo => some fifo
  | _ => none

def aborted : CanOp → Option (Fin 3)
  | cancelTxMailbox box => some box
  | _ => none

/-- The flags that are named are cleared, and no other is; one entry is released, one abort
requested. -/
structure Right (can : Can) (op : CanOp) : Prop where
  flags : ∀ flag, (op.perform can).pending flag = (can.pending flag && !op.named flag)
  lerrc : (op.perform can).lerrc = if op.namesLerrc then 0 else can.lerrc
  released : ∀ fifo ∈ op.taken, (op.perform can).released =
    Function.update can.released fifo (can.released fifo + 1)
  aborting : ∀ box ∈ op.aborted, ∀ other,
    (op.perform can).aborting other = (can.aborting other || decide (other = box))

/-- Nothing but what is named is pending in the register that is assigned to. -/
def Alone (can : Can) (op : CanOp) : Prop :=
  ∀ flag, op.assigned = some flag.register → can.pending flag = true → op.named flag = true

end CanOp

/-! ## Writes to the registers -/

-- The bits that ones set.
def CanRegister.latched : CanRegister → BitVec 32
  | rxf _ | msts => 0
  | txsts => Can.abreqMask

theorem CanFlag.layout_bit (flag : CanFlag) :
    flag.register.layout.clearing.getLsbD flag.bit = true ∧
    flag.register.layout.readOnly.getLsbD flag.bit = false ∧
    flag.register.latched.getLsbD flag.bit = false ∧ flag.bit < 32 := by
  cases flag with
  | full fifo | ovr fifo =>
    cases fifo <;> decide
  | reqc box | txsus box | arblst box | txerr box =>
    revert box
    decide
  | erri | wupi | sleepi => decide

namespace Can

variable {can : Can} {register other : CanRegister} {value : BitVec 32}

theorem read_write_self : (can.write register value).read register =
    register.layout.stored (can.read register) value ||| (value &&& register.latched) := by
  cases register <;>
    simp [write, writeRxf, writeTxsts, writeMsts, read, CanRegister.layout, CanRegister.latched]

theorem read_write_of_ne (apart : other ≠ register) :
    (can.write register value).read other = can.read other := by
  cases register with
  | rxf fifo =>
    cases other with
    | rxf second => exact Function.update_of_ne (fun same => apart (congrArg _ same)) _ _
    | txsts | msts => rfl
  | txsts =>
    cases other with
    | txsts => exact absurd rfl apart
    | rxf _ | msts => rfl
  | msts =>
    cases other with
    | msts => exact absurd rfl apart
    | rxf _ | txsts => rfl

theorem pending_write (flag : CanFlag) : (can.write register value).pending flag =
    (can.pending flag && !(decide (flag.register = register) && value.getLsbD flag.bit)) := by
  rw [pending, pending]
  by_cases same : flag.register = register
  · obtain ⟨clearing, readOnly, latched, within⟩ := flag.layout_bit
    subst same
    rw [read_write_self, BitVec.getLsbD_or, Layout.getLsbD_stored _ _ _ within, readOnly, clearing,
      BitVec.getLsbD_and, latched]
    simp
  · rw [read_write_of_ne same]
    simp [same]

/-- An assignment clears all the flags of its register. -/
theorem pending_assign (can : Can) (register : CanRegister) {bit : Nat} (within : bit < 32)
    (flag : CanFlag) : (can.assign register bit).pending flag =
      (can.pending flag && !decide (flag.register = register)) := by
  rw [assign, pending_write]
  by_cases same : flag.register = register
  · subst same
    rw [getLsbD_withBit _ within]
    cases was : can.pending flag with
    | false => simp
    | true =>
      have set : (can.read flag.register).getLsbD flag.bit = true := was
      simp [set]
  · simp [same]

theorem released_assign (can : Can) (fifo : CanFifo) :
    (can.assign (.rxf fifo) 5).released =
      Function.update can.released fifo (can.released fifo + 1) := by
  have set : (withBit (can.rxf fifo) 5 true).getLsbD 5 = true := by
    rw [getLsbD_withBit _ (by decide), if_pos rfl]
  simp only [assign, write, writeRxf, read, set, if_true]

theorem aborting_assign (can : Can) (box other : Fin 3) :
    (can.assign .txsts (8 * box.val + 7)).aborting other =
      (can.aborting other || decide (other = box)) := by
  have within : 8 * box.val + 7 < 32 := by omega
  have inside : 8 * other.val + 7 < 32 := by omega
  have readOnly : txstsLayout.readOnly.getLsbD (8 * other.val + 7) = true := by
    revert other
    decide
  have latched : abreqMask.getLsbD (8 * other.val + 7) = true := by
    revert other
    decide
  have same : 8 * box.val + 7 = 8 * other.val + 7 ↔ other = box := by
    rw [Fin.ext_iff]
    omega
  simp only [aborting, assign, write, writeTxsts, read, BitVec.getLsbD_or, BitVec.getLsbD_and,
    Layout.getLsbD_stored _ _ _ inside, readOnly, latched, getLsbD_withBit _ within, same, if_true]
  by_cases this : other = box <;> simp [this]

theorem lerrc_assign (can : Can) (register : CanRegister) (bit : Nat) :
    (can.assign register bit).lerrc = can.lerrc := by
  cases register <;> rfl

theorem lerrc_writeErrsts (zero : ∀ bit < 3, value.getLsbD (4 + bit) = false) :
    (can.writeErrsts value).lerrc = 0 := by
  apply BitVec.eq_of_getLsbD_eq
  intro bit inside
  have within : 4 + bit < 32 := by omega
  have layout : ∀ bit < 3, errstsLayout.readOnly.getLsbD (4 + bit) = false ∧
      errstsLayout.clearing.getLsbD (4 + bit) = false := by decide
  rw [lerrc, field, BitVec.getLsbD_extractLsb', writeErrsts, Layout.getLsbD_stored _ _ _ within,
    (layout bit inside).1, (layout bit inside).2, zero bit inside]
  simp

theorem lerrc_resetLerrc (can : Can) : can.resetLerrc.lerrc = 0 := by
  refine lerrc_writeErrsts fun bit inside => ?_
  have mask : ∀ bit < 3, (~~~(0x00000070 : BitVec 32)).getLsbD (4 + bit) = false := by decide
  rw [BitVec.getLsbD_and, mask bit inside, Bool.and_false]

-- `CAN_ClearStatusFlag`, for each of its flags.
theorem clearStatusFlag_eq (can : Can) (flag : CanStatusFlag) : can.clearStatusFlag flag.value =
    match flag with
    | .lerrc => can.writeErrsts 0
    | .wupi => can.write .msts 0x00000008
    | .sleep => can.write .msts 0x00000012
    | .full fifo => can.write (.rxf fifo) 0x00000008
    | .ovr fifo => can.write (.rxf fifo) 0x00000010
    | .reqc box => can.write .txsts (BitVec.twoPow 32 (8 * box.val)) := by
  cases flag with
  | lerrc | wupi | sleep => rfl
  | full fifo | ovr fifo => cases fifo <;> rfl
  | reqc box =>
    match box with
    | 0 | 1 | 2 => rfl

end Can

namespace CanOp

variable {can : Can}

-- `CAN_RxMessage` ends as `CAN_ReleaseFIFO` does.
theorem rxMessage_eq (can : Can) (fifo : CanFifo) (message : CanRxMessage) :
    (can.rxMessage fifo message).1 = can.assign (.rxf fifo) 5 := rfl

theorem releaseFIFO_eq (can : Can) (fifo : CanFifo) :
    can.releaseFIFO fifo = can.assign (.rxf fifo) 5 := rfl

theorem pending_assigned {op : CanOp} {register : CanRegister}
    (assigned : op.assigned = some register) (flag : CanFlag) : (op.perform can).pending flag =
      (can.pending flag && !decide (flag.register = register)) := by
  cases op with
  | rxMessage fifo message =>
    obtain rfl := Option.some.inj assigned
    rw [perform, rxMessage_eq, Can.pending_assign _ _ (by decide)]
  | releaseFIFO fifo =>
    obtain rfl := Option.some.inj assigned
    rw [perform, releaseFIFO_eq, Can.pending_assign _ _ (by decide)]
  | cancelTxMailbox box =>
    obtain rfl := Option.some.inj assigned
    rw [perform, Can.cancelTxMailbox, Can.pending_assign _ _ (by omega)]
  | clearIntFlag int =>
    cases int with
    | txme =>
      obtain rfl := Option.some.inj assigned
      rw [perform, Can.clearIntFlag, Can.pending_assign _ _ (by decide),
        Can.pending_assign _ _ (by decide), Can.pending_assign _ _ (by decide), Bool.and_assoc,
        Bool.and_self, Bool.and_assoc, Bool.and_self]
    | full fifo | ovr fifo =>
      obtain rfl := Option.some.inj assigned
      rw [perform, Can.clearIntFlag, Can.pending_assign _ _ (by decide)]
    | errw | errp | bof | wup | sleep =>
      obtain rfl := Option.some.inj assigned
      rw [perform, Can.clearIntFlag, Can.pending_assign _ _ (by decide)]
    | lec | err =>
      obtain rfl := Option.some.inj assigned
      rw [perform, Can.clearIntFlag, Can.pending_assign _ _ (by decide)]
      rfl
    | mp fifo => cases assigned
  | clearStatusFlag flag => cases assigned

theorem named_register {op : CanOp} {register : CanRegister}
    (assigned : op.assigned = some register) {flag : CanFlag} (named : op.named flag = true) :
    flag.register = register := by
  cases op with
  | rxMessage fifo message | releaseFIFO fifo | cancelTxMailbox box => cases flag <;> cases named
  | clearIntFlag int =>
    cases int <;> cases flag <;> simp_all [CanOp.named, CanOp.assigned, CanFlag.register]
  | clearStatusFlag flag => cases assigned

/-- `CAN_ClearStatusFlag` writes ones for the flags it names alone. -/
theorem pending_clearStatusFlag (status : CanStatusFlag) (flag : CanFlag) :
    (can.clearStatusFlag status.value).pending flag =
      (can.pending flag && !(clearStatusFlag status).named flag) := by
  rw [Can.clearStatusFlag_eq]
  cases status with
  | lerrc =>
    have same : (can.writeErrsts 0).pending flag = can.pending flag := by
      cases flag <;> rfl
    rw [same, named]
    · simp
    all_goals simp
  | wupi | sleep =>
    dsimp only
    rw [Can.pending_write]
    congr 2
    cases flag with
    | full fifo | ovr fifo => cases fifo <;> decide
    | reqc box | txsus box | arblst box | txerr box =>
      revert box
      decide
    | erri | wupi | sleepi => decide
  | full fifo | ovr fifo =>
    dsimp only
    rw [Can.pending_write]
    congr 2
    cases fifo <;> cases flag with
    | full other | ovr other => cases other <;> decide
    | reqc box | txsus box | arblst box | txerr box =>
      revert box
      decide
    | erri | wupi | sleepi => decide
  | reqc box =>
    dsimp only
    rw [Can.pending_write]
    congr 2
    cases flag with
    | full fifo | ovr fifo =>
      revert box
      cases fifo <;> decide
    | reqc other | txsus other | arblst other | txerr other =>
      revert box other
      decide
    | erri | wupi | sleepi =>
      revert box
      decide

/-- The flags of a field assignment are right exactly when it meets no other. -/
theorem flags_iff {op : CanOp} {register : CanRegister} (assigned : op.assigned = some register) :
    (∀ flag, (op.perform can).pending flag = (can.pending flag && !op.named flag)) ↔
      op.Alone can := by
  simp only [pending_assigned assigned]
  constructor
  · intro right flag same pending
    have inside := Option.some.inj (assigned.symm.trans same)
    have flags := right flag
    rw [pending, inside] at flags
    simpa using flags
  · intro alone flag
    cases pending : can.pending flag with
    | false => rfl
    | true =>
      by_cases inside : flag.register = register
      · have named := alone flag (inside ▸ assigned) pending
        simp [inside, named]
      · have unnamed : op.named flag = false := by
          by_contra named
          exact inside (named_register assigned (by simpa using named))
        simp [inside, unnamed]

theorem lerrc_perform (op : CanOp) (can : Can) :
    (op.perform can).lerrc = if op.namesLerrc then 0 else can.lerrc := by
  cases op with
  | rxMessage fifo message => exact can.lerrc_assign (.rxf fifo) 5
  | releaseFIFO fifo => exact can.lerrc_assign (.rxf fifo) 5
  | cancelTxMailbox box => exact can.lerrc_assign .txsts _
  | clearIntFlag int =>
    cases int with
    | txme => exact (Can.lerrc_assign _ _ _).trans ((Can.lerrc_assign _ _ _).trans
        (can.lerrc_assign .txsts 0))
    | full fifo | ovr fifo => exact can.lerrc_assign (.rxf fifo) _
    | errw | errp | bof | wup | sleep => exact can.lerrc_assign .msts _
    | lec | err => exact (Can.lerrc_assign _ .msts 2).trans can.lerrc_resetLerrc
    | mp fifo => rfl
  | clearStatusFlag status =>
    rw [perform, Can.clearStatusFlag_eq]
    cases status with
    | lerrc => exact Can.lerrc_writeErrsts (by decide)
    | wupi | sleep | full fifo | ovr fifo | reqc box => rfl

/-- Every operation is right exactly when no flag but those it names is pending in the register
that it assigns to. -/
theorem operation_right_iff (can : Can) (op : CanOp) : op.Right can ↔ op.Alone can := by
  have rest : (∀ flag, (op.perform can).pending flag = (can.pending flag && !op.named flag)) →
      op.Right can := by
    refine fun flags => ⟨flags, op.lerrc_perform can, fun fifo taken => ?_, fun box aborted => ?_⟩
    · cases op with
      | rxMessage other message =>
        obtain rfl := Option.some.inj taken
        exact can.released_assign other
      | releaseFIFO other =>
        obtain rfl := Option.some.inj taken
        exact can.released_assign other
      | cancelTxMailbox _ | clearIntFlag _ | clearStatusFlag _ => cases taken
    · cases op with
      | cancelTxMailbox other =>
        obtain rfl := Option.some.inj aborted
        exact can.aborting_assign other
      | rxMessage _ _ | releaseFIFO _ | clearIntFlag _ | clearStatusFlag _ => cases aborted
  cases assigned : op.assigned with
  | some register =>
    rw [← flags_iff assigned]
    exact ⟨Right.flags, rest⟩
  | none =>
    have vacuous : op.Alone can := by
      intro flag inside
      rw [assigned] at inside
      cases inside
    refine iff_of_true (rest fun flag => ?_) vacuous
    cases op with
    | clearStatusFlag status => exact pending_clearStatusFlag status flag
    | rxMessage _ _ | releaseFIFO _ | cancelTxMailbox _ => cases assigned
    | clearIntFlag int =>
      cases int with
      | mp fifo => cases flag <;> exact (Bool.and_true _).symm
      | txme | full _ | ovr _ | errw | errp | bof | lec | err | wup | sleep => cases assigned

-- FIFO 0 has overrun: the release of one of its messages hides it.
theorem release_hides_overrun : ¬ ∀ (can : Can) (op : CanOp), op.Right can := by
  intro right
  have flag := (right ⟨0, 0, fun _ => 0x0000001B, 0, fun _ => ⟨0, 0, 0, 0⟩, fun _ => ⟨0, 0, 0, 0⟩,
    [], fun _ => 0⟩ (.releaseFIFO .fifo0)).flags (.ovr .fifo0)
  revert flag
  decide

end CanOp

end ApmSdk.StdPeriph
