import ApmSdk.Lib.Broadcast
import ApmSdk.StdPeriph.CanFilter
import ApmSdk.StdPeriph.CanFlags
import Mathlib.Data.List.Forall2

set_option autoImplicit false

/-!
# A CAN controller at work

`CAN_TxMessageStatus` and `CAN_PendingMessage`, what the hardware does with the mailboxes and the
FIFOs between the calls of the driver, and what they then hold.
-/

namespace ApmSdk.StdPeriph

open Broadcast Fields FlagRegister

namespace Can

-- `CAN_TX_MAILBIX_T` leaves nothing for the default of the first switch.
def txMessageStatus (can : Can) (mailbox : Fin 3) : BitVec 8 :=
  let state : BitVec 32 :=
    match mailbox with
    | 0 => can.txsts &&& (0x00000001 ||| 0x00000002 ||| 0x04000000)
    | 1 => can.txsts &&& (0x00000100 ||| 0x00000200 ||| 0x08000000)
    | 2 => can.txsts &&& (0x00010000 ||| 0x00020000 ||| 0x10000000)
  if state = 0x0 then 2
  else if state = (0x00000001 ||| 0x04000000) then 0
  else if state = (0x00000100 ||| 0x08000000) then 0
  else if state = (0x00010000 ||| 0x10000000) then 0
  else if state = (0x00000001 ||| 0x00000002 ||| 0x04000000) then 1
  else if state = (0x00000100 ||| 0x00000200 ||| 0x08000000) then 1
  else if state = (0x00010000 ||| 0x00020000 ||| 0x10000000) then 1
  else 0

def pendingMessage (can : Can) (fifo : CanFifo) : BitVec 32 := can.rxf fifo &&& 0x03

-- TXMREQ.
def requested (can : Can) (box : Fin 3) : Bool := (can.txMailBox box).txmid.getLsbD 0

/-! ## The controller at work -/

/-- A mailbox that a transmission has just been requested of is no longer empty and starts with
clear flags; an empty one has nothing to abort. -/
def settling (can : Can) (box : Fin 3) : BitVec 32 :=
  if can.requested box then
    if can.isEmpty box then
      ((0x0000000F : BitVec 32) <<< (8 * box.val)) ||| ((0x04000000 : BitVec 32) <<< box.val)
    else 0
  else (0x00000080 : BitVec 32) <<< (8 * box.val)

def settleTx (can : Can) : Can :=
  { can with
    txsts := can.txsts &&&
      ~~~((List.finRange 3).foldl (fun mask box => mask ||| can.settling box) 0) }

-- REQC and TXMEFLG, and TXSUS if it is a success.
def finish (can : Can) (box : Fin 3) (success : Bool) : Can :=
  { can with
    txMailBox := Function.update can.txMailBox box
      { can.txMailBox box with txmid := (can.txMailBox box).txmid &&& ~~~0x00000001 }
    txsts := (can.txsts &&& ~~~((0x0000008F : BitVec 32) <<< (8 * box.val))) |||
      ((if success then 0x00000003 else 0x00000001 : BitVec 32) <<< (8 * box.val)) |||
      ((0x04000000 : BitVec 32) <<< box.val) }

end Can

-- The bits of `first` that the mask names, and the others of `second`.
def mix (mask first second : BitVec 32) : BitVec 32 := (first &&& mask) ||| (second &&& ~~~mask)

/-- The entry that a frame makes: what no frame carries (the time stamp, the filter index, the bytes
beyond the length) comes from `rest`. -/
def received (frame : CanTxMailBox) (rest : CanRxMailBox) : CanRxMailBox :=
  let bytes := if frame.txmid.getLsbD 1 then 0 else (field frame.txdlen 0 4).toNat
  { rxmid := mix (~~~0x00000001) frame.txmid rest.rxmid
    rxdlen := mix 0x0000000F frame.txdlen rest.rxdlen
    rxmdl := mix (ones 32 (8 * bytes)) frame.txmdl rest.rxmdl
    rxmdh := mix (ones 32 (8 * (bytes - 4))) frame.txmdh rest.rxmdh }

/-- A controller with its filters and the entries of its FIFOs, the first of which its mailbox
shows; `performed` counts the releases that have been performed. -/
structure CanNode where
  can : Can
  filters : CanFilters
  waiting : CanFifo → List CanRxMailBox
  performed : CanFifo → Nat

namespace CanNode

def setFifo (node : CanNode) (fifo : CanFifo) (waiting : List CanRxMailBox)
    (flags : BitVec 32) : CanNode :=
  { node with
    waiting := Function.update node.waiting fifo waiting
    can := { node.can with
      rxf := Function.update node.can.rxf fifo
        (assign (node.can.rxf fifo ||| flags) 0 2 (BitVec.ofNat 32 waiting.length))
      rxMailBox := Function.update node.can.rxMailBox fifo
        (waiting.headD (node.can.rxMailBox fifo)) } }

def settleRx (node : CanNode) (fifo : CanFifo) : CanNode :=
  ({ node with
      performed := Function.update node.performed fifo (node.can.released fifo) } : CanNode).setFifo
    fifo ((node.waiting fifo).drop (node.can.released fifo - node.performed fifo)) 0

/-- What the hardware does with the writes of a call. -/
def settle (node : CanNode) : CanNode :=
  (({ node with can := node.can.settleTx } : CanNode).settleRx .fifo0).settleRx .fifo1

-- FFULL is set with the third entry, FOVR by a frame too many.
def store (node : CanNode) (locked : Bool) (fifo : CanFifo) (entry : CanRxMailBox) : CanNode :=
  let waiting := node.waiting fifo
  node.setFifo fifo (push 3 locked waiting entry)
    (if waiting.length < 2 then 0 else if waiting.length < 3 then 0x00000008 else 0x00000010)

end CanNode

/-! ## One mailbox -/

namespace Can

variable {can : Can}

def reqc (can : Can) (box : Fin 3) : Bool := can.txsts.getLsbD (8 * box.val)

def txsus (can : Can) (box : Fin 3) : Bool := can.txsts.getLsbD (8 * box.val + 1)

theorem and_three (register : BitVec 32) (first second third : Nat) :
    register &&& (BitVec.twoPow 32 first ||| BitVec.twoPow 32 second ||| BitVec.twoPow 32 third) =
      (if register.getLsbD first then BitVec.twoPow 32 first else 0) |||
      (if register.getLsbD second then BitVec.twoPow 32 second else 0) |||
      (if register.getLsbD third then BitVec.twoPow 32 third else 0) := by
  rw [BitVec.and_or_distrib_left, BitVec.and_or_distrib_left, BitVec.and_twoPow,
    BitVec.and_twoPow, BitVec.and_twoPow]
  rfl

theorem txMessageStatus_eq (can : Can) (box : Fin 3) : can.txMessageStatus box =
    if can.reqc box || can.txsus box || can.isEmpty box then
      if can.reqc box && can.txsus box && can.isEmpty box then 1 else 0
    else 2 := by
  have masked := and_three can.txsts (8 * box.val) (8 * box.val + 1) (26 + box.val)
  unfold txMessageStatus reqc txsus isEmpty
  generalize can.txsts.getLsbD (8 * box.val) = first at masked ⊢
  generalize can.txsts.getLsbD (8 * box.val + 1) = second at masked ⊢
  generalize can.txsts.getLsbD (26 + box.val) = third at masked ⊢
  match box with
  | 0 | 1 | 2 =>
    dsimp only
    -- The masks of the source are these three bits.
    erw [masked]
    cases first <;> cases second <;> cases third <;> rfl

theorem settling_bits (can : Can) (box other : Fin 3) :
    let started := can.requested box && can.isEmpty box && decide (box = other)
    (can.settling box).getLsbD (26 + other.val) = started ∧
      (can.settling box).getLsbD (8 * other.val) = started ∧
      (can.settling box).getLsbD (8 * other.val + 1) = started := by
  unfold settling
  cases can.requested box <;> cases can.isEmpty box <;> revert box other <;> decide

theorem settleTx_bit (can : Can) {bit : Nat} (within : bit < 32) (other : Fin 3)
    (started : ∀ box, (can.settling box).getLsbD bit =
      (can.requested box && can.isEmpty box && decide (box = other))) :
    can.settleTx.txsts.getLsbD bit =
      (can.txsts.getLsbD bit && !(can.requested other && can.isEmpty other)) := by
  have mailboxes : (List.finRange 3).foldl (fun mask box => mask ||| can.settling box) 0 =
      0 ||| can.settling 0 ||| can.settling 1 ||| can.settling 2 := rfl
  rw [settleTx, BitVec.getLsbD_and, BitVec.getLsbD_not, mailboxes, BitVec.getLsbD_or,
    BitVec.getLsbD_or, BitVec.getLsbD_or, started, started, started]
  match other with
  | 0 | 1 | 2 => simp [within]

theorem isEmpty_settleTx (can : Can) (box : Fin 3) :
    can.settleTx.isEmpty box = (can.isEmpty box && !can.requested box) := by
  have bit := can.settleTx_bit (by omega : 26 + box.val < 32) box fun other =>
    (can.settling_bits other box).1
  rw [isEmpty, bit]
  cases requested : can.requested box <;> simp [isEmpty]

theorem reqc_settleTx (can : Can) (box : Fin 3) : can.settleTx.reqc box =
    (can.reqc box && !(can.requested box && can.isEmpty box)) :=
  can.settleTx_bit (by omega) box fun other => (can.settling_bits other box).2.1

theorem txsus_settleTx (can : Can) (box : Fin 3) : can.settleTx.txsus box =
    (can.txsus box && !(can.requested box && can.isEmpty box)) :=
  can.settleTx_bit (by omega) box fun other => (can.settling_bits other box).2.2

theorem finish_bits (can : Can) (box other : Fin 3) (success : Bool) :
    (can.finish box success).isEmpty other = (can.isEmpty other || decide (other = box)) ∧
    (can.finish box success).reqc other = (can.reqc other || decide (other = box)) ∧
    (can.finish box success).txsus other =
      if other = box then success else can.txsus other := by
  have bits : ∀ bit < 32, (can.finish box success).txsts.getLsbD bit =
      (can.txsts.getLsbD bit && !((0x0000008F : BitVec 32) <<< (8 * box.val)).getLsbD bit ||
        ((if success then 0x00000003 else 0x00000001 : BitVec 32) <<< (8 * box.val)).getLsbD bit ||
        ((0x04000000 : BitVec 32) <<< box.val).getLsbD bit) := by
    intro bit within
    simp only [finish, BitVec.getLsbD_or, BitVec.getLsbD_and, BitVec.getLsbD_not, within,
      decide_true, Bool.true_and]
  unfold isEmpty reqc txsus
  rw [bits _ (by omega), bits _ (by omega), bits _ (by omega)]
  clear bits
  generalize can.txsts.getLsbD (26 + other.val) = first
  generalize can.txsts.getLsbD (8 * other.val) = second
  generalize can.txsts.getLsbD (8 * other.val + 1) = third
  cases success <;> cases first <;> cases second <;> cases third <;> revert box other <;> decide

theorem requested_finish (can : Can) (box other : Fin 3) (success : Bool) :
    (can.finish box success).requested other =
      (can.requested other && !decide (other = box)) := by
  by_cases same : other = box
  next =>
    subst same
    simp [requested, finish]
  next => simp [requested, finish, same]

/-- What the calls of the driver other than `CAN_TxMessage` leave as it is, and what they may
clear. -/
structure Quiet (before after : Can) : Prop where
  txMailBox : after.txMailBox = before.txMailBox
  rxMailBox : after.rxMailBox = before.rxMailBox
  isEmpty : ∀ box, after.isEmpty box = before.isEmpty box
  txsus : ∀ box, after.txsus box = true → before.txsus box = true
  reqc : ∀ box, after.reqc box = true → before.reqc box = true
  rfom : ∀ fifo, (after.rxf fifo).getLsbD 5 = (before.rxf fifo).getLsbD 5

theorem Quiet.refl (can : Can) : Quiet can can :=
  ⟨rfl, rfl, fun _ => rfl, fun _ set => set, fun _ set => set, fun _ => rfl⟩

theorem Quiet.trans {first second third : Can} (left : Quiet first second)
    (right : Quiet second third) : Quiet first third where
  txMailBox := right.txMailBox.trans left.txMailBox
  rxMailBox := right.rxMailBox.trans left.rxMailBox
  isEmpty box := (right.isEmpty box).trans (left.isEmpty box)
  txsus box set := left.txsus box (right.txsus box set)
  reqc box set := left.reqc box (right.reqc box set)
  rfom fifo := (right.rfom fifo).trans (left.rfom fifo)

theorem write_quiet (can : Can) (register : CanRegister) (value : BitVec 32) :
    Quiet can (can.write register value) := by
  have cleared : ∀ flag, (can.write register value).pending flag = true →
      can.pending flag = true := by
    intro flag set
    rw [pending_write, Bool.and_eq_true] at set
    exact set.1
  refine ⟨?_, ?_, fun box => ?_, fun box => cleared (.txsus box), fun box => cleared (.reqc box),
    fun fifo => ?_⟩
  · cases register <;> rfl
  · cases register <;> rfl
  · cases register with
    | txsts =>
      have layout : txstsLayout.readOnly.getLsbD (26 + box.val) = true ∧
          abreqMask.getLsbD (26 + box.val) = false := by
        revert box
        decide
      have within : 26 + box.val < 32 := by omega
      simp only [isEmpty, write, writeTxsts, BitVec.getLsbD_or, BitVec.getLsbD_and,
        Layout.getLsbD_stored _ _ _ within, layout.1, layout.2, if_true, Bool.and_false,
        Bool.or_false]
    | rxf _ | msts => rfl
  · cases register with
    | rxf other =>
      by_cases same : fifo = other
      next =>
        subst same
        have readOnly : rxfLayout.readOnly.getLsbD 5 = true := by decide
        simp only [write, writeRxf, Function.update_self,
          Layout.getLsbD_stored _ _ _ (by decide : 5 < 32), readOnly, if_true]
      next => simp only [write, writeRxf, Function.update_of_ne same]
    | txsts | msts => rfl

theorem writeErrsts_quiet (can : Can) (value : BitVec 32) : Quiet can (can.writeErrsts value) :=
  ⟨rfl, rfl, fun _ => rfl, fun _ set => set, fun _ set => set, fun _ => rfl⟩

theorem perform_quiet (can : Can) (op : CanOp) : Quiet can (op.perform can) := by
  cases op with
  | rxMessage fifo message => exact can.write_quiet (.rxf fifo) _
  | releaseFIFO fifo => exact can.write_quiet (.rxf fifo) _
  | cancelTxMailbox box => exact can.write_quiet .txsts _
  | clearIntFlag flag =>
    cases flag with
    | txme => exact (can.write_quiet .txsts _).trans ((write_quiet _ .txsts _).trans
        (write_quiet _ .txsts _))
    | full fifo | ovr fifo => exact can.write_quiet (.rxf fifo) _
    | wup | sleep | errw | errp | bof => exact can.write_quiet .msts _
    | lec | err => exact (can.writeErrsts_quiet _).trans (write_quiet _ .msts _)
    | mp fifo => exact Quiet.refl can
  | clearStatusFlag flag =>
    rw [CanOp.perform, clearStatusFlag_eq]
    cases flag with
    | lerrc => exact can.writeErrsts_quiet _
    | wupi | sleep => exact can.write_quiet .msts _
    | full fifo | ovr fifo => exact can.write_quiet (.rxf fifo) _
    | reqc box => exact can.write_quiet .txsts _

theorem released_write (can : Can) (register : CanRegister) {value : BitVec 32}
    (clear : (∃ fifo, register = .rxf fifo) → value.getLsbD 5 = false) :
    (can.write register value).released = can.released := by
  cases register with
  | rxf fifo =>
    simp only [write, writeRxf, clear ⟨fifo, rfl⟩, Bool.false_eq_true, if_false, Nat.add_zero,
      Function.update_eq_self]
  | txsts | msts => rfl

theorem released_assign_other (can : Can) (register : CanRegister) {bit : Nat}
    (rfom : ∀ fifo, (can.rxf fifo).getLsbD 5 = false) (within : bit < 32) (other : bit ≠ 5) :
    (can.assign register bit).released = can.released := by
  refine can.released_write register ?_
  rintro ⟨fifo, rfl⟩
  rw [getLsbD_withBit _ within, if_neg other]
  exact rfom fifo

/-- An entry is released by the calls that say so. -/
theorem released_perform (can : Can) (op : CanOp)
    (rfom : ∀ fifo, (can.rxf fifo).getLsbD 5 = false) (fifo : CanFifo) :
    (op.perform can).released fifo =
      can.released fifo + if op.taken = some fifo then 1 else 0 := by
  have named : ∀ other : CanFifo, Function.update can.released other (can.released other + 1) fifo =
      can.released fifo + if some other = some fifo then 1 else 0 := by
    intro other
    by_cases same : other = fifo
    next =>
      subst same
      simp
    next => simp [same, Function.update_of_ne (Ne.symm same)]
  have none : ∀ {after : Can}, after.released = can.released →
      after.released fifo = can.released fifo + 0 := fun same => congrFun same fifo
  cases op with
  | rxMessage other message =>
    rw [CanOp.perform, CanOp.rxMessage_eq, released_assign]
    exact named other
  | releaseFIFO other =>
    rw [CanOp.perform, CanOp.releaseFIFO_eq, released_assign]
    exact named other
  | cancelTxMailbox box =>
    exact none (can.released_assign_other .txsts rfom (by omega) (by omega))
  | clearIntFlag flag =>
    cases flag with
    | txme | wup | sleep | errw | errp | bof | lec | err | mp _ => exact none rfl
    | full other | ovr other =>
      exact none (can.released_assign_other (.rxf other) rfom (by decide) (by decide))
  | clearStatusFlag flag =>
    rw [CanOp.perform, clearStatusFlag_eq]
    cases flag with
    | lerrc | wupi | sleep | reqc box => exact none rfl
    | full other | ovr other => exact none (can.released_write (.rxf other) fun _ => by decide)

theorem isEmpty_of_emptyMailBox {box : Fin 3} (empty : can.emptyMailBox = some box) :
    can.isEmpty box = true := by
  rw [emptyMailBox_eq] at empty
  split at empty
  next first =>
    obtain rfl := Option.some.inj empty
    exact first
  next =>
    split at empty
    next second =>
      obtain rfl := Option.some.inj empty
      exact second
    next =>
      split at empty
      next third =>
        obtain rfl := Option.some.inj empty
        exact third
      next => cases empty

/-! ## What a mailbox holds -/

-- The mailbox as `CAN_TxMessage` leaves it.
def Frames (message : CanTxMessage) (box : CanTxMailBox) : Prop :=
  ∃ old, box = ⟨sentMid old message, sentDlen old message, sentMdl message, sentMdh message⟩

theorem Frames.requested {message : CanTxMessage} {box : CanTxMailBox}
    (frames : Frames message box) : box.txmid.getLsbD 0 = true := by
  obtain ⟨old, rfl⟩ := frames
  simp [sentMid]

structure Mailed (can : Can) (box : Fin 3) (place : Place CanTxMessage) : Prop where
  isEmpty : can.isEmpty box = !can.requested box
  vacant : place.held = [] → can.requested box = false
  pending : ∀ message, place = .pending message → can.requested box = true ∧
    can.reqc box = false ∧ can.txsus box = false ∧ message.Valid ∧
    Frames message (can.txMailBox box)
  success : can.txsus box = true → ∃ message, place = .sent message

namespace Mailed

variable {box other : Fin 3} {place : Place CanTxMessage} {message : CanTxMessage}

theorem of_same {after : Can} (mailed : Mailed can box place)
    (flags : after.txsts = can.txsts)
    (mailbox : after.txMailBox box = can.txMailBox box) : Mailed after box place := by
  obtain ⟨isEmpty, vacant, pending, success⟩ := mailed
  unfold Can.isEmpty requested at isEmpty
  unfold requested at vacant
  unfold requested reqc txsus at pending
  unfold txsus at success
  rw [← flags, ← mailbox] at isEmpty pending
  rw [← mailbox] at vacant
  rw [← flags] at success
  exact ⟨isEmpty, vacant, pending, success⟩

theorem quiet {after : Can} (mailed : Mailed can box place) (quiet : Quiet can after) :
    Mailed after box place := by
  have requested : after.requested box = can.requested box := by
    unfold Can.requested
    rw [quiet.txMailBox]
  have stays : ∀ {set was : Bool}, (set = true → was = true) → was = false → set = false := by
    intro set was implied clear
    cases set with
    | false => rfl
    | true => rw [implied rfl] at clear; cases clear
  refine ⟨?_, ?_, fun message there => ?_, fun set => mailed.success (quiet.txsus box set)⟩
  · rw [quiet.isEmpty, requested, mailed.isEmpty]
  · rw [requested]
    exact mailed.vacant
  · obtain ⟨asked, reqc, txsus, valid, frames⟩ := mailed.pending message there
    rw [requested, quiet.txMailBox]
    exact ⟨asked, stays (quiet.reqc box) reqc, stays (quiet.txsus box) txsus, valid, frames⟩

theorem settle (mailed : Mailed can box place) : Mailed can.settleTx box place := by
  have still : (can.requested box && can.isEmpty box) = false := by
    rw [mailed.isEmpty, Bool.and_not_self]
  have requested : can.settleTx.requested box = can.requested box := rfl
  refine ⟨?_, mailed.vacant, fun message there => ?_, fun set => ?_⟩
  · rw [isEmpty_settleTx, requested, mailed.isEmpty, Bool.and_self]
  · rw [reqc_settleTx, txsus_settleTx, still, Bool.not_false, Bool.and_true, Bool.and_true]
    exact mailed.pending message there
  · rw [txsus_settleTx, still, Bool.not_false, Bool.and_true] at set
    exact mailed.success set

/-- `CAN_TxMessage` puts the message into the mailbox that it returns. -/
theorem txMessage_self (valid : message.Valid)
    (empty : can.emptyMailBox = some box) :
    Mailed (can.txMessage message).1.settleTx box (.pending message) := by
  have vacant : (can.txMessage message).1.isEmpty box = true := by
    unfold Can.isEmpty
    rw [(txMessage_empty empty).2]
    exact isEmpty_of_emptyMailBox empty
  have frames : Frames message ((can.txMessage message).1.txMailBox box) := by
    rw [(txMessage_empty empty).2]
    exact ⟨can.txMailBox box, Function.update_self ..⟩
  have asked : (can.txMessage message).1.requested box = true := frames.requested
  have after : (can.txMessage message).1.settleTx.requested box = true := asked
  refine ⟨?_, fun none => by simp at none, ?_, ?_⟩
  · rw [isEmpty_settleTx, after, asked, Bool.not_true, Bool.and_false]
  · rintro _ ⟨rfl⟩
    rw [reqc_settleTx, txsus_settleTx, asked, vacant]
    simp only [Bool.and_self, Bool.not_true, Bool.and_false, true_and]
    exact ⟨after, valid, frames⟩
  · rw [txsus_settleTx, asked, vacant, Bool.and_self, Bool.not_true, Bool.and_false]
    exact fun set => by cases set

theorem txMessage_other (mailed : Mailed can other place)
    (empty : can.emptyMailBox = some box) (apart : other ≠ box) :
    Mailed (can.txMessage message).1.settleTx other place := by
  have flags : (can.txMessage message).1.txsts = can.txsts := by rw [(txMessage_empty empty).2]
  have mailbox : (can.txMessage message).1.txMailBox other = can.txMailBox other := by
    rw [(txMessage_empty empty).2]
    exact Function.update_of_ne apart _ _
  exact (mailed.of_same flags mailbox).settle

theorem finish_self (can : Can) (box : Fin 3) (message : CanTxMessage) (success : Bool) :
    Mailed (can.finish box success) box (if success then .sent message else .aborted message) := by
  have requested : (can.finish box success).requested box = false := by
    rw [requested_finish, decide_eq_true rfl, Bool.not_true, Bool.and_false]
  obtain ⟨isEmpty, _, txsus⟩ := can.finish_bits box box success
  refine ⟨?_, fun _ => requested, fun message there => ?_, fun set => ?_⟩
  · rw [isEmpty, requested, decide_eq_true rfl, Bool.or_true, Bool.not_false]
  · cases success <;> simp at there
  · rw [txsus, if_pos rfl] at set
    exact ⟨message, by rw [set, if_pos rfl]⟩

theorem finish_other (success : Bool) (mailed : Mailed can other place) (apart : other ≠ box) :
    Mailed (can.finish box success) other place := by
  have none : decide (other = box) = false := decide_eq_false apart
  have requested : (can.finish box success).requested other = can.requested other := by
    rw [requested_finish, none, Bool.not_false, Bool.and_true]
  have mailbox : (can.finish box success).txMailBox other = can.txMailBox other :=
    Function.update_of_ne apart _ _
  obtain ⟨isEmpty, reqc, txsus⟩ := can.finish_bits box other success
  rw [none, Bool.or_false] at isEmpty reqc
  rw [if_neg apart] at txsus
  refine ⟨?_, ?_, ?_, ?_⟩
  · rw [isEmpty, requested]
    exact mailed.isEmpty
  · rw [requested]
    exact mailed.vacant
  · rw [requested, reqc, txsus, mailbox]
    exact mailed.pending
  · rw [txsus]
    exact mailed.success

/-- `CAN_TxMessageStatus` tells pending messages from others, and reports no success without a
transmission. -/
theorem status (mailed : Mailed can box place) :
    (can.txMessageStatus box = 2 ↔ place.held ≠ []) ∧
      (can.txMessageStatus box = 1 → ∃ message, place = .sent message) := by
  rw [txMessageStatus_eq, mailed.isEmpty]
  by_cases vacant : place.held = []
  next =>
    rw [mailed.vacant vacant]
    simp only [Bool.not_false, Bool.or_true, if_true, Bool.and_true, vacant, ne_eq,
      not_true_eq_false, iff_false]
    refine ⟨by split <;> decide, fun one => mailed.success ?_⟩
    cases set : can.txsus box with
    | true => rfl
    | false => simp [set] at one
  next =>
    cases place with
    | idle | sent _ | aborted _ => exact absurd rfl vacant
    | pending message =>
      obtain ⟨asked, reqc, txsus, _⟩ := mailed.pending message rfl
      simp [asked, reqc, txsus]

end Mailed

end Can

/-! ## What an entry holds -/

open Can

/-- The frame is the message: its identifier word with the type and the request, its length and its
data. -/
structure Carries (frame : CanTxMailBox) (message : CanTxMessage) : Prop where
  identifier : ∀ bit, 1 ≤ bit → bit < 32 → frame.txmid.getLsbD bit = message.idWord.getLsbD bit
  length : (field frame.txdlen 0 4).setWidth 8 = message.dataLengthCode
  data : rxData ⟨0, 0, frame.txmdl, frame.txmdh⟩ = message.data

structure Stores (entry : CanRxMailBox) (message : CanTxMessage) : Prop where
  valid : message.Valid
  identifier : ∀ bit, 1 ≤ bit → bit < 32 → entry.rxmid.getLsbD bit = message.idWord.getLsbD bit
  length : (field entry.rxdlen 0 4).setWidth 8 = message.dataLengthCode
  data : message.remoteTxReq = .data → ∀ index : Fin 8,
    index.val < message.dataLengthCode.toNat → rxData entry index = message.data index

/-- What is read is the message; of the data only the bytes that a frame carries, and the request is
the bit of the register, where the enumerator of a remote frame is 2. -/
structure Reads (message : CanTxMessage) (received : CanRxMessage) : Prop where
  typeID : received.typeID = message.typeID.value
  stdID : message.typeID = .std → received.stdID = message.stdID
  extID : message.typeID = .ext → received.extID = message.extID
  remoteTxReq : received.remoteTxReq = if message.remoteTxReq = .remote then 1 else 0
  dataLengthCode : received.dataLengthCode = message.dataLengthCode
  data : message.remoteTxReq = .data → ∀ index : Fin 8,
    index.val < message.dataLengthCode.toNat → received.data index = message.data index

section Entries

variable {message : CanTxMessage}

theorem getLsbD_mix (mask first second : BitVec 32) {bit : Nat} (within : bit < 32) :
    (mix mask first second).getLsbD bit =
      if mask.getLsbD bit then first.getLsbD bit else second.getLsbD bit := by
  rw [mix, BitVec.getLsbD_or, BitVec.getLsbD_and, BitVec.getLsbD_and, BitVec.getLsbD_not]
  cases mask.getLsbD bit <;> simp [within]

theorem field_mix {mask : BitVec 32} (first second : BitVec 32) {offset count : Nat}
    (fits : offset + count ≤ 32)
    (named : ∀ bit < count, mask.getLsbD (offset + bit) = true) :
    field (mix mask first second) offset count = field first offset count := by
  apply BitVec.eq_of_getLsbD_eq
  intro bit inside
  rw [field, field, BitVec.getLsbD_extractLsb', BitVec.getLsbD_extractLsb',
    getLsbD_mix _ _ _ (by omega), named bit inside, if_pos rfl]

theorem rxData_received (frame : CanTxMailBox) (rest : CanRxMailBox) (index : Fin 8)
    (remote : frame.txmid.getLsbD 1 = false)
    (carried : index.val < (field frame.txdlen 0 4).toNat) :
    rxData (received frame rest) index = rxData ⟨0, 0, frame.txmdl, frame.txmdh⟩ index := by
  have below := index.isLt
  unfold rxData received
  simp only [remote, Bool.false_eq_true, if_false]
  split
  next low =>
    refine field_mix _ _ (by omega) fun bit inside => ?_
    rw [getLsbD_ones _ (by omega)]
    exact decide_eq_true (by omega)
  next high =>
    refine field_mix _ _ (by omega) fun bit inside => ?_
    rw [getLsbD_ones _ (by omega)]
    exact decide_eq_true (by omega)

theorem toNat_length {word : BitVec 32} {length : BitVec 8}
    (same : (field word 0 4).setWidth 8 = length) : (field word 0 4).toNat = length.toNat := by
  have below := (field word 0 4).isLt
  rw [← same, BitVec.toNat_setWidth, Nat.mod_eq_of_lt (by omega)]

theorem Can.Frames.carries {frame : CanTxMailBox} (frames : Frames message frame)
    (valid : message.Valid) : Carries frame message := by
  obtain ⟨old, rfl⟩ := frames
  exact ⟨fun _ positive _ => getLsbD_sentMid old message positive,
    read_length valid.dataLengthCode rfl, rxData_eq rfl rfl⟩

theorem Carries.stores {frame : CanTxMailBox} (carries : Carries frame message)
    (valid : message.Valid) (rest : CanRxMailBox) : Stores (received frame rest) message := by
  obtain ⟨identifier, carried, bytes⟩ := carries
  refine ⟨valid, fun bit positive within => ?_, ?_, fun data index inside => ?_⟩
  · have named : ∀ bit < 32, 1 ≤ bit → (~~~(0x00000001 : BitVec 32)).getLsbD bit = true := by
      decide
    dsimp only [received]
    rw [getLsbD_mix _ _ _ within, if_pos (named bit within positive),
      identifier bit positive within]
  · rw [← carried]
    congr 1
    refine field_mix _ _ (by decide) fun bit inside => ?_
    exact (by decide : ∀ bit < 4, (0x0000000F : BitVec 32).getLsbD (0 + bit) = true) bit inside
  · have remote : frame.txmid.getLsbD 1 = false := by
      rw [identifier 1 (by decide) (by decide), idWord_remote, data]
      rfl
    rw [rxData_received _ rest index remote (by rw [toNat_length carried]; exact inside)]
    exact congrFun bytes index

theorem Stores.reads {can : Can} {fifo : CanFifo} (stores : Stores (can.rxMailBox fifo) message)
    (into : CanRxMessage) : Reads message (can.rxMessage fifo into).2 := by
  obtain ⟨valid, identifier, length, data⟩ := stores
  have bit1 := (identifier 1 (by decide) (by decide)).trans (idWord_remote message)
  have typeID := read_typeID ((identifier 2 (by decide) (by decide)).trans (idWord_type message))
  refine ⟨typeID, fun std => ?_, fun ext => ?_, ?_, length, data⟩
  · have std' : 0x04 &&& (can.rxMailBox fifo).rxmid = CanTypeId.std.value := by
      rw [typeID, std]
    have mask : (0x000007FF : BitVec 32) = ones 32 11 := by decide
    simp only [rxMessage, std', if_true]
    rw [mask]
    refine shiftRight_and_ones (Nat.lt_succ_of_le (valid.stdID std)) fun bit below => ?_
    rw [identifier _ (by omega) (by omega), idWord_std std below]
  · have ext' : 0x04 &&& (can.rxMailBox fifo).rxmid ≠ CanTypeId.std.value := by
      rw [typeID, ext]
      decide
    have mask : (0x1FFFFFFF : BitVec 32) = ones 32 29 := by decide
    simp only [rxMessage, ext', if_false]
    rw [mask]
    refine shiftRight_and_ones (Nat.lt_succ_of_le (valid.extID ext)) fun bit below => ?_
    rw [identifier _ (by omega) (by omega), idWord_ext ext below]
  · have one : field (can.rxMailBox fifo).rxmid 1 1 =
        BitVec.ofBool (decide (message.remoteTxReq = .remote)) := by
      apply BitVec.eq_of_getLsbD_eq
      intro index inside
      obtain rfl : index = 0 := by omega
      rw [field, BitVec.getLsbD_extractLsb', Nat.add_zero, bit1]
      simp
    dsimp only [rxMessage]
    rw [one]
    cases message.remoteTxReq <;> rfl

end Entries

/-! ## What waits in a FIFO -/

/-- The messages of a FIFO, with what its registers say of them. -/
structure CanNode.Queued (node : CanNode) (fifo : CanFifo) (queue : List CanTxMessage) : Prop where
  stored : List.Forall₂ Stores (node.waiting fifo) queue
  within : queue.length ≤ 3
  rfom : (node.can.rxf fifo).getLsbD 5 = false
  performed : node.performed fifo = node.can.released fifo
  count : node.can.pendingMessage fifo = BitVec.ofNat 32 queue.length
  first : ∀ entry ∈ (node.waiting fifo).head?, node.can.rxMailBox fifo = entry

namespace CanNode

variable {node : CanNode} {fifo other : CanFifo} {queue : List CanTxMessage}

theorem pending_assign (register : BitVec 32) {length : Nat} (within : length ≤ 3) :
    assign register 0 2 (BitVec.ofNat 32 length) &&& 0x03 = BitVec.ofNat 32 length := by
  apply BitVec.eq_of_getLsbD_eq
  intro bit inside
  rw [BitVec.getLsbD_and, getLsbD_assign _ _ _ _ inside]
  have three : ∀ length ≤ 3, ∀ bit < 32,
      ((if 0 ≤ bit ∧ bit < 0 + 2 then (BitVec.ofNat 32 length).getLsbD (bit - 0) else false) &&
        (0x03 : BitVec 32).getLsbD bit) = (BitVec.ofNat 32 length).getLsbD bit := by decide
  have masked : ∀ bit < 32, ¬ (0 ≤ bit ∧ bit < 0 + 2) →
      (0x03 : BitVec 32).getLsbD bit = false := by decide
  rw [← three length within bit inside]
  split
  next => rfl
  next beyond => rw [masked bit inside beyond, Bool.and_false, Bool.and_false]

theorem setFifo_self {waiting : List CanRxMailBox} {flags : BitVec 32}
    (stored : List.Forall₂ Stores waiting queue) (within : queue.length ≤ 3)
    (rfom : (node.can.rxf fifo).getLsbD 5 = false) (quiet : flags.getLsbD 5 = false)
    (performed : node.performed fifo = node.can.released fifo) :
    (node.setFifo fifo waiting flags).Queued fifo queue := by
  have length := stored.length_eq
  refine ⟨?_, within, ?_, performed, ?_, ?_⟩
  · simpa only [setFifo, Function.update_self] using stored
  · simp only [setFifo, Function.update_self]
    rw [getLsbD_assign _ _ _ _ (by decide), if_neg (by decide), BitVec.getLsbD_or, rfom, quiet]
    rfl
  · simp only [setFifo, Can.pendingMessage, Function.update_self]
    rw [length, pending_assign _ within]
  · simp only [setFifo, Function.update_self]
    intro entry first
    cases waiting with
    | nil => cases first
    | cons head tail => exact Option.some.inj first

theorem setFifo_other (queued : node.Queued other queue) (apart : other ≠ fifo)
    (waiting : List CanRxMailBox) (flags : BitVec 32) :
    (node.setFifo fifo waiting flags).Queued other queue := by
  obtain ⟨stored, within, rfom, performed, count, first⟩ := queued
  refine ⟨?_, within, ?_, performed, ?_, ?_⟩
  · simpa only [setFifo, Function.update_of_ne apart] using stored
  · simpa only [setFifo, Function.update_of_ne apart] using rfom
  · simpa only [setFifo, Can.pendingMessage, Function.update_of_ne apart] using count
  · simpa only [setFifo, Function.update_of_ne apart] using first

/-- A FIFO before the hardware has seen to the entries that are released. -/
structure Loaded (node : CanNode) (fifo : CanFifo) (queue : List CanTxMessage) (count : Nat) :
    Prop where
  stored : List.Forall₂ Stores (node.waiting fifo) queue
  within : queue.length ≤ 3
  rfom : (node.can.rxf fifo).getLsbD 5 = false
  released : node.can.released fifo = node.performed fifo + count

theorem Loaded.settle_self {count : Nat} (loaded : node.Loaded fifo queue count) :
    (node.settleRx fifo).Queued fifo (queue.drop count) := by
  obtain ⟨stored, within, rfom, released⟩ := loaded
  unfold settleRx
  rw [released, Nat.add_sub_cancel_left]
  refine setFifo_self ?_ ?_ rfom (by decide) ?_
  · exact List.forall₂_drop count stored
  · rw [List.length_drop]
    omega
  · exact (Function.update_self ..).trans released.symm

theorem Loaded.settle_other {count : Nat} (loaded : node.Loaded other queue count)
    (apart : other ≠ fifo) : (node.settleRx fifo).Loaded other queue count := by
  obtain ⟨stored, within, rfom, released⟩ := loaded
  refine ⟨?_, within, ?_, ?_⟩
  · simpa only [settleRx, setFifo, Function.update_of_ne apart] using stored
  · simpa only [settleRx, setFifo, Function.update_of_ne apart] using rfom
  · simpa only [settleRx, setFifo, Function.update_of_ne apart] using released

theorem Queued.settle_other (queued : node.Queued other queue) (apart : other ≠ fifo) :
    (node.settleRx fifo).Queued other queue := by
  refine setFifo_other ?_ apart _ _
  obtain ⟨stored, within, rfom, performed, count, first⟩ := queued
  exact ⟨stored, within, rfom, (Function.update_of_ne apart _ _).trans performed, count, first⟩

/-- A call leaves the FIFOs as they are, but for the entry that it releases. -/
theorem Queued.settle (queued : node.Queued fifo queue) {after : Can} {count : Nat}
    (rfom : (after.rxf fifo).getLsbD 5 = (node.can.rxf fifo).getLsbD 5)
    (released : after.released fifo = node.can.released fifo + count) :
    ({ node with can := after } : CanNode).settle.Queued fifo (queue.drop count) := by
  have loaded : ({ node with can := after.settleTx } : CanNode).Loaded fifo queue count := by
    refine ⟨queued.stored, queued.within, rfom.trans queued.rfom, ?_⟩
    rw [queued.performed]
    exact released
  cases fifo with
  | fifo0 => exact loaded.settle_self.settle_other (by decide)
  | fifo1 => exact (loaded.settle_other (by decide)).settle_self

theorem push_stores {locked : Bool} {entry : CanRxMailBox} {message : CanTxMessage}
    {waiting : List CanRxMailBox} (stored : List.Forall₂ Stores waiting queue)
    (stores : Stores entry message) :
    List.Forall₂ Stores (push 3 locked waiting entry) (push 3 locked queue message) := by
  have one : List.Forall₂ Stores [entry] [message] := .cons stores .nil
  unfold push
  rw [stored.length_eq]
  split
  next => exact List.rel_append stored one
  next =>
    split
    next => exact stored
    next =>
      refine List.rel_append ?_ one
      rw [List.dropLast_eq_take, List.dropLast_eq_take, stored.length_eq]
      exact List.forall₂_take _ stored

theorem Queued.store_self (queued : node.Queued fifo queue) (locked : Bool)
    {entry : CanRxMailBox} {message : CanTxMessage} (stores : Stores entry message) :
    (node.store locked fifo entry).Queued fifo (push 3 locked queue message) := by
  refine setFifo_self (push_stores queued.stored stores) ?_ queued.rfom ?_ queued.performed
  · exact length_push (by decide) locked message queued.within
  · split
    next => rfl
    next => split <;> rfl

theorem Queued.store_other (queued : node.Queued other queue) (apart : other ≠ fifo)
    (locked : Bool) (entry : CanRxMailBox) :
    (node.store locked fifo entry).Queued other queue :=
  setFifo_other queued apart _ _

end CanNode

end ApmSdk.StdPeriph
