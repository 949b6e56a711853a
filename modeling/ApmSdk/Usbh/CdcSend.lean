import Mathlib.Data.List.ModifyLast
import ApmSdk.Usbd.ControlIn
import ApmSdk.Usbh.CtrlXfer
import ApmSdk.Usbh.Channel

set_option autoImplicit false

/-!
# Sending over CDC

`CDC_SendData` and `USBH_CDCProcessSend`, polled while the interrupt of the channel reports how its
URB stands, over any sequence of calls.
-/

namespace ApmSdk.Usbh

open Runs
open Usbd (Byte Ptr Memory)

variable {Obj : Type}

-- The values of `USBH_CDC_STATE_T` that `CDC_Tx` takes.
inductive CdcTxState where
  | idle
  | sendData
  | sendWait
  | error
  | complete
  deriving DecidableEq, Repr

/-- The fields of the `xferPipe` entry of `CDC_Tx.chNum` that sending uses. -/
structure CdcPipe (Obj : Type) where
  buf : Option (Ptr Obj)
  bufLen : BitVec 32
  bufCount : BitVec 32
  urbStatus : UrbStatus
  pidToggle : Bool
  dataPid : DataPid
  maxPackSize : BitVec 16
  deriving DecidableEq

/-- `CDC_Tx` with its pipe, `flagEnableSend`, and the static `len` of `USBH_CDCProcessSend`. -/
structure CdcTx (Obj : Type) where
  cdcState : CdcTxState
  buff : Ptr Obj
  dataLen : BitVec 16
  len : BitVec 16
  flagEnableSend : Bool
  pipe : CdcPipe Obj
  deriving DecidableEq

/-- What `USBH_BulkOutData` is called with. -/
structure CdcChunk (Obj : Type) where
  buff : Ptr Obj
  len : BitVec 16
  deriving DecidableEq

/-- A call has started a chunk, or has seen how the URB of the chunk ended. -/
inductive CdcEvent (Obj : Type) where
  | started (chunk : CdcChunk Obj)
  | ended (urbStatus : UrbStatus)
  deriving DecidableEq

def CdcPipe.bulkOutData (pipe : CdcPipe Obj) (wBuf : Ptr Obj) (wLen : BitVec 32) : CdcPipe Obj :=
  { pipe with
    buf := some wBuf
    bufLen := wLen
    bufCount := 0
    dataPid := if pipe.pidToggle then .data1 else .data0
    urbStatus := .idle }

namespace CdcTx

def nextLen (tx : CdcTx Obj) : BitVec 16 :=
  if tx.pipe.maxPackSize < tx.dataLen then tx.pipe.maxPackSize else tx.dataLen

def startChunk (tx : CdcTx Obj) : CdcTx Obj :=
  { tx with
    len := tx.nextLen
    pipe := tx.pipe.bulkOutData tx.buff (tx.nextLen.setWidth 32)
    cdcState := .sendWait }

def advance (tx : CdcTx Obj) : CdcTx Obj :=
  let dataLen := tx.dataLen - tx.len
  { tx with
    buff := tx.buff.add tx.len.toNat
    dataLen := dataLen
    cdcState := if dataLen = 0 then .complete else .sendData }

/-- The switch of `USBH_CDCProcessSend`. -/
def processState (tx : CdcTx Obj) : CdcTx Obj × Option (CdcEvent Obj) :=
  match tx.cdcState with
  | .sendData => (tx.startChunk, some (.started ⟨tx.buff, tx.nextLen⟩))
  | .sendWait =>
      match tx.pipe.urbStatus with
      | .ok => (tx.advance, some (.ended .ok))
      | .error => ({ tx with cdcState := .error }, some (.ended .error))
      | .stall => ({ tx with cdcState := .error }, some (.ended .stall))
      | .noReady => ({ tx with cdcState := .sendData }, some (.ended .noReady))
      | .idle | .ping => (tx, none)
  | _ => (tx, none)

def processSend (tx : CdcTx Obj) : CdcTx Obj × Option (CdcEvent Obj) :=
  let processed := tx.processState
  if processed.1.cdcState = .error then
    ({ processed.1 with cdcState := .sendData }, processed.2)
  else processed

def enableSend (tx : CdcTx Obj) : CdcTx Obj :=
  { tx with flagEnableSend := true, cdcState := .sendData }

def disableSend (tx : CdcTx Obj) : CdcTx Obj :=
  { tx with flagEnableSend := false, cdcState := .idle }

/-- `CDC_SendData`, with what it returns. -/
def sendData (tx : CdcTx Obj) (data : Ptr Obj) (length : BitVec 16) : CdcTx Obj × Bool :=
  if tx.cdcState = .idle then ({ tx with buff := data, dataLen := length }.enableSend, true)
  else (tx, false)

-- `CDC_DEMO`, as far as it sends.
def demo (tx : CdcTx Obj) : CdcTx Obj :=
  if tx.cdcState = .complete then tx.disableSend else tx

-- What the two handlers of `usbh_class_cdc.c` for the class do to `CDC_Tx`.
def classDeInit (tx : CdcTx Obj) (txBuf : Ptr Obj) : CdcTx Obj :=
  { tx with cdcState := .idle, dataLen := 0, buff := txBuf }

end CdcTx

/-! ## The system -/

/-- A start of a chunk, with the status its URB ended in. -/
structure CdcAttempt (Obj : Type) where
  chunk : CdcChunk Obj
  outcome : Option UrbStatus
  deriving DecidableEq

/-- A send that `CDC_SendData` has accepted, with all the chunks started for it. -/
structure CdcTransfer (Obj : Type) where
  data : Ptr Obj
  length : BitVec 16
  attempts : List (CdcAttempt Obj)
  deriving DecidableEq

def CdcTransfer.note (transfer : CdcTransfer Obj) : CdcEvent Obj → CdcTransfer Obj
  | .started chunk => { transfer with attempts := transfer.attempts ++ [⟨chunk, none⟩] }
  | .ended urbStatus =>
      { transfer with
        attempts := transfer.attempts.modifyLast
          fun attempt => { attempt with outcome := some urbStatus } }

structure CdcHost (Obj : Type) where
  tx : CdcTx Obj
  transfer : Option (CdcTransfer Obj)
  deriving DecidableEq

inductive CdcLabel (Obj : Type) where
  | urb (urbStatus : UrbStatus)
  | processSend
  | sendData (data : Ptr Obj) (length : BitVec 16)
  | demo
  | classDeInit (txBuf : Ptr Obj)

namespace CdcHost

def initial (buff : Ptr Obj) (maxPackSize : BitVec 16) : CdcHost Obj :=
  ⟨⟨.idle, buff, 0, 0, false, ⟨none, 0, 0, .idle, false, .data0, maxPackSize⟩⟩, none⟩

def step (host : CdcHost Obj) : CdcLabel Obj → Option (CdcHost Obj)
  | .urb urbStatus =>
      some { host with tx.pipe.urbStatus := urbStatus }
  | .processSend =>
      let processed := host.tx.processSend
      some ⟨processed.1, match processed.2 with
        | some event => host.transfer.map fun transfer => transfer.note event
        | none => host.transfer⟩
  | .sendData data length =>
      let sent := host.tx.sendData data length
      some ⟨sent.1, if sent.2 then some ⟨data, length, []⟩ else host.transfer⟩
  | .demo =>
      some ⟨host.tx.demo, if host.tx.demo.cdcState = .idle then none else host.transfer⟩
  | .classDeInit txBuf => some ⟨host.tx.classDeInit txBuf, none⟩

end CdcHost

/-! ## What has to hold -/

def CdcChunk.bytes (memory : Memory Obj) (chunk : CdcChunk Obj) : List Byte :=
  memory.read (some chunk.buff) chunk.len.toNat

namespace CdcTransfer

-- `data[0..length)`.
def bytes (memory : Memory Obj) (transfer : CdcTransfer Obj) : List Byte :=
  memory.read (some transfer.data) transfer.length.toNat

/-- The chunks whose URB ended in `USBH_URB_OK`. -/
def delivered (memory : Memory Obj) (transfer : CdcTransfer Obj) : List Byte :=
  (transfer.attempts.filter fun attempt => attempt.outcome = some .ok).flatMap
    fun attempt => attempt.chunk.bytes memory

end CdcTransfer

namespace CdcAttempt

def Failed (attempt : CdcAttempt Obj) : Prop :=
  attempt.outcome = some .noReady ∨ attempt.outcome = some .error ∨ attempt.outcome = some .stall

-- `later` starts the chunk of `first` again.
def Resent (first later : CdcAttempt Obj) : Prop := later.chunk = first.chunk → first.Failed

end CdcAttempt

/-- What a send has to keep to. -/
structure CdcSent (memory : Memory Obj) (tx : CdcTx Obj) (transfer : CdcTransfer Obj) : Prop where
  inOrder : transfer.delivered memory <+: transfer.bytes memory
  complete : 0 < transfer.length →
    (transfer.delivered memory = transfer.bytes memory ↔ tx.cdcState = .complete)
  empty : transfer.length = 0 →
    (tx.cdcState = .complete ↔ ∃ attempt ∈ transfer.attempts, attempt.outcome = some .ok)
  resent : transfer.attempts.Pairwise CdcAttempt.Resent
  busy : ∀ data length, tx.sendData data length = (tx, false)

/-! ## The calls -/

namespace CdcTx

variable {tx : CdcTx Obj}

theorem processSend_start (ready : tx.cdcState = .sendData) :
    tx.processSend = (tx.startChunk, some (.started ⟨tx.buff, tx.nextLen⟩)) := by
  simp [processSend, processState, ready, startChunk]

theorem processSend_wait (waiting : tx.cdcState = .sendWait) :
    tx.processSend = (tx.advance, some (.ended .ok)) ∨
    (∃ urbStatus, (urbStatus = .noReady ∨ urbStatus = .error ∨ urbStatus = .stall) ∧
      tx.processSend = ({ tx with cdcState := .sendData }, some (.ended urbStatus))) ∨
    tx.processSend = (tx, none) := by
  cases urb : tx.pipe.urbStatus with
  | ok =>
    have other : tx.advance.cdcState ≠ .error := by
      dsimp only [advance]
      by_cases last : tx.dataLen - tx.len = 0
      · rw [if_pos last]
        decide
      · rw [if_neg last]
        decide
    refine .inl ?_
    simp [processSend, processState, waiting, urb, other]
  | noReady =>
    exact .inr (.inl ⟨.noReady, by simp, by simp [processSend, processState, waiting, urb]⟩)
  | error => exact .inr (.inl ⟨.error, by simp, by simp [processSend, processState, waiting, urb]⟩)
  | stall => exact .inr (.inl ⟨.stall, by simp, by simp [processSend, processState, waiting, urb]⟩)
  | idle => exact .inr (.inr (by simp [processSend, processState, waiting, urb]))
  | ping => exact .inr (.inr (by simp [processSend, processState, waiting, urb]))

theorem processSend_rest (rest : tx.cdcState = .idle ∨ tx.cdcState = .complete) :
    tx.processSend = (tx, none) := by
  rcases rest with state | state <;> simp [processSend, processState, state]

theorem nextLen_toNat (tx : CdcTx Obj) :
    tx.nextLen.toNat = min tx.dataLen.toNat tx.pipe.maxPackSize.toNat := by
  unfold nextLen
  by_cases long : tx.pipe.maxPackSize < tx.dataLen
  · rw [if_pos long]
    have := BitVec.lt_def.mp long
    omega
  · rw [if_neg long]
    have := mt BitVec.lt_def.mpr long
    omega

end CdcTx

/-! ## The invariant -/

/-- A chunk that is over: it failed, or it lies before the place where the send goes on. -/
def CdcAttempt.Over (buff : Ptr Obj) (attempt : CdcAttempt Obj) : Prop :=
  attempt.Failed ∨ attempt.outcome = some .ok ∧ 0 < attempt.chunk.len.toNat ∧
    attempt.chunk.buff.offset + attempt.chunk.len.toNat ≤ buff.offset

/-- Between two chunks, with something left to send. -/
structure CdcOpen (tx : CdcTx Obj) (attempts : List (CdcAttempt Obj)) : Prop where
  ended : ∀ attempt ∈ attempts, attempt.Over tx.buff
  more : 0 < tx.dataLen.toNat ∨ ∀ attempt ∈ attempts, attempt.Failed

/-- The chunks of a send in the states that it passes through. -/
inductive CdcPhase (tx : CdcTx Obj) : List (CdcAttempt Obj) → Prop
  | ready {attempts : List (CdcAttempt Obj)} :
      tx.cdcState = .sendData → CdcOpen tx attempts → CdcPhase tx attempts
  | waiting {attempts earlier : List (CdcAttempt Obj)} :
      tx.cdcState = .sendWait → attempts = earlier ++ [⟨⟨tx.buff, tx.len⟩, none⟩] →
        CdcOpen tx earlier → tx.len = tx.nextLen → CdcPhase tx attempts
  | complete {attempts : List (CdcAttempt Obj)} :
      tx.cdcState = .complete → tx.dataLen.toNat = 0 →
        (∃ attempt ∈ attempts, attempt.outcome = some .ok) → CdcPhase tx attempts

structure CdcCarried (memory : Memory Obj) (tx : CdcTx Obj) (transfer : CdcTransfer Obj) :
    Prop where
  sized : 0 < tx.pipe.maxPackSize.toNat
  left : tx.dataLen.toNat ≤ transfer.length.toNat
  buff : tx.buff = transfer.data.add (transfer.length.toNat - tx.dataLen.toNat)
  delivered : transfer.delivered memory =
    memory.read (some transfer.data) (transfer.length.toNat - tx.dataLen.toNat)
  resent : transfer.attempts.Pairwise CdcAttempt.Resent
  phase : CdcPhase tx transfer.attempts

variable {memory : Memory Obj} {tx : CdcTx Obj} {transfer : CdcTransfer Obj}

theorem CdcAttempt.Failed.not_ok {attempt : CdcAttempt Obj} (failed : attempt.Failed) :
    attempt.outcome ≠ some .ok := by
  rcases failed with noReady | error | stall
  · simp [noReady]
  · simp [error]
  · simp [stall]

@[simp] theorem delivered_snoc (memory : Memory Obj) (data : Ptr Obj) (length : BitVec 16)
    (attempts : List (CdcAttempt Obj)) (attempt : CdcAttempt Obj) :
    CdcTransfer.delivered memory ⟨data, length, attempts ++ [attempt]⟩ =
      CdcTransfer.delivered memory ⟨data, length, attempts⟩ ++
        if attempt.outcome = some .ok then attempt.chunk.bytes memory else [] := by
  by_cases ok : attempt.outcome = some .ok
  · simp [CdcTransfer.delivered, ok]
  · simp [CdcTransfer.delivered, ok]

theorem CdcTransfer.delivered_failed (failed : ∀ attempt ∈ transfer.attempts, attempt.Failed) :
    transfer.delivered memory = [] := by
  have none : (transfer.attempts.filter fun attempt => attempt.outcome = some .ok) = [] := by
    rw [List.filter_eq_nil_iff]
    intro attempt member
    simpa using (failed attempt member).not_ok
  rw [CdcTransfer.delivered, none, List.flatMap_nil]

theorem read_chunk (memory : Memory Obj) (data : Ptr Obj) (done len : Nat) :
    memory.read (some data) done ++ memory.read (some (data.add done)) len =
      memory.read (some data) (done + len) := by
  rw [← List.take_append_drop done (memory.read (some data) (done + len)), Memory.read_take,
    Memory.read_drop, Nat.min_eq_right (Nat.le_add_right done len), Nat.add_sub_cancel_left]
  rfl

namespace CdcOpen

variable {attempts : List (CdcAttempt Obj)}

/-- The chunk that comes next is none of those that have ended well. -/
theorem resent (opened : CdcOpen tx attempts) {first : CdcAttempt Obj}
    (member : first ∈ attempts) (outcome : Option UrbStatus) :
    first.Resent ⟨⟨tx.buff, tx.nextLen⟩, outcome⟩ := by
  intro same
  rcases opened.ended first member with failed | ⟨ok, some, before⟩
  · exact failed
  · rw [← same] at some before
    dsimp only at some before
    omega

theorem failed (opened : CdcOpen tx attempts) {chunk : CdcChunk Obj} {urbStatus : UrbStatus}
    (failing : urbStatus = .noReady ∨ urbStatus = .error ∨ urbStatus = .stall) :
    CdcOpen { tx with cdcState := .sendData } (attempts ++ [⟨chunk, some urbStatus⟩]) := by
  have last : CdcAttempt.Failed ⟨chunk, some urbStatus⟩ := by
    rcases failing with rfl | rfl | rfl
    · exact .inl rfl
    · exact .inr (.inl rfl)
    · exact .inr (.inr rfl)
  constructor
  · intro attempt member
    rcases List.mem_append.mp member with earlier | new
    · exact opened.ended attempt earlier
    · rw [List.mem_singleton.mp new]
      exact .inl last
  · rcases opened.more with some | failed
    · exact .inl some
    · refine .inr fun attempt member => ?_
      rcases List.mem_append.mp member with earlier | new
      · exact failed attempt earlier
      · rw [List.mem_singleton.mp new]
        exact last

end CdcOpen

namespace CdcCarried

theorem start (carried : CdcCarried memory tx transfer) (ready : tx.cdcState = .sendData) :
    CdcCarried memory tx.startChunk (transfer.note (.started ⟨tx.buff, tx.nextLen⟩)) := by
  have opened : CdcOpen tx transfer.attempts := by
    cases carried.phase with
    | ready _ opened => exact opened
    | waiting state => simp [ready] at state
    | complete state => simp [ready] at state
  refine ⟨carried.sized, carried.left, carried.buff, ?_, ?_, ?_⟩
  · rw [CdcTransfer.note, delivered_snoc, if_neg (by simp), List.append_nil]
    exact carried.delivered
  · refine List.pairwise_append.mpr ⟨carried.resent, List.pairwise_singleton _ _, ?_⟩
    intro first member later last
    rw [List.mem_singleton.mp last]
    exact opened.resent member none
  · exact .waiting rfl rfl ⟨opened.ended, opened.more⟩ rfl

/-- The chunk under way ends: its outcome replaces that of the last attempt. -/
theorem note_ended {attempts : List (CdcAttempt Obj)} (chunk : CdcChunk Obj)
    (listed : transfer.attempts = attempts ++ [⟨chunk, none⟩]) (urbStatus : UrbStatus) :
    transfer.note (.ended urbStatus) =
      ⟨transfer.data, transfer.length, attempts ++ [⟨chunk, some urbStatus⟩]⟩ := by
  rw [CdcTransfer.note, listed, List.modifyLast_concat]

theorem ended_resent {attempts : List (CdcAttempt Obj)} {chunk : CdcChunk Obj}
    (resent : List.Pairwise CdcAttempt.Resent (attempts ++ [⟨chunk, none⟩]))
    (urbStatus : UrbStatus) :
    List.Pairwise CdcAttempt.Resent (attempts ++ [⟨chunk, some urbStatus⟩]) := by
  obtain ⟨earlier, -, last⟩ := List.pairwise_append.mp resent
  refine List.pairwise_append.mpr ⟨earlier, List.pairwise_singleton _ _, ?_⟩
  intro first member later new
  rw [List.mem_singleton.mp new]
  exact last first member ⟨chunk, none⟩ (List.mem_singleton.mpr rfl)

theorem waiting_listed (carried : CdcCarried memory tx transfer)
    (waiting : tx.cdcState = .sendWait) :
    ∃ earlier, transfer.attempts = earlier ++ [⟨⟨tx.buff, tx.len⟩, none⟩] ∧
      CdcOpen tx earlier ∧ tx.len = tx.nextLen := by
  cases carried.phase with
  | ready state => simp [waiting] at state
  | waiting _ listed opened len => exact ⟨_, listed, opened, len⟩
  | complete state => simp [waiting] at state

theorem failed (carried : CdcCarried memory tx transfer) (waiting : tx.cdcState = .sendWait)
    {urbStatus : UrbStatus}
    (failing : urbStatus = .noReady ∨ urbStatus = .error ∨ urbStatus = .stall) :
    CdcCarried memory { tx with cdcState := .sendData } (transfer.note (.ended urbStatus)) := by
  obtain ⟨attempts, listed, opened, -⟩ := carried.waiting_listed waiting
  have delivered := carried.delivered
  have resent := carried.resent
  obtain ⟨data, length, all⟩ := transfer
  obtain rfl : all = _ := listed
  rw [note_ended _ rfl]
  refine ⟨carried.sized, carried.left, carried.buff, ?_, ended_resent resent urbStatus,
    .ready rfl (opened.failed failing)⟩
  have notOk : (some urbStatus) ≠ some UrbStatus.ok := by
    rcases failing with rfl | rfl | rfl <;> decide
  rw [delivered_snoc, if_neg (by simp)] at delivered
  rw [delivered_snoc, if_neg notOk]
  exact delivered

theorem advance (carried : CdcCarried memory tx transfer) (waiting : tx.cdcState = .sendWait) :
    CdcCarried memory tx.advance (transfer.note (.ended .ok)) := by
  obtain ⟨earlier, listed, opened, len⟩ := carried.waiting_listed waiting
  have left := carried.left
  have buff := carried.buff
  have delivered := carried.delivered
  have resent := carried.resent
  have sized := carried.sized
  obtain ⟨data, length, all⟩ := transfer
  obtain rfl : all = _ := listed
  rw [note_ended _ rfl]
  have len : tx.len.toNat = min tx.dataLen.toNat tx.pipe.maxPackSize.toNat := by
    rw [len, tx.nextLen_toNat]
  have rest : (tx.dataLen - tx.len).toNat = tx.dataLen.toNat - tx.len.toNat :=
    BitVec.toNat_sub_of_le (BitVec.le_def.mpr (by omega))
  have place : length.toNat - (tx.dataLen - tx.len).toNat =
      length.toNat - tx.dataLen.toNat + tx.len.toNat := by
    dsimp only at left
    omega
  have ended : CdcTransfer.delivered memory
      ⟨data, length, earlier ++ [⟨⟨tx.buff, tx.len⟩, some .ok⟩]⟩ =
      memory.read (some data) (length.toNat - (tx.dataLen - tx.len).toNat) := by
    rw [delivered_snoc, if_neg (by simp), List.append_nil] at delivered
    rw [delivered_snoc, if_pos rfl, delivered, CdcChunk.bytes, buff, read_chunk, place]
  refine ⟨sized, ?_, ?_, ended, ended_resent resent .ok, ?_⟩
  · dsimp only [CdcTx.advance] at left ⊢
    omega
  · dsimp only [CdcTx.advance]
    rw [place, buff]
    simp [Ptr.add, Nat.add_assoc]
  · by_cases last : tx.dataLen - tx.len = 0
    · refine .complete (if_pos last) ?_
        ⟨_, List.mem_append_right _ (List.mem_singleton.mpr rfl), rfl⟩
      exact congrArg BitVec.toNat last
    · have more : 0 < (tx.dataLen - tx.len).toNat := by
        by_contra zero
        exact last (BitVec.eq_of_toNat_eq (by simpa using zero))
      refine .ready (if_neg last) ⟨?_, .inl more⟩
      intro attempt member
      rcases List.mem_append.mp member with earlier | new
      · rcases opened.ended attempt earlier with failed | ⟨ok, some, before⟩
        · exact .inl failed
        · exact .inr ⟨ok, some, Nat.le_trans before (Nat.le_add_right _ _)⟩
      · rw [List.mem_singleton.mp new]
        have some : 0 < tx.len.toNat := by omega
        exact .inr ⟨rfl, some, Nat.le_refl _⟩

theorem phase_state (carried : CdcCarried memory tx transfer) :
    tx.cdcState = .sendData ∨ tx.cdcState = .sendWait ∨ tx.cdcState = .complete := by
  cases carried.phase with
  | ready state => exact .inl state
  | waiting state => exact .inr (.inl state)
  | complete state => exact .inr (.inr state)

theorem active (carried : CdcCarried memory tx transfer) : tx.cdcState ≠ .idle := by
  rcases carried.phase_state with state | state | state <;> simp [state]

/-- Until a send is complete it has something left, or nothing of it has been taken. -/
theorem unfinished (carried : CdcCarried memory tx transfer) (state : tx.cdcState ≠ .complete) :
    0 < tx.dataLen.toNat ∨ transfer.delivered memory = [] ∧
      ∀ attempt ∈ transfer.attempts, attempt.outcome ≠ some .ok := by
  cases carried.phase with
  | ready _ opened =>
    rcases opened.more with some | failed
    · exact .inl some
    · exact .inr ⟨CdcTransfer.delivered_failed failed, fun attempt member =>
        (failed attempt member).not_ok⟩
  | waiting _ listed opened =>
    rcases opened.more with some | failed
    · exact .inl some
    · refine .inr ⟨?_, fun attempt member => ?_⟩
      · obtain ⟨data, length, all⟩ := transfer
        obtain rfl : all = _ := listed
        rw [delivered_snoc, if_neg (by simp), List.append_nil]
        exact CdcTransfer.delivered_failed failed
      · rw [listed] at member
        rcases List.mem_append.mp member with before | new
        · exact (failed attempt before).not_ok
        · rw [List.mem_singleton.mp new]
          simp
  | complete done => exact absurd done state

theorem finished (carried : CdcCarried memory tx transfer) (done : tx.cdcState = .complete) :
    tx.dataLen.toNat = 0 ∧ ∃ attempt ∈ transfer.attempts, attempt.outcome = some .ok := by
  cases carried.phase with
  | ready state => simp [done] at state
  | waiting state => simp [done] at state
  | complete _ none taken => exact ⟨none, taken⟩

theorem sent (carried : CdcCarried memory tx transfer) : CdcSent memory tx transfer where
  inOrder := by
    have whole : memory.read (some transfer.data) (transfer.length.toNat - tx.dataLen.toNat) =
        (transfer.bytes memory).take (transfer.length.toNat - tx.dataLen.toNat) := by
      rw [CdcTransfer.bytes, Memory.read_take, Nat.min_eq_right (Nat.sub_le _ _)]
    rw [carried.delivered, whole]
    exact List.take_prefix _ _
  complete := by
    intro some
    have left := carried.left
    have some : 0 < transfer.length.toNat := BitVec.lt_def.mp some
    have all : transfer.delivered memory = transfer.bytes memory ↔ tx.dataLen.toNat = 0 := by
      rw [carried.delivered, CdcTransfer.bytes]
      constructor
      · intro same
        have lengths := congrArg List.length same
        rw [Memory.read_length, Memory.read_length] at lengths
        omega
      · intro none
        rw [none, Nat.sub_zero]
    rw [all]
    constructor
    · intro none
      by_contra state
      rcases carried.unfinished state with more | ⟨nothing, -⟩
      · omega
      · have lengths := congrArg List.length (carried.delivered.symm.trans nothing)
        rw [Memory.read_length, List.length_nil] at lengths
        omega
    · exact fun done => (carried.finished done).1
  empty := by
    intro none
    have left := carried.left
    rw [none] at left
    constructor
    · exact fun done => (carried.finished done).2
    · rintro ⟨attempt, member, ok⟩
      by_contra state
      rcases carried.unfinished state with more | ⟨-, nothing⟩
      · simp at left
        omega
      · exact nothing attempt member ok
  resent := carried.resent
  busy := by
    intro data length
    rw [CdcTx.sendData, if_neg carried.active]

end CdcCarried

namespace CdcHost

/-- A send is under way exactly when `CDC_Tx` is not idle. -/
structure Sound (memory : Memory Obj) (host : CdcHost Obj) : Prop where
  sized : 0 < host.tx.pipe.maxPackSize.toNat
  idle : host.transfer = none → host.tx.cdcState = .idle
  carried : ∀ transfer, host.transfer = some transfer → CdcCarried memory host.tx transfer

variable {host after : CdcHost Obj}

theorem Sound.nothing {tx : CdcTx Obj} (sized : 0 < tx.pipe.maxPackSize.toNat)
    (idle : tx.cdcState = .idle) : Sound memory ⟨tx, none⟩ :=
  ⟨sized, fun _ => idle, fun _ other => by cases other⟩

theorem Sound.something {tx : CdcTx Obj} {transfer : CdcTransfer Obj}
    (carried : CdcCarried memory tx transfer) : Sound memory ⟨tx, some transfer⟩ :=
  ⟨carried.sized, fun other => (by cases other), fun _ same => Option.some.inj same ▸ carried⟩

theorem Sound.urb (sound : host.Sound memory) (urbStatus : UrbStatus) :
    Sound memory { host with tx.pipe.urbStatus := urbStatus } := by
  refine ⟨sound.sized, sound.idle, fun transfer same => ?_⟩
  have carried := sound.carried transfer same
  refine ⟨carried.sized, carried.left, carried.buff, carried.delivered, carried.resent, ?_⟩
  cases carried.phase with
  | ready state opened => exact .ready state ⟨opened.ended, opened.more⟩
  | waiting state listed opened len => exact .waiting state listed ⟨opened.ended, opened.more⟩ len
  | complete state none taken => exact .complete state none taken

theorem step_sound {label : CdcLabel Obj} (sound : host.Sound memory)
    (taken : host.step label = some after) : after.Sound memory := by
  obtain ⟨tx, transfer⟩ := host
  cases label with
  | urb urbStatus =>
    obtain rfl := Option.some.inj taken
    exact sound.urb urbStatus
  | processSend =>
    obtain rfl := Option.some.inj taken
    cases transfer with
    | none =>
      rw [tx.processSend_rest (.inl (sound.idle rfl))]
      exact sound
    | some transfer =>
      have carried := sound.carried transfer rfl
      rcases carried.phase_state with ready | waiting | done
      · rw [tx.processSend_start ready]
        exact .something (carried.start ready)
      · rcases tx.processSend_wait waiting with ok | ⟨urbStatus, failing, failed⟩ | still
        · rw [ok]
          exact .something (carried.advance waiting)
        · rw [failed]
          exact .something (carried.failed waiting failing)
        · rw [still]
          exact sound
      · rw [tx.processSend_rest (.inr done)]
        exact sound
  | sendData data length =>
    obtain rfl := Option.some.inj taken
    by_cases idle : tx.cdcState = .idle
    · simp only [CdcTx.sendData, idle, if_true]
      refine .something ⟨sound.sized, Nat.le_refl _, ?_, ?_, List.Pairwise.nil, ?_⟩
      · simp [CdcTx.enableSend, Ptr.add]
      · simp [CdcTx.enableSend, CdcTransfer.delivered, Memory.read]
      · exact .ready rfl ⟨fun _ none => absurd none List.not_mem_nil,
          .inr fun _ none => absurd none List.not_mem_nil⟩
    · simp only [CdcTx.sendData, idle, if_false]
      exact sound
  | demo =>
    obtain rfl := Option.some.inj taken
    by_cases done : tx.cdcState = .complete
    · simp only [CdcTx.demo, done, if_true, CdcTx.disableSend]
      exact .nothing sound.sized rfl
    · simp only [CdcTx.demo, done, if_false]
      cases transfer with
      | none => simpa using sound
      | some transfer =>
        have active : tx.cdcState ≠ .idle := (sound.carried transfer rfl).active
        simpa [active] using sound
  | classDeInit txBuf =>
    obtain rfl := Option.some.inj taken
    exact .nothing sound.sized rfl

end CdcHost

theorem CdcHost.initial_sound (memory : Memory Obj) (buff : Ptr Obj) {maxPackSize : BitVec 16}
    (sized : 0 < maxPackSize) : (CdcHost.initial buff maxPackSize).Sound memory :=
  ⟨BitVec.lt_def.mp sized, fun _ => rfl, fun _ other => (by cases other)⟩

/-- In every run over a pipe with a positive packet size the send in progress keeps to its data. -/
theorem cdc_send_exact (memory : Memory Obj) (buff : Ptr Obj) {maxPackSize : BitVec 16}
    (sized : 0 < maxPackSize) {labels : List (CdcLabel Obj)} {host : CdcHost Obj}
    (run : Run CdcHost.step free (.initial buff maxPackSize) labels host)
    {transfer : CdcTransfer Obj} (active : host.transfer = some transfer) :
    CdcSent memory host.tx transfer := by
  have sound : host.Sound memory :=
    run.invariant (CdcHost.Sound memory) (CdcHost.initial_sound memory buff sized)
      fun _ _ _ sound _ taken => CdcHost.step_sound sound taken
  exact (sound.carried transfer active).sent

-- Three bytes in packets of two; the first is sent again after a NAK.
def threeBytes : List (CdcLabel Unit) :=
  [.sendData ⟨(), 5⟩ 3, .processSend, .urb .noReady, .processSend, .processSend, .urb .ok,
    .processSend, .processSend, .urb .ok, .sendData ⟨(), 0⟩ 1, .processSend]

theorem threeBytes_accepted :
    (execute CdcHost.step free (.initial ⟨(), 0⟩ 2) threeBytes).isSome = true := by
  decide +kernel

theorem threeBytes_sent :
    CdcSent (fun _ offset => UInt8.ofNat offset)
      (final CdcHost.step free (.initial ⟨(), 0⟩ 2) threeBytes threeBytes_accepted).tx
      ⟨⟨(), 5⟩, 3, [⟨⟨⟨(), 5⟩, 2⟩, some .noReady⟩, ⟨⟨⟨(), 5⟩, 2⟩, some .ok⟩,
        ⟨⟨⟨(), 7⟩, 1⟩, some .ok⟩]⟩ :=
  cdc_send_exact _ ⟨(), 0⟩ (by decide)
    (Run.final CdcHost.step free (.initial ⟨(), 0⟩ 2) threeBytes threeBytes_accepted)
    (by decide +kernel)

/-- Nothing has been sent of an empty send that has begun. -/
theorem empty_send_not_complete : ¬ ∀ (memory : Memory Unit) (buff : Ptr Unit)
    (maxPackSize : BitVec 16), 0 < maxPackSize → ∀ labels host,
    Run CdcHost.step free (.initial buff maxPackSize) labels host →
    ∀ transfer, host.transfer = some transfer →
      (transfer.delivered memory = transfer.bytes memory ↔ host.tx.cdcState = .complete) := by
  intro always
  have iff := always (fun _ _ => 0) ⟨(), 0⟩ 64 (by decide) [.sendData ⟨(), 0⟩ 0] _
    (Run.nil.snoc trivial rfl) _ rfl
  exact absurd (iff.mp (by decide)) (by decide)

end ApmSdk.Usbh
