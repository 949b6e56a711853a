import ApmSdk.Lib.Runs
import ApmSdk.Usbd.Transfer

set_option autoImplicit false

/-!
# IN transfers of the OTG device

`USBD_TxData`, the TxFIFO of an endpoint other than 0 and the passes of
`USBD_InEndpointIsrHandler` over it.
-/

namespace ApmSdk.Otg

open Runs Chunks Usbd

/-- An IN endpoint: its buffer, its bit of DIEIMASK, DIEPTRS, TSFCMP and the TxFIFO. `pushed`
and `handlerRuns` record what an observer has seen. -/
structure InEndpoint (Obj : Type) where
  inBuf : CtrlBuf Obj
  emptyInt : Bool
  eppcnt : Nat
  eptrs : Nat
  tsfcmp : Bool
  txFifo : List Byte
  pushed : List Byte
  handlerRuns : Nat

section

variable {Obj : Type}

/-- EPPCNT has 10 bits and EPTRS 19. -/
def InEndpoint.enableInEpTransfer (ep : InEndpoint Obj) (packNum transferSize : Nat) :
    InEndpoint Obj :=
  { ep with eppcnt := packNum % 1024, eptrs := transferSize % 524288 }

def InEndpoint.txData (ep : InEndpoint Obj) (buf : Option (Ptr Obj)) (len : Nat) :
    InEndpoint Obj :=
  let packNum := packetCount len ep.inBuf.maxPackSize
  { InEndpoint.enableInEpTransfer
      { ep with inBuf := { ep.inBuf with pBuf := buf, bufLen := len, packNum := packNum } }
      packNum len with emptyInt := true }

/-- Whole words, so up to three bytes behind the packet. -/
def writeFifoPacket (memory : Memory Obj) (wBuf : Ptr Obj) (wlen : Nat) : List Byte :=
  memory.read (some wBuf) (4 * ((wlen + 3) / 4))

def InEndpoint.pushDataToTxFIFO (memory : Memory Obj) (ep : InEndpoint Obj)
    (txFifoAvailable : Nat) : InEndpoint Obj :=
  match ep.inBuf.pBuf with
  | none => ep
  | some pBuf =>
      let len := min ep.inBuf.bufLen ep.inBuf.maxPackSize
      if ep.inBuf.bufLen ≠ 0 ∧ len ≤ 4 * txFifoAvailable then
        { ep with
          txFifo := ep.txFifo ++ writeFifoPacket memory pBuf len
          pushed := ep.pushed ++ memory.read (some pBuf) len
          inBuf := { ep.inBuf with
            pBuf := some (pBuf.add len)
            bufLen := ep.inBuf.bufLen - len
            packNum := (ep.inBuf.packNum + 255) % 256 }
          emptyInt := false }
      else ep

/-- What `USBD_InEndpointIsrHandler` does for the endpoint; the handler of the application does
not start the next transfer. -/
def InEndpoint.isr (memory : Memory Obj) (ep : InEndpoint Obj) (txFifoAvailable : Nat) :
    InEndpoint Obj :=
  let ep := if ep.tsfcmp then
      { ep with tsfcmp := false, emptyInt := false, handlerRuns := ep.handlerRuns + 1 }
    else ep
  -- TXFE is raised while the FIFO has room, whether its interrupt is enabled or not
  if 0 < txFifoAvailable then ep.pushDataToTxFIFO memory txFifoAvailable else ep

inductive InLabel where
  | pass (txFifoAvailable : Nat)
  | send
  deriving DecidableEq

/-- The handler is entered for a completed transfer or for the enabled TXFE; the endpoint sends
a packet that is in its FIFO. -/
def inStep (memory : Memory Obj) (ep : InEndpoint Obj) : InLabel → Option (InEndpoint Obj)
  | .pass txFifoAvailable =>
      if ep.tsfcmp ∨ ep.emptyInt ∧ 0 < txFifoAvailable then some (ep.isr memory txFifoAvailable)
      else none
  | .send =>
      let count := min ep.eptrs ep.inBuf.maxPackSize
      if 0 < ep.eppcnt ∧ count ≤ ep.txFifo.length then
        some { ep with
          eppcnt := ep.eppcnt - 1
          eptrs := ep.eptrs - count
          txFifo := ep.txFifo.drop (4 * ((count + 3) / 4))
          tsfcmp := ep.tsfcmp || ep.eppcnt = 1 }
      else none

/-- No transfer is in progress. -/
structure InEndpoint.Idle (ep : InEndpoint Obj) : Prop where
  complete : ep.tsfcmp = false
  empty : ep.txFifo = []
  positive : 0 < ep.inBuf.maxPackSize
  narrow : ep.inBuf.maxPackSize < 65536

/-- The whole transfer: its packets are programmed, only bytes of the buffer are pushed and in
order, TXFE stays enabled while some are left, the handler runs once, after all of them, and
from everywhere that can be reached. -/
structure Carries (memory : Memory Obj) (ep : InEndpoint Obj) (pointer : Ptr Obj) (len : Nat) :
    Prop where
  programmed : (ep.txData (some pointer) len).eppcnt = max 1 (pieces ep.inBuf.maxPackSize len)
  order : ∀ labels t, Run (inStep memory) free (ep.txData (some pointer) len) labels t →
    ∃ count, t.pushed = ep.pushed ++ (memory.read (some pointer) len).take count
  enabled : ∀ labels t, Run (inStep memory) free (ep.txData (some pointer) len) labels t →
    0 < t.inBuf.bufLen → t.emptyInt = true
  once : ∀ labels t, Run (inStep memory) free (ep.txData (some pointer) len) labels t →
    t.handlerRuns = ep.handlerRuns ∨ t.handlerRuns = ep.handlerRuns + 1 ∧
      t.pushed = ep.pushed ++ memory.read (some pointer) len
  finishes : ∀ labels t, Run (inStep memory) free (ep.txData (some pointer) len) labels t →
    ∃ more u, Run (inStep memory) free t more u ∧ u.handlerRuns = ep.handlerRuns + 1

/-! ## A transfer of one packet -/

/-- The four states of the transfer, in their order. -/
inductive Stage (memory : Memory Obj) (ep : InEndpoint Obj) (pointer : Ptr Obj) (len : Nat)
    (t : InEndpoint Obj) : Prop
  | armed : t.inBuf = (ep.txData (some pointer) len).inBuf → t.emptyInt = true →
      t.eppcnt = 1 → t.eptrs = len → t.tsfcmp = false → t.txFifo = [] →
      t.pushed = ep.pushed → t.handlerRuns = ep.handlerRuns → Stage memory ep pointer len t
  | loaded : t.inBuf.bufLen = 0 → t.inBuf.maxPackSize = ep.inBuf.maxPackSize →
      t.emptyInt = false → t.eppcnt = 1 → t.eptrs = len → t.tsfcmp = false →
      t.txFifo.length = 4 * ((len + 3) / 4) →
      t.pushed = ep.pushed ++ memory.read (some pointer) len →
      t.handlerRuns = ep.handlerRuns → Stage memory ep pointer len t
  | sent : t.inBuf.bufLen = 0 → t.eppcnt = 0 → t.tsfcmp = true →
      t.pushed = ep.pushed ++ memory.read (some pointer) len →
      t.handlerRuns = ep.handlerRuns → Stage memory ep pointer len t
  | handled : t.inBuf.bufLen = 0 → t.emptyInt = false → t.eppcnt = 0 → t.tsfcmp = false →
      t.pushed = ep.pushed ++ memory.read (some pointer) len →
      t.handlerRuns = ep.handlerRuns + 1 → Stage memory ep pointer len t

theorem pushDataToTxFIFO_empty (memory : Memory Obj) {ep : InEndpoint Obj}
    (none : ep.inBuf.bufLen = 0) (txFifoAvailable : Nat) :
    ep.pushDataToTxFIFO memory txFifoAvailable = ep := by
  unfold InEndpoint.pushDataToTxFIFO
  split
  · rfl
  · simp [none]

/-- A transfer that fits into one packet. -/
structure OnePacket (ep : InEndpoint Obj) (len : Nat) : Prop where
  idle : ep.Idle
  nonempty : 0 < len
  fits : len ≤ ep.inBuf.maxPackSize

theorem OnePacket.packetCount {ep : InEndpoint Obj} {len : Nat} (one : OnePacket ep len) :
    packetCount len ep.inBuf.maxPackSize = 1 ∧ pieces ep.inBuf.maxPackSize len = 1 := by
  have single : pieces ep.inBuf.maxPackSize len = 1 := by
    apply Nat.le_antisymm
    · exact pieces_le one.idle.positive (by simpa using one.fits)
    · exact pieces_of_mul_lt one.idle.positive (by simpa using one.nonempty)
  have counted := packetCount_eq one.idle.positive one.idle.narrow
    (Nat.le_trans one.fits (Nat.le_mul_of_pos_left ep.inBuf.maxPackSize (by decide : 0 < 255)))
  exact ⟨counted.trans single, single⟩

theorem OnePacket.armed {memory : Memory Obj} {ep : InEndpoint Obj} {pointer : Ptr Obj}
    {len : Nat} (one : OnePacket ep len) :
    Stage memory ep pointer len (ep.txData (some pointer) len) := by
  have narrow := one.idle.narrow
  have fits := one.fits
  apply Stage.armed
  · rfl
  · rfl
  · simp [InEndpoint.txData, InEndpoint.enableInEpTransfer, one.packetCount.1]
  · have whole : len % 524288 = len := Nat.mod_eq_of_lt (by omega)
    simp [InEndpoint.txData, InEndpoint.enableInEpTransfer, whole]
  · exact one.idle.complete
  · exact one.idle.empty
  · rfl
  · rfl

/-- A pass with enough room for the packet. -/
theorem isr_load {memory : Memory Obj} {ep before : InEndpoint Obj} {pointer : Ptr Obj}
    {len txFifoAvailable : Nat} (one : OnePacket ep len)
    (inBuf : before.inBuf = (ep.txData (some pointer) len).inBuf) (tsfcmp : before.tsfcmp = false)
    (txFifo : before.txFifo = []) (pushed : before.pushed = ep.pushed)
    (enough : len ≤ 4 * txFifoAvailable) :
    before.isr memory txFifoAvailable =
      { before with
        txFifo := writeFifoPacket memory pointer len
        pushed := ep.pushed ++ memory.read (some pointer) len
        inBuf := { before.inBuf with
          pBuf := some (pointer.add len)
          bufLen := 0
          packNum := (before.inBuf.packNum + 255) % 256 }
        emptyInt := false } := by
  have nonempty := one.nonempty
  have room : 0 < txFifoAvailable := by omega
  have whole : min len ep.inBuf.maxPackSize = len := Nat.min_eq_left one.fits
  simp [InEndpoint.isr, tsfcmp, room, InEndpoint.pushDataToTxFIFO, inBuf, InEndpoint.txData,
    InEndpoint.enableInEpTransfer, whole, enough, txFifo, pushed, Nat.ne_of_gt nonempty]

theorem Stage.step {memory : Memory Obj} {ep before after : InEndpoint Obj}
    {pointer : Ptr Obj} {len : Nat} {label : InLabel} (one : OnePacket ep len)
    (stage : Stage memory ep pointer len before)
    (taken : inStep memory before label = some after) : Stage memory ep pointer len after := by
  have nonempty := one.nonempty
  have fits := one.fits
  cases label with
  | pass txFifoAvailable =>
    simp only [inStep, Option.ite_none_right_eq_some, Option.some.injEq] at taken
    obtain ⟨entered, rfl⟩ := taken
    cases stage with
    | armed inBuf emptyInt eppcnt eptrs tsfcmp txFifo pushed handlerRuns =>
      have room : 0 < txFifoAvailable := by simpa [tsfcmp, emptyInt] using entered
      by_cases enough : len ≤ 4 * txFifoAvailable
      · rw [isr_load one inBuf tsfcmp txFifo pushed enough]
        apply Stage.loaded
        · rfl
        · rw [inBuf]
          rfl
        · rfl
        · exact eppcnt
        · exact eptrs
        · exact tsfcmp
        · simp [writeFifoPacket]
        · rfl
        · exact handlerRuns
      · have whole : min len ep.inBuf.maxPackSize = len := Nat.min_eq_left fits
        have waits : before.isr memory txFifoAvailable = before := by
          simp [InEndpoint.isr, tsfcmp, InEndpoint.pushDataToTxFIFO, inBuf, InEndpoint.txData,
            InEndpoint.enableInEpTransfer, whole, enough]
        rw [waits]
        exact .armed inBuf emptyInt eppcnt eptrs tsfcmp txFifo pushed handlerRuns
    | loaded bufLen size emptyInt eppcnt eptrs tsfcmp txFifo pushed handlerRuns =>
      simp [tsfcmp, emptyInt] at entered
    | sent bufLen eppcnt tsfcmp pushed handlerRuns =>
      have ends : before.isr memory txFifoAvailable =
          { before with
            tsfcmp := false, emptyInt := false, handlerRuns := before.handlerRuns + 1 } := by
        unfold InEndpoint.isr
        simp only [tsfcmp, if_true]
        rw [pushDataToTxFIFO_empty memory (by exact bufLen), ite_self]
      rw [ends]
      exact .handled bufLen rfl eppcnt rfl pushed (by simp [handlerRuns])
    | handled bufLen emptyInt eppcnt tsfcmp pushed handlerRuns =>
      simp [tsfcmp, emptyInt] at entered
  | send =>
    simp only [inStep, Option.ite_none_right_eq_some, Option.some.injEq] at taken
    obtain ⟨⟨left, ready⟩, rfl⟩ := taken
    cases stage with
    | armed inBuf emptyInt eppcnt eptrs tsfcmp txFifo pushed handlerRuns =>
      -- nothing has been pushed yet
      have size : before.inBuf.maxPackSize = ep.inBuf.maxPackSize := by rw [inBuf]; rfl
      rw [eptrs, txFifo, size, List.length_nil] at ready
      omega
    | loaded bufLen size emptyInt eppcnt eptrs tsfcmp txFifo pushed handlerRuns =>
      apply Stage.sent
      · exact bufLen
      · simp [eppcnt]
      · simp [eppcnt]
      · exact pushed
      · exact handlerRuns
    | sent bufLen eppcnt tsfcmp pushed handlerRuns => omega
    | handled bufLen emptyInt eppcnt tsfcmp pushed handlerRuns => omega

theorem finishes_sent (memory : Memory Obj) {t : InEndpoint Obj} (tsfcmp : t.tsfcmp = true) :
    ∃ more u, Run (inStep memory) free t more u ∧ u.handlerRuns = t.handlerRuns + 1 := by
  have step : inStep memory t (.pass 0) = some
      { t with tsfcmp := false, emptyInt := false, handlerRuns := t.handlerRuns + 1 } := by
    simp [inStep, InEndpoint.isr, tsfcmp]
  exact ⟨[.pass 0], _, .cons trivial step .nil, rfl⟩

theorem finishes_loaded (memory : Memory Obj) {t : InEndpoint Obj} {len : Nat}
    (fits : len ≤ t.inBuf.maxPackSize) (eppcnt : t.eppcnt = 1) (eptrs : t.eptrs = len)
    (txFifo : t.txFifo.length = 4 * ((len + 3) / 4)) :
    ∃ more u, Run (inStep memory) free t more u ∧ u.handlerRuns = t.handlerRuns + 1 := by
  have ready : min t.eptrs t.inBuf.maxPackSize ≤ t.txFifo.length := by omega
  let next : InEndpoint Obj :=
    { t with
      eppcnt := t.eppcnt - 1
      eptrs := t.eptrs - min t.eptrs t.inBuf.maxPackSize
      txFifo := t.txFifo.drop (4 * ((min t.eptrs t.inBuf.maxPackSize + 3) / 4))
      tsfcmp := t.tsfcmp || t.eppcnt = 1 }
  have step : inStep memory t .send = some next := by
    have left : 0 < t.eppcnt := by omega
    simp [inStep, left, ready, next]
  have completed : next.tsfcmp = true := by simp [next, eppcnt]
  obtain ⟨more, u, run, handled⟩ := finishes_sent memory completed
  exact ⟨.send :: more, u, .cons trivial step run, handled⟩

theorem Stage.finishes {memory : Memory Obj} {ep t : InEndpoint Obj} {pointer : Ptr Obj}
    {len : Nat} (one : OnePacket ep len) (stage : Stage memory ep pointer len t) :
    ∃ more u, Run (inStep memory) free t more u ∧ u.handlerRuns = ep.handlerRuns + 1 := by
  have nonempty := one.nonempty
  have fits := one.fits
  cases stage with
  | armed inBuf emptyInt eppcnt eptrs tsfcmp txFifo pushed handlerRuns =>
    have size : t.inBuf.maxPackSize = ep.inBuf.maxPackSize := by
      rw [inBuf]
      rfl
    have step : inStep memory t (.pass len) = some (t.isr memory len) := by
      simp [inStep, emptyInt, nonempty]
    rw [isr_load one inBuf tsfcmp txFifo pushed (by omega)] at step
    obtain ⟨next, taken, ready, count, left, words, runs⟩ : ∃ next,
        inStep memory t (.pass len) = some next ∧ len ≤ next.inBuf.maxPackSize ∧
        next.eppcnt = 1 ∧ next.eptrs = len ∧ next.txFifo.length = 4 * ((len + 3) / 4) ∧
        next.handlerRuns = ep.handlerRuns :=
      ⟨_, step, size ▸ fits, eppcnt, eptrs, by simp [writeFifoPacket], handlerRuns⟩
    obtain ⟨more, u, run, handled⟩ := finishes_loaded memory ready count left words
    exact ⟨.pass len :: more, u, .cons trivial taken run, by rw [handled, runs]⟩
  | loaded bufLen size emptyInt eppcnt eptrs tsfcmp txFifo pushed handlerRuns =>
    obtain ⟨more, u, run, handled⟩ := finishes_loaded memory (by omega) eppcnt eptrs txFifo
    exact ⟨more, u, run, by rw [handled, handlerRuns]⟩
  | sent bufLen eppcnt tsfcmp pushed handlerRuns =>
    obtain ⟨more, u, run, handled⟩ := finishes_sent memory tsfcmp
    exact ⟨more, u, run, by rw [handled, handlerRuns]⟩
  | handled bufLen emptyInt eppcnt tsfcmp pushed handlerRuns =>
    exact ⟨[], t, .nil, handlerRuns⟩

theorem OnePacket.carries {memory : Memory Obj} {ep : InEndpoint Obj} {pointer : Ptr Obj}
    {len : Nat} (one : OnePacket ep len) : Carries memory ep pointer len := by
  have reached (labels : List InLabel) (t : InEndpoint Obj)
      (run : Run (inStep memory) free (ep.txData (some pointer) len) labels t) :
      Stage memory ep pointer len t :=
    run.invariant (Stage memory ep pointer len) one.armed fun _ _ _ stage _ => stage.step one
  constructor
  · simp [InEndpoint.txData, InEndpoint.enableInEpTransfer, one.packetCount]
  · intro labels t run
    cases reached labels t run with
    | armed _ _ _ _ _ _ pushed _ => exact ⟨0, by simpa using pushed⟩
    | loaded _ _ _ _ _ _ _ pushed _ => exact ⟨len, by simpa [List.take_of_length_le] using pushed⟩
    | sent _ _ _ pushed _ => exact ⟨len, by simpa [List.take_of_length_le] using pushed⟩
    | handled _ _ _ _ pushed _ => exact ⟨len, by simpa [List.take_of_length_le] using pushed⟩
  · intro labels t run left
    cases reached labels t run with
    | armed _ emptyInt => exact emptyInt
    | loaded none => omega
    | sent none => omega
    | handled none => omega
  · intro labels t run
    cases reached labels t run with
    | armed _ _ _ _ _ _ _ handlerRuns => exact .inl handlerRuns
    | loaded _ _ _ _ _ _ _ _ handlerRuns => exact .inl handlerRuns
    | sent _ _ _ _ handlerRuns => exact .inl handlerRuns
    | handled _ _ _ _ pushed handlerRuns => exact .inr ⟨handlerRuns, pushed⟩
  · intro labels t run
    exact (reached labels t run).finishes one

/-! ## Every other length -/

/-- The transfer is carried out exactly when it is one packet that is not empty. -/
theorem carries_iff {memory : Memory Obj} {ep : InEndpoint Obj} {pointer : Ptr Obj} {len : Nat}
    (idle : ep.Idle) : Carries memory ep pointer len ↔ 0 < len ∧ len ≤ ep.inBuf.maxPackSize := by
  constructor
  · intro carries
    by_contra several
    have positive := idle.positive
    by_cases none : len = 0
    · -- no packet is programmed, not even an empty one
      have zero : packetCount 0 ep.inBuf.maxPackSize = 0 := by
        rw [packetCount_eq positive idle.narrow (Nat.zero_le _), pieces_zero positive]
      have programmed := carries.programmed
      subst none
      simp [InEndpoint.txData, InEndpoint.enableInEpTransfer, zero, pieces_zero positive]
        at programmed
    · -- the first packet turns TXFE off, and nothing turns it on again
      have more : ep.inBuf.maxPackSize < len := by omega
      have whole : min len ep.inBuf.maxPackSize = ep.inBuf.maxPackSize := by omega
      have step : inStep memory (ep.txData (some pointer) len) (.pass ep.inBuf.maxPackSize) =
          some ((ep.txData (some pointer) len).isr memory ep.inBuf.maxPackSize) := by
        simp [inStep, InEndpoint.txData, positive]
      have enough : ep.inBuf.maxPackSize ≤ 4 * ep.inBuf.maxPackSize := by omega
      have enabled := carries.enabled _ _ (.cons trivial step .nil)
      simp [InEndpoint.isr, InEndpoint.txData, InEndpoint.enableInEpTransfer, idle.complete,
        positive, InEndpoint.pushDataToTxFIFO, none, whole, enough] at enabled
      omega
  · rintro ⟨nonempty, fits⟩
    exact OnePacket.carries ⟨idle, nonempty, fits⟩

end

/-- An idle endpoint with packets of 64 bytes. -/
def idleIn : InEndpoint Unit where
  inBuf := CtrlBuf.reset 64
  emptyInt := false
  eppcnt := 0
  eptrs := 0
  tsfcmp := false
  txFifo := []
  pushed := []
  handlerRuns := 0

theorem idleIn_idle : idleIn.Idle := ⟨rfl, rfl, by decide, by decide⟩

theorem carries_packet : Carries (fun _ _ => 0) idleIn ⟨(), 0⟩ 64 :=
  (carries_iff idleIn_idle).mpr ⟨by decide, by decide⟩

theorem two_packets_hang :
    ¬ ∀ (memory : Memory Unit) (ep : InEndpoint Unit) (pointer : Ptr Unit) (len : Nat),
      ep.Idle → len < 4294967296 → Carries memory ep pointer len := by
  intro carries
  have enabled := (carries (fun _ _ => 0) idleIn ⟨(), 0⟩ 65 idleIn_idle (by decide)).enabled
    _ _ (Run.final (inStep fun _ _ => 0) free (idleIn.txData (some ⟨(), 0⟩) 65) [.pass 16]
      (by decide))
  exact absurd (enabled (by decide)) (by decide)

end ApmSdk.Otg
