import ApmSdk.Usbh.Channel

set_option autoImplicit false

/-!
# OUT data of the host

`USB_OTG_EnableOutChannelTransfer`, which writes the whole transfer into a TxFIFO if there is
space and otherwise leaves it to an interrupt, and `USBH_NonPerTxFifoEmptyIsrHandler` and
`USBH_PerTxFifoEmptyIsrHandler`, which serve the channel at the top of the request queue.
-/

namespace ApmSdk.Usbh

open Runs
open Usbd (Byte)

/-- One of the two TxFIFOs, with the unit in which its handler reads the space in its loop:
`NPTXFSA * 4`, and FSPACE as it stands. -/
inductive TxFifo where
  | nonPeriodic
  | periodic
  deriving DecidableEq, Repr

def TxFifo.unit : TxFifo → Nat
  | .nonPeriodic => 4
  | .periodic => 1

def EpType.txFifo : EpType → TxFifo
  | .control | .bulk => .nonPeriodic
  | .iso | .interrupt => .periodic

/-- A channel with the buffer of its last OUT transfer: `offset` is how far `buf` has moved,
`written` is what reached the FIFO, `overran` whether a write exceeded the space read before it,
`deferred` whether the transfer was left to the interrupt. -/
structure OutPipe where
  txFifo : TxFifo
  data : List Byte
  offset : Nat
  bufLen : Nat
  bufCount : Nat
  written : List Byte
  overran : Bool
  deferred : Bool
  deriving DecidableEq

-- `USB_FIFO_WriteFifoPacket` with `words` free.
def OutPipe.writeFifoPacket (pipe : OutPipe) (len words : Nat) : OutPipe :=
  { pipe with
    written := pipe.written ++ (pipe.data.drop pipe.offset).take len
    overran := pipe.overran || decide (words < (len + 3) / 4) }

def OutPipe.advance (pipe : OutPipe) (len : Nat) : OutPipe :=
  { pipe with
    offset := pipe.offset + len
    bufLen := pipe.bufLen - len
    bufCount := pipe.bufCount + len }

-- `transferLen` once the packets are counted.
def clampedLen (transferLen maxPackSize : Nat) : Nat :=
  if 256 < (transferLen + maxPackSize - 1) % 2 ^ 32 / maxPackSize % 2 ^ 16 then
    256 * maxPackSize
  else transferLen

-- `transferWordLen` has 16 bits.
def transferWordLen (transferLen : Nat) : Nat := (transferLen + 3) % 2 ^ 32 / 4 % 2 ^ 16

/-- The start of a transfer; the flag tells whether the FIFO-empty interrupt is enabled. -/
def OutPipe.enableOutChannelTransfer (pipe : OutPipe) (maxPackSize words : Nat) :
    OutPipe × Bool :=
  let transferLen := clampedLen pipe.data.length maxPackSize
  if pipe.data.length = 0 then (pipe, false)
  else if words < transferWordLen transferLen then ({ pipe with deferred := true }, true)
  else (pipe.writeFifoPacket transferLen words, false)

/-- The loop of a handler: `space` was computed from `words` read, and `spaces` are the words
that its next reads find. The flag is the mask of the interrupt. -/
def OutPipe.refill (txFifo : TxFifo) :
    List Nat → OutPipe → Bool → Nat → Nat → Nat → OutPipe × Bool
  | spaces, pipe, mask, len, space, words =>
      if len < space ∧ pipe.bufLen ≠ 0 then
        let last := decide (pipe.bufLen < space)
        let len := (if last then pipe.bufLen else space) % 2 ^ 16
        let pipe := (pipe.writeFifoPacket len words).advance len
        let mask := mask && !last
        match spaces with
        | [] => (pipe, mask)
        | next :: rest => refill txFifo rest pipe mask len (txFifo.unit * next) next
      else (pipe, mask)

-- A handler that finds `words` free.
def OutPipe.txFifoEmptyIsrHandler (txFifo : TxFifo) (pipe : OutPipe) (words : Nat)
    (spaces : List Nat) : OutPipe × Bool :=
  pipe.refill txFifo spaces true (pipe.bufLen % 2 ^ 16) (4 * words) words

/-- The channels and the masks of NPTXFEM and PTXFE; `idle` records a pass that neither wrote nor
disabled its interrupt. -/
structure OutHost where
  pipes : Fin 12 → OutPipe
  mask : TxFifo → Bool
  idle : Bool

inductive OutLabel where
  | start (call : Channel.Start) (channel : Fin 12) (wBuf : List Byte) (maxPackSize words : Nat)
  | pass (txFifo : TxFifo) (channel : Fin 12) (words : Nat) (spaces : List Nat)
  deriving DecidableEq

def OutHost.start (host : OutHost) (call : Channel.Start) (channel : Fin 12) (wBuf : List Byte)
    (maxPackSize words : Nat) : OutHost :=
  let fresh : OutPipe := ⟨call.epType.txFifo, wBuf, 0, wBuf.length, 0, [], false, false⟩
  let started := fresh.enableOutChannelTransfer maxPackSize words
  { host with
    pipes := Function.update host.pipes channel started.1
    mask := fun txFifo => host.mask txFifo || (decide (txFifo = call.epType.txFifo) && started.2) }

def OutHost.pass (host : OutHost) (txFifo : TxFifo) (channel : Fin 12) (words : Nat)
    (spaces : List Nat) : OutHost :=
  let served := (host.pipes channel).txFifoEmptyIsrHandler txFifo words spaces
  { pipes := Function.update host.pipes channel served.1
    mask := Function.update host.mask txFifo served.2
    idle := host.idle ||
      (decide (served.1.written = (host.pipes channel).written) && served.2) }

-- A length is a `uint32_t`; the request queue names a channel of the FIFO.
def outStep (host : OutHost) : OutLabel → Option OutHost
  | .start call channel wBuf maxPackSize words =>
      if call.dirIn = false ∧ wBuf.length < 2 ^ 32 then
        some (host.start call channel wBuf maxPackSize words)
      else none
  | .pass txFifo channel words spaces =>
      if host.mask txFifo = true ∧ (host.pipes channel).txFifo = txFifo then
        some (host.pass txFifo channel words spaces)
      else none

def OutHost.initial : OutHost where
  pipes := fun _ => ⟨.nonPeriodic, [], 0, 0, 0, [], false, false⟩
  mask := fun _ => false
  idle := false

/-! ## What has to hold -/

/-- What was written is a beginning of the buffer, and the whole of it unless the rest is left to
an interrupt that is still enabled. -/
structure OutPipe.Lawful (pipe : OutPipe) (mask : Bool) : Prop where
  ordered : pipe.written <+: pipe.data
  within : pipe.overran = false
  whole : pipe.written = pipe.data ∨ (pipe.deferred = true ∧ mask = true)

structure OutHost.Lawful (host : OutHost) : Prop where
  pipes : ∀ channel, (host.pipes channel).Lawful (host.mask (host.pipes channel).txFifo)
  passes : host.idle = false

/-- A start finds too little space for the transfer, or enough for all of it. -/
def fitsStart (wBuf : List Byte) (maxPackSize words : Nat) : Prop :=
  wBuf.length = 0 ∨ words < transferWordLen (clampedLen wBuf.length maxPackSize) ∨
    (clampedLen wBuf.length maxPackSize = wBuf.length ∧ (wBuf.length + 3) / 4 ≤ words)

/-- A pass finds a transfer that nothing was written of, less than 64 KiB long and less than the
space, and no other transfer of the FIFO left. -/
def servesAll (host : OutHost) (txFifo : TxFifo) (channel : Fin 12) (words : Nat) : Prop :=
  (host.pipes channel).written = [] ∧ 0 < (host.pipes channel).bufLen ∧
    (host.pipes channel).bufLen < 2 ^ 16 ∧ (host.pipes channel).bufLen < 4 * words ∧
    ∀ other, other ≠ channel → (host.pipes other).txFifo = txFifo →
      (host.pipes other).written = (host.pipes other).data

def Roomy (host : OutHost) : OutLabel → Prop
  | .start _ _ wBuf maxPackSize words => fitsStart wBuf maxPackSize words
  | .pass txFifo channel words _ => servesAll host txFifo channel words

/-! ## One pass -/

theorem refill_stops (txFifo : TxFifo) (spaces : List Nat) {pipe : OutPipe} (mask : Bool)
    {len space : Nat} (words : Nat) (stops : ¬ (len < space ∧ pipe.bufLen ≠ 0)) :
    pipe.refill txFifo spaces mask len space words = (pipe, mask) := by
  unfold OutPipe.refill
  rw [if_neg stops]

/-- Up to 64 KiB a pass writes what is left or nothing. -/
theorem txFifoEmptyIsrHandler_serves (txFifo : TxFifo) {pipe : OutPipe} {words : Nat}
    (spaces : List Nat) (some_ : 0 < pipe.bufLen) (short : pipe.bufLen < 2 ^ 16)
    (room : pipe.bufLen < 4 * words) :
    pipe.txFifoEmptyIsrHandler txFifo words spaces =
      ((pipe.writeFifoPacket pipe.bufLen words).advance pipe.bufLen, false) := by
  have whole : pipe.bufLen % 2 ^ 16 = pipe.bufLen := Nat.mod_eq_of_lt short
  have enters : pipe.bufLen < 4 * words ∧ pipe.bufLen ≠ 0 := ⟨room, by omega⟩
  have empty : ((pipe.writeFifoPacket pipe.bufLen words).advance pipe.bufLen).bufLen = 0 :=
    Nat.sub_self _
  unfold OutPipe.txFifoEmptyIsrHandler OutPipe.refill
  rw [whole, if_pos enters]
  simp only [room, decide_true, if_true, whole, Bool.not_true, Bool.and_false]
  cases spaces with
  | nil => rfl
  | cons next rest => exact refill_stops txFifo rest false next (by simp [empty])

theorem txFifoEmptyIsrHandler_idles (txFifo : TxFifo) {pipe : OutPipe} {words : Nat}
    (spaces : List Nat) (short : pipe.bufLen < 2 ^ 16)
    (idles : ¬ (0 < pipe.bufLen ∧ pipe.bufLen < 4 * words)) :
    pipe.txFifoEmptyIsrHandler txFifo words spaces = (pipe, true) := by
  unfold OutPipe.txFifoEmptyIsrHandler
  rw [Nat.mod_eq_of_lt short]
  exact refill_stops txFifo spaces true words (by omega)

/-! ## Standing transfers -/

/-- A transfer written at its start, one that is waiting for its interrupt and one that was
written by it. -/
inductive OutPipe.Standing (pipe : OutPipe) (mask : Bool) : Prop
  | direct : pipe.overran = false → pipe.written = pipe.data → pipe.offset = 0 →
      pipe.bufLen = pipe.data.length → Standing pipe mask
  | waiting : pipe.overran = false → pipe.written = [] → pipe.offset = 0 →
      pipe.bufLen = pipe.data.length → pipe.deferred = true → mask = true → pipe.data ≠ [] →
      Standing pipe mask
  | served : pipe.overran = false → pipe.written = pipe.data → pipe.bufLen = 0 →
      Standing pipe mask

structure OutHost.Standing (host : OutHost) : Prop where
  pipes : ∀ channel, (host.pipes channel).Standing (host.mask (host.pipes channel).txFifo)
  passes : host.idle = false

theorem OutPipe.Standing.lawful {pipe : OutPipe} {mask : Bool} (standing : pipe.Standing mask) :
    pipe.Lawful mask := by
  cases standing with
  | direct within written => exact ⟨written ▸ List.prefix_rfl, within, .inl written⟩
  | waiting within written _ _ deferred masked =>
    exact ⟨by simp [written], within, .inr ⟨deferred, masked⟩⟩
  | served within written => exact ⟨written ▸ List.prefix_rfl, within, .inl written⟩

theorem OutHost.Standing.lawful {host : OutHost} (standing : host.Standing) : host.Lawful :=
  ⟨fun channel => (standing.pipes channel).lawful, standing.passes⟩

/-- A transfer that is written stands whatever the mask. -/
theorem OutPipe.Standing.done {pipe : OutPipe} {mask : Bool} (standing : pipe.Standing mask)
    (written : pipe.written = pipe.data) (other : Bool) : pipe.Standing other := by
  cases standing with
  | direct within _ offset bufLen => exact .direct within written offset bufLen
  | waiting _ none _ _ _ _ some_ => exact absurd (written.symm.trans none) some_
  | served within _ bufLen => exact .served within written bufLen

theorem OutPipe.Standing.enable {pipe : OutPipe} {mask : Bool} (standing : pipe.Standing mask)
    (other : Bool) : pipe.Standing (mask || other) := by
  cases standing with
  | direct within written offset bufLen => exact .direct within written offset bufLen
  | waiting within none offset bufLen deferred masked some_ =>
    exact .waiting within none offset bufLen deferred (by simp [masked]) some_
  | served within written bufLen => exact .served within written bufLen

/-! ## A start -/

theorem clampedLen_le (transferLen maxPackSize : Nat) :
    clampedLen transferLen maxPackSize ≤ transferLen := by
  unfold clampedLen
  split
  · next many =>
    have quotient : 256 < (transferLen + maxPackSize - 1) / maxPackSize := by
      calc 256 < (transferLen + maxPackSize - 1) % 2 ^ 32 / maxPackSize % 2 ^ 16 := many
        _ ≤ (transferLen + maxPackSize - 1) % 2 ^ 32 / maxPackSize := Nat.mod_le _ _
        _ ≤ (transferLen + maxPackSize - 1) / maxPackSize :=
          Nat.div_le_div_right (Nat.mod_le _ _)
    have positive : 0 < maxPackSize := by
      by_contra none
      obtain rfl : maxPackSize = 0 := by omega
      simp at quotient
    have product := (Nat.le_div_iff_mul_le positive).mp quotient
    have expanded : (256 + 1) * maxPackSize = 256 * maxPackSize + maxPackSize := Nat.succ_mul _ _
    omega
  · exact Nat.le_refl _

-- A pipe as the functions of `usbh_dataXfer.c` hand it over.
def OutPipe.filled (txFifo : TxFifo) (wBuf : List Byte) : OutPipe :=
  ⟨txFifo, wBuf, 0, wBuf.length, 0, [], false, false⟩

theorem start_empty {txFifo : TxFifo} {wBuf : List Byte} (maxPackSize words : Nat)
    (empty : wBuf.length = 0) :
    (OutPipe.filled txFifo wBuf).enableOutChannelTransfer maxPackSize words =
      (OutPipe.filled txFifo wBuf, false) :=
  if_pos empty

theorem start_deferred {txFifo : TxFifo} {wBuf : List Byte} {maxPackSize words : Nat}
    (some_ : wBuf.length ≠ 0)
    (full : words < transferWordLen (clampedLen wBuf.length maxPackSize)) :
    (OutPipe.filled txFifo wBuf).enableOutChannelTransfer maxPackSize words =
      ({ OutPipe.filled txFifo wBuf with deferred := true }, true) :=
  (if_neg some_).trans (if_pos full)

theorem start_direct {txFifo : TxFifo} {wBuf : List Byte} {maxPackSize words : Nat}
    (some_ : wBuf.length ≠ 0)
    (room : ¬ words < transferWordLen (clampedLen wBuf.length maxPackSize)) :
    (OutPipe.filled txFifo wBuf).enableOutChannelTransfer maxPackSize words =
      ((OutPipe.filled txFifo wBuf).writeFifoPacket (clampedLen wBuf.length maxPackSize) words,
        false) :=
  (if_neg some_).trans (if_neg room)

section Start

variable (txFifo : TxFifo) {wBuf : List Byte} {maxPackSize words : Nat} (mask : Bool)

theorem start_standing (fits : fitsStart wBuf maxPackSize words) :
    let started := (OutPipe.filled txFifo wBuf).enableOutChannelTransfer maxPackSize words
    started.1.Standing (mask || started.2) := by
  intro started
  by_cases empty : wBuf.length = 0
  · have eq : started = _ := start_empty maxPackSize words empty
    rw [eq]
    exact .direct rfl (List.length_eq_zero_iff.mp empty).symm rfl rfl
  by_cases full : words < transferWordLen (clampedLen wBuf.length maxPackSize)
  · have eq : started = _ := start_deferred empty full
    rw [eq]
    exact .waiting rfl rfl rfl rfl rfl (Bool.or_true _)
      fun none => empty (List.length_eq_zero_iff.mpr none)
  · have eq : started = _ := start_direct empty full
    obtain ⟨unclamped, room⟩ := (fits.resolve_left empty).resolve_left full
    rw [eq, unclamped]
    refine .direct ?_ ?_ rfl rfl
    · simpa [OutPipe.writeFifoPacket, OutPipe.filled] using room
    · simp [OutPipe.writeFifoPacket, OutPipe.filled]

theorem start_lawful_iff :
    let started := (OutPipe.filled txFifo wBuf).enableOutChannelTransfer maxPackSize words
    started.1.Lawful (mask || started.2) ↔ fitsStart wBuf maxPackSize words := by
  intro started
  refine ⟨fun lawful => ?_, fun fits => (start_standing txFifo mask fits).lawful⟩
  by_cases empty : wBuf.length = 0
  · exact .inl empty
  by_cases full : words < transferWordLen (clampedLen wBuf.length maxPackSize)
  · exact .inr (.inl full)
  have eq : started = _ := start_direct empty full
  rw [eq] at lawful
  have written : ((OutPipe.filled txFifo wBuf).writeFifoPacket
      (clampedLen wBuf.length maxPackSize) words).written = wBuf :=
    lawful.whole.resolve_right fun waits => Bool.false_ne_true waits.1
  have unclamped : clampedLen wBuf.length maxPackSize = wBuf.length := by
    have lengths := congrArg List.length written
    have bound := clampedLen_le wBuf.length maxPackSize
    simpa [OutPipe.writeFifoPacket, OutPipe.filled, Nat.min_eq_left bound] using lengths
  have within := lawful.within
  rw [unclamped] at within
  exact .inr (.inr ⟨unclamped, by simpa [OutPipe.writeFifoPacket, OutPipe.filled] using within⟩)

end Start

theorem enableOutChannelTransfer_txFifo (pipe : OutPipe) (maxPackSize words : Nat) :
    (pipe.enableOutChannelTransfer maxPackSize words).1.txFifo = pipe.txFifo := by
  simp only [OutPipe.enableOutChannelTransfer]
  split
  · rfl
  · split <;> rfl

/-! ## Runs -/

section Start

variable {host : OutHost} {call : Channel.Start} {channel : Fin 12} {wBuf : List Byte}
  {maxPackSize words : Nat}

theorem start_pipe (other : Fin 12) :
    let started := (OutPipe.filled call.epType.txFifo wBuf).enableOutChannelTransfer
      maxPackSize words
    let after := host.start call channel wBuf maxPackSize words
    after.pipes channel = started.1 ∧
      after.mask (after.pipes channel).txFifo = (host.mask call.epType.txFifo || started.2) ∧
      (other ≠ channel → after.pipes other = host.pipes other ∧
        ∃ extra, after.mask (host.pipes other).txFifo =
          (host.mask (host.pipes other).txFifo || extra)) := by
  intro started after
  have same : after.pipes channel = started.1 := Function.update_self _ _ _
  refine ⟨same, ?_, fun different => ⟨Function.update_of_ne different _ _, _, rfl⟩⟩
  rw [same, enableOutChannelTransfer_txFifo]
  show (host.mask call.epType.txFifo ||
    (decide (call.epType.txFifo = call.epType.txFifo) && started.2)) = _
  simp

theorem start_host_standing (standing : host.Standing)
    (fits : fitsStart wBuf maxPackSize words) :
    (host.start call channel wBuf maxPackSize words).Standing := by
  refine ⟨fun other => ?_, standing.passes⟩
  obtain ⟨same, mask, others⟩ :=
    @start_pipe host call channel wBuf maxPackSize words other
  by_cases this : other = channel
  · rw [this, mask, same]
    exact start_standing call.epType.txFifo _ fits
  · obtain ⟨kept, extra, masks⟩ := others this
    rw [kept, masks]
    exact (standing.pipes other).enable extra

theorem start_host_lawful_iff (standing : host.Standing) :
    (host.start call channel wBuf maxPackSize words).Lawful ↔
      fitsStart wBuf maxPackSize words := by
  constructor
  · intro lawful
    obtain ⟨same, mask, _⟩ := @start_pipe host call channel wBuf maxPackSize words channel
    have pipe := lawful.pipes channel
    rw [mask, same] at pipe
    exact (start_lawful_iff call.epType.txFifo _).mp pipe
  · intro fits
    exact (start_host_standing standing fits).lawful

end Start

section Pass

variable {host : OutHost} {txFifo : TxFifo} {channel : Fin 12} {words : Nat} {spaces : List Nat}

theorem OutPipe.Standing.waits {pipe : OutPipe} {mask : Bool} (standing : pipe.Standing mask)
    (some_ : 0 < pipe.bufLen) :
    pipe.overran = false ∧ pipe.offset = 0 ∧ pipe.bufLen = pipe.data.length := by
  cases standing with
  | direct within written offset bufLen => exact ⟨within, offset, bufLen⟩
  | waiting within _ offset bufLen => exact ⟨within, offset, bufLen⟩
  | served _ written empty => omega

theorem pass_host_standing (standing : host.Standing)
    (serves : servesAll host txFifo channel words) :
    (host.pass txFifo channel words spaces).Standing := by
  obtain ⟨unwritten, some_, short, room, others⟩ := serves
  have served := txFifoEmptyIsrHandler_serves txFifo spaces some_ short room
  obtain ⟨within, offset, bufLen⟩ := (standing.pipes channel).waits some_
  refine ⟨fun other => ?_, ?_⟩
  · simp only [OutHost.pass, served]
    by_cases this : other = channel
    · rw [this, Function.update_self]
      refine .served ?_ ?_ (Nat.sub_self _)
      · simp only [OutPipe.advance, OutPipe.writeFifoPacket, within, Bool.false_or,
          decide_eq_false_iff_not]
        omega
      · simp [OutPipe.advance, OutPipe.writeFifoPacket, unwritten, offset, bufLen]
    · rw [Function.update_of_ne this]
      by_cases fifo : (host.pipes other).txFifo = txFifo
      · exact (standing.pipes other).done (others other this fifo) _
      · rw [Function.update_of_ne fifo]
        exact standing.pipes other
  · simp [OutHost.pass, served, standing.passes]

theorem pass_host_lawful_iff (standing : host.Standing)
    (short : (host.pipes channel).bufLen < 2 ^ 16) :
    (host.pass txFifo channel words spaces).Lawful ↔ servesAll host txFifo channel words := by
  refine ⟨fun lawful => ?_, fun serves => (pass_host_standing standing serves).lawful⟩
  by_cases serves : 0 < (host.pipes channel).bufLen ∧ (host.pipes channel).bufLen < 4 * words
  · obtain ⟨some_, room⟩ := serves
    have served := txFifoEmptyIsrHandler_serves txFifo spaces some_ short room
    have pipe := lawful.pipes channel
    simp only [OutHost.pass, served, Function.update_self] at pipe
    have unwritten : (host.pipes channel).written = [] := by
      cases standing.pipes channel with
      | direct _ written offset bufLen =>
        -- the buffer is written a second time
        have lengths := pipe.ordered.length_le
        simp only [OutPipe.advance, OutPipe.writeFifoPacket, written, offset, bufLen,
          List.drop_zero, List.take_length, List.length_append] at lengths
        omega
      | waiting _ none => exact none
      | served _ _ empty => omega
    refine ⟨unwritten, some_, short, room, fun other different fifo => ?_⟩
    have whole := (lawful.pipes other).whole
    simp only [OutHost.pass, served, Function.update_of_ne different, fifo,
      Function.update_self] at whole
    exact whole.resolve_right fun waits => Bool.false_ne_true waits.2
  · have idles := txFifoEmptyIsrHandler_idles txFifo spaces short serves
    have passes := lawful.passes
    simp [OutHost.pass, idles] at passes

end Pass

theorem outStep_standing {before after : OutHost} {label : OutLabel} (standing : before.Standing)
    (roomy : Roomy before label) (taken : outStep before label = some after) :
    after.Standing := by
  cases label with
  | start call channel wBuf maxPackSize words =>
    simp only [outStep] at taken
    split at taken
    · obtain rfl := Option.some.inj taken
      exact start_host_standing standing roomy
    · cases taken
  | pass txFifo channel words spaces =>
    simp only [outStep] at taken
    split at taken
    · obtain rfl := Option.some.inj taken
      exact pass_host_standing standing roomy
    · cases taken

-- The passes on less than 64 KiB; `len` has 16 bits.
def Short (host : OutHost) : OutLabel → Prop
  | .start _ _ _ _ _ => True
  | .pass _ channel _ _ => (host.pipes channel).bufLen < 2 ^ 16

theorem outStep_lawful_iff {before after : OutHost} {label : OutLabel}
    (standing : before.Standing) (short : Short before label)
    (taken : outStep before label = some after) : after.Lawful ↔ Roomy before label := by
  cases label with
  | start call channel wBuf maxPackSize words =>
    simp only [outStep] at taken
    split at taken
    · obtain rfl := Option.some.inj taken
      exact start_host_lawful_iff standing
    · cases taken
  | pass txFifo channel words spaces =>
    simp only [outStep] at taken
    split at taken
    · obtain rfl := Option.some.inj taken
      exact pass_host_lawful_iff standing short
    · cases taken

theorem initial_standing : OutHost.initial.Standing :=
  ⟨fun _ => .direct rfl rfl rfl rfl, rfl⟩

/-- What is started reaches its FIFO once and in order in every roomy run, and after a next step
exactly if that step is roomy too. -/
theorem outData_written {labels : List OutLabel} {host : OutHost}
    (run : Run outStep Roomy OutHost.initial labels host) :
    host.Lawful ∧ ∀ (label : OutLabel) (after : OutHost), Short host label →
      outStep host label = some after → (after.Lawful ↔ Roomy host label) := by
  have standing : host.Standing :=
    run.invariant OutHost.Standing initial_standing
      fun _ _ _ standing roomy taken => outStep_standing standing roomy taken
  constructor
  · exact standing.lawful
  · intro label after short taken
    exact outStep_lawful_iff standing short taken

instance (wBuf : List Byte) (maxPackSize words : Nat) :
    Decidable (fitsStart wBuf maxPackSize words) := by
  unfold fitsStart
  infer_instance

instance (host : OutHost) (txFifo : TxFifo) (channel : Fin 12) (words : Nat) :
    Decidable (servesAll host txFifo channel words) := by
  unfold servesAll
  infer_instance

instance (host : OutHost) (label : OutLabel) : Decidable (Roomy host label) := by
  unfold Roomy
  split <;> infer_instance

/-- 100 bytes find 16 words free and are left to the interrupt, which finds 26. -/
def deferredLabels : List OutLabel :=
  [.start .bulkOutData 2 (List.replicate 100 0x55) 64 16, .pass .nonPeriodic 2 26 [1]]

theorem deferred_accepted : (execute outStep Roomy OutHost.initial deferredLabels).isSome = true := by
  decide +kernel

def deferredHost : OutHost := final outStep Roomy OutHost.initial deferredLabels deferred_accepted

theorem deferredHost_written : (deferredHost.pipes 2).written.length = 100 ∧
    deferredHost.Lawful ∧
    ∀ after, outStep deferredHost (.start .bulkOutData 2 [] 64 0) = some after → after.Lawful :=
  ⟨by decide +kernel, (outData_written (Run.final _ _ _ _ deferred_accepted)).1,
    fun after taken => ((outData_written (Run.final _ _ _ _ deferred_accepted)).2
      (.start .bulkOutData 2 [] 64 0) after trivial taken).mpr (by decide +kernel)⟩

/-- The interrupt finds exactly the space that the transfer needs. -/
def exactLabels : List OutLabel :=
  [.start .bulkOutData 2 (List.replicate 100 0x55) 64 16, .pass .nonPeriodic 2 25 []]

theorem exact_accepted : (execute outStep free OutHost.initial exactLabels).isSome = true := by
  decide +kernel

def exactHost : OutHost := final outStep free OutHost.initial exactLabels exact_accepted

theorem exactFit_idles : ¬ ∀ (labels : List OutLabel) (host : OutHost),
    Run outStep free OutHost.initial labels host → host.Lawful := by
  intro lawful
  have run : Run outStep free OutHost.initial exactLabels exactHost := Run.final _ _ _ _ _
  exact absurd (lawful _ _ run).passes (by decide +kernel)

end ApmSdk.Usbh
