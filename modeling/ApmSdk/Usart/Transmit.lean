import ApmSdk.Usart.Bounds

set_option autoImplicit false

/-!
# The transmit path of the idle-line example

The bytes on the wire are the calls of `send_data` in order as long as no call touches a
transfer that is still in progress.
-/

namespace ApmSdk.Usart

open Runs

def SendPc.early : SendPc → Bool
  | .copy _ | .waitTxbe | .disable => true
  | .configDataNumber | .enable => false

-- Where `USART1_Isr` may call `send_data` with a length of `len`.
def mayCall (len : Nat) : MainPc → Bool
  | .setup rest => rest.isEmpty
  | .send pc => len == 0 && pc.early
  | .loop => true

-- Channel 4 has not yet loaded the byte at `index`.
def Owed (s : State) (index : Nat) : Prop :=
  (s.dma .ch4).chen = true ∧ (s.dma .ch4).offset ≤ index ∧
    index < (s.dma .ch4).offset + (s.dma .ch4).chndata

instance (s : State) (index : Nat) : Decidable (Owed s index) := by
  unfold Owed; infer_instance

-- The statement of `send_data` at `pc` leaves the transfer in progress alone.
def Spares (s : State) (len : Nat) : SendPc → Prop
  | .copy done => done < len → ¬ Owed s done
  | .disable => (s.dma .ch4).chen = true → (s.dma .ch4).chndata = 0
  | _ => True

instance (s : State) (len : Nat) (pc : SendPc) : Decidable (Spares s len pc) := by
  unfold Spares; split <;> infer_instance

def Exclusive (s : State) : Label → Prop
  | .preempt => insideConfigDma s.main = false
  | .cpu =>
      match s.isr, s.main with
      | some (.callSend len), main => mayCall len main = true
      | some (.send len pc), _ => Spares s len pc
      | none, .send pc => Spares s sbuf.length pc
      | _, _ => True
  | _ => True

instance (s : State) (label : Label) : Decidable (Exclusive s label) := by
  unfold Exclusive
  split
  · infer_instance
  · split <;> infer_instance
  · infer_instance

def owed (s : State) : List Byte :=
  if (s.dma .ch4).chen then
    (List.range' (s.dma .ch4).offset (s.dma .ch4).chndata).map s.uartTxBuf
  else []

-- What `send_data` at `pc` has done for `content`.
def Progress (s : State) (content : List Byte) : SendPc → Prop
  | .copy done => done ≤ content.length ∧ bytes s.uartTxBuf done = content.take done
  | .waitTxbe | .disable => bytes s.uartTxBuf content.length = content
  | .configDataNumber => bytes s.uartTxBuf content.length = content ∧ (s.dma .ch4).chen = false
  | .enable => bytes s.uartTxBuf content.length = content ∧ (s.dma .ch4).chen = false ∧
      (s.dma .ch4).chndata = content.length

def mainUnsent : MainPc → List Byte
  | .send _ => sbuf
  | _ => []

def isrUnsent (rxBuf : Nat → Byte) : Option IsrPc → List Byte
  | some (.send len _) => bytes rxBuf len
  | _ => []

def IsrPc.pastDisable : IsrPc → Bool
  | .readIntFlag | .rxData | .disable => false
  | _ => true

structure Transmitting (s : State) : Prop where
  order : s.wire ++ s.usart.tdr.toList ++ owed s ++ (mainUnsent s.main ++ isrUnsent s.uartRxBuf s.isr) =
    (s.calls.map Call.bytes).flatten
  main : ∀ pc, s.main = .send pc → Progress s sbuf pc
  isr : ∀ len pc, s.isr = some (.send len pc) → Progress s (bytes s.uartRxBuf len) pc
  nested : ∀ len pc, s.isr = some (.send len pc) → mayCall len s.main = true
  deaf : ∀ pc, s.isr = some pc → pc.pastDisable = true → (s.dma .ch5).chen = false

theorem owed_off {s : State} (off : (s.dma .ch4).chen = false) : owed s = [] := by
  simp [owed, off]

theorem owed_spared {s : State} {len : Nat} (spares : Spares s len .disable) : owed s = [] := by
  unfold owed
  split
  · next on => simp [spares on]
  · rfl

/-- What a transition leaves alone when it has nothing to do with the transmit path. -/
structure SameTransmit (s t : State) : Prop where
  wire : t.wire = s.wire
  tdr : t.usart.tdr = s.usart.tdr
  channel : t.dma .ch4 = s.dma .ch4
  buffer : t.uartTxBuf = s.uartTxBuf
  calls : t.calls = s.calls

theorem SameTransmit.owed {s t : State} (same : SameTransmit s t) : owed t = owed s := by
  simp only [Usart.owed, same.channel, same.buffer]

theorem SameTransmit.progress {s t : State} (same : SameTransmit s t) {content : List Byte}
    {pc : SendPc} (progress : Progress s content pc) : Progress t content pc := by
  cases pc <;> simpa only [Progress, same.channel, same.buffer] using progress

theorem SameTransmit.write_ch5 (s : State) (action : ChannelWrite) :
    SameTransmit s (s.write .ch5 action) := by
  refine ⟨rfl, rfl, ?_, rfl, rfl⟩
  simp only [State.write]
  split <;> simp

-- What one statement of `send_data` changes besides channel 4 and `uart_tx_buf`: nothing.
structure SendFrame (s t : State) : Prop where
  main : t.main = s.main
  isr : t.isr = s.isr
  wire : t.wire = s.wire
  tdr : t.usart.tdr = s.usart.tdr
  calls : t.calls = s.calls
  rxBuf : t.uartRxBuf = s.uartRxBuf
  ch5 : t.dma .ch5 = s.dma .ch5

theorem SendFrame.sendData (s : State) (caller : Caller) (len : Nat) (pc : SendPc) :
    SendFrame s (sendData s caller len pc).1 := by
  have write (action : ChannelWrite) : SendFrame s (s.write .ch4 action) := by
    refine ⟨rfl, rfl, rfl, rfl, rfl, rfl, ?_⟩
    simp only [State.write]
    split <;> simp
  cases pc with
  | copy | waitTxbe => exact ⟨rfl, rfl, rfl, rfl, rfl, rfl, rfl⟩
  | disable | configDataNumber | enable => exact write _

def content (s : State) (caller : Caller) (len : Nat) : List Byte :=
  (List.range len).map (source s caller)

@[simp] theorem content_length (s : State) (caller : Caller) (len : Nat) :
    (content s caller len).length = len := by
  simp [content]

theorem content_take_succ (s : State) (caller : Caller) {len done : Nat} (more : done < len) :
    (content s caller len).take (done + 1) =
      (content s caller len).take done ++ [source s caller done] := by
  rw [List.take_succ_eq_append_getElem (by simpa using more)]
  simp [content]

theorem owed_copy {s : State} {index : Nat} (spared : ¬ Owed s index) (value : Byte) :
    owed { s with uartTxBuf := Function.update s.uartTxBuf index value } = owed s := by
  simp only [owed]
  split
  · next on =>
    refine List.map_congr_left fun other member => Function.update_of_ne ?_ _ _
    rintro rfl
    simp only [List.mem_range'_1] at member
    exact spared ⟨on, member⟩
  · rfl

-- A statement of `send_data` prepares `content`, and its last one hands it to channel 4.
inductive Sends (s : State) (content : List Byte) (t : State) : Option SendPc → Prop
  | prepares {next : SendPc} : owed t = owed s → Progress t content next →
      Sends s content t (some next)
  | starts : owed s = [] → owed t = content → Sends s content t none

theorem sendData_sends {s : State} (ready : Ready s) (caller : Caller) {len : Nat}
    {pc : SendPc} (small : len < 65536) (spares : Spares s len pc)
    (progress : Progress s (content s caller len) pc) :
    Sends s (content s caller len) (sendData s caller len pc).1 (sendData s caller len pc).2 := by
  have write (action : ChannelWrite) :
      (s.write .ch4 action).dma .ch4 = action.apply (s.dma .ch4) := by
    simp [State.write, ready.clock]
  cases pc with
  | copy done =>
    obtain ⟨within, copied⟩ := progress
    rw [content_length] at within
    by_cases more : done < len
    · simp only [sendData, more, if_true]
      refine .prepares (owed_copy (spares more) _) ⟨?_, ?_⟩
      · rw [content_length]
        exact more
      · rw [bytes_update, copied, content_take_succ s caller more]
    · simp only [sendData, more, if_false]
      have whole : done = len := by omega
      refine .prepares rfl ?_
      simpa [Progress, whole, List.take_of_length_le] using copied
  | waitTxbe =>
    simp only [sendData]
    split <;> exact .prepares rfl progress
  | disable =>
    have off : ((s.write .ch4 dmaDisable).dma .ch4).chen = false := by rw [write]; rfl
    exact .prepares ((owed_off off).trans (owed_spared spares).symm) ⟨progress, off⟩
  | configDataNumber =>
    obtain ⟨copied, off⟩ := progress
    have programmed : (s.write .ch4 (dmaConfigDataNumber len)).dma .ch4 =
        { s.dma .ch4 with chndata := len } := by
      rw [write]
      simp [dmaConfigDataNumber, ChannelWrite.apply, off, Nat.mod_eq_of_lt small]
    have still : ((s.write .ch4 (dmaConfigDataNumber len)).dma .ch4).chen = false := by
      rw [programmed, off]
    refine .prepares ((owed_off still).trans (owed_off off).symm) ⟨copied, still, ?_⟩
    simp [sendData, programmed]
  | enable =>
    obtain ⟨copied, off, count⟩ := progress
    have programmed : (s.write .ch4 dmaEnable).dma .ch4 =
        { s.dma .ch4 with chen := true, offset := 0 } := by
      rw [write]
      simp [dmaEnable, ChannelWrite.apply, off]
    refine .starts (owed_off off) ?_
    simp only [sendData, owed, programmed, if_true, count, content_length,
      ← List.range_eq_range']
    rw [content_length] at copied
    exact copied

theorem sendData_empty (s : State) (caller : Caller) (pc : SendPc) :
    (sendData s caller 0 pc).1.uartTxBuf = s.uartTxBuf := by
  cases pc with
  | copy done => simp [sendData]
  | _ => rfl

/-- Statements that leave the transmit path alone and do not start or end a call. -/
theorem Transmitting.of_same {s t : State} (transmitting : Transmitting s)
    (same : SameTransmit s t) (main : t.main = s.main)
    (outside : ∀ len pc, s.isr ≠ some (.send len pc))
    (still : ∀ len pc, t.isr ≠ some (.send len pc))
    (deaf : ∀ pc, t.isr = some pc → pc.pastDisable = true → (t.dma .ch5).chen = false) :
    Transmitting t where
  order := by
    have none {u : State} (away : ∀ len pc, u.isr ≠ some (.send len pc)) :
        isrUnsent u.uartRxBuf u.isr = [] := by
      unfold isrUnsent
      split
      · next len pc running => exact absurd running (away len pc)
      · rfl
    have order := transmitting.order
    rw [none outside] at order
    rw [none still, same.wire, same.tdr, same.owed, same.calls, main]
    exact order
  main := fun pc place => same.progress (transmitting.main pc (main ▸ place))
  isr := fun len pc running => absurd running (still len pc)
  nested := fun len pc running => absurd running (still len pc)
  deaf := deaf

theorem Transmitting.mainSend {s : State} {pc : SendPc} (transmitting : Transmitting s)
    (ready : Ready s) (idle : s.isr = none) (place : s.main = .send pc)
    (spares : Spares s sbuf.length pc) : Transmitting (mainStep s (.send pc)) := by
  have sends : Sends s sbuf (sendData s .main sbuf.length pc).1 _ :=
    sendData_sends ready .main (by decide) spares (transmitting.main pc place)
  have frame := SendFrame.sendData s .main sbuf.length pc
  have order := transmitting.order
  simp only [place, idle, mainUnsent, isrUnsent, List.append_nil] at order
  simp only [mainStep]
  generalize (sendData s .main sbuf.length pc).1 = t at sends frame ⊢
  generalize (sendData s .main sbuf.length pc).2 = next at sends ⊢
  obtain ⟨_, isr, wire, tdr, calls, _, _⟩ := frame
  rw [idle] at isr
  have quiet (main : MainPc) (at_ : IsrPc) : ({ t with main := main } : State).isr ≠ some at_ := by
    simp [isr]
  cases sends with
  | prepares same progress =>
    refine ⟨?_, fun pc here => ?_, fun len pc here => absurd here (quiet _ _),
      fun len pc here => absurd here (quiet _ _), fun pc here => absurd here (quiet _ _)⟩
    · have next : t.wire ++ t.usart.tdr.toList ++ owed t ++ (sbuf ++ isrUnsent t.uartRxBuf t.isr) =
          (t.calls.map Call.bytes).flatten := by
        simp only [wire, tdr, same, calls, isr, isrUnsent, List.append_nil]
        exact order
      exact next
    · obtain rfl := MainPc.send.inj here
      exact progress
  | starts empty full =>
    refine ⟨?_, by simp, fun len pc here => absurd here (quiet _ _),
      fun len pc here => absurd here (quiet _ _), fun pc here => absurd here (quiet _ _)⟩
    have next : t.wire ++ t.usart.tdr.toList ++ owed t ++ ([] ++ isrUnsent t.uartRxBuf t.isr) =
        (t.calls.map Call.bytes).flatten := by
      simp only [wire, tdr, full, calls, isr, isrUnsent, List.append_nil]
      simpa [empty] using order
    exact next

theorem Progress.sent_empty {s : State} {caller : Caller} {pc at_ : SendPc} {content : List Byte}
    (early : pc.early = true) (progress : Progress s content pc) :
    Progress (sendData s caller 0 at_).1 content pc := by
  cases pc with
  | copy | waitTxbe | disable => simpa only [Progress, sendData_empty] using progress
  | configDataNumber | enable => cases early

theorem Transmitting.isrSend {s : State} {len : Nat} {pc : SendPc}
    (transmitting : Transmitting s) (ready : Ready s) (small : len < 65536)
    (running : s.isr = some (.send len pc)) (spares : Spares s len pc) :
    Transmitting (usart1Isr s (.send len pc)) := by
  have sends : Sends s (bytes s.uartRxBuf len) (sendData s .isr len pc).1 _ :=
    sendData_sends ready .isr small spares (transmitting.isr len pc running)
  have frame := SendFrame.sendData s .isr len pc
  have order := transmitting.order
  have nested := transmitting.nested len pc running
  have deaf := transmitting.deaf _ running rfl
  have main : ∀ pc', s.main = .send pc' →
      len = 0 ∧ Progress (sendData s .isr len pc).1 sbuf pc' := by
    intro pc' place
    simp only [mayCall, place, Bool.and_eq_true, beq_iff_eq] at nested
    obtain ⟨rfl, early⟩ := nested
    exact ⟨rfl, (transmitting.main pc' place).sent_empty early⟩
  simp only [running, isrUnsent] at order
  simp only [Usart.usart1Isr]
  generalize (sendData s .isr len pc).1 = t at sends frame main ⊢
  generalize (sendData s .isr len pc).2 = next at sends ⊢
  obtain ⟨place, _, wire, tdr, calls, rxBuf, ch5⟩ := frame
  cases sends with
  | @prepares next same progress =>
    refine ⟨?_, fun pc' here => (main pc' (place ▸ here)).2, fun len' pc' here => ?_,
      fun len' pc' here => ?_, fun _ _ _ => ?_⟩
    · have following : t.wire ++ t.usart.tdr.toList ++ owed t ++
          (mainUnsent t.main ++ bytes t.uartRxBuf len) = (t.calls.map Call.bytes).flatten := by
        simp only [wire, tdr, same, calls, place, rxBuf]
        exact order
      exact following
    · simp only [Option.some.injEq, IsrPc.send.injEq] at here
      obtain ⟨rfl, rfl⟩ := here
      rw [← rxBuf] at progress
      exact progress
    · simp only [Option.some.injEq, IsrPc.send.injEq] at here
      obtain ⟨rfl, rfl⟩ := here
      rw [← place] at nested
      exact nested
    · rw [← ch5] at deaf
      exact deaf
  | starts empty full =>
    refine ⟨?_, fun pc' here => (main pc' (place ▸ here)).2, by simp, by simp, fun _ _ _ => ?_⟩
    · have following : t.wire ++ t.usart.tdr.toList ++ owed t ++ (mainUnsent t.main ++ []) =
          (t.calls.map Call.bytes).flatten := by
        simp only [wire, tdr, full, calls, place]
        -- under a call of `main` the interrupt has nothing to send
        cases inside : s.main with
        | send pc' =>
          obtain ⟨rfl, _⟩ := main pc' inside
          simpa [inside, empty, bytes] using order
        | setup | loop => simpa [inside, empty, mainUnsent] using order
      exact following
    · rw [← ch5] at deaf
      exact deaf

theorem ready_of_mayCall {s : State} (wired : Wired s) {len : Nat}
    (allowed : mayCall len s.main = true) : Ready s := by
  refine wired.after fun stmt rest place => ?_
  simp [mayCall, place] at allowed

theorem Wired.disable_ch5 {s : State} (wired : Wired s) :
    ((s.write .ch5 dmaDisable).dma .ch5).chen = false := by
  by_cases clock : s.dmaClock = true
  · simp [State.write, clock, dmaDisable, ChannelWrite.apply]
  · simp only [State.write, clock]
    by_contra on
    exact clock (wired.ready (by simpa using on)).clock

theorem Transmitting.callSend {s : State} {len : Nat} (transmitting : Transmitting s)
    (running : s.isr = some (.callSend len)) (allowed : mayCall len s.main = true) :
    Transmitting (usart1Isr s (.callSend len)) := by
  have deaf := transmitting.deaf _ running rfl
  refine ⟨?_, transmitting.main, fun len pc here => ?_, fun len pc here => ?_, fun _ _ _ => deaf⟩
  · have order := transmitting.order
    simp only [running, isrUnsent, List.append_nil] at order
    have following : s.wire ++ s.usart.tdr.toList ++ owed s ++
        (mainUnsent s.main ++ bytes s.uartRxBuf len) =
        ((s.calls ++ [Call.mk .isr (bytes s.uartRxBuf len)]).map Call.bytes).flatten := by
      rw [← List.append_assoc, order]
      simp
    exact following
  · simp only [Usart.usart1Isr, Option.some.injEq, IsrPc.send.injEq] at here
    obtain ⟨rfl, rfl⟩ := here
    exact ⟨Nat.zero_le _, rfl⟩
  · simp only [Usart.usart1Isr, Option.some.injEq, IsrPc.send.injEq] at here
    obtain ⟨rfl, rfl⟩ := here
    exact allowed

theorem Transmitting.usart1Isr {s : State} {pc : IsrPc} (transmitting : Transmitting s)
    (wired : Wired s) (bounded : Bounded s) (running : s.isr = some pc)
    (admitted : Exclusive s .cpu) : Transmitting (usart1Isr s pc) := by
  have deaf := transmitting.deaf pc running
  cases pc with
  | readIntFlag =>
    refine transmitting.of_same ⟨rfl, rfl, rfl, rfl, rfl⟩ rfl (by simp [running]) ?_ ?_
    · simp only [Usart.usart1Isr]
      split <;> simp
    · intro pc here past
      simp only [Usart.usart1Isr] at here
      split at here <;> cases here
      cases past
  | rxData =>
    refine transmitting.of_same ⟨rfl, rfl, rfl, rfl, rfl⟩ rfl (by simp [running])
      (by simp [Usart.usart1Isr]) fun pc here past => ?_
    cases here
    cases past
  | disable =>
    have same := SameTransmit.write_ch5 s dmaDisable
    exact transmitting.of_same ⟨same.wire, same.tdr, same.channel, same.buffer, same.calls⟩ rfl
      (by simp [running]) (by simp [Usart.usart1Isr]) fun _ _ _ => wired.disable_ch5
  | readDataNumber =>
    exact transmitting.of_same ⟨rfl, rfl, rfl, rfl, rfl⟩ rfl (by simp [running])
      (by simp [Usart.usart1Isr]) fun _ _ _ => deaf rfl
  | configDataNumber len =>
    have same := SameTransmit.write_ch5 s (dmaConfigDataNumber maxLen)
    refine transmitting.of_same ⟨same.wire, same.tdr, same.channel, same.buffer, same.calls⟩ rfl
      (by simp [running]) (by simp [Usart.usart1Isr]) fun _ _ _ => ?_
    have off := deaf rfl
    simp only [Usart.usart1Isr, State.write]
    split
    · simp [dmaConfigDataNumber, ChannelWrite.apply, off]
    · exact off
  | callSend len =>
    simp only [Exclusive, running] at admitted
    exact transmitting.callSend running admitted
  | send len pc =>
    have ready := ready_of_mayCall wired (transmitting.nested len pc running)
    have held := bounded.held _ running
    simp only [IsrPc.tmpLen, maxLen] at held
    simp only [Exclusive, running] at admitted
    exact transmitting.isrSend ready (by omega) running admitted
  | enable =>
    have same := SameTransmit.write_ch5 s dmaEnable
    exact transmitting.of_same ⟨same.wire, same.tdr, same.channel, same.buffer, same.calls⟩ rfl
      (by simp [running]) (by simp [Usart.usart1Isr]) (by simp [Usart.usart1Isr])

theorem owed_cons {s : State} (enabled : (s.dma .ch4).chen = true)
    (left : 0 < (s.dma .ch4).chndata) : owed s = s.uartTxBuf (s.dma .ch4).offset ::
      (List.range' ((s.dma .ch4).offset + 1) ((s.dma .ch4).chndata - 1)).map s.uartTxBuf := by
  obtain ⟨count, more⟩ := Nat.exists_eq_succ_of_ne_zero left.ne'
  simp [owed, enabled, more, List.range'_succ]

theorem Progress.channel {s t : State} {content : List Byte} {pc : SendPc}
    (enabled : (s.dma .ch4).chen = true) (buffer : t.uartTxBuf = s.uartTxBuf)
    (progress : Progress s content pc) : Progress t content pc := by
  cases pc with
  | copy | waitTxbe | disable => simpa only [Progress, buffer] using progress
  | configDataNumber =>
    obtain ⟨_, off⟩ := progress
    exact absurd (enabled.symm.trans off) (by decide)
  | enable =>
    obtain ⟨_, off, _⟩ := progress
    exact absurd (enabled.symm.trans off) (by decide)

theorem serve_ch4 {s : State} (ready : Ready s) : s.serve .ch4 =
    { s with
      usart.tdr := some (s.uartTxBuf (s.dma .ch4).offset)
      dma := Function.update s.dma .ch4 { s.dma .ch4 with
        chndata := (s.dma .ch4).chndata - 1, offset := (s.dma .ch4).offset + 1 } } := by
  have tx := ready.tx
  simp only [DmaChannel.wiring, Prod.mk.injEq] at tx
  simp [State.serve, State.load, DmaChannel.beat, tx]

theorem Transmitting.beat_ch4 {s : State} (transmitting : Transmitting s) (ready : Ready s)
    (beat : BeatReady s .ch4) : Transmitting (s.serve .ch4) := by
  obtain ⟨request, enabled, left⟩ := beat
  have empty : s.usart.tdr = none := by
    simp only [Registers.request, Registers.txbe, Bool.and_eq_true] at request
    simpa using request.2
  rw [serve_ch4 ready]
  refine ⟨?_, fun pc place => ?_, fun len pc running => ?_, transmitting.nested,
    fun pc running past => ?_⟩
  · have order := transmitting.order
    rw [owed_cons enabled left, empty] at order
    simpa [owed, enabled] using order
  · exact (transmitting.main pc place).channel enabled rfl
  · exact (transmitting.isr len pc running).channel enabled rfl
  · simpa using transmitting.deaf pc running past

theorem Transmitting.beat_ch5 {s : State} (transmitting : Transmitting s) (ready : Ready s)
    (beat : BeatReady s .ch5) : Transmitting (s.serve .ch5) := by
  have rx := ready.rx
  simp only [DmaChannel.wiring, Prod.mk.injEq] at rx
  have outside : ∀ len pc, s.isr ≠ some (.send len pc) := fun len pc running => by
    have deaf := transmitting.deaf _ running rfl
    exact absurd (beat.2.1.symm.trans deaf) (by decide)
  obtain ⟨isr, main⟩ := isr_serve s .ch5
  refine transmitting.of_same ?_ main outside (isr ▸ outside) fun pc running past => ?_
  · constructor <;> simp [State.serve, rx, DmaChannel.store]
  · rw [isr] at running
    exact absurd (beat.2.1.symm.trans (transmitting.deaf pc running past)) (by decide)

theorem Transmitting.call {s : State} (transmitting : Transmitting s) (idle : s.isr = none)
    (place : s.main = .setup []) :
    Transmitting { s.called .main sbuf.length with main := .send (.copy 0) } := by
  refine ⟨?_, fun pc here => ?_, fun len pc here => ?_, fun len pc here => ?_, fun pc here => ?_⟩
  · have order := transmitting.order
    simp only [idle, place, mainUnsent, isrUnsent, List.append_nil] at order
    have following : s.wire ++ s.usart.tdr.toList ++ owed s ++ (sbuf ++ isrUnsent s.uartRxBuf s.isr) =
        ((s.calls ++ [Call.mk .main sbuf]).map Call.bytes).flatten := by
      rw [order, idle]
      simp [isrUnsent]
    exact following
  · obtain rfl := MainPc.send.inj here
    exact ⟨Nat.zero_le _, rfl⟩
  all_goals exact absurd (idle.symm.trans here) (by simp)

theorem Transmitting.setup {s : State} {stmt : Stmt} {rest : List Stmt}
    (transmitting : Transmitting s) (wired : Wired s) (idle : s.isr = none)
    (place : s.main = .setup (stmt :: rest)) :
    Transmitting { stmt.run s with main := .setup rest } := by
  have off := owed_off (wired.run_disabled place .ch4)
  have still : (stmt.run s).isr = none := by cases stmt <;> exact idle
  refine ⟨?_, by simp, fun len pc here => ?_, fun len pc here => ?_, fun pc here => ?_⟩
  · have order := transmitting.order
    rw [owed_off (wired.disabled place .ch4)] at order
    simp only [place, idle, mainUnsent, isrUnsent, List.append_nil] at order
    have following : (stmt.run s).wire ++ (stmt.run s).usart.tdr.toList ++ owed (stmt.run s) ++
        ([] ++ isrUnsent (stmt.run s).uartRxBuf (stmt.run s).isr) =
        ((stmt.run s).calls.map Call.bytes).flatten := by
      rw [off, still]
      simp only [isrUnsent, List.append_nil]
      cases stmt <;> exact order
    exact following
  all_goals exact absurd (still.symm.trans here) (by simp)

theorem Transmitting.step {s t : State} {label : Label} (transmitting : Transmitting s)
    (wired : Wired s) (bounded : Bounded s) (admitted : Exclusive s label)
    (moves : Moves s label t) : Transmitting t := by
  cases moves with
  | isr running => exact transmitting.usart1Isr wired bounded running admitted
  | setup idle place => exact transmitting.setup wired idle place
  | call idle place => exact transmitting.call idle place
  | @send pc idle place =>
    simp only [Exclusive, idle, place] at admitted
    exact transmitting.mainSend (wired.after (by simp [place])) idle place admitted
  | loop => exact transmitting
  | preempt pending =>
    exact transmitting.of_same ⟨rfl, rfl, rfl, rfl, rfl⟩ rfl (by simp [pending.1]) (by simp)
      fun pc here past => by cases here; cases past
  | rx | idle => exact ⟨transmitting.order, transmitting.main, transmitting.isr,
      transmitting.nested, transmitting.deaf⟩
  | @beat which beat =>
    have ready := wired.ready beat.2.1
    cases which with
    | ch4 => exact transmitting.beat_ch4 ready beat
    | ch5 => exact transmitting.beat_ch5 ready beat
  | @shift value present =>
    refine ⟨?_, transmitting.main, transmitting.isr, transmitting.nested, transmitting.deaf⟩
    have order := transmitting.order
    rw [present] at order
    have following : s.wire ++ [value] ++ [] ++ owed s ++ (mainUnsent s.main ++ isrUnsent s.uartRxBuf s.isr) =
        (s.calls.map Call.bytes).flatten := by
      simpa using order
    exact following

theorem reached_transmitting {labels : List Label} {s : State}
    (run : Run step Exclusive State.reset labels s) : Wired s ∧ Bounded s ∧ Transmitting s := by
  refine run.invariant (fun s => Wired s ∧ Bounded s ∧ Transmitting s)
    ⟨Wired.reset, Bounded.reset, ⟨rfl, ?_, ?_, ?_, ?_⟩⟩ ?_
  · simp [State.reset]
  · simp [State.reset]
  · simp [State.reset]
  · simp [State.reset]
  · rintro before label after ⟨wired, bounded, transmitting⟩ admitted taken
    have moves := step_moves taken
    refine ⟨wired.step moves ?_, bounded.step wired moves,
      transmitting.step wired bounded admitted moves⟩
    rintro rfl
    exact admitted

-- No call of `send_data` is under way and everything it started has been shifted out.
def Drained (s : State) : Prop :=
  mainUnsent s.main = [] ∧ isrUnsent s.uartRxBuf s.isr = [] ∧ owed s = [] ∧ s.usart.tdr = none

instance (s : State) : Decidable (Drained s) := by unfold Drained; infer_instance

-- The wire carries the calls of `send_data` in order.
def Faithful (s : State) : Prop :=
  s.wire <+: (s.calls.map Call.bytes).flatten ∧
    (Drained s → s.wire = (s.calls.map Call.bytes).flatten)

instance (s : State) : Decidable (Faithful s) := by unfold Faithful; infer_instance

theorem wire_carries_calls {labels : List Label} {s : State}
    (run : Run step Exclusive State.reset labels s) : Faithful s := by
  obtain ⟨_, _, transmitting⟩ := reached_transmitting run
  have order := transmitting.order
  constructor
  · simp only [List.append_assoc] at order
    exact ⟨_, order⟩
  · rintro ⟨main, isr, empty, idle⟩
    rw [main, isr, empty, idle] at order
    simpa using order

def shiftOut (count : Nat) : List Label :=
  (List.replicate count [Label.beat .ch4, Label.shift]).flatten

-- The banner, a frame that `USART1_Isr` loses, and a frame of two bytes that it sends.
def frameSentBack : List Label :=
  List.replicate 66 .cpu ++ shiftOut 14 ++ [.rx 65, .idle, .preempt] ++ List.replicate 12 .cpu ++
    [.rx 66, .beat .ch5, .rx 67, .beat .ch5, .idle, .preempt] ++ List.replicate 14 .cpu ++
    shiftOut 2

theorem frameSentBack_accepted :
    (execute step Exclusive State.reset frameSentBack).isSome = true := by decide +kernel

theorem wire_carries_frameSentBack :
    Faithful (final step Exclusive State.reset frameSentBack frameSentBack_accepted) :=
  wire_carries_calls (Run.final step Exclusive State.reset frameSentBack frameSentBack_accepted)

/-- `USART1_Isr` starts a transfer of 256 bytes while `main` is between the two channels, and
the banner overwrites it after one byte. -/
def transferCutOff : List Label :=
  List.replicate 30 .cpu ++ [.rx 65, .idle, .preempt] ++ List.replicate 268 .cpu ++ shiftOut 1 ++
    List.replicate 31 .cpu ++ shiftOut 14

theorem transferCutOff_accepted :
    (execute step free State.reset transferCutOff).isSome = true := by decide +kernel

theorem banner_cuts_transfer_off :
    ¬ ∀ (labels : List Label) (s : State), Run step free State.reset labels s →
      (∀ call ∈ s.calls, 0 < call.bytes.length ∧ call.bytes.length ≤ maxLen) → Faithful s := by
  intro faithful
  have run := Run.final step free State.reset transferCutOff transferCutOff_accepted
  have sent := faithful transferCutOff _ run (by decide +kernel)
  exact absurd sent (by decide +kernel)

end ApmSdk.Usart
