import ApmSdk.Usart.Receive
import ApmSdk.Usart.Transmit

set_option autoImplicit false

/-!
# The idle-line example from one end of the wire to the other

A host that begins a frame only once as many bytes have come back as it waits for gets the
banner and then every frame but the first, whatever the order of the device's own steps.
-/

namespace ApmSdk.Usart

open Runs

def echoed (frames : List (List Byte)) : List Byte := sbuf ++ (frames.drop 1).flatten

def Answered (s : State) : Prop := s.wire.length = (echoed s.frames).length

def Label.receives : Label → Bool
  | .rx _ => true
  | _ => false

def Patient (s : State) (label : Label) : Prop :=
  Timely s label ∧ (label.receives = true → s.frame = [] → Answered s)

instance (s : State) : Decidable (Answered s) := by unfold Answered; infer_instance

instance (s : State) (label : Label) : Decidable (Patient s label) := by
  unfold Patient; infer_instance

-- `main` is in its loop, the interrupt has nothing to do and the transmitter is empty.
def Quiet (s : State) : Prop :=
  s.main = .loop ∧ s.isr = none ∧ s.usart.idle = false ∧ owed s = [] ∧ s.usart.tdr = none

instance (s : State) : Decidable (Quiet s) := by unfold Quiet; infer_instance

theorem delivered_flatten (frames : List (List Byte)) :
    (delivered frames).flatten = (frames.drop 1).flatten := by
  cases frames <;> rfl

-- What `main` has handed to `send_data`.
def opening : MainPc → List Byte
  | .setup _ => []
  | .send _ | .loop => sbuf

-- A transfer of channel 4 may be under way.
def Sending (s : State) : Prop :=
  s.main = .loop ∧ s.frame = [] ∧ s.usart.idle = false ∧ (s.isr = none ∨ s.isr = some .enable)

structure Echoing (s : State) : Prop where
  wired : Wired s
  bounded : Bounded s
  phase : Phase s
  transmitting : Transmitting s
  opened : (s.calls.map Call.bytes).flatten = opening s.main ++ (handed s).flatten
  calm : owed s ≠ [] → Sending s

theorem Phase.booted {s : State} (phase : Phase s) (boot : s.main ≠ .loop) : Booting s := by
  cases phase with
  | booting _ booting => exact booting
  | looping loop => exact absurd loop boot

theorem Phase.loops {s : State} (phase : Phase s) (busy : s.isr ≠ none ∨ s.usart.idle = true) :
    s.main = .loop := by
  cases phase with
  | looping loop => exact loop
  | booting _ booting =>
    cases busy with
    | inl running => exact absurd booting.isr running
    | inr idle => exact absurd (idle.symm.trans booting.idle) (by decide)

theorem Owed.present {s : State} {index : Nat} (open_ : Owed s index) : owed s ≠ [] := by
  obtain ⟨on, low, high⟩ := open_
  have some : 0 < (s.dma .ch4).chndata := by omega
  rw [owed_cons on some]
  simp

theorem spares_of_empty {s : State} (empty : owed s = []) (len : Nat) (pc : SendPc) :
    Spares s len pc := by
  cases pc with
  | copy done => exact fun _ present => present.present empty
  | disable =>
    intro on
    by_contra some
    have more := owed_cons on (Nat.pos_of_ne_zero some)
    rw [empty] at more
    cases more
  | waitTxbe | configDataNumber | enable => exact trivial

/-- Under a patient host no call of `send_data` meets a transfer in progress. -/
theorem Echoing.exclusive {s : State} {label : Label} {t : State} (echoing : Echoing s)
    (moves : Moves s label t) : Exclusive s label := by
  have empty (away : ¬ Sending s) : owed s = [] := by
    by_contra present
    exact away (echoing.calm present)
  cases moves with
  | @isr pc running =>
    have loop := echoing.phase.loops (.inl (by simp [running]))
    cases pc with
    | callSend len => simp only [Exclusive, running, loop, mayCall]
    | send len pc =>
      simp only [Exclusive, running]
      exact spares_of_empty (empty fun sending => by simpa [running] using sending.2.2.2) len pc
    | _ => simp only [Exclusive, running]
  | setup idle place => simp only [Exclusive, idle, place]
  | call idle place => simp only [Exclusive, idle, place]
  | @send pc idle place =>
    simp only [Exclusive, idle, place]
    exact spares_of_empty (empty fun sending => by simpa [place] using sending.1) _ pc
  | loop idle place => simp only [Exclusive, idle, place]
  | preempt pending =>
    have loop := echoing.phase.loops (.inr pending.2.2.2)
    simp [Exclusive, loop, insideConfigDma]
  | rx | idle | beat | shift => exact trivial

/-- What the wire, the transmitter and channel 4 hold between two frames. -/
theorem Echoing.balance {s : State} (echoing : Echoing s) (loop : s.main = .loop)
    (quiet : s.isr = none) (idle : s.usart.idle = false) :
    s.wire ++ s.usart.tdr.toList ++ owed s = echoed s.frames := by
  have order := echoing.transmitting.order
  have all : handed s = delivered s.frames := by
    cases echoing.phase with
    | booting boot => exact absurd loop boot
    | looping _ looping =>
      rw [quiet] at looping
      cases looping with
      | receiving _ handed => exact handed
      | waiting raised => exact absurd (raised.idle.symm.trans idle) (by decide)
  rw [echoing.opened, all, delivered_flatten] at order
  simpa only [echoed, loop, quiet, mainUnsent, isrUnsent, opening, List.append_nil] using order

theorem Echoing.answered_empty {s : State} (echoing : Echoing s) (loop : s.main = .loop)
    (quiet : s.isr = none) (idle : s.usart.idle = false) (answered : Answered s) :
    owed s = [] := by
  have length := congrArg List.length (echoing.balance loop quiet idle)
  simp only [List.length_append] at length
  simp only [Answered] at answered
  exact List.eq_nil_of_length_eq_zero (by omega)

theorem Moves.opened {s t : State} {label : Label} (moves : Moves s label t)
    (booting : s.main ≠ .loop → handed s = [])
    (opened : (s.calls.map Call.bytes).flatten = opening s.main ++ (handed s).flatten) :
    (t.calls.map Call.bytes).flatten = opening t.main ++ (handed t).flatten := by
  have same (calls : t.calls = s.calls) (main : opening t.main = opening s.main) :
      (t.calls.map Call.bytes).flatten = opening t.main ++ (handed t).flatten := by
    simpa only [handed, calls, main] using opened
  cases moves with
  | @isr pc running =>
    cases pc with
    | callSend len =>
      simp only [usart1Isr, State.called, handed, List.map_append, List.flatten_append, opened,
        List.filter_append, List.append_assoc]
      simp
    | send len pc => cases pc <;> exact same rfl rfl
    | _ => exact same rfl rfl
  | @setup stmt rest idle place =>
    refine same ?_ (by simp [place, opening])
    cases stmt <;> rfl
  | call idle place =>
    have none : handed s = [] := booting (by simp [place])
    have sent : (List.range sbuf.length).map (source s .main) = sbuf := rfl
    rw [none, place] at opened
    simp only [State.called, handed, List.filter_append, List.map_append, List.flatten_append,
      opened, sent, opening, List.nil_append] at none ⊢
    simp [none]
  | @send pc idle place =>
    have frame := SendFrame.sendData s .main sbuf.length pc
    refine same frame.calls ?_
    rw [place]
    cases pc <;> rfl
  | beat _ =>
    refine same ?_ (by rw [(isr_serve s _).2])
    unfold State.serve
    dsimp only
    split <;> rfl
  | loop | preempt | rx | idle | shift => exact same rfl rfl

theorem Sends.calm {s t : State} {content : List Byte} {next : Option SendPc}
    (sends : Sends s content t next) (empty : owed s = []) :
    owed t ≠ [] → next = none := by
  intro present
  cases sends with
  | prepares same => exact absurd (same.trans empty) present
  | starts => rfl

theorem Echoing.sends {s : State} {len : Nat} {pc : SendPc} (echoing : Echoing s)
    (running : s.isr = some (.send len pc)) (exclusive : Exclusive s .cpu) :
    Sends s (content s .isr len) (sendData s .isr len pc).1 (sendData s .isr len pc).2 := by
  have loop := echoing.phase.loops (.inl (by simp [running]))
  have small := echoing.bounded.held _ running
  simp only [IsrPc.tmpLen, maxLen] at small
  simp only [Exclusive, running] at exclusive
  exact sendData_sends (echoing.wired.after (by simp [loop])) .isr (by omega) exclusive
    (echoing.transmitting.isr len pc running)

theorem Echoing.sends_main {s : State} {pc : SendPc} (echoing : Echoing s) (idle : s.isr = none)
    (place : s.main = .send pc) (exclusive : Exclusive s .cpu) :
    Sends s sbuf (sendData s .main sbuf.length pc).1 (sendData s .main sbuf.length pc).2 := by
  simp only [Exclusive, idle, place] at exclusive
  exact sendData_sends (echoing.wired.after (by simp [place])) .main (by decide) exclusive
    (echoing.transmitting.main pc place)

theorem Echoing.calm_isr {s : State} {pc : IsrPc} (echoing : Echoing s)
    (running : s.isr = some pc) (exclusive : Exclusive s .cpu)
    (present : owed (usart1Isr s pc) ≠ []) : Sending (usart1Isr s pc) := by
  have loop := echoing.phase.loops (.inl (by simp [running]))
  have still := (main_usart1Isr s pc).trans loop
  have untouched (other : pc ≠ .enable) : owed s = [] := by
    by_contra owing
    simpa [running, other] using (echoing.calm owing).2.2.2
  cases pc with
  | send len pc =>
    have empty := untouched (by simp)
    have ended := (echoing.sends running exclusive).calm empty present
    have line : (usart1Isr s (.send len pc)).line = s.line := line_sendData s .isr len pc
    cases echoing.phase with
    | booting boot => exact absurd loop boot
    | looping _ looping =>
      rw [running] at looping
      cases looping with
      | sending sent =>
        refine ⟨still, (congrArg Line.frame line).trans sent.frame,
          (congrArg Line.idle line).trans sent.idle, .inr ?_⟩
        simp only [usart1Isr, ended]
  | enable =>
    have same := SameTransmit.write_ch5 s dmaEnable
    have kept : owed (usart1Isr s .enable) = owed s :=
      SameTransmit.owed ⟨same.wire, same.tdr, same.channel, same.buffer, same.calls⟩
    obtain ⟨_, frame, idle, _⟩ := echoing.calm (kept ▸ present)
    exact ⟨still, frame, idle, .inl rfl⟩
  | disable =>
    have same := SameTransmit.write_ch5 s dmaDisable
    have kept : owed (usart1Isr s .disable) = owed s :=
      SameTransmit.owed ⟨same.wire, same.tdr, same.channel, same.buffer, same.calls⟩
    exact absurd (kept.trans (untouched (by simp))) present
  | configDataNumber len =>
    have same := SameTransmit.write_ch5 s (dmaConfigDataNumber maxLen)
    have kept : owed (usart1Isr s (.configDataNumber len)) = owed s :=
      SameTransmit.owed ⟨same.wire, same.tdr, same.channel, same.buffer, same.calls⟩
    exact absurd (kept.trans (untouched (by simp))) present
  | readIntFlag | rxData | readDataNumber | callSend => exact absurd (untouched (by simp)) present

theorem Echoing.calm_step {s t : State} {label : Label} (echoing : Echoing s)
    (admitted : Patient s label) (moves : Moves s label t) (present : owed t ≠ []) :
    Sending t := by
  have exclusive := echoing.exclusive moves
  have untouched (away : ¬ Sending s) : owed s = [] := by
    by_contra owing
    exact away (echoing.calm owing)
  cases moves with
  | isr running => exact echoing.calm_isr running exclusive present
  | setup idle place =>
    exact absurd (owed_off (echoing.wired.run_disabled place .ch4)) present
  | call idle place =>
    have empty := untouched fun sending => by simpa [place] using sending.1
    exact absurd empty present
  | @send pc idle place =>
    have empty := untouched fun sending => by simpa [place] using sending.1
    have booting := echoing.phase.booted (by simp [place])
    have ended := (echoing.sends_main idle place exclusive).calm empty present
    have frame := SendFrame.sendData s .main sbuf.length pc
    have line : (mainStep s (.send pc)).line = s.line := line_sendData s .main sbuf.length pc
    refine ⟨?_, (congrArg Line.frame line).trans booting.frame,
      (congrArg Line.idle line).trans booting.idle, .inl (frame.isr.trans idle)⟩
    simp only [mainStep, ended]
  | loop => exact echoing.calm present
  | preempt pending =>
    have empty := untouched fun sending => by simpa [pending.2.2.2] using sending.2.2.1
    exact absurd empty present
  | @rx value _ =>
    obtain ⟨⟨_, loop, quiet, idle, _⟩, answered⟩ := admitted
    have empty : owed s = [] := by
      by_cases first : s.frame = []
      · exact echoing.answered_empty loop quiet idle (answered rfl first)
      · exact untouched fun sending => first sending.2.1
    exact absurd empty present
  | idle =>
    have empty := untouched fun sending => admitted.1.2 sending.2.1
    exact absurd empty present
  | @beat which beat =>
    have ready := echoing.wired.ready beat.2.1
    obtain ⟨isr, main⟩ := isr_serve s which
    cases which with
    | ch4 =>
      obtain ⟨loop, frame, idle, running⟩ := echoing.calm (by
        rw [owed_cons beat.2.1 beat.2.2]
        simp)
      have line := line_serve_ch4 ready
      exact ⟨main.trans loop, (congrArg Line.frame line).trans frame,
        (congrArg Line.idle line).trans idle, isr ▸ running⟩
    | ch5 =>
      have line := beat_ch5 ready
      have rx := ready.rx
      simp only [DmaChannel.wiring, Prod.mk.injEq] at rx
      have kept : owed (s.serve .ch5) = owed s := by
        refine SameTransmit.owed ?_
        constructor <;> simp [State.serve, rx, DmaChannel.store]
      obtain ⟨loop, frame, idle, running⟩ := echoing.calm (kept ▸ present)
      exact ⟨main.trans loop, (congrArg Line.frame line).trans frame,
        (congrArg Line.idle line).trans idle, isr ▸ running⟩
  | shift present' => exact echoing.calm present

theorem Echoing.step {s t : State} {label : Label} (echoing : Echoing s)
    (admitted : Patient s label) (moves : Moves s label t) : Echoing t := by
  have exclusive := echoing.exclusive moves
  refine ⟨echoing.wired.step moves ?_, echoing.bounded.step echoing.wired moves,
    echoing.phase.step echoing.wired admitted.1 moves,
    echoing.transmitting.step echoing.wired echoing.bounded exclusive moves, ?_,
    echoing.calm_step admitted moves⟩
  · rintro rfl
    exact exclusive
  · exact moves.opened (fun boot => (echoing.phase.booted boot).handed) echoing.opened

theorem Echoing.reset : Echoing State.reset where
  wired := Wired.reset
  bounded := Bounded.reset
  phase := .booting (by simp [State.reset])
    ⟨rfl, rfl, rfl, rfl, rfl, rfl, fun started => absurd rfl (started _ _)⟩
  transmitting := ⟨rfl, by simp [State.reset], by simp [State.reset], by simp [State.reset],
    by simp [State.reset]⟩
  opened := rfl
  calm := fun present => absurd rfl present

-- The next statement is the loop of `main`, or reads `TXBE` while it is clear.
def Waits (s : State) : Prop :=
  match s.isr, s.main with
  | some (.send _ .waitTxbe), _ => s.usart.txbe = false
  | some _, _ => False
  | none, .send .waitTxbe => s.usart.txbe = false
  | none, .loop => True
  | none, _ => False

-- A step of the device that does not just wait.
def Working (s : State) (label : Label) : Prop :=
  Timely s label ∧
    match label with
    | .rx _ | .idle => False
    | .cpu => ¬ Waits s
    | .preempt | .beat _ | .shift => True

-- Steps from `pc` to the end of a call for `len` bytes, and then to the last of them on the wire.
def SendPc.toGo (len : Nat) : SendPc → Nat
  | .copy done => (len - done) + 5 + 2 * len
  | .waitTxbe => 4 + 2 * len
  | .disable => 3 + 2 * len
  | .configDataNumber => 2 + 2 * len
  | .enable => 1 + 2 * len

def MainPc.toGo : MainPc → Nat
  | .setup rest => rest.length + 1 + (SendPc.copy 0).toGo sbuf.length
  | .send pc => pc.toGo sbuf.length
  | .loop => 0

def IsrPc.toGo : IsrPc → Nat
  | .readIntFlag => 7 + (SendPc.copy 0).toGo maxLen
  | .rxData => 6 + (SendPc.copy 0).toGo maxLen
  | .disable => 5 + (SendPc.copy 0).toGo maxLen
  | .readDataNumber => 4 + (SendPc.copy 0).toGo maxLen
  | .configDataNumber len => 3 + (SendPc.copy 0).toGo len
  | .callSend len => 2 + (SendPc.copy 0).toGo len
  | .send len pc => 1 + pc.toGo len
  | .enable => 1

def isrToGo (idle : Bool) : Option IsrPc → Nat
  | some pc => pc.toGo
  | none => if idle then 8 + (SendPc.copy 0).toGo maxLen else 0

def State.toGo (s : State) : Nat :=
  s.main.toGo + isrToGo s.usart.idle s.isr + 2 * (owed s).length + s.usart.tdr.toList.length +
    s.usart.rxbne.toNat

theorem SendFrame.toGo {s t : State} (frame : SendFrame s t) (line : t.line = s.line) :
    isrToGo t.usart.idle t.isr = isrToGo s.usart.idle s.isr ∧
      t.usart.tdr.toList.length + t.usart.rxbne.toNat =
        s.usart.tdr.toList.length + s.usart.rxbne.toNat := by
  have idle : t.usart.idle = s.usart.idle := congrArg Line.idle line
  have rxbne : t.usart.rxbne = s.usart.rxbne := congrArg Line.rxbne line
  exact ⟨by rw [idle, frame.isr], by rw [frame.tdr, rxbne]⟩

theorem Phase.sent {s : State} {pc : IsrPc} (phase : Phase s) (running : s.isr = some pc)
    (late : pc = .enable ∨ ∃ len at_, pc = .send len at_) : s.line.Sent := by
  cases phase with
  | booting _ booting => exact absurd (booting.isr.symm.trans running) (by simp)
  | looping _ looping =>
    rw [running] at looping
    cases looping with
    | sending sent | rearming sent => exact sent
    | entered | noticed | closing | reading | resetting | calling => simp at late

theorem Phase.noticed {s : State} (phase : Phase s) (running : s.isr = some .readIntFlag) :
    s.usart.idle = true := by
  cases phase with
  | booting _ booting => exact absurd (booting.isr.symm.trans running) (by simp)
  | looping _ looping =>
    rw [running] at looping
    cases looping with
    | entered raised => exact raised.idle

/-- Unless it is at rest the device can take a step that is not a wait. -/
theorem Echoing.goes {s : State} (echoing : Echoing s) (busy : ¬ Quiet s) :
    ∃ label next, Working s label ∧ Usart.step s label = some next := by
  by_cases beat : BeatReady s .ch5
  next => exact ⟨.beat .ch5, _, ⟨trivial, trivial⟩, if_pos beat⟩
  next =>
    cases sent : s.usart.tdr with
    | some value =>
      refine ⟨.shift, { s with usart.tdr := none, wire := s.wire ++ [value] }, ⟨beat, trivial⟩, ?_⟩
      simp only [Usart.step, sent]
    | none =>
      have txbe : s.usart.txbe = true := by simp [Registers.txbe, sent]
      cases running : s.isr with
      | some pc =>
        refine ⟨.cpu, usart1Isr s pc, ⟨beat, ?_⟩, by simp only [Usart.step, running]⟩
        cases pc with
        | send len pc => cases pc <;> simp [Waits, running, txbe]
        | _ => simp [Waits, running]
      | none =>
        cases place : s.main with
        | setup rest =>
          refine ⟨.cpu, mainStep s s.main, ⟨beat, ?_⟩, by simp only [Usart.step, running]⟩
          simp [Waits, running, place]
        | send pc =>
          refine ⟨.cpu, mainStep s s.main, ⟨beat, ?_⟩, by simp only [Usart.step, running]⟩
          cases pc <;> simp [Waits, running, place, txbe]
        | loop =>
          have ready := echoing.wired.after (by simp [place])
          have enables := ready.enables
          simp only [Registers.enables, Prod.mk.injEq] at enables
          by_cases empty : owed s = []
          next =>
            have idle : s.usart.idle = true := by
              by_contra still
              exact busy ⟨place, running, by simpa using still, empty, sent⟩
            have pending : Preemptible s := ⟨running, ready.irq, enables.2.1, idle⟩
            exact ⟨.preempt, _, ⟨beat, trivial⟩, if_pos pending⟩
          next =>
            have on : (s.dma .ch4).chen = true := by
              by_contra off
              exact empty (owed_off (by simpa using off))
            have left : 0 < (s.dma .ch4).chndata := by
              by_contra none
              exact empty (by simp [owed, Nat.eq_zero_of_not_pos none])
            have ready4 : BeatReady s .ch4 :=
              ⟨by simp [Registers.request, enables, txbe], on, left⟩
            exact ⟨.beat .ch4, _, ⟨beat, trivial⟩, if_pos ready4⟩

end ApmSdk.Usart
