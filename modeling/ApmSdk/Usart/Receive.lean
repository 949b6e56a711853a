import ApmSdk.Usart.Setup

set_option autoImplicit false

/-!
# The receive path of the idle-line example

What `USART1_Isr` hands to `send_data` when every frame arrives in the loop, has at most
`MAX_LEN` bytes and is followed by an idle line long enough for the interrupt to finish.
-/

namespace ApmSdk.Usart

open Runs

/-- The part of the state that the receive path reads and writes. -/
structure Line where
  idle : Bool
  rxbne : Bool
  rdr : Byte
  channel : DmaChannel
  rxBuf : Nat → Byte
  handed : List (List Byte)
  frames : List (List Byte)
  frame : List Byte

-- The ranges of `uart_rx_buf` that `USART1_Isr` has passed to `send_data`.
def handed (s : State) : List (List Byte) :=
  (s.calls.filter fun call => call.caller = .isr).map Call.bytes

def State.line (s : State) : Line where
  idle := s.usart.idle
  rxbne := s.usart.rxbne
  rdr := s.usart.rdr
  channel := s.dma .ch5
  rxBuf := s.uartRxBuf
  handed := handed s
  frames := s.frames
  frame := s.frame

-- A byte the DMA engine can take is taken before anything else happens.
def Timely (s : State) : Label → Prop
  | .beat .ch5 => True
  | .rx _ => ¬ BeatReady s .ch5 ∧ s.main = .loop ∧ s.isr = none ∧ s.usart.idle = false ∧
      s.frame.length < maxLen
  | .idle => ¬ BeatReady s .ch5 ∧ s.frame ≠ []
  | _ => ¬ BeatReady s .ch5

instance (s : State) (label : Label) : Decidable (Timely s label) := by
  unfold Timely
  cases label
  case beat channel => cases channel <;> infer_instance
  all_goals infer_instance

/-- What is handed over for a list of frames: the first one is lost. -/
def delivered : List (List Byte) → List (List Byte)
  | [] => []
  | _ :: rest => [] :: rest

theorem delivered_eq_nil {frames : List (List Byte)} : delivered frames = [] ↔ frames = [] := by
  cases frames <;> simp [delivered]

theorem delivered_snoc (done : List (List Byte)) (last : List Byte) :
    delivered (done ++ [last]) = delivered done ++ [if done = [] then [] else last] := by
  cases done <;> simp [delivered]

theorem delivered_eq_self {frames : List (List Byte)} (nonempty : ∀ frame ∈ frames, frame ≠ []) :
    (delivered frames).flatten = frames.flatten ↔ frames = [] := by
  cases frames with
  | nil => simp [delivered]
  | cons first rest =>
    have present := nonempty first (by simp)
    simp [delivered, present]

-- Channel 5 before its first enable, or with `current` received so far.
inductive Line.Holds (l : Line) (current : List Byte) : Prop
  | deaf : l.handed = [] → l.channel.chen = false → l.channel.chndata = maxLen → l.Holds current
  | armed (stored : List Byte) : l.handed ≠ [] → l.channel.chen = true →
      current = stored ++ (if l.rxbne then [l.rdr] else []) → l.channel.offset = stored.length →
      l.channel.chndata = maxLen - stored.length → bytes l.rxBuf stored.length = stored →
      l.Holds current

structure Line.Pending (l : Line) (done : List (List Byte)) (last : List Byte) : Prop where
  frames : l.frames = done ++ [last]
  handed : l.handed = delivered done
  frame : l.frame = []
  short : last.length ≤ maxLen

structure Line.Raised (l : Line) (done : List (List Byte)) (last : List Byte) : Prop
    extends l.Pending done last where
  idle : l.idle = true
  taken : l.handed ≠ [] → l.rxbne = false
  holds : l.Holds last

structure Line.Closed (l : Line) (done : List (List Byte)) (last : List Byte) (len : Nat) : Prop
    extends l.Pending done last where
  idle : l.idle = false
  rxbne : l.rxbne = false
  disabled : l.channel.chen = false
  content : bytes l.rxBuf len = if done = [] then [] else last

structure Line.Sent (l : Line) : Prop where
  idle : l.idle = false
  rxbne : l.rxbne = false
  disabled : l.channel.chen = false
  count : l.channel.chndata = maxLen
  frame : l.frame = []
  some : l.frames ≠ []
  handed : l.handed = delivered l.frames

-- The receive path once `main` is in its loop, by the place of `USART1_Isr`.
inductive Looping : Option IsrPc → Line → Prop
  | receiving {l : Line} : l.idle = false → l.handed = delivered l.frames →
      l.frame.length ≤ maxLen → l.Holds l.frame → Looping none l
  | waiting {l : Line} {done : List (List Byte)} {last : List Byte} :
      l.Raised done last → Looping none l
  | entered {l : Line} {done : List (List Byte)} {last : List Byte} :
      l.Raised done last → Looping (some .readIntFlag) l
  | noticed {l : Line} {done : List (List Byte)} {last : List Byte} :
      l.Raised done last → Looping (some .rxData) l
  | closing {l : Line} {done : List (List Byte)} {last : List Byte} :
      l.Pending done last → l.idle = false → l.rxbne = false → l.Holds last →
      Looping (some .disable) l
  | reading {l : Line} {done : List (List Byte)} {last : List Byte} {len : Nat} :
      l.Closed done last len → l.channel.chndata = maxLen - len → len ≤ maxLen →
      Looping (some .readDataNumber) l
  | resetting {l : Line} {done : List (List Byte)} {last : List Byte} {len : Nat} :
      l.Closed done last len → Looping (some (.configDataNumber len)) l
  | calling {l : Line} {done : List (List Byte)} {last : List Byte} {len : Nat} :
      l.Closed done last len → l.channel.chndata = maxLen → Looping (some (.callSend len)) l
  | sending {l : Line} {len : Nat} {pc : SendPc} : l.Sent → Looping (some (.send len pc)) l
  | rearming {l : Line} : l.Sent → Looping (some .enable) l

-- The receive path while `main` has not reached its loop.
structure Booting (s : State) : Prop where
  isr : s.isr = none
  idle : s.usart.idle = false
  rxbne : s.usart.rxbne = false
  frames : s.frames = []
  frame : s.frame = []
  handed : handed s = []
  channel : (∀ stmt rest, s.main ≠ .setup (stmt :: rest)) →
    (s.dma .ch5).chen = false ∧ (s.dma .ch5).chndata = maxLen

inductive Phase (s : State) : Prop
  | booting : s.main ≠ .loop → Booting s → Phase s
  | looping : s.main = .loop → Looping s.isr s.line → Phase s

theorem line_write {s : State} (clock : s.dmaClock = true) (action : ChannelWrite) :
    (s.write .ch5 action).line = { s.line with channel := action.apply (s.dma .ch5) } := by
  simp [State.write, State.line, handed, clock]

theorem line_write_ch4 (s : State) (action : ChannelWrite) :
    (s.write .ch4 action).line = s.line := by
  by_cases clock : s.dmaClock = true <;> simp [State.write, State.line, handed, clock]

theorem line_sendData (s : State) (caller : Caller) (len : Nat) (pc : SendPc) :
    (sendData s caller len pc).1.line = s.line := by
  cases pc with
  | copy | waitTxbe => rfl
  | disable | configDataNumber | enable => exact line_write_ch4 s _

theorem line_serve_ch4 {s : State} (ready : Ready s) : (s.serve .ch4).line = s.line := by
  have tx := ready.tx
  simp only [DmaChannel.wiring, Prod.mk.injEq] at tx
  simp [State.serve, tx, State.line, handed]

theorem beat_ch5 {s : State} (ready : Ready s) : (s.serve .ch5).line =
    { s.line with
      rxbne := false
      rxBuf := Function.update s.uartRxBuf (s.dma .ch5).offset s.usart.rdr
      channel := { s.dma .ch5 with
        chndata := (s.dma .ch5).chndata - 1, offset := (s.dma .ch5).offset + 1 } } := by
  have rx := ready.rx
  simp only [DmaChannel.wiring, Prod.mk.injEq] at rx
  simp [State.serve, rx, State.line, handed, DmaChannel.store, DmaChannel.beat]

theorem Line.Holds.served {s : State} (ready : Ready s) {current : List Byte}
    (holds : s.line.Holds current) (short : current.length ≤ maxLen)
    (idle : ¬ BeatReady s .ch5) (armed : s.line.handed ≠ []) : s.usart.rxbne = false := by
  by_contra full
  rw [Bool.not_eq_false] at full
  have enables := ready.enables
  simp only [Registers.enables, Prod.mk.injEq] at enables
  cases holds with
  | deaf none => exact armed none
  | armed stored _ enabled split _ count _ =>
    have length := congrArg List.length split
    simp only [State.line, full, if_true, List.length_append, List.length_singleton] at length
    refine idle ⟨by simp [Registers.request, enables, full], enabled, ?_⟩
    simp only [State.line] at count
    omega

/-- The count of a channel that is switched off after a frame is that of the frame. -/
theorem Line.Pending.reading {l : Line} {done : List (List Byte)} {last : List Byte}
    (pending : l.Pending done last) (idle : l.idle = false) (rxbne : l.rxbne = false)
    (holds : l.Holds last) :
    Looping (some .readDataNumber) { l with channel := { l.channel with chen := false } } := by
  have still : Line.Pending { l with channel := { l.channel with chen := false } } done last :=
    ⟨pending.frames, pending.handed, pending.frame, pending.short⟩
  cases holds with
  | deaf none disabled count =>
    have first : done = [] := delivered_eq_nil.mp (pending.handed ▸ none)
    have closed : Line.Closed { l with channel := { l.channel with chen := false } } done last 0 :=
      ⟨still, idle, rxbne, rfl, by simp [first, bytes]⟩
    exact .reading closed count (Nat.zero_le _)
  | armed stored some enabled split offset count content =>
    have later : done ≠ [] := fun first => some (pending.handed.trans (by rw [first]; rfl))
    have whole : last = stored := by simpa [rxbne] using split
    subst whole
    have closed : Line.Closed { l with channel := { l.channel with chen := false } } done last
        last.length := ⟨still, idle, rxbne, rfl, by simpa [later] using content⟩
    exact .reading closed count pending.short

theorem Looping.usart1Isr {s : State} {pc : IsrPc} (ready : Ready s)
    (looping : Looping (some pc) s.line) :
    Looping (usart1Isr s pc).isr (usart1Isr s pc).line := by
  have enables := ready.enables
  simp only [Registers.enables, Prod.mk.injEq] at enables
  cases looping with
  | entered raised =>
    have noticed : usartReadIntFlag s.usart = true := by
      have idle := raised.idle
      simp only [State.line] at idle
      simp [usartReadIntFlag, idle, enables]
    simp only [Usart.usart1Isr, noticed, if_true]
    exact .noticed raised
  | noticed raised =>
    refine .closing ⟨raised.frames, raised.handed, raised.frame, raised.short⟩ rfl rfl ?_
    cases raised.holds with
    | deaf none disabled count => exact .deaf none disabled count
    | armed stored some enabled split offset count content =>
      exact .armed stored some enabled (by rw [split, raised.taken some]; rfl) offset count content
  | closing pending idle rxbne holds =>
    have line : (Usart.usart1Isr s .disable).line =
        { s.line with channel := { s.dma .ch5 with chen := false } } := line_write ready.clock _
    rw [line]
    exact pending.reading idle rxbne holds
  | @reading _ done last len closed count short =>
    have read : tmpLen s = len := by
      simp only [State.line] at count
      simp only [tmpLen, dmaReadDataNumber, ready.clock, if_true, count]
      simp only [maxLen] at *
      omega
    simp only [Usart.usart1Isr, read]
    exact .resetting closed
  | @resetting _ done last len closed =>
    have disabled := closed.disabled
    simp only [State.line] at disabled
    have line : (Usart.usart1Isr s (.configDataNumber len)).line =
        { s.line with channel := { s.dma .ch5 with chndata := maxLen } } := by
      refine (line_write ready.clock _).trans ?_
      simp [dmaConfigDataNumber, ChannelWrite.apply, disabled, maxLen]
    rw [line]
    exact .calling ⟨⟨closed.frames, closed.handed, closed.frame, closed.short⟩, closed.idle,
      closed.rxbne, disabled, closed.content⟩ rfl
  | @calling _ done last len closed count =>
    have added : handed (Usart.usart1Isr s (.callSend len)) =
        handed s ++ [bytes s.uartRxBuf len] := by
      simp [Usart.usart1Isr, State.called, handed, bytes, source]
    have handed := closed.handed
    have content := closed.content
    have frames := closed.frames
    simp only [State.line] at handed content frames
    refine .sending ⟨closed.idle, closed.rxbne, closed.disabled, count, closed.frame, ?_, ?_⟩
    · simp [State.line, Usart.usart1Isr, State.called, frames]
    · simp only [State.line, added, handed, content]
      simp only [Usart.usart1Isr, State.called, frames, delivered_snoc]
  | @sending _ len at_ sent =>
    have line : (Usart.usart1Isr s (.send len at_)).line = s.line := line_sendData s .isr len at_
    rw [line]
    simp only [Usart.usart1Isr]
    split
    · exact .sending sent
    · exact .rearming sent
  | rearming sent =>
    have disabled := sent.disabled
    simp only [State.line] at disabled
    have line : (Usart.usart1Isr s .enable).line =
        { s.line with channel := { s.dma .ch5 with chen := true, offset := 0 } } := by
      refine (line_write ready.clock _).trans ?_
      simp [dmaEnable, ChannelWrite.apply, disabled]
    rw [line]
    have some : s.line.handed ≠ [] := by
      rw [sent.handed, Ne, delivered_eq_nil]
      exact sent.some
    refine .receiving sent.idle sent.handed (by simp [sent.frame]) ?_
    exact .armed [] some rfl (by simp [sent.frame, sent.rxbne]) rfl sent.count rfl

theorem Line.Raised.quiet {s : State} {done : List (List Byte)} {last : List Byte}
    (raised : s.line.Raised done last) : ¬ BeatReady s .ch5 := by
  rintro ⟨request, enabled, _⟩
  cases raised.holds with
  | deaf _ disabled _ => exact absurd (enabled.symm.trans disabled) (by decide)
  | armed _ some =>
    have taken := raised.taken some
    simp only [State.line] at taken
    simp [Registers.request, taken] at request

theorem Looping.quiet {s : State} {pc : IsrPc} (looping : Looping (some pc) s.line) :
    ¬ BeatReady s .ch5 := by
  have empty (rxbne : s.line.rxbne = false) : ¬ BeatReady s .ch5 := by
    rintro ⟨request, _, _⟩
    simp only [State.line] at rxbne
    simp [Registers.request, rxbne] at request
  cases looping with
  | entered raised | noticed raised => exact raised.quiet
  | closing _ _ rxbne _ => exact empty rxbne
  | reading closed | resetting closed | calling closed => exact empty closed.rxbne
  | sending sent | rearming sent => exact empty sent.rxbne

theorem Looping.no_frame {l : Line} {pc : IsrPc} (looping : Looping (some pc) l) :
    l.frame = [] := by
  cases looping with
  | entered raised | noticed raised => exact raised.frame
  | closing pending => exact pending.frame
  | reading closed | resetting closed | calling closed => exact closed.frame
  | sending sent | rearming sent => exact sent.frame

theorem Line.Holds.beat {s : State} (ready : Ready s) (beat : BeatReady s .ch5)
    (holds : s.line.Holds s.frame) : (s.serve .ch5).line.Holds s.frame := by
  have enables := ready.enables
  simp only [Registers.enables, Prod.mk.injEq] at enables
  have full : s.usart.rxbne = true := by simpa [Registers.request, enables] using beat.1
  rw [beat_ch5 ready]
  cases holds with
  | deaf _ disabled _ => exact absurd (beat.2.1.symm.trans disabled) (by decide)
  | armed stored some enabled split offset count content =>
    simp only [State.line, full, if_true] at split offset count content
    refine .armed (stored ++ [s.usart.rdr]) some enabled (by simpa using split) ?_ ?_ ?_
    · simp [offset]
    · simp only [List.length_append, List.length_singleton]
      omega
    · simp only [List.length_append, List.length_singleton, offset, bytes_update, content]

theorem Line.Holds.receive {s : State} (ready : Ready s) (idle : ¬ BeatReady s .ch5)
    (holds : s.line.Holds s.frame) (short : s.frame.length ≤ maxLen) (value : Byte) :
    State.line { s with usart := s.usart.receive value, frame := s.frame ++ [value] } |>.Holds
      (s.frame ++ [value]) := by
  have served := holds.served ready short idle
  cases holds with
  | deaf none disabled count => exact .deaf none disabled count
  | armed stored some enabled split offset count content =>
    have empty := served some
    refine .armed stored some enabled ?_ offset count content
    simp only [State.line, empty] at split
    simp [State.line, Registers.receive, empty, split]

theorem Looping.step {s t : State} {label : Label} (ready : Ready s)
    (loop : s.main = .loop) (looping : Looping s.isr s.line) (admitted : Timely s label)
    (moves : Moves s label t) : Looping t.isr t.line := by
  cases moves with
  | isr running =>
    rw [running] at looping
    exact looping.usart1Isr ready
  | setup _ place | call _ place | send _ place => exact absurd (loop.symm.trans place) (by simp)
  | loop | shift => exact looping
  | preempt pending =>
    obtain ⟨running, _, _, idle⟩ := pending
    rw [running] at looping
    cases looping with
    | receiving quiet => exact absurd (idle.symm.trans quiet) (by decide)
    | waiting raised => exact .entered raised
  | @rx value _ =>
    obtain ⟨blocked, _, running, idle, room⟩ := admitted
    rw [running] at looping
    simp only [running]
    cases looping with
    | receiving quiet handed short holds =>
      refine .receiving quiet handed ?_ (holds.receive ready blocked short value)
      simp only [State.line, List.length_append, List.length_singleton]
      omega
    | waiting raised => exact absurd (raised.idle.symm.trans idle) (by decide)
  | idle =>
    obtain ⟨blocked, some⟩ := admitted
    cases running : s.isr with
    | some pc =>
      rw [running] at looping
      exact absurd looping.no_frame some
    | none =>
      rw [running] at looping
      cases looping with
      | receiving quiet handed short holds =>
        have served := holds.served ready short blocked
        have moved : Line.Holds { s.line with
            idle := true, frames := s.frames ++ [s.frame], frame := [] } s.frame := by
          cases holds with
          | deaf none disabled count => exact .deaf none disabled count
          | armed stored some enabled split offset count content =>
            exact .armed stored some enabled split offset count content
        exact .waiting ⟨⟨rfl, handed, rfl, short⟩, rfl, served, moved⟩
      | waiting raised => exact absurd raised.frame some
  | @beat which beat =>
    rw [(isr_serve s which).1]
    cases which with
    | ch4 => rwa [line_serve_ch4 ready]
    | ch5 =>
      cases running : s.isr with
      | some pc =>
        rw [running] at looping
        exact absurd beat looping.quiet
      | none =>
        rw [running] at looping
        cases looping with
        | receiving quiet handed short holds =>
          have next := holds.beat ready beat
          rw [beat_ch5 ready] at next ⊢
          exact .receiving quiet handed short next
        | waiting raised => exact absurd beat raised.quiet

theorem setup_leaves_channel5_disabled :
    ((programmed setup).dma .ch5).chen = false ∧ ((programmed setup).dma .ch5).chndata = maxLen :=
  ⟨rfl, rfl⟩

theorem Booting.setup {s : State} {stmt : Stmt} {rest : List Stmt} (booting : Booting s)
    (wired : Wired s) (place : s.main = .setup (stmt :: rest)) :
    Booting { stmt.run s with main := .setup rest } := by
  obtain ⟨isr, idle, rxbne, frames, frame, handed, _⟩ := booting
  obtain ⟨done, split, agree, _⟩ := wired.before stmt rest place
  refine ⟨?_, ?_, ?_, ?_, ?_, ?_, fun started => ?_⟩
  · cases stmt <;> exact isr
  · cases stmt <;> exact idle
  · cases stmt <;> exact rxbne
  · cases stmt <;> exact frames
  · cases stmt <;> exact frame
  · cases stmt <;> exact handed
  · have last : rest = [] := by
      cases rest with
      | nil => rfl
      | cons other tail => exact absurd rfl (started other tail)
    subst last
    have ran := (agree.run stmt).dma
    have whole : stmt.run (programmed done) = programmed Usart.setup := by
      simp [← split, programmed]
    rw [whole] at ran
    simp only [ran]
    exact setup_leaves_channel5_disabled

theorem Booting.of_line {s t : State} (booting : Booting s) (line : t.line = s.line)
    (isr : t.isr = none) (started : ∀ stmt rest, s.main ≠ .setup (stmt :: rest)) :
    Booting t where
  isr := isr
  idle := (congrArg Line.idle line).trans booting.idle
  rxbne := (congrArg Line.rxbne line).trans booting.rxbne
  frames := (congrArg Line.frames line).trans booting.frames
  frame := (congrArg Line.frame line).trans booting.frame
  handed := (congrArg Line.handed line).trans booting.handed
  channel := fun _ => by
    have same : t.dma .ch5 = s.dma .ch5 := congrArg Line.channel line
    rw [same]
    exact booting.channel started

theorem Booting.step {s t : State} {label : Label} (booting : Booting s) (wired : Wired s)
    (boot : s.main ≠ .loop) (admitted : Timely s label) (moves : Moves s label t) : Phase t := by
  have empty : ¬ BeatReady s .ch5 := fun beat => by
    simp [BeatReady, Registers.request, booting.rxbne] at beat
  cases moves with
  | isr running => exact absurd (booting.isr.symm.trans running) (by simp)
  | setup _ place => exact .booting (by simp) (booting.setup wired place)
  | call _ place =>
    have started : ∀ stmt rest, s.main ≠ .setup (stmt :: rest) := by simp [place]
    refine .booting (by simp) (booting.of_line ?_ booting.isr started)
    simp [State.line, State.called, Usart.handed]
  | @send pc _ place =>
    have started : ∀ stmt rest, s.main ≠ .setup (stmt :: rest) := by simp [place]
    have still : (mainStep s (.send pc)).isr = none := by
      cases pc <;> exact booting.isr
    have line : (mainStep s (.send pc)).line = s.line := line_sendData s .main sbuf.length pc
    have same := booting.of_line line still started
    by_cases loop : (mainStep s (.send pc)).main = .loop
    · refine .looping loop ?_
      rw [still]
      obtain ⟨disabled, count⟩ := same.channel (by simp [loop])
      refine .receiving same.idle ?_ ?_ (.deaf same.handed disabled count)
      · simp only [State.line, same.handed, same.frames, delivered]
      · simp [State.line, same.frame]
    · exact .booting loop same
  | loop _ place => exact absurd place boot
  | preempt pending => exact absurd (pending.2.2.2.symm.trans booting.idle) (by decide)
  | rx => exact absurd admitted.2.1 boot
  | idle => exact absurd booting.frame admitted.2
  | @beat which beat =>
    cases which with
    | ch4 =>
      have ready := wired.ready beat.2.1
      have started : ∀ stmt rest, s.main ≠ .setup (stmt :: rest) := fun stmt rest place => by
        have disabled := wired.disabled place .ch4
        exact absurd (beat.2.1.symm.trans disabled) (by decide)
      obtain ⟨isr, main⟩ := isr_serve s .ch4
      exact .booting (main ▸ boot)
        (booting.of_line (line_serve_ch4 ready) (isr.trans booting.isr) started)
    | ch5 => exact absurd beat empty
  | shift => exact .booting boot ⟨booting.isr, booting.idle, booting.rxbne, booting.frames,
      booting.frame, booting.handed, booting.channel⟩

theorem Phase.step {s t : State} {label : Label} (wired : Wired s) (phase : Phase s)
    (admitted : Timely s label) (moves : Moves s label t) : Phase t := by
  cases phase with
  | booting boot booting => exact booting.step wired boot admitted moves
  | looping loop looping =>
    have ready := wired.after (by simp [loop])
    have still : t.main = .loop := by
      cases moves with
      | isr _ => rw [main_usart1Isr, loop]
      | beat _ => rw [(isr_serve s _).2, loop]
      | setup _ place | call _ place | send _ place =>
        exact absurd (loop.symm.trans place) (by simp)
      | loop | preempt | rx | idle | shift => exact loop
    exact .looping still (looping.step ready loop admitted moves)

theorem reached_phase {labels : List Label} {s : State}
    (run : Run step Timely State.reset labels s) : Wired s ∧ Phase s := by
  refine run.invariant (fun s => Wired s ∧ Phase s) ⟨Wired.reset, .booting (by simp [State.reset])
    ⟨rfl, rfl, rfl, rfl, rfl, rfl, fun started => absurd rfl (started _ _)⟩⟩ ?_
  rintro before label after ⟨wired, phase⟩ admitted taken
  have moves := step_moves taken
  refine ⟨wired.step moves ?_, phase.step wired admitted moves⟩
  rintro rfl
  cases phase with
  | looping loop _ => rw [loop]; rfl
  | booting _ booting =>
    cases moves with
    | preempt pending => exact absurd (pending.2.2.2.symm.trans booting.idle) (by decide)

theorem Moves.frames {s t : State} {label : Label} (moves : Moves s label t)
    (other : label ≠ .idle) : t.frames = s.frames := by
  cases moves with
  | @isr pc _ =>
    cases pc with
    | send len pc => cases pc <;> rfl
    | _ => rfl
  | @setup stmt _ _ _ => cases stmt <;> rfl
  | @send pc _ _ => cases pc <;> rfl
  | @beat which _ =>
    unfold State.serve
    dsimp only
    split <;> rfl
  | idle => exact absurd rfl other
  | call | loop | preempt | rx | shift => rfl

theorem frames_nonempty {labels : List Label} {s : State}
    (run : Run step Timely State.reset labels s) : ∀ frame ∈ s.frames, frame ≠ [] := by
  refine run.invariant (fun s => ∀ frame ∈ s.frames, frame ≠ []) (by simp [State.reset]) ?_
  intro before label after nonempty admitted taken
  have moves := step_moves taken
  by_cases ends : label = .idle
  · subst ends
    cases moves with
    | idle =>
      intro frame member
      rcases List.mem_append.mp member with earlier | last
      · exact nonempty frame earlier
      · rw [List.mem_singleton.mp last]
        exact admitted.2
  · rw [moves.frames ends]
    exact nonempty

-- `main` is in its loop, the interrupt is not running and the DMA engine owes no byte.
def Settled (s : State) : Prop := s.main = .loop ∧ s.isr = none ∧ ¬ BeatReady s .ch5

def current (s : State) : List Byte := if s.usart.idle then s.frames.getLastD [] else s.frame

instance (s : State) : Decidable (Settled s) := by unfold Settled; infer_instance

def Armed (s : State) : Prop :=
  (s.dma .ch5).chen = true ∧ (s.dma .ch5).chndata = maxLen - (current s).length

/-- Channel 5 is armed and every completed frame has been handed over, whenever the run is
outside the interrupt in the loop of `main`. -/
def Lossless (labels : List Label) : Prop :=
  ∀ before after s, before ++ after = labels → Run step Timely State.reset before s → Settled s →
    Armed s ∧ (s.usart.idle = false → (handed s).flatten = s.frames.flatten)

theorem Phase.unarmed {s : State} (phase : Phase s) (loop : s.main = .loop)
    (none : s.frames = []) : Settled s ∧ ¬ Armed s := by
  have pending {done : List (List Byte)} {last : List Byte} (pending : s.line.Pending done last) :
      False := by
    have some := pending.frames
    simp [State.line, none] at some
  cases phase with
  | booting boot _ => exact absurd loop boot
  | looping _ looping =>
    generalize place : s.isr = isr at looping
    cases looping with
    | receiving _ unheard _ holds =>
      cases holds with
      | armed _ some => exact absurd (unheard.trans (congrArg delivered none)) some
      | deaf _ disabled _ =>
        have off : (s.dma .ch5).chen ≠ true := ne_true_of_eq_false disabled
        exact ⟨⟨loop, place, fun beat => off beat.2.1⟩, fun armed => off armed.1⟩
    | waiting raised | entered raised | noticed raised => exact (pending raised.toPending).elim
    | closing open_ => exact (pending open_).elim
    | reading closed | resetting closed | calling closed => exact (pending closed.toPending).elim
    | sending sent | rearming sent => exact absurd none sent.some

/-- Between frames exactly the first frame is missing, and only then is channel 5 not armed. -/
theorem Phase.between {s : State} (wired : Wired s) (phase : Phase s) (settled : Settled s)
    (idle : s.usart.idle = false) :
    handed s = delivered s.frames ∧ (Armed s ↔ s.frames ≠ []) := by
  obtain ⟨loop, running, served⟩ := settled
  cases phase with
  | booting boot _ => exact absurd loop boot
  | looping _ looping =>
    rw [running] at looping
    cases looping with
    | waiting raised => exact absurd (raised.idle.symm.trans idle) (by decide)
    | receiving _ handed short holds =>
      refine ⟨handed, ?_⟩
      have unheard : s.line.handed = [] ↔ s.frames = [] := by rw [handed]; exact delivered_eq_nil
      rw [← not_iff_not, not_not, ← unheard]
      have frame : current s = s.frame := by simp [current, idle]
      have ready := wired.after (by simp [loop])
      constructor
      · intro unarmed
        cases holds with
        | deaf none => exact none
        | armed stored some enabled split offset count content =>
          have held : s.line.Holds s.frame :=
            .armed stored some enabled split offset count content
          have empty := held.served ready short served some
          simp only [State.line, empty] at split enabled count
          refine absurd ⟨enabled, ?_⟩ unarmed
          simpa [frame, split] using count
      · intro none armed
        cases holds with
        | deaf _ disabled _ => exact absurd (armed.1.symm.trans disabled) (by decide)
        | armed _ some => exact absurd none some

theorem Run.loop_stays {s t : State} {labels : List Label} (run : Run step Timely s labels t)
    (loop : s.main = .loop) : t.main = .loop := by
  refine run.invariant (fun t => t.main = .loop) loop fun before label after looping _ taken => ?_
  cases step_moves taken with
  | isr _ => rw [main_usart1Isr, looping]
  | beat _ => rw [(isr_serve before _).2, looping]
  | setup _ place | call _ place | send _ place =>
    exact absurd (looping.symm.trans place) (by simp)
  | loop | preempt | rx | idle | shift => exact looping

theorem lossless_iff_not_looping {labels : List Label} {s : State}
    (run : Run step Timely State.reset labels s) :
    (Lossless labels ↔ s.main ≠ .loop) ∧
      (Settled s → s.usart.idle = false →
        handed s = delivered s.frames ∧ (Armed s ↔ s.frames ≠ []) ∧
        ((handed s).flatten = s.frames.flatten ↔ s.frames = [])) := by
  constructor
  · constructor
    · intro lossless loop
      obtain ⟨earlier, label, later, before, after, split, reached, admitted, taken, boot, entered⟩ :=
        run.entry (fun s => s.main = .loop) (by simp [State.reset]) loop
      have moves := step_moves taken
      have next := reached.snoc admitted taken
      have phase := (reached_phase next).2
      have none : after.frames = [] := by
        cases (reached_phase reached).2 with
        | looping looping _ => exact absurd looping boot
        | booting _ booting =>
          by_cases ends : label = .idle
          · subst ends
            exact absurd booting.frame admitted.2
          · rw [moves.frames ends, booting.frames]
      obtain ⟨settled, unarmed⟩ := phase.unarmed entered none
      exact unarmed (lossless (earlier ++ [label]) later after (by simp [split]) next settled).1
    · rintro boot before after t rfl reached settled
      obtain ⟨middle, left, right⟩ := run.split
      obtain rfl := left.unique reached
      exact absurd (Run.loop_stays right settled.1) boot
  · intro settled idle
    obtain ⟨wired, phase⟩ := reached_phase run
    obtain ⟨handed, armed⟩ := phase.between wired settled idle
    exact ⟨handed, armed, handed ▸ delivered_eq_self (frames_nonempty run)⟩

-- Two bytes and an idle line reach the loop, and `USART1_Isr` runs to its end.
def firstFrame : List Label :=
  List.replicate 66 .cpu ++ [.rx 65, .rx 66, .idle, .preempt] ++ List.replicate 12 .cpu

theorem firstFrame_accepted : (execute step Timely State.reset firstFrame).isSome = true := by
  decide

theorem firstFrame_not_lossless : ¬ Lossless firstFrame := by
  have exact_ := lossless_iff_not_looping (Run.final step Timely _ firstFrame firstFrame_accepted)
  exact fun lossless => exact_.1.mp lossless (by decide)

theorem first_frame_not_handed_over :
    ¬ ∀ (labels : List Label) (s : State), Run step Timely State.reset labels s →
      Lossless labels := by
  intro lossless
  have run := Run.final step Timely _ firstFrame firstFrame_accepted
  have received := (lossless firstFrame _ run firstFrame [] _ (by simp) run (by decide)).2
  exact absurd (received (by decide)) (by decide)

end ApmSdk.Usart
