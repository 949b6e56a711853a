import ApmSdk.Usart.Program
import Mathlib.Tactic.IntervalCases

set_option autoImplicit false

/-!
# What `main` has programmed when `config_dma` returns

The enable bits and the channel addresses that `main` writes before `send_data`, and the fact
that no later step changes them, as long as `USART1_Isr` is not entered inside `config_dma`.
-/

namespace ApmSdk.Usart

def Registers.enables (usart : Registers) : Bool × Bool × Bool × Bool :=
  (usart.uen, usart.idleIen, usart.dmaTx, usart.dmaRx)

def DmaChannel.wiring (channel : DmaChannel) : MemoryAddr × PeripheralAddr × DmaDir × Bool :=
  (channel.chmaddr, channel.chpaddr, channel.dircfg, channel.mimode)

structure SameWiring (s t : State) : Prop where
  clock : t.dmaClock = s.dmaClock
  irq : t.irqEnabled = s.irqEnabled
  enables : t.usart.enables = s.usart.enables
  channels : ∀ channel, (t.dma channel).wiring = (s.dma channel).wiring

theorem SameWiring.write {s : State} {channel : Channel} {action : ChannelWrite}
    (kept : ∀ before, (action.apply before).wiring = before.wiring) :
    SameWiring s (s.write channel action) := by
  refine ⟨rfl, rfl, rfl, fun other => ?_⟩
  simp only [State.write]
  split
  · by_cases same : other = channel
    · subst same
      simpa using kept _
    · simp [Function.update_of_ne same]
  · rfl

theorem wiring_chen (enable : Bool) (before : DmaChannel) :
    ((ChannelWrite.chen enable).apply before).wiring = before.wiring := by
  cases enable
  · rfl
  · simp only [ChannelWrite.apply]
    split <;> rfl

theorem wiring_chndata (value : Nat) (before : DmaChannel) :
    ((ChannelWrite.chndata value).apply before).wiring = before.wiring := by
  simp only [ChannelWrite.apply]
  split <;> rfl

theorem SameWiring.sendData (s : State) (caller : Caller) (len : Nat) (pc : SendPc) :
    SameWiring s (sendData s caller len pc).1 := by
  cases pc with
  | copy | waitTxbe => exact ⟨rfl, rfl, rfl, fun _ => rfl⟩
  | disable | enable => exact .write (wiring_chen _)
  | configDataNumber => exact .write (wiring_chndata _)

theorem SameWiring.usart1Isr (s : State) (pc : IsrPc) : SameWiring s (usart1Isr s pc) := by
  have moved (t : State) (same : SameWiring s t) (pc : Option IsrPc) :
      SameWiring s { t with isr := pc } := ⟨same.clock, same.irq, same.enables, same.channels⟩
  cases pc with
  | readIntFlag | rxData | readDataNumber | callSend => exact ⟨rfl, rfl, rfl, fun _ => rfl⟩
  | disable | enable => exact moved _ (.write (wiring_chen _)) _
  | configDataNumber => exact moved _ (.write (wiring_chndata _)) _
  | send len pc => exact moved _ (.sendData s .isr len pc) _

theorem SameWiring.serve (s : State) (which : Channel) : SameWiring s (s.serve which) := by
  unfold State.serve
  dsimp only
  split <;>
  · refine ⟨rfl, rfl, rfl, fun other => ?_⟩
    by_cases same : other = which
    · subst same
      simp only [Function.update_self]
      rfl
    · simp [Function.update_of_ne same]

theorem Moves.wiring {s t : State} {label : Label} (moves : Moves s label t)
    (started : ∀ stmt rest, s.main ≠ .setup (stmt :: rest)) : SameWiring s t := by
  cases moves with
  | isr _ => exact .usart1Isr s _
  | setup _ place => exact absurd place (started _ _)
  | @send pc _ _ =>
    have sent := SameWiring.sendData s .main sbuf.length pc
    exact ⟨sent.clock, sent.irq, sent.enables, sent.channels⟩
  | beat _ => exact .serve s _
  | call | loop | preempt | rx | idle | shift => exact ⟨rfl, rfl, rfl, fun _ => rfl⟩

structure Ready (s : State) : Prop where
  clock : s.dmaClock = true
  irq : s.irqEnabled = true
  enables : s.usart.enables = (true, true, true, true)
  tx : (s.dma .ch4).wiring = (.uartTxBuf, .data, .peripheralDst, true)
  rx : (s.dma .ch5).wiring = (.uartRxBuf, .data, .peripheralSrc, true)

theorem Ready.of_same {s t : State} (ready : Ready s) (same : SameWiring s t) : Ready t where
  clock := same.clock.trans ready.clock
  irq := same.irq.trans ready.irq
  enables := same.enables.trans ready.enables
  tx := (same.channels .ch4).trans ready.tx
  rx := (same.channels .ch5).trans ready.rx

-- Two states agree on everything the statements before `send_data` program.
structure Agree (s t : State) : Prop where
  clock : s.dmaClock = t.dmaClock
  irq : s.irqEnabled = t.irqEnabled
  enables : s.usart.enables = t.usart.enables
  dma : s.dma = t.dma

theorem Agree.run {s t : State} (agree : Agree s t) (stmt : Stmt) :
    Agree (stmt.run s) (stmt.run t) := by
  obtain ⟨clock, irq, enables, dma⟩ := agree
  simp only [Registers.enables, Prod.mk.injEq] at enables
  cases stmt <;> constructor <;> simp_all [Stmt.run, State.write, Registers.enables]

def programmed (done : List Stmt) : State := done.foldl Stmt.run State.reset

theorem Stmt.run_disabled {s : State} {stmt : Stmt}
    (harmless : ∀ channel, stmt ≠ .write channel (.chen true))
    (off : ∀ channel, (s.dma channel).chen = false) (channel : Channel) :
    ((stmt.run s).dma channel).chen = false := by
  cases stmt with
  | write which action =>
    simp only [Stmt.run, State.write]
    split
    · by_cases same : channel = which
      · subst same
        simp only [Function.update_self]
        cases action with
        | chen enable =>
          cases enable with
          | false => rfl
          | true => exact absurd rfl (harmless channel)
        | chcfgZero => rfl
        | chndata | chpaddr | chmaddr => simp only [ChannelWrite.apply, off]; rfl
        | _ => exact off channel
      · simpa [Function.update_of_ne same] using off channel
    · exact off channel
  | _ => exact off channel

theorem programmed_disabled (done : List Stmt)
    (harmless : ∀ stmt ∈ done, ∀ channel, stmt ≠ .write channel (.chen true)) :
    ∀ channel, ((programmed done).dma channel).chen = false := by
  induction done using List.reverseRecOn with
  | nil => exact fun _ => rfl
  | append_singleton done stmt ih =>
    have off := ih fun earlier member => harmless earlier (by simp [member])
    simp only [programmed, List.foldl_append, List.foldl_cons, List.foldl_nil]
    exact fun channel => Stmt.run_disabled (harmless stmt (by simp)) off channel

theorem setup_enables_no_channel :
    ∀ stmt ∈ setup, ∀ channel, stmt ≠ .write channel (.chen true) := by
  intro stmt member channel
  cases channel <;> revert stmt <;> decide

theorem programmed_setup : Ready (programmed setup) := by
  constructor <;> rfl

-- `main` has started `config_dma` and not yet returned from it.
def insideConfigDma : MainPc → Bool
  | .setup rest => 0 < rest.length && rest.length < configDma.length
  | _ => false

theorem clock_off_before_config {done rest : List Stmt} {stmt : Stmt}
    (split : done ++ stmt :: rest = setup)
    (outside : insideConfigDma (.setup (stmt :: rest)) = false) :
    (programmed done).dmaClock = false := by
  have total := congrArg List.length split
  simp only [List.length_append, List.length_cons] at total
  have size : setup.length = 6 + configDma.length := by decide
  have early : done.length ≤ 6 := by
    simp only [insideConfigDma, List.length_cons, Bool.and_eq_false_iff,
      decide_eq_false_iff_not] at outside
    omega
  have taken : done = setup.take done.length := by rw [← split]; simp
  rw [taken]
  generalize done.length = count at early
  interval_cases count <;> rfl

-- What holds of every state as long as `USART1_Isr` is not entered inside `config_dma`.
structure Wired (s : State) : Prop where
  before : ∀ stmt rest, s.main = .setup (stmt :: rest) →
    ∃ done, done ++ stmt :: rest = setup ∧ Agree s (programmed done) ∧
      (s.dmaClock = true → s.isr = none)
  after : (∀ stmt rest, s.main ≠ .setup (stmt :: rest)) → Ready s

theorem Wired.reset : Wired State.reset where
  before := by
    intro stmt rest place
    exact ⟨[], by simpa [State.reset] using place.symm, ⟨rfl, rfl, rfl, rfl⟩, fun _ => rfl⟩
  after := fun started => absurd rfl (started _ _)

theorem Agree.isr {s : State} (off : s.dmaClock = false) (pc : IsrPc) :
    Agree (usart1Isr s pc) s := by
  have dropped (channel : Channel) (action : ChannelWrite) : (s.write channel action).dma = s.dma := by
    simp [State.write, off]
  cases pc with
  | readIntFlag | rxData | readDataNumber | callSend => exact ⟨rfl, rfl, rfl, rfl⟩
  | disable | configDataNumber | enable => exact ⟨rfl, rfl, rfl, dropped _ _⟩
  | send len pc =>
    cases pc with
    | copy | waitTxbe => exact ⟨rfl, rfl, rfl, rfl⟩
    | disable | configDataNumber | enable => exact ⟨rfl, rfl, rfl, dropped _ _⟩

theorem main_usart1Isr (s : State) (pc : IsrPc) : (usart1Isr s pc).main = s.main := by
  cases pc with
  | send len pc => cases pc <;> rfl
  | _ => rfl

theorem isr_serve (s : State) (which : Channel) :
    (s.serve which).isr = s.isr ∧ (s.serve which).main = s.main := by
  unfold State.serve
  dsimp only
  split <;> exact ⟨rfl, rfl⟩

theorem Wired.disabled {s : State} (wired : Wired s) {stmt : Stmt} {rest : List Stmt}
    (place : s.main = .setup (stmt :: rest)) (channel : Channel) :
    (s.dma channel).chen = false := by
  obtain ⟨done, split, agree, _⟩ := wired.before stmt rest place
  rw [agree.dma]
  refine programmed_disabled done (fun stmt member => ?_) channel
  exact setup_enables_no_channel stmt (split ▸ List.mem_append_left _ member)

theorem Wired.run_disabled {s : State} (wired : Wired s) {stmt : Stmt} {rest : List Stmt}
    (place : s.main = .setup (stmt :: rest)) (channel : Channel) :
    ((stmt.run s).dma channel).chen = false := by
  obtain ⟨done, split, _, _⟩ := wired.before stmt rest place
  refine Stmt.run_disabled (setup_enables_no_channel stmt ?_) (wired.disabled place) channel
  simp [← split]

/-- An enabled channel is one `config_dma` has finished programming. -/
theorem Wired.ready {s : State} (wired : Wired s) {channel : Channel}
    (enabled : (s.dma channel).chen = true) : Ready s := by
  refine wired.after fun stmt rest place => ?_
  rw [wired.disabled place channel] at enabled
  cases enabled

theorem Wired.step {s t : State} {label : Label} (wired : Wired s) (moves : Moves s label t)
    (outside : label = .preempt → insideConfigDma s.main = false) : Wired t := by
  by_cases started : ∀ stmt rest, s.main ≠ .setup (stmt :: rest)
  · have ready := (wired.after started).of_same (moves.wiring started)
    refine ⟨fun stmt rest place => ?_, fun _ => ready⟩
    have kept : t.main ≠ .setup (stmt :: rest) := by
      cases moves with
      | isr _ => rw [main_usart1Isr]; exact started _ _
      | beat _ => rw [(isr_serve s _).2]; exact started _ _
      | setup _ here => exact absurd here (started _ _)
      | call => simp
      | @send pc _ _ => cases pc <;> simp [mainStep, sendData]
      | loop | preempt | rx | idle | shift => exact started _ _
    exact absurd place kept
  · push Not at started
    obtain ⟨stmt, rest, place⟩ := started
    obtain ⟨done, split, agree, quiet⟩ := wired.before stmt rest place
    have unmoved (main : t.main = s.main) (same : Agree t s)
        (still : t.dmaClock = true → t.isr = none) : Wired t := by
      refine ⟨fun other tail here => ?_, fun started => absurd (main.trans place) (started _ _)⟩
      have eq := here.symm.trans (main.trans place)
      simp only [MainPc.setup.injEq, List.cons.injEq] at eq
      obtain ⟨rfl, rfl⟩ := eq
      exact ⟨done, split, ⟨same.clock.trans agree.clock, same.irq.trans agree.irq,
        same.enables.trans agree.enables, same.dma.trans agree.dma⟩, still⟩
    have disabled := wired.disabled place
    cases moves with
    | @isr pc running =>
      have off : s.dmaClock = false := by
        by_contra on
        rw [quiet (by simpa using on)] at running
        cases running
      refine unmoved (main_usart1Isr s pc) (.isr off pc) (fun on => ?_)
      rw [(Agree.isr off pc).clock, off] at on
      cases on
    | @setup stmt' rest' idle here =>
      have eq := here.symm.trans place
      simp only [MainPc.setup.injEq, List.cons.injEq] at eq
      obtain ⟨rfl, rfl⟩ := eq
      have ran : Agree { stmt'.run s with main := .setup rest' } (programmed (done ++ [stmt'])) := by
        have run := agree.run stmt'
        simp only [programmed, List.foldl_append, List.foldl_cons, List.foldl_nil]
        exact ⟨run.clock, run.irq, run.enables, run.dma⟩
      have still : (stmt'.run s).isr = none := by cases stmt' <;> exact idle
      refine ⟨fun other tail here => ?_, fun started => ?_⟩
      · obtain rfl := MainPc.setup.inj here
        exact ⟨done ++ [stmt'], by simpa using split, ran, fun _ => still⟩
      · have last : rest' = [] := by
          cases rest' with
          | nil => rfl
          | cons other tail => exact absurd rfl (started other tail)
        subst last
        rw [split] at ran
        have ready := programmed_setup
        exact ⟨ran.clock.trans ready.clock, ran.irq.trans ready.irq,
          ran.enables.trans ready.enables, by rw [ran.dma]; exact ready.tx,
          by rw [ran.dma]; exact ready.rx⟩
    | call _ here => exact absurd (here.symm.trans place) (by simp)
    | send _ here => exact absurd (here.symm.trans place) (by simp)
    | loop _ here => exact absurd (here.symm.trans place) (by simp)
    | preempt _ =>
      have off := clock_off_before_config split (place ▸ outside rfl)
      refine unmoved rfl ⟨rfl, rfl, rfl, rfl⟩ (fun on => ?_)
      rw [agree.clock.trans off] at on
      cases on
    | beat ready => exact absurd ready.2.1 (by simp [disabled])
    | rx | idle | shift => exact unmoved rfl ⟨rfl, rfl, rfl, rfl⟩ quiet

end ApmSdk.Usart
