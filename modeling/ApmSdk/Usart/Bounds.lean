import ApmSdk.Usart.Setup

set_option autoImplicit false

/-!
# Buffer bounds of the idle-line example

The counts and offsets of channels 4 and 5 stay inside `uart_tx_buf` and `uart_rx_buf` in every
run that does not enter `USART1_Isr` inside `config_dma`, and leave them in a run that does.
-/

namespace ApmSdk.Usart

open Runs

/-- Every access the next statement or DMA beat makes lies inside its buffer. -/
structure Safe (s : State) : Prop where
  read : s.isr = some .readDataNumber →
    dmaReadDataNumber s .ch5 ≤ maxLen ∧ tmpLen s = maxLen - dmaReadDataNumber s .ch5
  copyMain : ∀ done, s.main = .send (.copy done) → done < sbuf.length →
    done < maxLen
  copyIsr : ∀ len done, s.isr = some (.send len (.copy done)) → len ≤ maxLen ∧
    (done < len → done < maxLen)
  load : BeatReady s .ch4 → (s.dma .ch4).chmaddr = .uartTxBuf ∧ (s.dma .ch4).offset < maxLen
  store : BeatReady s .ch5 → (s.dma .ch5).chmaddr = .uartRxBuf ∧ (s.dma .ch5).offset < maxLen

def OutsideConfigDma (s : State) (label : Label) : Prop :=
  label = .preempt → insideConfigDma s.main = false

instance (s : State) (label : Label) : Decidable (OutsideConfigDma s label) := by
  unfold OutsideConfigDma; infer_instance

def IsrPc.tmpLen : IsrPc → Nat
  | .configDataNumber len | .callSend len | .send len _ => len
  | _ => 0

structure DmaChannel.Bounded (channel : DmaChannel) : Prop where
  count : channel.chndata ≤ maxLen
  room : channel.chen = true → channel.offset + channel.chndata ≤ maxLen

theorem DmaChannel.Bounded.apply {channel : DmaChannel} (bounded : channel.Bounded)
    (action : ChannelWrite) (small : ∀ value, action = .chndata value → value ≤ maxLen) :
    (action.apply channel).Bounded := by
  obtain ⟨count, room⟩ := bounded
  cases action with
  | chen enable =>
    cases enable with
    | false => exact ⟨count, by simp [ChannelWrite.apply]⟩
    | true =>
      simp only [ChannelWrite.apply]
      split
      · exact ⟨count, room⟩
      · exact ⟨count, fun _ => by simpa using count⟩
  | chcfgZero => exact ⟨count, by simp [ChannelWrite.apply]⟩
  | chndata value =>
    have := small value rfl
    simp only [ChannelWrite.apply]
    split
    · exact ⟨count, room⟩
    · next off => exact ⟨by dsimp only; omega, fun on => absurd on off⟩
  | chpaddr | chmaddr =>
    simp only [ChannelWrite.apply]
    split <;> exact ⟨count, room⟩
  | _ => exact ⟨count, room⟩

theorem DmaChannel.Bounded.beat {channel : DmaChannel} (bounded : channel.Bounded)
    (enabled : channel.chen = true) (left : 0 < channel.chndata) : channel.beat.Bounded := by
  obtain ⟨count, room⟩ := bounded
  have fits := room enabled
  constructor
  · simp only [DmaChannel.beat]
    omega
  · intro _
    simp only [DmaChannel.beat]
    split <;> omega

structure Bounded (s : State) : Prop where
  channels : ∀ channel, (s.dma channel).Bounded
  held : ∀ pc, s.isr = some pc → pc.tmpLen ≤ maxLen

theorem Bounded.reset : Bounded State.reset := by
  refine ⟨fun _ => ⟨Nat.zero_le _, by simp [State.reset, DmaChannel.reset]⟩, fun pc running => ?_⟩
  cases running

theorem Bounded.write {s : State} (bounded : Bounded s) (channel : Channel)
    (action : ChannelWrite) (small : ∀ value, action = .chndata value → value ≤ maxLen)
    (other : Channel) : ((s.write channel action).dma other).Bounded := by
  simp only [State.write]
  split
  · by_cases same : other = channel
    · subst same
      simpa using (bounded.channels other).apply action small
    · simpa [Function.update_of_ne same] using bounded.channels other
  · exact bounded.channels other

theorem tmpLen_eq {s : State} (bounded : Bounded s) :
    dmaReadDataNumber s .ch5 ≤ maxLen ∧ tmpLen s = maxLen - dmaReadDataNumber s .ch5 := by
  have read : dmaReadDataNumber s .ch5 ≤ maxLen := by
    unfold dmaReadDataNumber
    split
    · exact (bounded.channels .ch5).count
    · exact Nat.zero_le _
  refine ⟨read, ?_⟩
  unfold tmpLen
  simp only [maxLen] at *
  omega

theorem Bounded.sendData {s : State} (bounded : Bounded s) (caller : Caller) {len : Nat}
    (small : len ≤ maxLen) (pc : SendPc) (channel : Channel) :
    ((sendData s caller len pc).1.dma channel).Bounded := by
  cases pc with
  | copy | waitTxbe => exact bounded.channels channel
  | disable | enable => exact bounded.write _ _ (by simp [dmaDisable, dmaEnable]) _
  | configDataNumber =>
    refine bounded.write _ _ (fun value eq => ?_) _
    simp only [dmaConfigDataNumber, ChannelWrite.chndata.injEq] at eq
    omega

theorem Bounded.usart1Isr {s : State} (bounded : Bounded s) {pc : IsrPc}
    (running : s.isr = some pc) : Bounded (usart1Isr s pc) := by
  have held := bounded.held pc running
  have read := tmpLen_eq bounded
  cases pc with
  | readIntFlag =>
    refine ⟨bounded.channels, fun pc next => ?_⟩
    simp only [Usart.usart1Isr] at next
    split at next <;> cases next
    exact Nat.zero_le _
  | rxData => exact ⟨bounded.channels, fun pc next => by cases next; exact Nat.zero_le _⟩
  | disable =>
    refine ⟨bounded.write _ _ (by simp [dmaDisable]), fun pc next => ?_⟩
    cases next
    exact Nat.zero_le _
  | readDataNumber =>
    refine ⟨bounded.channels, fun pc next => ?_⟩
    cases next
    simp only [IsrPc.tmpLen]
    omega
  | configDataNumber len =>
    refine ⟨bounded.write _ _ (by simp [dmaConfigDataNumber]), fun pc next => ?_⟩
    cases next
    exact held
  | callSend len => exact ⟨bounded.channels, fun pc next => by cases next; exact held⟩
  | send len at_ =>
    refine ⟨bounded.sendData .isr held at_, fun pc next => ?_⟩
    simp only [Usart.usart1Isr, Option.some.injEq] at next
    subst next
    split
    · exact held
    · exact Nat.zero_le _
  | enable => exact ⟨bounded.write _ _ (by simp [dmaEnable]), by simp [Usart.usart1Isr]⟩

theorem setup_counts_small :
    ∀ stmt ∈ setup, ∀ channel value, stmt = .write channel (.chndata value) → value ≤ maxLen := by
  intro stmt member channel value eq
  subst eq
  simp [setup, configDma, dmaReset, dmaConfig, txConfig, rxConfig] at member
  have := member
  omega

theorem Bounded.step {s t : State} {label : Label} (wired : Wired s) (bounded : Bounded s)
    (moves : Moves s label t) : Bounded t := by
  cases moves with
  | isr running => exact bounded.usart1Isr running
  | @setup stmt rest idle place =>
    obtain ⟨done, split, _, _⟩ := wired.before stmt rest place
    have member : stmt ∈ setup := by simp [← split]
    have small := setup_counts_small stmt member
    constructor
    · intro channel
      cases stmt with
      | write which action =>
        exact bounded.write which action (fun value eq => small which value (by rw [eq])) channel
      | _ => exact bounded.channels channel
    · intro pc running
      have still : (stmt.run s).isr = none := by cases stmt <;> exact idle
      exact absurd running (by simp [still])
  | @send pc idle place =>
    refine ⟨bounded.sendData .main (by decide) pc, fun pc' running => ?_⟩
    have still : (Usart.sendData s .main sbuf.length pc).1.isr = none := by
      cases pc <;> exact idle
    exact absurd running (by simp [mainStep, still])
  | preempt _ =>
    refine ⟨bounded.channels, fun pc running => ?_⟩
    cases running
    exact Nat.zero_le _
  | @beat which ready =>
    refine ⟨fun channel => ?_, fun pc running => ?_⟩
    · have moved : (s.serve which).dma = Function.update s.dma which (s.dma which).beat := by
        unfold State.serve
        dsimp only
        split <;> rfl
      rw [moved]
      by_cases same : channel = which
      · subst same
        simpa using (bounded.channels channel).beat ready.2.1 ready.2.2
      · simpa [Function.update_of_ne same] using bounded.channels channel
    · rw [(isr_serve s which).1] at running
      exact bounded.held pc running
  | call | loop | rx | idle | shift => exact ⟨bounded.channels, bounded.held⟩

theorem Bounded.safe {s : State} (wired : Wired s) (bounded : Bounded s) : Safe s where
  read := fun _ => tmpLen_eq bounded
  copyMain := by
    intro done _ more
    have size : sbuf.length ≤ maxLen := by decide
    omega
  copyIsr := by
    intro len done running
    have small := bounded.held _ running
    simp only [IsrPc.tmpLen] at small
    omega
  load := by
    intro ready
    have tx := (wired.ready ready.2.1).tx
    have room := (bounded.channels .ch4).room ready.2.1
    simp only [DmaChannel.wiring, Prod.mk.injEq] at tx
    exact ⟨tx.1, by have := ready.2.2; omega⟩
  store := by
    intro ready
    have rx := (wired.ready ready.2.1).rx
    have room := (bounded.channels .ch5).room ready.2.1
    simp only [DmaChannel.wiring, Prod.mk.injEq] at rx
    exact ⟨rx.1, by have := ready.2.2; omega⟩

theorem reached_bounded {labels : List Label} {s : State}
    (run : Run step OutsideConfigDma State.reset labels s) : Wired s ∧ Bounded s := by
  refine run.invariant (fun s => Wired s ∧ Bounded s) ⟨Wired.reset, Bounded.reset⟩ ?_
  rintro before label after ⟨wired, bounded⟩ admitted taken
  have moves := step_moves taken
  exact ⟨wired.step moves admitted, bounded.step wired moves⟩

theorem accesses_in_bounds {labels : List Label} {s : State}
    (run : Run step OutsideConfigDma State.reset labels s) : Safe s := by
  obtain ⟨wired, bounded⟩ := reached_bounded run
  exact bounded.safe wired

-- A frame of two bytes that arrives in the loop and is handed over by `USART1_Isr`.
def frameAfterConfig : List Label :=
  List.replicate 66 .cpu ++ [.rx 65, .rx 66, .idle, .preempt] ++ List.replicate 4 .cpu

theorem accesses_in_bounds_after_frame :
    Safe (final step OutsideConfigDma State.reset frameAfterConfig (by decide)) :=
  accesses_in_bounds (Run.final step OutsideConfigDma State.reset frameAfterConfig (by decide))

/-- `USART1_Isr` preempts `config_dma` after channel 5 has its count and before it has its
memory address, and leaves the channel enabled. -/
def frameInsideConfig : List Label :=
  List.replicate 39 .cpu ++ [.rx 65, .idle, .preempt] ++ List.replicate 12 .cpu ++ [.rx 66]

theorem channel5_stores_at_null :
    ¬ ∀ (labels : List Label) (s : State), Run step free State.reset labels s → Safe s := by
  intro safe
  have run := Run.final step free State.reset frameInsideConfig (by decide)
  have store := (safe _ _ run).store (by decide)
  exact absurd store.1 (by decide)

end ApmSdk.Usart
