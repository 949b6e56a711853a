import ApmSdk.Lib.Runs
import ApmSdk.Usart.Hardware

set_option autoImplicit false

/-!
# The idle-line example as a transition system

`main` and `USART1_Isr` run statement by statement; between any two statements the
line, the DMA engine and the transmitter may move, and a pending idle interrupt may
preempt `main`.
-/

namespace ApmSdk.Usart

inductive Stmt where
  | ledInit
  | enableApb2PeriphClock
  | comInit
  | enableDma
  | enableInterrupt
  | enableIrqRequest
  | enableAhbPeriphClock
  | write (channel : Channel) (action : ChannelWrite)
  deriving DecidableEq

def txConfig : DmaConfig where
  peripheralBaseAddr := .data
  memoryBaseAddr := .uartTxBuf
  dir := .peripheralDst
  bufferSize := 0
  peripheralInc := false
  memoryInc := true
  peripheralDataSize := .byte
  memoryDataSize := .byte
  loopMode := false
  priority := .high
  m2m := false

def rxConfig : DmaConfig :=
  { txConfig with
    peripheralBaseAddr := .data
    memoryBaseAddr := .uartRxBuf
    dir := .peripheralSrc
    bufferSize := maxLen }

def configDma : List Stmt :=
  .enableAhbPeriphClock ::
    ((dmaReset ++ dmaConfig txConfig).map (Stmt.write .ch4) ++
      (dmaReset ++ dmaConfig rxConfig).map (Stmt.write .ch5))

def setup : List Stmt :=
  [.ledInit, .enableApb2PeriphClock, .comInit, .enableDma, .enableInterrupt,
    .enableIrqRequest] ++ configDma

def sbuf : List Byte := [115, 116, 97, 114, 116, 32, 116, 101, 115, 116, 46, 46, 13, 10]

-- `copy` counts the bytes `memcpy` has moved.
inductive SendPc where
  | copy (done : Nat)
  | waitTxbe
  | disable
  | configDataNumber
  | enable
  deriving DecidableEq, Repr

inductive MainPc where
  | setup (rest : List Stmt)
  | send (pc : SendPc)
  | loop
  deriving DecidableEq

inductive IsrPc where
  | readIntFlag
  | rxData
  | disable
  | readDataNumber
  | configDataNumber (tmpLen : Nat)
  | callSend (tmpLen : Nat)
  | send (tmpLen : Nat) (pc : SendPc)
  | enable
  deriving DecidableEq, Repr

inductive Caller where
  | main
  | isr
  deriving DecidableEq, Repr

-- A call of `send_data`, with `buf[0..len)` as it was at the call.
structure Call where
  caller : Caller
  bytes : List Byte
  deriving DecidableEq, Repr

/-- The last four fields record what an observer has seen and steer nothing. -/
structure State where
  usart : Registers
  dmaClock : Bool
  dma : Channel → DmaChannel
  irqEnabled : Bool
  main : MainPc
  isr : Option IsrPc
  uartTxBuf : Nat → Byte
  uartRxBuf : Nat → Byte
  calls : List Call
  wire : List Byte
  frames : List (List Byte)
  frame : List Byte

def State.reset : State where
  usart := .reset
  dmaClock := false
  dma := fun _ => .reset
  irqEnabled := false
  main := .setup setup
  isr := none
  uartTxBuf := fun _ => 0
  uartRxBuf := fun _ => 0
  calls := []
  wire := []
  frames := []
  frame := []

def bytes (buffer : Nat → Byte) (count : Nat) : List Byte :=
  (List.range count).map buffer

theorem bytes_update (buffer : Nat → Byte) (count : Nat) (value : Byte) :
    bytes (Function.update buffer count value) (count + 1) = bytes buffer count ++ [value] := by
  simp only [bytes, List.range_succ, List.map_append, List.map_cons, List.map_nil,
    Function.update_self, List.append_cancel_right_eq]
  refine List.map_congr_left fun index member => ?_
  have below := List.mem_range.mp member
  exact Function.update_of_ne (by omega) _ _

@[simp] theorem bytes_length (buffer : Nat → Byte) (count : Nat) :
    (bytes buffer count).length = count := by
  simp [bytes]

-- While the clock of DMA1 is off its registers ignore writes and read as zero.
def State.write (s : State) (channel : Channel) (action : ChannelWrite) : State :=
  { s with
    dma := if s.dmaClock then Function.update s.dma channel (action.apply (s.dma channel))
      else s.dma }

def dmaReadDataNumber (s : State) (channel : Channel) : Nat :=
  if s.dmaClock then (s.dma channel).chndata else 0

def tmpLen (s : State) : Nat :=
  (maxLen + 65536 - dmaReadDataNumber s .ch5) % 65536

def Stmt.run (s : State) : Stmt → State
  | .ledInit => s
  | .enableApb2PeriphClock => s
  | .comInit => { s with usart.uen := true }
  | .enableDma => { s with usart.dmaTx := true, usart.dmaRx := true }
  | .enableInterrupt => { s with usart.idleIen := true }
  | .enableIrqRequest => { s with irqEnabled := true }
  | .enableAhbPeriphClock => { s with dmaClock := true }
  | .write channel action => s.write channel action

def source (s : State) : Caller → Nat → Byte
  | .main, index => sbuf.getD index 0
  | .isr, index => s.uartRxBuf index

-- `none` means the call has returned.
def sendData (s : State) (caller : Caller) (len : Nat) : SendPc → State × Option SendPc
  | .copy done =>
      ({ s with
          uartTxBuf := if done < len then
              Function.update s.uartTxBuf done (source s caller done)
            else s.uartTxBuf },
        some (if done < len then .copy (done + 1) else .waitTxbe))
  | .waitTxbe => (s, some (if s.usart.txbe then .disable else .waitTxbe))
  | .disable => (s.write .ch4 dmaDisable, some .configDataNumber)
  | .configDataNumber => (s.write .ch4 (dmaConfigDataNumber len), some .enable)
  | .enable => (s.write .ch4 dmaEnable, none)

def State.called (s : State) (caller : Caller) (len : Nat) : State :=
  { s with calls := s.calls ++ [⟨caller, (List.range len).map (source s caller)⟩] }

def mainStep (s : State) : MainPc → State
  | .setup (stmt :: rest) => { stmt.run s with main := .setup rest }
  | .setup [] => { s.called .main sbuf.length with main := .send (.copy 0) }
  | .send pc =>
      let sent := sendData s .main sbuf.length pc
      { sent.1 with main := match sent.2 with | some pc => .send pc | none => .loop }
  | .loop => s

def usart1Isr (s : State) : IsrPc → State
  | .readIntFlag =>
      { s with isr := if usartReadIntFlag s.usart then some .rxData else none }
  | .rxData => { s with usart := usartRxData s.usart, isr := some .disable }
  | .disable => { s.write .ch5 dmaDisable with isr := some .readDataNumber }
  | .readDataNumber => { s with isr := some (.configDataNumber (tmpLen s)) }
  | .configDataNumber len =>
      { s.write .ch5 (dmaConfigDataNumber maxLen) with isr := some (.callSend len) }
  | .callSend len => { s.called .isr len with isr := some (.send len (.copy 0)) }
  | .send len pc =>
      let sent := sendData s .isr len pc
      { sent.1 with isr := some (match sent.2 with | some pc => .send len pc | none => .enable) }
  | .enable => { s.write .ch5 dmaEnable with isr := none }

def DmaChannel.beat (channel : DmaChannel) : DmaChannel :=
  { channel with
    chndata := channel.chndata - 1
    offset := if channel.mimode then channel.offset + 1 else channel.offset }

def State.load (s : State) (channel : DmaChannel) : Byte :=
  match channel.chmaddr with
  | .null => 0
  | .uartTxBuf => s.uartTxBuf channel.offset
  | .uartRxBuf => s.uartRxBuf channel.offset

-- The buffer at `base` after `channel` has stored `value`.
def DmaChannel.store (channel : DmaChannel) (value : Byte) (base : MemoryAddr)
    (buffer : Nat → Byte) : Nat → Byte :=
  if channel.chmaddr = base then Function.update buffer channel.offset value else buffer

def State.serve (s : State) (which : Channel) : State :=
  let channel := s.dma which
  match channel.dircfg with
  | .peripheralSrc =>
      let value := if channel.chpaddr = .data then s.usart.rdr else 0
      { s with
        usart.rxbne := if channel.chpaddr = .data then false else s.usart.rxbne
        uartTxBuf := channel.store value .uartTxBuf s.uartTxBuf
        uartRxBuf := channel.store value .uartRxBuf s.uartRxBuf
        dma := Function.update s.dma which channel.beat }
  | .peripheralDst =>
      { s with
        usart.tdr := if channel.chpaddr = .data then some (s.load channel) else s.usart.tdr
        dma := Function.update s.dma which channel.beat }

def BeatReady (s : State) (which : Channel) : Prop :=
  s.usart.request which = true ∧ (s.dma which).chen = true ∧ 0 < (s.dma which).chndata

instance (s : State) (which : Channel) : Decidable (BeatReady s which) := by
  unfold BeatReady; infer_instance

inductive Label where
  | cpu
  | preempt
  | rx (value : Byte)
  | idle
  | beat (channel : Channel)
  | shift
  deriving DecidableEq, Repr

def Preemptible (s : State) : Prop :=
  s.isr = none ∧ s.irqEnabled = true ∧ s.usart.idleIen = true ∧ s.usart.idle = true

instance (s : State) : Decidable (Preemptible s) := by
  unfold Preemptible; infer_instance

def step (s : State) : Label → Option State
  | .cpu =>
      match s.isr with
      | some pc => some (usart1Isr s pc)
      | none => some (mainStep s s.main)
  | .preempt => if Preemptible s then some { s with isr := some .readIntFlag } else none
  | .rx value =>
      if s.usart.uen then
        some { s with usart := s.usart.receive value, frame := s.frame ++ [value] }
      else none
  | .idle =>
      if s.usart.uen then
        some { s with usart.idle := true, frames := s.frames ++ [s.frame], frame := [] }
      else none
  | .beat which => if BeatReady s which then some (s.serve which) else none
  | .shift =>
      match s.usart.tdr with
      | some value => some { s with usart.tdr := none, wire := s.wire ++ [value] }
      | none => none

/-- The steps again, one constructor for each way the system can move. -/
inductive Moves (s : State) : Label → State → Prop
  | isr {pc : IsrPc} : s.isr = some pc → Moves s .cpu (usart1Isr s pc)
  | setup {stmt : Stmt} {rest : List Stmt} : s.isr = none → s.main = .setup (stmt :: rest) →
      Moves s .cpu { stmt.run s with main := .setup rest }
  | call : s.isr = none → s.main = .setup [] →
      Moves s .cpu { s.called .main sbuf.length with main := .send (.copy 0) }
  | send {pc : SendPc} : s.isr = none → s.main = .send pc → Moves s .cpu (mainStep s (.send pc))
  | loop : s.isr = none → s.main = .loop → Moves s .cpu s
  | preempt : Preemptible s → Moves s .preempt { s with isr := some .readIntFlag }
  | rx {value : Byte} : s.usart.uen = true → Moves s (.rx value)
      { s with usart := s.usart.receive value, frame := s.frame ++ [value] }
  | idle : s.usart.uen = true → Moves s .idle
      { s with usart.idle := true, frames := s.frames ++ [s.frame], frame := [] }
  | beat {which : Channel} : BeatReady s which → Moves s (.beat which) (s.serve which)
  | shift {value : Byte} : s.usart.tdr = some value → Moves s .shift
      { s with usart.tdr := none, wire := s.wire ++ [value] }

theorem step_moves {s t : State} {label : Label} (taken : step s label = some t) :
    Moves s label t := by
  cases label with
  | cpu =>
    cases running : s.isr with
    | some pc =>
      simp only [step, running, Option.some.injEq] at taken
      exact taken ▸ .isr running
    | none =>
      simp only [step, running, Option.some.injEq] at taken
      subst taken
      cases place : s.main with
      | setup rest =>
        cases rest with
        | nil => exact .call running place
        | cons stmt rest => exact .setup running place
      | send pc => exact .send running place
      | loop => exact .loop running place
  | shift =>
    simp only [step] at taken
    split at taken
    · next value present => exact Option.some.inj taken ▸ .shift present
    · cases taken
  | preempt | rx value | idle | beat which =>
    simp only [step, Option.ite_none_right_eq_some, Option.some.injEq] at taken
    obtain ⟨admitted, rfl⟩ := taken
    constructor
    exact admitted

end ApmSdk.Usart
