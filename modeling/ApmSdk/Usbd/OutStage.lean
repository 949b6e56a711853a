import ApmSdk.Usbd.DataStage

set_option autoImplicit false

/-!
# Data stages to the device

The OUT packets of a control transfer from the call of `USBD_CtrlOutData` on: what the host has
sent against what `USBD_CtrlOutProcess` stores, accounts and acknowledges.
-/

namespace ApmSdk.Usbd

open Runs

structure OutStage (Obj : Type) where
  dev : Dev Obj
  -- the packets of the host, and what `USBD_ReadDataFromEP` has copied into the buffer
  packets : List (List Byte)
  stored : List Byte

section

variable {Obj : Type}

def Dev.copied (dev : Dev Obj) (packet : List Byte) : List Byte :=
  if dev.ctrlState = .dataOut ∧ dev.out0.packNum ≠ 0 then
    (List.range (min dev.out0.bufLen dev.out0.maxPackSize)).map (received packet dev.rxBuffer)
  else []

def OutStage.begin (dev : Dev Obj) (pointer : Ptr Obj) (len : Nat) : OutStage Obj :=
  ⟨ctrlOutData dev (some pointer) len, [], []⟩

def outStep [DecidableEq Obj] (s : OutStage Obj) (packet : List Byte) : Option (OutStage Obj) :=
  (controlStep s.dev (.out packet)).map fun dev =>
    ⟨dev, s.packets ++ [packet], s.stored ++ s.dev.copied packet⟩

-- The host keeps to the packet size.
def OutSent (s : OutStage Obj) (packet : List Byte) : Prop :=
  packet.length ≤ s.dev.out0.maxPackSize

def OutStage.Over (s : OutStage Obj) : Prop := s.dev.ctrlState ≠ .dataOut

structure Intact [DecidableEq Obj] (start : Dev Obj) (pointer : Ptr Obj) (len : Nat)
    (s : OutStage Obj) : Prop where
  stored : s.stored = s.packets.flatten
  memory : s.dev.memory = start.memory.write pointer s.packets.flatten
  accounted : s.dev.out0.bufLen + s.packets.flatten.length = len
  ends : s.Over ↔
    (∃ packet ∈ s.packets, packet.length < start.out0.maxPackSize) ∨ len ≤ s.packets.flatten.length
  unhandled : ¬ s.Over → s.dev.txStatusRuns = start.txStatusRuns
  -- the handler has run when the status packet is queued
  handled : s.Over → ∃ dev : Dev Obj, dev.txStatusRuns = start.txStatusRuns + 1 ∧
    dev.in0.packets = start.in0.packets ∧ s.dev = ctrlTxStatus dev

/-- Only full packets have come and fewer than `packNum` counts, or its eight bits count none and
the host has sent one empty packet. -/
inductive Spared (maxPackSize len : Nat) : List (List Byte) → Prop
  | nothing : Spared maxPackSize len []
  | full {packets : List (List Byte)} : packets.length < packetCount len maxPackSize →
      (∀ packet ∈ packets, packet.length = maxPackSize) → Spared maxPackSize len packets
  | empty : packetCount len maxPackSize = 0 → Spared maxPackSize len [[]]

/-! ## The packets of a stage -/

theorem range_received {packet : List Byte} (before : Nat → Byte) :
    (List.range packet.length).map (received packet before) = packet := by
  apply List.ext_getElem
  · simp
  · intro index _ within
    simp [received, within]

/-- Packets of at most `size` bytes that have `size` bytes on average are all full. -/
theorem full_of_flatten {size : Nat} {packets : List (List Byte)}
    (bounded : ∀ packet ∈ packets, packet.length ≤ size)
    (total : packets.length * size ≤ packets.flatten.length) :
    ∀ packet ∈ packets, packet.length = size := by
  have at_most (rest : List (List Byte)) (small : ∀ packet ∈ rest, packet.length ≤ size) :
      rest.flatten.length ≤ rest.length * size := by
    induction rest with
    | nil => simp
    | cons head tail ih =>
      have first := small head List.mem_cons_self
      have others := ih fun packet member => small packet (List.mem_cons_of_mem _ member)
      rw [List.flatten_cons, List.length_append, List.length_cons, Nat.succ_mul]
      omega
  induction packets with
  | nil => exact nofun
  | cons head tail ih =>
    have first := bounded head List.mem_cons_self
    have later : ∀ packet ∈ tail, packet.length ≤ size :=
      fun packet member => bounded packet (List.mem_cons_of_mem _ member)
    have others := at_most tail later
    rw [List.flatten_cons, List.length_append, List.length_cons, Nat.succ_mul] at total
    intro packet member
    rcases List.mem_cons.mp member with rfl | member
    · omega
    · exact ih later (by omega) packet member

theorem flatten_full {size : Nat} {packets : List (List Byte)}
    (full : ∀ packet ∈ packets, packet.length = size) :
    packets.flatten.length = packets.length * size := by
  induction packets with
  | nil => simp
  | cons head tail ih =>
    have first := full head List.mem_cons_self
    have others := ih fun packet member => full packet (List.mem_cons_of_mem _ member)
    rw [List.flatten_cons, List.length_append, List.length_cons, Nat.succ_mul]
    omega

-- Another packet is counted only where the next one is full.
theorem full_of_more {size bufLen : Nat} (positive : 0 < size) (narrow : size < 65536)
    (short : bufLen < 4294967296) (more : packetCount bufLen size ≠ 0)
    (another : packetCount bufLen size - 1 ≠ 0) : size < bufLen := by
  by_contra last
  have next := packetCount_next positive narrow short more
  rw [Nat.min_eq_left (by omega), Nat.sub_self, packetCount_zero] at next
  exact another next.symm

theorem over_ctrlTxStatus (dev : Dev Obj) : (ctrlTxStatus dev).ctrlState ≠ .dataOut := by
  simp only [ctrlTxStatus, ctrlInData, if_true]
  split <;> decide

variable [DecidableEq Obj]

/-! ## Progress -/

/-- The stage that waits for a packet. -/
structure Receiving (start : Dev Obj) (pointer : Ptr Obj) (len : Nat) (s : OutStage Obj) :
    Prop where
  state : s.dev.ctrlState = .dataOut
  maxPackSize : s.dev.out0.maxPackSize = start.out0.maxPackSize
  packNum : s.dev.out0.packNum = packetCount s.dev.out0.bufLen start.out0.maxPackSize
  count : s.dev.out0.packNum + s.packets.length = packetCount len start.out0.maxPackSize
  more : s.packets = [] ∨ s.dev.out0.packNum ≠ 0
  bufLen : s.dev.out0.bufLen + s.packets.length * start.out0.maxPackSize = len
  pBuf : s.dev.out0.pBuf = some (pointer.add (s.packets.length * start.out0.maxPackSize))
  stored : s.stored.length = s.packets.length * start.out0.maxPackSize
  memory : s.dev.memory = start.memory.write pointer s.stored
  sent : ∀ packet ∈ s.packets, packet.length ≤ start.out0.maxPackSize
  full : (∀ packet ∈ s.packets, packet.length = start.out0.maxPackSize) →
    s.stored = s.packets.flatten
  runs : s.dev.txStatusRuns = start.txStatusRuns
  packets : s.dev.in0.packets = start.in0.packets

inductive Progress (start : Dev Obj) (pointer : Ptr Obj) (len : Nat) (s : OutStage Obj) : Prop
  | receiving : Receiving start pointer len s → Progress start pointer len s
  -- the last packet that `packNum` counts has come
  | last : s.dev.out0.rxStatus = .nak → s.Over → s.packets ≠ [] →
      s.packets.length = packetCount len start.out0.maxPackSize →
      s.dev.txStatusRuns = start.txStatusRuns → Progress start pointer len s
  -- `packNum` counts none
  | uncounted (packet : List Byte) : s.dev.out0.rxStatus = .nak → s.Over →
      s.packets = [packet] → packetCount len start.out0.maxPackSize = 0 → s.stored = [] →
      s.dev.out0.bufLen = len → s.dev.memory = start.memory →
      (∃ dev : Dev Obj, dev.txStatusRuns = start.txStatusRuns + 1 ∧
        dev.in0.packets = start.in0.packets ∧ s.dev = ctrlTxStatus dev) →
      Progress start pointer len s

theorem receiving_begin {start : Dev Obj} {pointer : Ptr Obj} {len : Nat} (some : 0 < len) :
    Receiving start pointer len (.begin start pointer len) := by
  have going : ctrlOutData start (.some pointer) len = _ := if_neg (Nat.pos_iff_ne_zero.mp some)
  constructor <;> simp [OutStage.begin, going, Ptr.add, Memory.write_nil]

/-- What `USBD_CtrlOutProcess` does with a packet that is counted. -/
theorem ctrlOutProcess_counted {dev : Dev Obj} {pointer : Ptr Obj} {bytes : List Byte}
    (state : dev.ctrlState = .dataOut) (counted : dev.out0.packNum ≠ 0)
    (pBuf : dev.out0.pBuf = some pointer)
    (copied : bytes = (List.range (min dev.out0.bufLen dev.out0.maxPackSize)).map dev.rxBuffer) :
    ∃ moved : Dev Obj, moved.memory = dev.memory.write pointer bytes ∧
      moved.out0 = { dev.out0 with
        bufLen := dev.out0.bufLen - min dev.out0.bufLen dev.out0.maxPackSize
        pBuf := some (pointer.add (min dev.out0.bufLen dev.out0.maxPackSize))
        packNum := dev.out0.packNum - 1 } ∧
      moved.in0 = dev.in0 ∧ moved.txStatusRuns = dev.txStatusRuns ∧
      ctrlOutProcess dev = if dev.out0.packNum - 1 ≠ 0 then
          ctrlOutData moved moved.out0.pBuf moved.out0.bufLen
        else ctrlTxStatus moved := by
  unfold ctrlOutProcess
  split
  · rw [if_pos counted]
    refine ⟨_, ?_, ?_, ?_, ?_, rfl⟩
    · simp only [pBuf, copied]
    · simp only [pBuf, Option.map_some]
    · rfl
    · rfl
  · next other => exact absurd state other

-- The device when `USBD_CtrlOutProcess` is called for a packet.
def Dev.arrived (dev : Dev Obj) (packet : List Byte) : Dev Obj :=
  Dev.setTxRxStatus { dev with rxBuffer := received packet dev.rxBuffer } .nak .nak

def OutStage.taken (s : OutStage Obj) (packet : List Byte) : OutStage Obj :=
  ⟨ctrlOutProcess (s.dev.arrived packet), s.packets ++ [packet], s.stored ++ s.dev.copied packet⟩

theorem outStep_taken {s t : OutStage Obj} {packet : List Byte}
    (taken : outStep s packet = some t) : s.dev.out0.rxStatus = .valid ∧ t = s.taken packet := by
  obtain ⟨after, moved, rfl⟩ := Option.map_eq_some_iff.mp taken
  obtain ⟨⟨valid, -⟩, rfl⟩ := controlStep_out moved
  exact ⟨valid, rfl⟩

section Taken

variable {start : Dev Obj} {pointer : Ptr Obj} {len : Nat} {s : OutStage Obj} {packet : List Byte}
  (receiving : Receiving start pointer len s)

include receiving

/-- A packet that is not counted ends the stage and is not stored. -/
theorem Receiving.taken_uncounted (uncounted : s.dev.out0.packNum = 0) :
    Progress start pointer len (s.taken packet) := by
  obtain ⟨state, maxPackSize, packNum, count, more, bufLen, pBuf, stored, memory, small, full,
    runs, packets⟩ := receiving
  have first : s.packets = [] := more.resolve_right fun some => some uncounted
  have after : ctrlOutProcess (s.dev.arrived packet) =
      ctrlTxStatus { s.dev.arrived packet with txStatusRuns := s.dev.txStatusRuns + 1 } := by
    have state' : (s.dev.arrived packet).ctrlState = .dataOut := state
    have none : (s.dev.arrived packet).out0.packNum = 0 := uncounted
    simp only [ctrlOutProcess, state', none, ne_eq, not_true, if_false]
    rfl
  rw [first, List.length_nil, Nat.zero_mul] at stored bufLen
  have none : s.stored = [] := List.eq_nil_of_length_eq_zero stored
  have quiet : s.dev.copied packet = [] := if_neg fun both => both.2 uncounted
  rw [OutStage.taken, after, first, none, quiet]
  refine .uncounted packet rfl (over_ctrlTxStatus _) rfl ?_ rfl bufLen ?_
    ⟨{ s.dev.arrived packet with txStatusRuns := s.dev.txStatusRuns + 1 }, ?_, packets, rfl⟩
  · rw [← count, uncounted, first, List.length_nil]
  · rw [← start.memory.write_nil pointer, ← none]
    exact memory
  · exact congrArg (· + 1) runs

theorem Receiving.copied_eq (counted : s.dev.out0.packNum ≠ 0) :
    s.dev.copied packet = (List.range (min s.dev.out0.bufLen start.out0.maxPackSize)).map
      (received packet s.dev.rxBuffer) := by
  rw [Dev.copied, if_pos ⟨receiving.state, counted⟩, receiving.maxPackSize]

/-- What `USBD_CtrlOutProcess` does with a packet that is counted. -/
theorem Receiving.processed (packet : List Byte) (counted : s.dev.out0.packNum ≠ 0) :
    ∃ moved : Dev Obj, moved.memory = start.memory.write pointer (s.stored ++ s.dev.copied packet) ∧
      moved.out0 = { s.dev.out0 with
        rxStatus := .nak
        bufLen := s.dev.out0.bufLen - min s.dev.out0.bufLen start.out0.maxPackSize
        pBuf := some (pointer.add (s.packets.length * start.out0.maxPackSize +
          min s.dev.out0.bufLen start.out0.maxPackSize))
        packNum := s.dev.out0.packNum - 1 } ∧
      moved.in0.packets = start.in0.packets ∧ moved.txStatusRuns = start.txStatusRuns ∧
      ctrlOutProcess (s.dev.arrived packet) = if s.dev.out0.packNum - 1 ≠ 0 then
          ctrlOutData moved moved.out0.pBuf moved.out0.bufLen
        else ctrlTxStatus moved := by
  have size : (s.dev.arrived packet).out0.maxPackSize = start.out0.maxPackSize :=
    receiving.maxPackSize
  have state : (s.dev.arrived packet).ctrlState = .dataOut := receiving.state
  have before : (s.dev.arrived packet).memory = start.memory.write pointer s.stored :=
    receiving.memory
  have copied : s.dev.copied packet = (List.range (min (s.dev.arrived packet).out0.bufLen
      (s.dev.arrived packet).out0.maxPackSize)).map (s.dev.arrived packet).rxBuffer := by
    rw [size]
    exact receiving.copied_eq counted
  obtain ⟨moved, written, left, kept, unhandled, after⟩ :=
    ctrlOutProcess_counted state counted receiving.pBuf copied
  refine ⟨moved, ?_, ?_, ?_, unhandled.trans receiving.runs, after⟩
  · rw [written, before, ← receiving.stored, Memory.write_append]
  · rw [size] at left
    simp only [left, Ptr.add, Nat.add_assoc]
    rfl
  · exact (congrArg InEp.packets kept).trans receiving.packets

theorem Receiving.taken_another (positive : 0 < start.out0.maxPackSize)
    (narrow : start.out0.maxPackSize < 65536) (short : len < 4294967296)
    (sent : packet.length ≤ start.out0.maxPackSize) (counted : s.dev.out0.packNum ≠ 0)
    (another : s.dev.out0.packNum - 1 ≠ 0) : Receiving start pointer len (s.taken packet) := by
  have bound := receiving.bufLen
  have number := receiving.packNum
  have whole : start.out0.maxPackSize < s.dev.out0.bufLen :=
    full_of_more positive narrow (by omega) (number ▸ counted) (number ▸ another)
  have size : min s.dev.out0.bufLen start.out0.maxPackSize = start.out0.maxPackSize :=
    Nat.min_eq_right (Nat.le_of_lt whole)
  have next : packetCount (s.dev.out0.bufLen - start.out0.maxPackSize) start.out0.maxPackSize =
      s.dev.out0.packNum - 1 := by
    have fewer := packetCount_next positive narrow (by omega) (number ▸ counted)
    rwa [size, ← number] at fewer
  have copied : s.dev.copied packet = _ := receiving.copied_eq counted
  obtain ⟨moved, written, left, packets, runs, after⟩ := receiving.processed packet counted
  rw [size] at left copied
  have length : (s.dev.copied packet).length = start.out0.maxPackSize := by
    rw [copied, List.length_map, List.length_range]
  have continued : ctrlOutData moved moved.out0.pBuf moved.out0.bufLen = _ :=
    if_neg (by rw [left]; exact Nat.sub_ne_zero_of_lt whole)
  rw [OutStage.taken, after, if_pos another, continued, left]
  constructor
  case state => rfl
  case maxPackSize => exact receiving.maxPackSize
  case packNum => exact congrArg (packetCount _) receiving.maxPackSize
  case count =>
    have before := receiving.count
    dsimp only
    rw [receiving.maxPackSize, next, List.length_append, List.length_singleton]
    omega
  case more =>
    right
    dsimp only
    rw [receiving.maxPackSize, next]
    exact another
  case bufLen =>
    rw [List.length_append, List.length_singleton, Nat.succ_mul]
    dsimp only
    omega
  case pBuf => rw [List.length_append, List.length_singleton, Nat.succ_mul]
  case stored =>
    rw [List.length_append, List.length_append, List.length_singleton, receiving.stored, length,
      Nat.succ_mul]
  case memory => exact written
  case sent =>
    intro earlier member
    rcases List.mem_append.mp member with before | now
    · exact receiving.sent earlier before
    · rw [List.mem_singleton.mp now]
      exact sent
  case full =>
    intro all
    have before := receiving.full fun earlier member => all earlier (List.mem_append_left _ member)
    have now : packet.length = start.out0.maxPackSize := all packet (by simp)
    rw [before, copied, ← now, range_received, List.flatten_append, List.flatten_singleton]
  case runs => exact runs
  case packets => exact packets

theorem Receiving.taken_last (counted : s.dev.out0.packNum ≠ 0)
    (last : ¬s.dev.out0.packNum - 1 ≠ 0) : Progress start pointer len (s.taken packet) := by
  obtain ⟨moved, -, left, -, runs, after⟩ := receiving.processed packet counted
  have count := receiving.count
  rw [OutStage.taken, after, if_neg last]
  refine .last (congrArg OutEp.rxStatus left) (over_ctrlTxStatus _) ?_ ?_ runs
  · exact List.append_ne_nil_of_right_ne_nil _ (List.cons_ne_nil _ _)
  · rw [List.length_append, List.length_singleton, ← count]
    omega

theorem Receiving.step {t : OutStage Obj} (positive : 0 < start.out0.maxPackSize)
    (narrow : start.out0.maxPackSize < 65536) (short : len < 4294967296) (sent : OutSent s packet)
    (taken : outStep s packet = some t) : Progress start pointer len t := by
  rw [OutSent, receiving.maxPackSize] at sent
  obtain ⟨-, rfl⟩ := outStep_taken taken
  by_cases counted : s.dev.out0.packNum = 0
  · exact receiving.taken_uncounted counted
  · by_cases another : s.dev.out0.packNum - 1 ≠ 0
    · exact .receiving (receiving.taken_another positive narrow short sent counted another)
    · exact receiving.taken_last counted another

end Taken

theorem Progress.step {start : Dev Obj} {pointer : Ptr Obj} {len : Nat} {s t : OutStage Obj}
    {packet : List Byte} (positive : 0 < start.out0.maxPackSize)
    (narrow : start.out0.maxPackSize < 65536) (short : len < 4294967296)
    (progress : Progress start pointer len s) (sent : OutSent s packet)
    (taken : outStep s packet = some t) : Progress start pointer len t := by
  have armed : s.dev.out0.rxStatus = .valid := (outStep_taken taken).1
  cases progress with
  | receiving receiving => exact receiving.step positive narrow short sent taken
  | last nak => cases nak.symm.trans armed
  | uncounted _ nak => cases nak.symm.trans armed

/-! ## When a stage is intact -/

theorem Receiving.intact_iff {start : Dev Obj} {pointer : Ptr Obj} {len : Nat} {s : OutStage Obj}
    (some : 0 < len) (receiving : Receiving start pointer len s) :
    Intact start pointer len s ↔ Spared start.out0.maxPackSize len s.packets := by
  constructor
  · intro intact
    have full : ∀ packet ∈ s.packets, packet.length = start.out0.maxPackSize := by
      apply full_of_flatten receiving.sent
      rw [← intact.stored, receiving.stored]
    obtain none | more := receiving.more
    · rw [none]
      exact .nothing
    · have count := receiving.count
      exact .full (by omega) full
  · intro spared
    have full : ∀ packet ∈ s.packets, packet.length = start.out0.maxPackSize := by
      generalize packets : s.packets = received at spared
      cases spared with
      | nothing => exact nofun
      | full _ full => exact full
      | empty uncounted =>
        have count := receiving.count
        rw [packets, uncounted] at count
        exact absurd count nofun
    have stored : s.stored = s.packets.flatten := receiving.full full
    have total := flatten_full full
    have left : 0 < s.dev.out0.bufLen := by
      have bufLen := receiving.bufLen
      obtain none | more := receiving.more
      · rw [none, List.length_nil, Nat.zero_mul] at bufLen
        omega
      · by_contra empty
        rw [receiving.packNum, Nat.eq_zero_of_not_pos empty, packetCount_zero] at more
        exact more rfl
    constructor
    case stored => exact stored
    case memory => rw [receiving.memory, stored]
    case accounted =>
      rw [total]
      exact receiving.bufLen
    case ends =>
      refine iff_of_false (not_not.mpr receiving.state) ?_
      rintro (⟨packet, member, shorter⟩ | whole)
      · exact absurd (full packet member) (Nat.ne_of_lt shorter)
      · have bufLen := receiving.bufLen
        omega
    case unhandled => exact fun _ => receiving.runs
    case handled => exact fun closed => absurd receiving.state closed

theorem Progress.intact_iff {start : Dev Obj} {pointer : Ptr Obj} {len : Nat} {s : OutStage Obj}
    (some : 0 < len) (positive : 0 < start.out0.maxPackSize)
    (progress : Progress start pointer len s) :
    Intact start pointer len s ↔ Spared start.out0.maxPackSize len s.packets := by
  cases progress with
  | receiving receiving => exact receiving.intact_iff some
  | last _ closed sent count runs =>
    constructor
    · intro intact
      obtain ⟨dev, handled, -, queued⟩ := intact.handled closed
      have kept : (ctrlTxStatus dev).txStatusRuns = dev.txStatusRuns := rfl
      rw [queued, kept, handled] at runs
      omega
    · intro spared
      generalize packets : s.packets = received at spared
      rw [packets] at sent count
      cases spared with
      | nothing => exact absurd rfl sent
      | full fewer => exact absurd count (Nat.ne_of_lt fewer)
      | empty uncounted => exact absurd (count.trans uncounted) nofun
  | uncounted packet _ closed packets uncounted stored bufLen memory handled =>
    constructor
    · intro intact
      have received := intact.stored
      rw [stored, packets, List.flatten_singleton] at received
      rw [packets, ← received]
      exact .empty uncounted
    · intro spared
      have empty : packet = [] := by
        rw [packets] at spared
        cases spared with
        | full fewer => exact absurd fewer (by omega)
        | empty => rfl
      rw [empty] at packets
      constructor
      case stored => rw [stored, packets]; rfl
      case memory => rw [memory, packets]; exact (Memory.write_nil _ _).symm
      case accounted => rw [packets]; exact bufLen
      case ends =>
        refine iff_of_true closed (.inl ⟨[], ?_, positive⟩)
        rw [packets]
        exact List.mem_singleton_self _
      case unhandled => exact fun going => absurd closed going
      case handled => exact fun _ => handled

theorem packets_run {start s : OutStage Obj} {packets : List (List Byte)}
    (run : Run outStep OutSent start packets s) : s.packets = start.packets ++ packets := by
  induction run with
  | nil => exact (List.append_nil _).symm
  | snoc _ _ taken earlier =>
    obtain ⟨dev, -, rfl⟩ := Option.map_eq_some_iff.mp taken
    rw [← List.append_assoc, ← earlier]

/-- However far a data stage has come, it is intact exactly when its packets spare it. -/
theorem intact_iff_spared {start : Dev Obj} {pointer : Ptr Obj} {len : Nat} (some : 0 < len)
    (short : len < 4294967296) (positive : 0 < start.out0.maxPackSize)
    (narrow : start.out0.maxPackSize < 65536) {packets : List (List Byte)} {s : OutStage Obj}
    (run : Run outStep OutSent (.begin start pointer len) packets s) :
    Intact start pointer len s ↔ Spared start.out0.maxPackSize len packets := by
  have progress : Progress start pointer len s :=
    run.invariant (Progress start pointer len) (.receiving (receiving_begin some))
      fun _ _ _ held sent taken => held.step positive narrow short sent taken
  rw [progress.intact_iff some positive, packets_run run]
  rfl

end

instance {Obj : Type} (s : OutStage Obj) (packet : List Byte) : Decidable (OutSent s packet) :=
  inferInstanceAs (Decidable (packet.length ≤ s.dev.out0.maxPackSize))

def freshDev (ep0PacketSize : Nat) : Dev Unit := Dev.reset ep0PacketSize fun _ _ => 0

-- Two of the three packets for a buffer of twenty bytes.
def fullPackets : List (List Byte) := [List.replicate 8 1, List.replicate 8 2]

theorem fullPackets_accepted :
    (execute outStep OutSent (.begin (freshDev 8) ⟨(), 0⟩ 20) fullPackets).isSome = true := by
  decide

theorem fullPackets_intact : Intact (freshDev 8) ⟨(), 0⟩ 20
    (final outStep OutSent (.begin (freshDev 8) ⟨(), 0⟩ 20) fullPackets fullPackets_accepted) :=
  (intact_iff_spared (by decide) (by decide) (by decide) (by decide)
    (Run.final _ _ _ _ fullPackets_accepted)).mpr (.full (by decide) (by decide))

-- The request in which `cdcClassHandler` calls `USBD_CtrlOutData` with its buffer.
def setLineCoding : Dev Unit :=
  { (freshDev 64).setTxRxStatus .nak .nak with
    reqData := ⟨0x21, 0x20, 0, 0, 0, 0, 7, 0⟩
    rxBuffer := received [0x21, 0x20, 0, 0, 0, 0, 7, 0] fun _ => 0
    reads := [⟨8, 8, none⟩] }

example : controlStep (freshDev 64) (.setup [0x21, 0x20, 0, 0, 0, 0, 7, 0] (fun _ => 0)
    [.outData (some ⟨(), 0⟩) 7]) = some (OutStage.begin setLineCoding ⟨(), 0⟩ 7).dev := rfl

-- Its seven bytes in one packet.
def lineCoding : List (List Byte) := [[0x00, 0xC2, 0x01, 0x00, 0, 0, 8]]

theorem lineCoding_accepted :
    (execute outStep OutSent (.begin setLineCoding ⟨(), 0⟩ 7) lineCoding).isSome = true := by
  decide

theorem lineCoding_unhandled : ¬ ∀ (packets : List (List Byte)) (s : OutStage Unit),
    Run outStep OutSent (.begin setLineCoding ⟨(), 0⟩ 7) packets s →
    Intact setLineCoding ⟨(), 0⟩ 7 s := by
  intro intact
  have closed : (final outStep OutSent (.begin setLineCoding ⟨(), 0⟩ 7) lineCoding
    lineCoding_accepted).Over := by
    unfold OutStage.Over
    decide
  obtain ⟨dev, handled, -, queued⟩ :=
    (intact _ _ (Run.final _ _ _ _ lineCoding_accepted)).handled closed
  have kept : (ctrlTxStatus dev).txStatusRuns = dev.txStatusRuns := rfl
  have runs := (congrArg Dev.txStatusRuns queued).trans (kept.trans handled)
  exact absurd runs (by decide)

end ApmSdk.Usbd
