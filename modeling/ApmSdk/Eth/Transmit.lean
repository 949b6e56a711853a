import ApmSdk.Eth.Descriptor
import ApmSdk.Lib.Runs
import Mathlib.Algebra.GroupWithZero.Nat

set_option autoImplicit false

/-!
# The transmit ring

`ETH_Transmit_Descriptors` descriptor by descriptor against a DMA that takes the descriptors it
owns in ring order, between any two of them.
-/

namespace ApmSdk.Eth

open Runs RingBuffer OwnedRing

-- `ETH_DMATXDESC_FS`, `ETH_DMATXDESC_LS` and `ETH_DMATXDESC_TXBS1`.
def txFs : BitVec 32 := 0x10000000
def txLs : BitVec 32 := 0x20000000
def txBs1 : BitVec 32 := 0x00001FFF

-- What the DMA reads in a descriptor.
structure Segment where
  buffer : Nat
  size : Nat
  first : Bool
  last : Bool
  deriving DecidableEq, Repr

def Desc.segment (desc : Desc) : Segment where
  buffer := desc.buffer1Addr
  size := (desc.controlBufferSize &&& txBs1).toNat
  first := desc.status.getLsbD 28
  last := desc.status.getLsbD 29

def frameCount (frameLength : BitVec 16) : Nat :=
  if ethMaxPacketSize < frameLength.toNat then
    frameLength.toNat / ethMaxPacketSize +
      if frameLength.toNat % ethMaxPacketSize ≠ 0 then 1 else 0
  else 1

-- The writes of `ETH_Transmit_Descriptors` to its descriptor `i`.
def transmitDesc (frameLength : BitVec 16) (i : Nat) (desc : Desc) : Desc :=
  let count := frameCount frameLength
  if count = 1 then
    { desc with
      status := desc.status ||| (txFs ||| txLs) ||| descOwn
      controlBufferSize := frameLength.zeroExtend 32 &&& txBs1 }
  else
    let status := desc.status &&& ~~~(txFs ||| txLs)
    let status := if i = 0 then status ||| txFs else status
    if i = count - 1 then
      { desc with
        status := status ||| txLs ||| descOwn
        controlBufferSize :=
          BitVec.ofNat 32 (frameLength.toNat - (count - 1) * ethMaxPacketSize) &&& txBs1 }
    else
      { desc with
        status := status ||| descOwn
        controlBufferSize := BitVec.ofNat 32 ethMaxPacketSize &&& txBs1 }

-- A call that has passed its check, `i` descriptors into the loop.
structure TxCall where
  frameLength : BitVec 16
  i : Nat
  desc : Nat
  deriving DecidableEq

structure TxRing where
  tab : Tab
  -- `DMATxDescToSet`
  toSet : Nat
  call : Option TxCall
  -- the descriptor that the DMA looks at
  dma : Nat
  -- ghost: the first descriptor and the length of each frame accepted, and what the DMA has taken
  frames : List (Nat × BitVec 16)
  sent : List Segment

inductive TxLabel where
  | transmit (frameLength : BitVec 16)
  | write
  -- with the bits of the status that the DMA writes back
  | dma (report : BitVec 18)

def txStep (s : TxRing) : TxLabel → Option TxRing
  | .transmit frameLength =>
      match s.call with
      | some _ => none
      | none =>
          -- `SET` is 1
          if (s.tab s.toSet).status &&& descOwn = 1 then some s
          else
            some { s with
              call := some ⟨frameLength, 0, s.toSet⟩
              frames := s.frames ++ [(s.toSet, frameLength)] }
  | .write =>
      match s.call with
      | none => none
      | some call =>
          let desc := transmitDesc call.frameLength call.i (s.tab call.desc)
          let s := { s with tab := Function.update s.tab call.desc desc }
          if call.i + 1 < frameCount call.frameLength then
            some { s with call := some { call with
              i := call.i + 1
              desc := desc.buffer2NextDescAddr } }
          else some { s with call := none, toSet := desc.buffer2NextDescAddr }
  | .dma report =>
      let desc := s.tab s.dma
      if desc.own then
        some { s with
          tab := Function.update s.tab s.dma
            { desc with status := desc.status &&& 0x7FFC0000 ||| report.zeroExtend 32 }
          dma := desc.buffer2NextDescAddr
          sent := s.sent ++ [desc.segment] }
      else none

-- `ETH_ConfigDMATxDescChain` hands the table to both.
def TxRing.config (tab : Tab) (txBuffcount : Nat) : TxRing where
  tab := configDMATxDescChain tab txBuffcount
  toSet := 0
  call := none
  dma := 0
  frames := []
  sent := []

/-! ## The property -/

-- The descriptors of a frame that is handed over from `start` on.
def chain (txBuffcount : Nat) (frame : Nat × BitVec 16) : List Segment :=
  (List.range (frameCount frame.2)).map fun j =>
    { buffer := (frame.1 + j) % txBuffcount * ethMaxPacketSize
      size := min ethMaxPacketSize (frame.2.toNat - j * ethMaxPacketSize)
      first := j = 0
      last := j + 1 = frameCount frame.2 }

-- The ring is too short, or the DMA owns one of the descriptors.
def Blocked (txBuffcount : Nat) (s : TxRing) (frameLength : BitVec 16) : Prop :=
  txBuffcount < frameCount frameLength ∨
    ∃ j < frameCount frameLength, (s.tab ((s.toSet + j) % txBuffcount)).own = true

-- The frames whose descriptors have all been handed over.
def TxRing.completed (s : TxRing) : List (Nat × BitVec 16) :=
  match s.call with
  | some _ => s.frames.dropLast
  | none => s.frames

structure Transmits (txBuffcount : Nat) (s : TxRing) : Prop where
  -- whole and in the order of the calls
  order : s.sent <+: (s.frames.map (chain txBuffcount)).flatten
  -- none is begun before it is complete
  begun : (s.sent.filter Segment.first).length ≤ s.completed.length
  -- what the DMA owns between calls are the frames that it has not taken yet
  handed : s.call = none → ∃ queue,
    Window txBuffcount s.tab Desc.own s.dma queue ∧ s.toSet = (s.dma + queue.length) % txBuffcount ∧
      s.sent ++ queue.map Desc.segment = (s.frames.map (chain txBuffcount)).flatten

def Correct (txBuffcount : Nat) (s : TxRing) : TxLabel → TxRing → Prop
  -- `ETH_ERROR` changes nothing
  | .transmit frameLength, t => t = s ↔ Blocked txBuffcount s frameLength
  | .write, t => Transmits txBuffcount t ∧
      ∀ call, s.call = some call → (s.tab call.desc).own = false
  | .dma _, t => Transmits txBuffcount t

/-- The call finds room, and the DMA does not come to a frame before its last descriptor is
written. -/
def Unhurried (txBuffcount : Nat) (s : TxRing) : TxLabel → Prop
  | .transmit frameLength => ¬ Blocked txBuffcount s frameLength
  | .write => True
  | .dma _ => s.call ≠ none → s.dma ≠ s.toSet

/-! ## Descriptors and chains -/

-- The comparison with `SET` never holds.
theorem own_ne_set (status : BitVec 32) : status &&& descOwn ≠ 1 := by
  intro same
  have bit := congrArg (fun bits => bits.getLsbD 0) same
  simp [descOwn] at bit

theorem frameCount_pos (frameLength : BitVec 16) : 0 < frameCount frameLength := by
  unfold frameCount ethMaxPacketSize
  split
  · split <;> omega
  · exact Nat.one_pos

theorem frameCount_last (frameLength : BitVec 16) :
    (frameCount frameLength - 1) * ethMaxPacketSize ≤ frameLength.toNat ∧
      frameLength.toNat ≤ frameCount frameLength * ethMaxPacketSize := by
  unfold frameCount ethMaxPacketSize
  split
  · split <;> omega
  · omega

theorem toNat_txBs1 {size : Nat} (small : size ≤ ethMaxPacketSize) :
    (BitVec.ofNat 32 size &&& txBs1).toNat = size := by
  have mask : txBs1.toNat = 2 ^ 13 - 1 := rfl
  unfold ethMaxPacketSize at small
  rw [BitVec.toNat_and, BitVec.toNat_ofNat, mask, Nat.and_two_pow_sub_one_eq_mod,
    Nat.mod_eq_of_lt (by omega), Nat.mod_eq_of_lt (by omega)]

section

variable {frameLength : BitVec 16} {i : Nat} {desc : Desc}

theorem transmitDesc_links : (transmitDesc frameLength i desc).buffer1Addr = desc.buffer1Addr ∧
    (transmitDesc frameLength i desc).buffer2NextDescAddr = desc.buffer2NextDescAddr := by
  unfold transmitDesc
  dsimp only
  split
  · exact ⟨rfl, rfl⟩
  · split <;> exact ⟨rfl, rfl⟩

theorem own_transmitDesc : (transmitDesc frameLength i desc).own = true := by
  unfold transmitDesc Desc.own
  dsimp only
  split
  · simp [descOwn]
  · split <;> simp [descOwn]

theorem segment_transmitDesc (within : i < frameCount frameLength) :
    (transmitDesc frameLength i desc).segment =
      { buffer := desc.buffer1Addr
        size := min ethMaxPacketSize (frameLength.toNat - i * ethMaxPacketSize)
        first := i = 0
        last := i + 1 = frameCount frameLength } := by
  obtain ⟨begun, fits⟩ := frameCount_last frameLength
  have masked {size : Nat} (small : size ≤ ethMaxPacketSize) :
      (BitVec.ofNat 32 size &&& txBs1 &&& txBs1).toNat = size := by
    rw [BitVec.and_assoc, BitVec.and_self, toNat_txBs1 small]
  unfold transmitDesc Desc.segment
  dsimp only
  by_cases single : frameCount frameLength = 1
  · obtain rfl : i = 0 := by omega
    have whole : frameLength.toNat ≤ ethMaxPacketSize := by
      rw [single, Nat.one_mul] at fits
      exact fits
    have size : frameLength.zeroExtend 32 = BitVec.ofNat 32 frameLength.toNat := by
      simp [BitVec.zeroExtend, BitVec.ofNat_toNat]
    rw [if_pos single, Segment.mk.injEq, size]
    dsimp only
    rw [masked whole]
    refine ⟨rfl, ?_, ?_, ?_⟩
    · omega
    · simp [txFs, txLs, descOwn]
    · simp [txFs, txLs, descOwn, single]
  · rw [if_neg single]
    by_cases last : i = frameCount frameLength - 1
    · have later : i ≠ 0 := by omega
      rw [if_pos last, Segment.mk.injEq, ← last]
      dsimp only
      rw [← last] at begun
      have rest : frameLength.toNat - i * ethMaxPacketSize ≤ ethMaxPacketSize := by
        have step : frameCount frameLength * ethMaxPacketSize =
            i * ethMaxPacketSize + ethMaxPacketSize := by
          rw [← Nat.succ_mul]
          exact congrArg (· * ethMaxPacketSize) (by omega)
        omega
      rw [masked rest]
      refine ⟨rfl, ?_, ?_, ?_⟩
      · omega
      · simp [txFs, txLs, descOwn, later]
      · have ends : i + 1 = frameCount frameLength := by omega
        simp [txFs, txLs, descOwn, later, ends]
    · rw [if_neg last, Segment.mk.injEq]
      dsimp only
      rw [masked (Nat.le_refl _)]
      have more : (i + 1) * ethMaxPacketSize ≤ (frameCount frameLength - 1) * ethMaxPacketSize :=
        Nat.mul_le_mul_right _ (by omega)
      rw [Nat.succ_mul] at more
      have goes : i + 1 ≠ frameCount frameLength := by omega
      refine ⟨rfl, by omega, ?_, ?_⟩
      · by_cases start : i = 0
        · simp [txFs, txLs, descOwn, start]
        · simp [txFs, txLs, descOwn, start]
      · by_cases start : i = 0
        · have alone : 1 ≠ frameCount frameLength := by omega
          simp [txFs, txLs, descOwn, start, alone]
        · simp [txFs, txLs, descOwn, start, goes]

end

theorem firsts_chain (txBuffcount : Nat) (frame : Nat × BitVec 16) :
    ((chain txBuffcount frame).filter Segment.first).length = 1 := by
  obtain ⟨rest, count⟩ := Nat.exists_eq_add_of_lt (frameCount_pos frame.2)
  rw [Nat.zero_add] at count
  rw [chain, count, List.range_succ_eq_map, List.map_cons, List.map_map,
    List.filter_cons_of_pos (by simp), List.length_cons, Nat.add_eq_right,
    List.length_eq_zero_iff, List.filter_eq_nil_iff]
  intro segment member
  obtain ⟨j, -, rfl⟩ := List.mem_map.mp member
  simp

theorem first_of_chain {txBuffcount count : Nat} {frame : Nat × BitVec 16} {segment : Segment}
    {rest : List Segment} (begins : (chain txBuffcount frame).take count = segment :: rest) :
    segment.first = true := by
  have member : segment :: rest <+: chain txBuffcount frame := begins ▸ List.take_prefix _ _
  obtain ⟨later, total⟩ := member
  have front := congrArg List.head? total
  rw [chain, List.cons_append, List.head?_cons, List.head?_map, List.head?_range,
    if_neg (Nat.ne_of_gt (frameCount_pos _)), Option.map_some] at front
  rw [Option.some.inj front]
  rfl

theorem firsts_flatten (txBuffcount : Nat) (frames : List (Nat × BitVec 16)) :
    ((frames.map (chain txBuffcount)).flatten.filter Segment.first).length = frames.length := by
  induction frames with
  | nil => rfl
  | cons frame rest ih =>
    rw [List.map_cons, List.flatten_cons, List.filter_append, List.length_append, ih,
      firsts_chain, List.length_cons, Nat.add_comm]

theorem flatten_snoc (txBuffcount : Nat) (frames : List (Nat × BitVec 16))
    (frame : Nat × BitVec 16) : ((frames ++ [frame]).map (chain txBuffcount)).flatten =
      (frames.map (chain txBuffcount)).flatten ++ chain txBuffcount frame := by
  rw [List.map_append, List.flatten_append, List.map_singleton, List.flatten_singleton]

-- As many descriptors as the length takes, but one at least.
theorem length_chain (txBuffcount : Nat) (frame : Nat × BitVec 16) :
    (chain txBuffcount frame).length =
      max 1 ((frame.2.toNat + (ethMaxPacketSize - 1)) / ethMaxPacketSize) := by
  rw [chain, List.length_map, List.length_range, frameCount, ethMaxPacketSize]
  split
  · split <;> omega
  · omega

theorem sizes_chain (txBuffcount : Nat) (frame : Nat × BitVec 16) :
    ((chain txBuffcount frame).map Segment.size).sum = frame.2.toNat := by
  have upTo (count : Nat) : (((List.range count).map fun j =>
      min ethMaxPacketSize (frame.2.toNat - j * ethMaxPacketSize)).sum) =
      min (count * ethMaxPacketSize) frame.2.toNat := by
    induction count with
    | zero => simp
    | succ count ih =>
      rw [List.range_succ, List.map_append, List.sum_append, ih, List.map_singleton,
        List.sum_singleton, Nat.succ_mul]
      omega
  rw [chain, List.map_map]
  exact (upTo _).trans (Nat.min_eq_right (frameCount_last frame.2).2)

/-! ## The ring in a run -/

/-- The descriptors of the frames handed over before, and those of the call in progress. -/
structure Rings (txBuffcount : Nat) (s : TxRing) (older newer : List Desc) : Prop where
  linked : Linked txBuffcount s.tab
  window : Window txBuffcount s.tab Desc.own s.dma (older ++ newer)
  toSet : s.toSet = (s.dma + older.length) % txBuffcount
  done : s.sent ++ older.map Desc.segment = (s.completed.map (chain txBuffcount)).flatten
  idle : s.call = none → newer = []
  busy : ∀ call, s.call = some call →
    newer.length = call.i ∧ call.i < frameCount call.frameLength ∧
      older.length + frameCount call.frameLength ≤ txBuffcount ∧
      call.desc = (s.toSet + call.i) % txBuffcount ∧
      newer.map Desc.segment = (chain txBuffcount (s.toSet, call.frameLength)).take call.i ∧
      s.frames = s.completed ++ [(s.toSet, call.frameLength)]

section

variable {txBuffcount : Nat} {s t : TxRing} {older newer : List Desc}

theorem Rings.config (tab : Tab) (some : 0 < txBuffcount) :
    Rings txBuffcount (.config tab txBuffcount) [] [] where
  linked := linked_configDMATxDescChain tab txBuffcount
  window := .empty some fun index inside => by
    simp only [TxRing.config, configDMATxDescChain, configChain_apply, inside, if_true]
    exact (by decide : (0x00100000 : BitVec 32).getLsbD 31 = false)
  toSet := (Nat.zero_mod _).symm
  done := rfl
  idle _ := rfl
  busy _ call := nomatch call

theorem Rings.transmits (rings : Rings txBuffcount s older newer) : Transmits txBuffcount s where
  order := by
    have ordered : s.sent <+: (s.completed.map (chain txBuffcount)).flatten := ⟨_, rings.done⟩
    refine ordered.trans ?_
    cases call : s.call with
    | none =>
      have completed : s.completed = s.frames := by rw [TxRing.completed, call]
      exact ⟨[], by rw [List.append_nil, completed]⟩
    | some call =>
      obtain ⟨-, -, -, -, -, frames⟩ := rings.busy _ call
      rw [frames, List.map_append, List.flatten_append]
      exact List.prefix_append _ _
  begun := by
    have firsts := firsts_flatten txBuffcount s.completed
    rw [← rings.done, List.filter_append, List.length_append] at firsts
    omega
  handed idle := by
    obtain rfl := rings.idle idle
    have completed : s.completed = s.frames := by rw [TxRing.completed, idle]
    refine ⟨older, ?_, rings.toSet, ?_⟩
    · rw [← List.append_nil older]
      exact rings.window
    · rw [← completed]
      exact rings.done

/-- A call that is not blocked finds room for its chain. -/
theorem Rings.room (rings : Rings txBuffcount s older newer) (idle : s.call = none)
    {frameLength : BitVec 16} (free : ¬ Blocked txBuffcount s frameLength) :
    older.length + frameCount frameLength ≤ txBuffcount := by
  obtain rfl := rings.idle idle
  have window := rings.window
  rw [List.append_nil] at window
  have room := window.room
  by_contra crowded
  apply free
  by_cases short : txBuffcount < frameCount frameLength
  · exact .inl short
  · have some : 0 < older.length := by omega
    refine .inr ⟨txBuffcount - older.length, by omega, ?_⟩
    have around : (s.toSet + (txBuffcount - older.length)) % txBuffcount =
        (s.dma + 0) % txBuffcount := by
      have whole : s.dma + older.length + (txBuffcount - older.length) =
          s.dma + 0 + txBuffcount := by omega
      rw [rings.toSet, Nat.mod_add_mod, whole, Nat.add_mod_right]
    rw [around]
    exact (window.mark_iff window.positive).mpr some

theorem Rings.transmit (rings : Rings txBuffcount s older newer) {frameLength : BitVec 16}
    (free : ¬ Blocked txBuffcount s frameLength)
    (taken : txStep s (.transmit frameLength) = some t) : Rings txBuffcount t older [] := by
  simp only [txStep] at taken
  split at taken
  · cases taken
  · next idle =>
    rw [if_neg (own_ne_set _)] at taken
    obtain rfl := Option.some.inj taken
    have room := rings.room idle free
    obtain rfl := rings.idle idle
    have before : s.completed = s.frames := by rw [TxRing.completed, idle]
    have completed : TxRing.completed { s with
        call := some ⟨frameLength, 0, s.toSet⟩
        frames := s.frames ++ [(s.toSet, frameLength)] } = s.frames := List.dropLast_concat
    constructor
    case linked => exact rings.linked
    case window => exact rings.window
    case toSet => exact rings.toSet
    case done =>
      rw [completed, ← before]
      exact rings.done
    case idle => exact fun _ => rfl
    case busy =>
      intro call started
      obtain rfl := Option.some.inj started
      refine ⟨rfl, frameCount_pos _, room, ?_, rfl, ?_⟩
      · have inside : s.toSet < txBuffcount := by
          rw [rings.toSet]
          exact Nat.mod_lt _ rings.window.positive
        exact (Nat.mod_eq_of_lt inside).symm
      · rw [completed]

theorem next_of_position (linked : Linked txBuffcount s.tab) {start : Nat} (some : 0 < txBuffcount)
    (offset : Nat) : (s.tab ((start + offset) % txBuffcount)).buffer2NextDescAddr =
      (start + (offset + 1)) % txBuffcount := by
  have inside := Nat.mod_lt (start + offset) some
  rw [linked.next _ inside, next_eq inside, Nat.mod_add_mod, Nat.add_assoc]

theorem getElem_chain {frame : Nat × BitVec 16} {i : Nat} (within : i < frameCount frame.2) :
    (chain txBuffcount frame).take (i + 1) = (chain txBuffcount frame).take i ++
      [{ buffer := (frame.1 + i) % txBuffcount * ethMaxPacketSize
         size := min ethMaxPacketSize (frame.2.toNat - i * ethMaxPacketSize)
         first := i = 0
         last := i + 1 = frameCount frame.2 }] := by
  have length : i < (chain txBuffcount frame).length := by
    rw [chain, List.length_map, List.length_range]
    exact within
  rw [List.take_succ_eq_append_getElem length]
  simp only [chain, List.getElem_map, List.getElem_range]

/-- The descriptor that the call comes to is the driver's, and with it another one is handed
over. -/
theorem Rings.write (rings : Rings txBuffcount s older newer) {call : TxCall}
    (busy : s.call = some call) (taken : txStep s .write = some t) :
    (s.tab call.desc).own = false ∧ ∃ older newer, Rings txBuffcount t older newer := by
  obtain ⟨length, within, room, position, written, frames⟩ := rings.busy _ busy
  have some := rings.window.positive
  have total : (older ++ newer).length = older.length + call.i := by
    rw [List.length_append, length]
  have cursor : call.desc = (s.dma + (older ++ newer).length) % txBuffcount := by
    rw [position, rings.toSet, Nat.mod_add_mod, total, Nat.add_assoc]
  have spare : (older ++ newer).length < txBuffcount := by omega
  have free : (s.tab call.desc).own = false := by
    rw [cursor]
    exact rings.window.unmarked _ (Nat.le_refl _) spare
  refine ⟨free, ?_⟩
  have inside : call.desc < txBuffcount := by
    rw [cursor]
    exact Nat.mod_lt _ some
  generalize made : transmitDesc call.frameLength call.i (s.tab call.desc) = desc
  have links : desc.buffer1Addr = (s.tab call.desc).buffer1Addr ∧
      desc.buffer2NextDescAddr = (s.tab call.desc).buffer2NextDescAddr := by
    rw [← made]
    exact transmitDesc_links
  have linked : Linked txBuffcount (Function.update s.tab call.desc desc) :=
    rings.linked.update links
  have window : Window txBuffcount (Function.update s.tab call.desc desc) Desc.own s.dma
      (older ++ (newer ++ [desc])) := by
    have marked : desc.own = true := by
      rw [← made]
      exact own_transmitDesc
    rw [← List.append_assoc, cursor]
    exact rings.window.push marked spare
  have segments : (newer ++ [desc]).map Desc.segment =
      (chain txBuffcount (s.toSet, call.frameLength)).take (call.i + 1) := by
    rw [getElem_chain within, ← written, List.map_append, List.map_singleton, ← made,
      segment_transmitDesc within, rings.linked.buffer _ inside, position]
  have next : desc.buffer2NextDescAddr = (s.toSet + (call.i + 1)) % txBuffcount := by
    rw [links.2, position]
    exact next_of_position rings.linked some _
  simp only [txStep, busy, made] at taken
  split at taken
  · next more =>
    obtain rfl := Option.some.inj taken
    have same : s.completed = s.frames.dropLast := by rw [TxRing.completed, busy]
    refine ⟨older, newer ++ [desc], linked, window, rings.toSet, ?_, nofun, ?_⟩
    · exact rings.done.trans (by rw [same]; rfl)
    · intro later started
      obtain rfl := Option.some.inj started
      refine ⟨?_, more, room, next, segments, frames.trans (by rw [same]; rfl)⟩
      rw [List.length_append, List.length_singleton, length]
  · next complete =>
    obtain rfl := Option.some.inj taken
    have count : call.i + 1 = frameCount call.frameLength := by omega
    have whole : (chain txBuffcount (s.toSet, call.frameLength)).length = call.i + 1 := by
      rw [chain, List.length_map, List.length_range, count]
    refine ⟨older ++ (newer ++ [desc]), [], linked, ?_, ?_, ?_, fun _ => rfl, nofun⟩
    · rw [List.append_nil]
      exact window
    · refine next.trans ?_
      rw [rings.toSet, Nat.mod_add_mod, List.length_append, List.length_append,
        List.length_singleton, length, Nat.add_assoc]
    · have completed : TxRing.completed { s with
          tab := Function.update s.tab call.desc desc
          call := none
          toSet := desc.buffer2NextDescAddr } = s.completed ++ [(s.toSet, call.frameLength)] := frames
      rw [completed, flatten_snoc, ← rings.done, List.map_append, segments, ← whole,
        List.take_length, List.append_assoc]

theorem Rings.front (rings : Rings txBuffcount s older newer) (own : (s.tab s.dma).own = true) :
    older ++ newer ≠ [] := by
  intro none
  have window := rings.window
  rw [none] at window
  have self : (s.dma + 0) % txBuffcount = s.dma := Nat.mod_eq_of_lt window.inside
  have free := window.unmarked 0 (Nat.le_refl _) window.positive
  rw [self, own] at free
  exact absurd free (by decide)

theorem own_report (status : BitVec 32) (report : BitVec 18) :
    (status &&& 0x7FFC0000 ||| report.zeroExtend 32).getLsbD 31 = false := by
  simp

/-- The DMA takes the oldest descriptor of a frame handed over. -/
theorem Rings.dma {desc : Desc} (rings : Rings txBuffcount s (desc :: older) newer)
    {report : BitVec 18} (taken : txStep s (.dma report) = some t) :
    Rings txBuffcount t older newer := by
  have front : s.tab s.dma = desc := rings.window.front
  have inside := rings.window.inside
  have self : s.dma % txBuffcount = s.dma := Nat.mod_eq_of_lt inside
  have own : (s.tab s.dma).own = true := by
    rw [front]
    exact rings.window.marked _ List.mem_cons_self
  simp only [txStep, own, if_true] at taken
  obtain rfl := Option.some.inj taken
  have next : (s.tab s.dma).buffer2NextDescAddr = next txBuffcount s.dma :=
    rings.linked.next _ inside
  constructor
  case linked => exact rings.linked.update ⟨rfl, rfl⟩
  case window =>
    dsimp only
    rw [next]
    exact rings.window.pop (own_report _ _)
  case toSet =>
    dsimp only
    rw [next, next_eq inside, Nat.mod_add_mod, rings.toSet, List.length_cons, Nat.add_assoc,
      Nat.add_comm 1]
  case done =>
    refine Eq.trans ?_ rings.done
    dsimp only
    rw [front, List.append_assoc, List.map_cons, List.singleton_append]
  case idle => exact rings.idle
  case busy =>
    intro call busy
    obtain ⟨length, within, room, rest⟩ := rings.busy call busy
    rw [List.length_cons] at room
    exact ⟨length, within, by omega, rest⟩

/-- The DMA begins the frame of the call in progress. -/
theorem Rings.overtakes (rings : Rings txBuffcount s [] newer) {report : BitVec 18}
    (taken : txStep s (.dma report) = some t) :
    t.completed.length < (t.sent.filter Segment.first).length := by
  by_cases own : (s.tab s.dma).own = true
  · have some := rings.front own
    rw [List.nil_append] at some
    obtain ⟨desc, rest, rfl⟩ := List.exists_cons_of_ne_nil some
    obtain ⟨call, busy⟩ := Option.ne_none_iff_exists'.mp
      fun idle => absurd (rings.idle idle) (List.cons_ne_nil _ _)
    obtain ⟨length, -, -, -, written, -⟩ := rings.busy call busy
    have front : s.tab s.dma = desc := rings.window.front
    have first : desc.segment.first = true := by
      apply first_of_chain
      rw [List.map_cons, ← length] at written
      exact written.symm
    have done := rings.done
    rw [List.map_nil, List.append_nil] at done
    simp only [txStep, own, if_true] at taken
    obtain rfl := Option.some.inj taken
    have completed : TxRing.completed { s with
        tab := Function.update s.tab s.dma { s.tab s.dma with
          status := (s.tab s.dma).status &&& 0x7FFC0000 ||| report.zeroExtend 32 }
        dma := (s.tab s.dma).buffer2NextDescAddr
        sent := s.sent ++ [(s.tab s.dma).segment] } = s.completed := rfl
    rw [completed]
    dsimp only
    rw [front, List.filter_append, List.length_append, done, firsts_flatten,
      List.filter_cons_of_pos first, List.length_cons]
    omega
  · simp only [txStep, own] at taken
    exact absurd taken nofun

theorem Rings.step {label : TxLabel} (rings : Rings txBuffcount s older newer)
    (unhurried : Unhurried txBuffcount s label) (taken : txStep s label = some t) :
    ∃ older newer, Rings txBuffcount t older newer := by
  cases label with
  | transmit frameLength => exact ⟨_, _, rings.transmit unhurried taken⟩
  | write =>
    cases busy : s.call with
    | none =>
      simp only [txStep, busy] at taken
      cases taken
    | some call => exact (rings.write busy taken).2
  | dma report =>
    cases older with
    | cons desc rest => exact ⟨_, _, rings.dma taken⟩
    | nil =>
      have own : (s.tab s.dma).own = true := by
        simp only [txStep, Option.ite_none_right_eq_some] at taken
        exact taken.1
      have here : s.dma = s.toSet := by
        rw [rings.toSet]
        exact (Nat.mod_eq_of_lt rings.window.inside).symm
      have busy : s.call ≠ none := fun idle => rings.front own (rings.idle idle)
      exact absurd here (unhurried busy)

theorem Rings.correct_iff {label : TxLabel} (rings : Rings txBuffcount s older newer)
    (taken : txStep s label = some t) : Correct txBuffcount s label t ↔
      Unhurried txBuffcount s label := by
  have step (unhurried : Unhurried txBuffcount s label) : Transmits txBuffcount t := by
    obtain ⟨_, _, after⟩ := rings.step unhurried taken
    exact after.transmits
  cases label with
  | transmit frameLength =>
    have accepted : t ≠ s := by
      simp only [txStep] at taken
      split at taken
      · cases taken
      · next idle =>
        rw [if_neg (own_ne_set _)] at taken
        rintro rfl
        have busy := congrArg TxRing.call (Option.some.inj taken)
        exact absurd (busy.trans idle) nofun
    exact ⟨fun correct blocked => accepted (correct.mpr blocked),
      fun unblocked => iff_of_false accepted unblocked⟩
  | write =>
    refine iff_of_true ⟨step trivial, fun call busy => ?_⟩ trivial
    exact (rings.write busy taken).1
  | dma report =>
    refine ⟨fun correct busy here => ?_, step⟩
    obtain ⟨call, started⟩ := Option.ne_none_iff_exists'.mp busy
    obtain ⟨-, -, room, -⟩ := rings.busy call started
    have some := frameCount_pos call.frameLength
    have none : older = [] := by
      by_contra some
      have positive := List.length_pos_iff.mpr some
      have apart := @mod_ne_of_lt txBuffcount s.dma 0 older.length positive (by omega)
      rw [← rings.toSet, Nat.add_zero, Nat.mod_eq_of_lt rings.window.inside] at apart
      exact apart here
    subst none
    have begun := correct.begun
    have overtaken := rings.overtakes taken
    omega

/-- Whatever has been handed over is transmitted whole and in order; another step is correct
exactly when it is unhurried. -/
theorem transmit_correct_iff {tab : Tab} (some : 0 < txBuffcount) {labels : List TxLabel}
    {label : TxLabel}
    (run : Run txStep (Unhurried txBuffcount) (.config tab txBuffcount) labels s)
    (taken : txStep s label = .some t) :
    Transmits txBuffcount s ∧
      (Correct txBuffcount s label t ↔ Unhurried txBuffcount s label) ∧
      ∀ frame, (chain txBuffcount frame).length =
          max 1 ((frame.2.toNat + (ethMaxPacketSize - 1)) / ethMaxPacketSize) ∧
        ((chain txBuffcount frame).map Segment.size).sum = frame.2.toNat := by
  obtain ⟨older, newer, rings⟩ : ∃ older newer, Rings txBuffcount s older newer := by
    refine run.invariant (fun s => ∃ older newer, Rings txBuffcount s older newer)
      ⟨[], [], .config tab some⟩ ?_
    rintro before label after ⟨older, newer, rings⟩ unhurried stepped
    exact rings.step unhurried stepped
  exact ⟨rings.transmits, rings.correct_iff taken,
    fun frame => ⟨length_chain _ frame, sizes_chain _ frame⟩⟩

end

instance (txBuffcount : Nat) (s : TxRing) (frameLength : BitVec 16) :
    Decidable (Blocked txBuffcount s frameLength) :=
  inferInstanceAs (Decidable (txBuffcount < frameCount frameLength ∨
    ∃ j < frameCount frameLength, (s.tab ((s.toSet + j) % txBuffcount)).own = true))

instance (txBuffcount : Nat) (s : TxRing) (label : TxLabel) :
    Decidable (Unhurried txBuffcount s label) := by
  unfold Unhurried
  cases label <;> infer_instance

-- The ring of `ETH_TXBUFNB` descriptors.
def fiveBuffers : TxRing := .config (fun _ => ⟨0, 0, 0, 0⟩) 5

-- A frame in two descriptors, of which the DMA has taken the first.
def twoDescriptors : List TxLabel := [.transmit 2000, .write, .write, .dma 0]

theorem twoDescriptors_accepted :
    (execute txStep (Unhurried 5) fiveBuffers twoDescriptors).isSome = true := by
  decide +kernel

def halfSent : TxRing := final txStep (Unhurried 5) fiveBuffers _ twoDescriptors_accepted

theorem halfSent_taken : (txStep halfSent (.dma 0)).isSome = true := by
  decide +kernel

theorem halfSent_correct :
    Correct 5 halfSent (.dma 0) ((txStep halfSent (.dma 0)).get halfSent_taken) :=
  ((transmit_correct_iff (by decide) (Run.final _ _ fiveBuffers _ twoDescriptors_accepted)
    (Option.some_get halfSent_taken).symm).2.1).mpr (by decide +kernel)

-- Five frames that the DMA has not begun.
def fiveFrames : List TxLabel := (List.replicate 5 [.transmit 100, .write]).flatten

theorem fiveFrames_accepted : (execute txStep free fiveBuffers fiveFrames).isSome = true := by
  decide +kernel

def fullRing : TxRing := final txStep free fiveBuffers _ fiveFrames_accepted

theorem fullRing_taken : (txStep fullRing (.transmit 100)).isSome = true := by
  decide +kernel

theorem sixth_frame_accepted : ¬ ∀ (labels : List TxLabel) (s t : TxRing) (label : TxLabel),
    Run txStep free fiveBuffers labels s → txStep s label = some t → Correct 5 s label t := by
  intro correct
  have unchanged := (correct _ _ _ _ (Run.final _ _ fiveBuffers _ fiveFrames_accepted)
    (Option.some_get fullRing_taken).symm).mpr (by decide +kernel)
  have idle := congrArg TxRing.call unchanged
  exact absurd idle (by decide +kernel)

end ApmSdk.Eth
