import ApmSdk.Eth.Descriptor
import ApmSdk.Lib.Runs

set_option autoImplicit false

/-!
# The receive ring

The two scanners of received frames, with a DMA that writes segments between any two of their
steps and an application that gives the descriptors of each frame back.
-/

namespace ApmSdk.Eth

open Runs RingBuffer OwnedRing

-- `ETH_DMARXDESC_FDES`, `ETH_DMARXDESC_LDES` and `ETH_DMARXDESC_FL`.
def Desc.fdes (desc : Desc) : Bool := desc.status.getLsbD 9

def Desc.ldes (desc : Desc) : Bool := desc.status.getLsbD 8

def Desc.fl (desc : Desc) : BitVec 32 := (desc.status &&& 0x3FFF0000) >>> 16

def ethRxBufNb : Nat := 5

-- `ETH_Frame_T`; `none` is `NULL`.
structure Frame where
  length : BitVec 32
  buffer : Nat
  descriptor : Option Nat
  deriving DecidableEq

-- Where the calls of the application stand.
inductive Phase where
  | idle
  -- `ETH_CheckReceivedFrame` has returned 1
  | checked
  -- in the loop of `ETH_ReadReceivedFrameInterrupt`
  | scanning (count : Nat)
  -- a frame has been returned and its descriptors are not given back yet
  | holding (descriptor : Option Nat) (segCount : BitVec 32)
  deriving DecidableEq

-- A frame that the DMA has written: its first descriptor, its segments and its length field.
structure RxFrame where
  first : Nat
  count : Nat
  fl : Nat
  deriving DecidableEq

-- What the application sees of a frame.
structure Returned where
  descriptor : Option Nat
  buffer : Nat
  segCount : Nat
  length : Int
  deriving DecidableEq

structure RxRing where
  tab : Tab
  -- `DMARxDescToGet`
  toGet : Nat
  -- `DMARxFraminfos`
  fsDesc : Option Nat
  lsDesc : Option Nat
  segCount : BitVec 32
  phase : Phase
  dma : Nat
  -- ghost: the frame that the DMA is writing, those it has written, and those returned
  current : Nat × Nat
  frames : List RxFrame
  returned : List Returned

def RxRing.buffer1Addr (s : RxRing) (desc : Option Nat) : Nat :=
  match desc with
  | some index => (s.tab index).buffer1Addr
  | none => 0

def checkReceivedFrame (s : RxRing) : RxRing × Bool :=
  let desc := s.tab s.toGet
  if !desc.own && desc.ldes then
    let segCount := s.segCount + 1
    ({ s with
      segCount := segCount
      fsDesc := if segCount = 1 then some s.toGet else s.fsDesc
      lsDesc := some s.toGet }, true)
  else if !desc.own && desc.fdes && !desc.ldes then
    ({ s with
      fsDesc := some s.toGet
      lsDesc := none
      segCount := 1
      toGet := desc.buffer2NextDescAddr }, false)
  else if !desc.own && !desc.fdes && !desc.ldes then
    ({ s with
      segCount := s.segCount + 1
      toGet := desc.buffer2NextDescAddr }, false)
  else (s, false)

def readReceivedFrame (s : RxRing) : RxRing × Frame :=
  let desc := s.tab s.toGet
  ({ s with toGet := desc.buffer2NextDescAddr },
    { length := desc.fl - 4
      buffer := s.buffer1Addr s.fsDesc
      descriptor := s.fsDesc })

-- How a turn of the loop of `ETH_ReadReceivedFrameInterrupt` ends.
inductive Turn where
  | again
  | found (frame : Frame)
  -- the loop is left, and the frame is still one of zeros
  | nothing

-- `count` is the number of turns before this one.
def readReceivedFrameInterrupt (s : RxRing) (count : Nat) : RxRing × Turn :=
  let desc := s.tab s.toGet
  if !desc.own && count < ethRxBufNb then
    if desc.fdes && !desc.ldes then
      ({ s with
        fsDesc := some s.toGet
        segCount := 1
        toGet := desc.buffer2NextDescAddr }, .again)
    else if !desc.fdes && !desc.ldes then
      ({ s with
        segCount := s.segCount + 1
        toGet := desc.buffer2NextDescAddr }, .again)
    else
      let segCount := s.segCount + 1
      let fsDesc := if segCount = 1 then some s.toGet else s.fsDesc
      ({ s with
        lsDesc := some s.toGet
        segCount := segCount
        fsDesc := fsDesc
        toGet := desc.buffer2NextDescAddr },
        .found {
          length := desc.fl - 4
          buffer := if 1 < segCount then s.buffer1Addr fsDesc else desc.buffer1Addr
          descriptor := fsDesc })
  else (s, .nothing)

-- The application sets `OWN` in `count` descriptors.
def giveBack : Nat → Nat → Tab → Tab
  | 0, _, tab => tab
  | count + 1, index, tab =>
      giveBack count (tab index).buffer2NextDescAddr
        (Function.update tab index { tab index with status := descOwn })

-- A frame goes to the application with `DMARxFraminfos->segCount`.
def RxRing.deliver (s : RxRing) (frame : Frame) : RxRing :=
  { s with
    phase := .holding frame.descriptor s.segCount
    returned := s.returned ++
      [⟨frame.descriptor, frame.buffer, s.segCount.toNat, frame.length.toNat⟩] }

inductive RxLabel where
  -- the DMA writes the status of its next segment
  | dma (status : BitVec 32)
  | check
  | read
  | interrupt
  | turn
  -- an application may clear `segCount` as well
  | giveBack (clear : Bool)

def rxStep (s : RxRing) : RxLabel → Option RxRing
  | .dma status =>
      let desc := { s.tab s.dma with status := status }
      if (s.tab s.dma).own && !desc.own && (desc.fdes == decide (s.current.2 = 0)) then
        let s := { s with
          tab := Function.update s.tab s.dma desc
          dma := desc.buffer2NextDescAddr }
        if desc.ldes then
          some { s with
            frames := s.frames ++ [⟨s.current.1, s.current.2 + 1, desc.fl.toNat⟩]
            current := (desc.buffer2NextDescAddr, 0) }
        else some { s with current := (s.current.1, s.current.2 + 1) }
      else none
  | .check =>
      if s.phase = .idle then
        match checkReceivedFrame s with
        | (s, true) => some { s with phase := .checked }
        | (s, false) => some s
      else none
  | .read =>
      if s.phase = .checked then
        match readReceivedFrame s with
        | (s, frame) => some (s.deliver frame)
      else none
  | .interrupt => if s.phase = .idle then some { s with phase := .scanning 0 } else none
  | .turn =>
      match s.phase with
      | .scanning count =>
          match readReceivedFrameInterrupt s count with
          | (s, .again) => some { s with phase := .scanning (count + 1) }
          | (s, .found frame) => some (s.deliver frame)
          | (s, .nothing) => some { s with phase := .idle }
      | _ => none
  | .giveBack clear =>
      match s.phase with
      | .holding (some index) segCount =>
          some { s with
            tab := giveBack segCount.toNat index s.tab
            segCount := if clear then 0 else s.segCount
            phase := .idle }
      | .holding none _ => some { s with phase := .idle }
      | _ => none

-- `ETH_ConfigDMARxDescChain`; what `RxFrameDescriptor` holds is left as it is.
def RxRing.config (tab : Tab) (rxBuffcount : Nat) (fsDesc lsDesc : Option Nat)
    (segCount : BitVec 32) : RxRing where
  tab := configDMARxDescChain tab rxBuffcount
  toGet := 0
  fsDesc := fsDesc
  lsDesc := lsDesc
  segCount := segCount
  phase := .idle
  dma := 0
  current := (0, 0)
  frames := []
  returned := []

/-! ## The property -/

def RxFrame.expected (frame : RxFrame) : Returned where
  descriptor := some frame.first
  buffer := frame.first * ethMaxPacketSize
  segCount := frame.count
  length := frame.fl - 4

/-- Once each and in order, as they are, and all of them where the scanners find no more. -/
structure Delivers (s : RxRing) : Prop where
  inOrder : s.returned <+: s.frames.map RxFrame.expected
  all : (s.tab s.toGet).own = true → s.returned = s.frames.map RxFrame.expected

-- The segment that ends a frame.
def Ends (s : RxRing) : Prop := (s.tab s.toGet).own = false ∧ (s.tab s.toGet).ldes = true

/-- A frame of a single segment is found with a count of zero, and no length is less than that of
the checksum. -/
def Fits (s : RxRing) : Prop :=
  ((s.tab s.toGet).fdes = true → s.segCount = 0) ∧ 4 ≤ (s.tab s.toGet).fl.toNat

def Counted (s : RxRing) : RxLabel → Prop
  | .check => Ends s → Fits s
  | .turn => (∃ count < ethRxBufNb, s.phase = .scanning count) → Ends s → Fits s
  | _ => True

/-! ## Segments and frames -/

-- The segments of a frame that is not complete.
def Part (part : List Desc) : Prop :=
  ∀ index (within : index < part.length),
    part[index].fdes = decide (index = 0) ∧ part[index].ldes = false

def Whole (block : List Desc) : Prop :=
  ∃ init last, block = init ++ [last] ∧ Part init ∧ last.fdes = decide (init.length = 0) ∧
    last.ldes = true

def frameOf (first : Nat) (block : List Desc) : RxFrame where
  first := first
  count := block.length
  fl := (block.getLast?.map fun last => last.fl.toNat).getD 0

def framesFrom (rxBuffcount : Nat) : Nat → List (List Desc) → List RxFrame
  | _, [] => []
  | first, block :: rest =>
      frameOf first block :: framesFrom rxBuffcount ((first + block.length) % rxBuffcount) rest

theorem length_snoc (queue : List Desc) (desc : Desc) :
    (queue ++ [desc]).length = queue.length + 1 := by
  rw [List.length_append, List.length_singleton]

theorem framesFrom_snoc (rxBuffcount : Nat) (blocks : List (List Desc)) (block : List Desc)
    {first : Nat} (inside : first < rxBuffcount) :
    framesFrom rxBuffcount first (blocks ++ [block]) = framesFrom rxBuffcount first blocks ++
      [frameOf ((first + blocks.flatten.length) % rxBuffcount) block] := by
  induction blocks generalizing first with
  | nil => simp [framesFrom, Nat.mod_eq_of_lt inside]
  | cons head rest ih =>
    have later : (first + head.length) % rxBuffcount < rxBuffcount :=
      Nat.mod_lt _ (Nat.lt_of_le_of_lt (Nat.zero_le _) inside)
    rw [List.cons_append, framesFrom, framesFrom, ih later, List.cons_append, Nat.mod_add_mod,
      List.flatten_cons, List.length_append, Nat.add_assoc]

theorem Part.push {part : List Desc} {desc : Desc} (holds : Part part)
    (fdes : desc.fdes = decide (part.length = 0)) (ldes : desc.ldes = false) :
    Part (part ++ [desc]) := by
  intro index within
  rw [List.length_append, List.length_singleton] at within
  by_cases older : index < part.length
  · rw [List.getElem_append_left older]
    exact holds index older
  · obtain rfl : index = part.length := by omega
    rw [List.getElem_concat_length rfl]
    exact ⟨fdes, ldes⟩

theorem Whole.at {block : List Desc} (whole : Whole block) (index : Nat)
    (within : index < block.length) : block[index].fdes = decide (index = 0) ∧
      block[index].ldes = decide (index + 1 = block.length) := by
  obtain ⟨init, last, rfl, part, fdes, ldes⟩ := whole
  rw [List.length_append, List.length_singleton] at within
  by_cases older : index < init.length
  · have more : index + 1 ≠ (init ++ [last]).length := by
      rw [List.length_append, List.length_singleton]
      omega
    rw [List.getElem_append_left older, (part index older).1, (part index older).2]
    exact ⟨rfl, (decide_eq_false more).symm⟩
  · obtain rfl : index = init.length := by omega
    rw [List.getElem_concat_length rfl, fdes, ldes]
    simp

theorem Whole.positive {block : List Desc} (whole : Whole block) : 0 < block.length := by
  obtain ⟨init, last, rfl, -⟩ := whole
  rw [length_snoc]
  exact Nat.succ_pos _

theorem fl_frameOf {block : List Desc} {first index : Nat} (within : index < block.length)
    (last : index + 1 = block.length) : (frameOf first block).fl = block[index].fl.toNat := by
  have index_eq : index = block.length - 1 := by omega
  have some : block ≠ [] := by
    rintro rfl
    cases last
  simp only [frameOf, List.getLast?_eq_some_getLast some, Option.map_some, Option.getD_some,
    List.getLast_eq_getElem, index_eq]

/-! ## Giving descriptors back -/

def Desc.free (desc : Desc) : Bool := !desc.own

theorem window_giveBack {rxBuffcount first : Nat} {tab : Tab} {block rest : List Desc}
    (linked : Linked rxBuffcount tab)
    (window : Window rxBuffcount tab Desc.free first (block ++ rest)) :
    Linked rxBuffcount (giveBack block.length first tab) ∧
      Window rxBuffcount (giveBack block.length first tab) Desc.free
        ((first + block.length) % rxBuffcount) rest := by
  induction block generalizing first tab with
  | nil =>
    rw [List.length_nil, Nat.add_zero, Nat.mod_eq_of_lt window.inside]
    exact ⟨linked, window⟩
  | cons desc later ih =>
    have inside := window.inside
    have owned : Desc.free { tab first with status := descOwn } = false := by
      simp [Desc.free, Desc.own, descOwn]
    have popped := window.pop owned
    have relinked : Linked rxBuffcount
        (Function.update tab first { tab first with status := descOwn }) :=
      linked.update ⟨rfl, rfl⟩
    have next : (first + (later.length + 1)) % rxBuffcount =
        (next rxBuffcount first + later.length) % rxBuffcount := by
      rw [next_eq inside, Nat.mod_add_mod, Nat.add_assoc, Nat.add_comm 1]
    rw [List.length_cons, giveBack, linked.next _ inside, next]
    exact ih relinked popped

/-! ## The ring in a run -/

/-- The frames that are complete and not given back, and the part of one after them. -/
structure Holding (rxBuffcount first : Nat) (given : List RxFrame) (blocks : List (List Desc))
    (part : List Desc) (s : RxRing) : Prop where
  linked : Linked rxBuffcount s.tab
  window : Window rxBuffcount s.tab Desc.free first (blocks.flatten ++ part)
  whole : ∀ block ∈ blocks, Whole block
  begun : Part part
  dma : s.dma = (first + (blocks.flatten ++ part).length) % rxBuffcount
  current : s.current = ((first + blocks.flatten.length) % rxBuffcount, part.length)
  frames : s.frames = given ++ framesFrom rxBuffcount first blocks

def Phase.Between (phase : Phase) : Prop := phase = .idle ∨ ∃ count, phase = .scanning count

theorem not_between_checked : ¬ Phase.Between .checked := by
  rintro (idle | ⟨_, scanning⟩) <;> contradiction

theorem not_between_holding {descriptor : Option Nat} {segCount : BitVec 32} :
    ¬ Phase.Between (.holding descriptor segCount) := by
  rintro (idle | ⟨_, scanning⟩) <;> contradiction

/-- Where the driver stands in the first frame. -/
inductive Driver (rxBuffcount first : Nat) (given : List RxFrame) (blocks : List (List Desc))
    (part : List Desc) (s : RxRing) : Prop
  | passed (count : Nat) : s.phase.Between → s.returned = given.map RxFrame.expected →
      count < rxBuffcount → (blocks = [] → count ≤ part.length) →
      (∀ block rest, blocks = block :: rest → count < block.length) →
      s.toGet = (first + count) % rxBuffcount →
      (0 < count → s.fsDesc = some first ∧ s.segCount.toNat = count) →
      Driver rxBuffcount first given blocks part s
  -- the first segments of a frame fill the ring, and nothing goes on
  | stuck : s.phase.Between → s.returned = given.map RxFrame.expected → blocks = [] →
      part.length = rxBuffcount → (∃ count < rxBuffcount, s.toGet = (first + count) % rxBuffcount) →
      Driver rxBuffcount first given blocks part s
  | checked (block : List Desc) (rest : List (List Desc)) : s.phase = .checked →
      s.returned = given.map RxFrame.expected → blocks = block :: rest →
      s.toGet = (first + (block.length - 1)) % rxBuffcount → s.fsDesc = some first →
      s.segCount.toNat = block.length → 4 ≤ (s.tab s.toGet).fl.toNat →
      Driver rxBuffcount first given blocks part s
  | held (block : List Desc) (rest : List (List Desc)) (segCount : BitVec 32) :
      s.phase = .holding (some first) segCount → segCount.toNat = block.length →
      s.returned = (given ++ [frameOf first block]).map RxFrame.expected → blocks = block :: rest →
      s.toGet = (first + block.length) % rxBuffcount →
      Driver rxBuffcount first given blocks part s

def Sound (rxBuffcount : Nat) (s : RxRing) : Prop :=
  ∃ first given blocks part, Holding rxBuffcount first given blocks part s ∧
    Driver rxBuffcount first given blocks part s

section

variable {rxBuffcount first : Nat} {given : List RxFrame} {blocks : List (List Desc)}
  {part : List Desc} {s t : RxRing}

-- The DMA owns what lies behind the segments.
theorem Holding.beyond (holding : Holding rxBuffcount first given blocks part s) {count : Nat}
    (small : count < rxBuffcount) (own : (s.tab ((first + count) % rxBuffcount)).own = true) :
    (blocks.flatten ++ part).length ≤ count := by
  by_contra within
  have free := (holding.window.mark_iff small).mpr (by omega)
  rw [Desc.free, own] at free
  exact absurd free (by decide)

theorem Holding.prefix_frames (holding : Holding rxBuffcount first given blocks part s) :
    given.map RxFrame.expected <+: s.frames.map RxFrame.expected := by
  rw [holding.frames, List.map_append]
  exact List.prefix_append _ _

theorem Driver.inOrder (holding : Holding rxBuffcount first given blocks part s)
    (driver : Driver rxBuffcount first given blocks part s) :
    s.returned <+: s.frames.map RxFrame.expected := by
  cases driver with
  | passed _ _ returned =>
    rw [returned]
    exact holding.prefix_frames
  | stuck _ returned =>
    rw [returned]
    exact holding.prefix_frames
  | checked _ _ _ returned =>
    rw [returned]
    exact holding.prefix_frames
  | held block rest _ _ _ returned front =>
    rw [returned, holding.frames, front, framesFrom, List.map_append, List.map_append, List.map_cons]
    exact (List.prefix_append_right_inj _).mpr (List.prefix_append [_] _)

theorem Driver.all (holding : Holding rxBuffcount first given blocks part s)
    (driver : Driver rxBuffcount first given blocks part s) (own : (s.tab s.toGet).own = true) :
    s.returned = s.frames.map RxFrame.expected := by
  have positive := holding.window.positive
  cases driver with
  | passed count _ returned small _ ofBlock position =>
    rw [position] at own
    have beyond := holding.beyond small own
    cases blocks with
    | nil => rw [returned, holding.frames, framesFrom, List.append_nil]
    | cons block rest =>
      have within := ofBlock block rest rfl
      rw [List.flatten_cons, List.length_append, List.length_append] at beyond
      omega
  | stuck _ _ _ full position =>
    obtain ⟨count, small, position⟩ := position
    rw [position] at own
    have beyond := holding.beyond small own
    rw [List.length_append] at beyond
    omega
  | checked block rest _ _ front position =>
    subst front
    have some := (holding.whole block List.mem_cons_self).positive
    have room := holding.window.room
    rw [List.flatten_cons, List.length_append, List.length_append] at room
    rw [position] at own
    have beyond := holding.beyond (by omega) own
    rw [List.flatten_cons, List.length_append, List.length_append] at beyond
    omega
  | held block rest _ _ _ returned front position =>
    subst front
    have some := (holding.whole block List.mem_cons_self).positive
    have room := holding.window.room
    rw [List.flatten_cons, List.length_append, List.length_append] at room
    rw [position] at own
    by_cases full : block.length = rxBuffcount
    · rw [full, Nat.add_mod_right, ← Nat.add_zero first] at own
      have beyond := holding.beyond positive own
      rw [List.flatten_cons, List.length_append, List.length_append] at beyond
      omega
    · have beyond := holding.beyond (by omega) own
      rw [List.flatten_cons, List.length_append, List.length_append] at beyond
      cases rest with
      | nil => rw [returned, holding.frames, framesFrom, framesFrom]
      | cons other others =>
        have more := (holding.whole other (by simp)).positive
        rw [List.flatten_cons, List.length_append] at beyond
        omega

theorem Driver.delivers (holding : Holding rxBuffcount first given blocks part s)
    (driver : Driver rxBuffcount first given blocks part s) : Delivers s :=
  ⟨driver.inOrder holding, driver.all holding⟩

theorem sound_config (tab : Tab) (some : 0 < rxBuffcount) (fsDesc lsDesc : Option Nat)
    (segCount : BitVec 32) : Sound rxBuffcount (.config tab rxBuffcount fsDesc lsDesc segCount) := by
  refine ⟨0, [], [], [], ?_, ?_⟩
  · constructor
    case linked => exact linked_configDMARxDescChain tab rxBuffcount
    case window =>
      refine .empty some fun index inside => ?_
      simp only [RxRing.config, configDMARxDescChain, configChain_apply, inside, if_true]
      simp [Desc.free, Desc.own, configDMARxDesc, descOwn]
    case whole =>
      intro block member
      cases member
    case begun =>
      intro index within
      exact absurd within (Nat.not_lt_zero index)
    case dma => exact (Nat.zero_mod _).symm
    case current => simp [RxRing.config]
    case frames => rfl
  · refine .passed 0 (.inl rfl) rfl some (fun _ => Nat.le_refl _) ?_ (Nat.zero_mod _).symm ?_
    · intro block rest front
      cases front
    · exact fun some => absurd some (Nat.lt_irrefl _)

theorem Holding.spare (holding : Holding rxBuffcount first given blocks part s)
    (own : (s.tab s.dma).own = true) : (blocks.flatten ++ part).length < rxBuffcount := by
  have window := holding.window
  refine Nat.lt_of_le_of_ne window.room fun full => ?_
  have around : s.dma = (first + 0) % rxBuffcount := by
    rw [holding.dma, full, Nat.add_mod_right, Nat.add_zero]
  have free : (s.tab ((first + 0) % rxBuffcount)).free = true := by
    apply (window.mark_iff window.positive).mpr
    rw [full]
    exact window.positive
  rw [← around, Desc.free, own] at free
  exact absurd free (by decide)

/-- The driver does not look at what the DMA adds behind. -/
theorem Driver.keep {later : List (List Desc)} {rest : List Desc}
    (driver : Driver rxBuffcount first given blocks part s)
    (moves : blocks = [] → part.length < rxBuffcount)
    (extends_ : later = blocks ∧ part.length ≤ rest.length ∨
      ∃ block, later = blocks ++ [block] ∧ part.length < block.length)
    (same : t.phase = s.phase ∧ t.returned = s.returned ∧ t.toGet = s.toGet ∧
      t.fsDesc = s.fsDesc ∧ t.segCount = s.segCount)
    (kept : ∀ block others, blocks = block :: others →
      s.toGet = (first + (block.length - 1)) % rxBuffcount → t.tab s.toGet = s.tab s.toGet) :
    Driver rxBuffcount first given later rest t := by
  obtain ⟨phase, returned, toGet, fsDesc, segCount⟩ := same
  have front (block : List Desc) (others : List (List Desc)) (begins : blocks = block :: others) :
      ∃ others, later = block :: others := by
    obtain ⟨rfl, -⟩ | ⟨_, rfl, -⟩ := extends_
    · exact ⟨others, begins⟩
    · rw [begins]
      exact ⟨_, rfl⟩
  cases driver with
  | passed count between before small ofPart ofBlock position marks =>
    refine .passed count (phase ▸ between) (returned.trans before) small ?_ ?_
      (toGet.trans position) (by rw [fsDesc, segCount]; exact marks)
    · intro none
      obtain ⟨rfl, longer⟩ | ⟨_, rfl, -⟩ := extends_
      · exact Nat.le_trans (ofPart none) longer
      · exact absurd none (List.append_ne_nil_of_right_ne_nil _ (List.cons_ne_nil _ _))
    · intro block others begins
      cases blocks with
      | cons head tail =>
        obtain ⟨others', begins'⟩ := front head tail rfl
        obtain rfl : head = block := (List.cons.inj (begins'.symm.trans begins)).1
        exact ofBlock _ _ rfl
      | nil =>
        have before := ofPart rfl
        obtain ⟨rfl, -⟩ | ⟨_, rfl, longer⟩ := extends_
        · cases begins
        · obtain rfl := (List.cons.inj begins).1
          omega
  | stuck _ _ none full =>
    exact absurd (moves none) (by omega)
  | checked block others checked before begins position fs count long =>
    obtain ⟨others', begins'⟩ := front block others begins
    refine .checked block others' (phase.trans checked) (returned.trans before) begins'
      (toGet.trans position) (fsDesc.trans fs) (by rw [segCount]; exact count) ?_
    rw [toGet, kept block others begins position]
    exact long
  | held block others segments holding count before begins position =>
    obtain ⟨others', begins'⟩ := front block others begins
    exact .held block others' segments (phase.trans holding) count (returned.trans before) begins'
      (toGet.trans position)

theorem Sound.dma {status : BitVec 32} (sound : Sound rxBuffcount s)
    (taken : rxStep s (.dma status) = some t) : Sound rxBuffcount t := by
  obtain ⟨first, given, blocks, part, holding, driver⟩ := sound
  obtain ⟨linked, window, whole, begun, dma, current, frames⟩ := holding
  simp only [rxStep, Option.ite_none_right_eq_some, Bool.and_eq_true, Bool.not_eq_true',
    beq_iff_eq] at taken
  obtain ⟨⟨⟨own, released⟩, fdes⟩, taken⟩ := taken
  have spare := Holding.spare ⟨linked, window, whole, begun, dma, current, frames⟩ own
  have inside : s.dma < rxBuffcount := by
    rw [dma]
    exact Nat.mod_lt _ window.positive
  generalize written : { s.tab s.dma with status := status } = desc at *
  have links : desc.buffer1Addr = (s.tab s.dma).buffer1Addr ∧
      desc.buffer2NextDescAddr = (s.tab s.dma).buffer2NextDescAddr := by
    rw [← written]
    exact ⟨rfl, rfl⟩
  have next : (s.tab s.dma).buffer2NextDescAddr =
      (first + ((blocks.flatten ++ part) ++ [desc]).length) % rxBuffcount := by
    rw [linked.next _ inside, next_eq inside, dma, Nat.mod_add_mod,
      length_snoc, Nat.add_assoc]
  have free : desc.free = true := by rw [Desc.free, released]; rfl
  have grown := window.push free spare
  rw [← dma] at grown
  rw [current] at fdes taken
  have apart (block : List Desc) (others : List (List Desc)) (begins : blocks = block :: others)
      (position : s.toGet = (first + (block.length - 1)) % rxBuffcount) :
      Function.update s.tab s.dma desc s.toGet = s.tab s.toGet := by
    apply Function.update_of_ne
    have some := (whole block (by rw [begins]; exact List.mem_cons_self)).positive
    have total : block.length ≤ (blocks.flatten ++ part).length := by
      rw [begins, List.flatten_cons, List.length_append, List.length_append]
      omega
    rw [position, dma]
    exact mod_ne_of_lt (by omega) (by omega)
  split at taken
  · next ldes =>
    obtain rfl := Option.some.inj taken
    have flat : (blocks ++ [part ++ [desc]]).flatten ++ [] = (blocks.flatten ++ part) ++ [desc] := by
      rw [List.flatten_append, List.flatten_singleton, List.append_nil, List.append_assoc]
    refine ⟨first, given, blocks ++ [part ++ [desc]], [], ⟨linked.update links, ?_, ?_, nofun, ?_,
      ?_, ?_⟩, driver.keep ?_ (.inr ⟨_, rfl, ?_⟩) ⟨rfl, rfl, rfl, rfl, rfl⟩ apart⟩
    · rw [flat]
      exact grown
    · intro block member
      rcases List.mem_append.mp member with older | newest
      · exact whole block older
      · rw [List.mem_singleton.mp newest]
        exact ⟨part, desc, rfl, begun, fdes, ldes⟩
    · rw [flat]
      exact next
    · rw [List.append_nil] at flat
      rw [flat, next]
      rfl
    · rw [frames, framesFrom_snoc _ _ _ window.inside, List.append_assoc]
      simp [frameOf]
    · intro none
      rw [none] at spare
      exact spare
    · simp
  · next more =>
    obtain rfl := Option.some.inj taken
    have flat : blocks.flatten ++ (part ++ [desc]) = (blocks.flatten ++ part) ++ [desc] :=
      (List.append_assoc _ _ _).symm
    refine ⟨first, given, blocks, part ++ [desc], ⟨linked.update links, ?_, whole, ?_, ?_, ?_,
      frames⟩, driver.keep ?_ (.inl ⟨rfl, ?_⟩) ⟨rfl, rfl, rfl, rfl, rfl⟩ apart⟩
    · rw [flat]
      exact grown
    · exact begun.push fdes (Bool.eq_false_iff.mpr more)
    · rw [flat]
      exact next
    · simp
    · intro none
      rw [none] at spare
      exact spare
    · simp

/-! ## One segment -/

theorem Holding.same (holding : Holding rxBuffcount first given blocks part s)
    (same : t.tab = s.tab ∧ t.dma = s.dma ∧ t.current = s.current ∧ t.frames = s.frames) :
    Holding rxBuffcount first given blocks part t := by
  obtain ⟨tab, dma, current, frames⟩ := same
  exact ⟨tab ▸ holding.linked, tab ▸ holding.window, holding.whole, holding.begun,
    dma.trans holding.dma, current.trans holding.current, frames.trans holding.frames⟩

theorem Holding.segment (holding : Holding rxBuffcount first given blocks part s) {count : Nat}
    (small : count < rxBuffcount) (ofBlock : ∀ block rest, blocks = block :: rest →
      count < block.length) {desc : Desc} (here : s.tab ((first + count) % rxBuffcount) = desc)
    (released : desc.own = false) :
    desc.fdes = decide (count = 0) ∧
      (desc.ldes = false ∧ (blocks = [] → count + 1 ≤ part.length) ∧
          (∀ block rest, blocks = block :: rest → count + 1 < block.length) ∨
        desc.ldes = true ∧ ∃ block rest, blocks = block :: rest ∧ count + 1 = block.length ∧
          (frameOf first block).fl = desc.fl.toNat) := by
  have window := holding.window
  have free : (s.tab ((first + count) % rxBuffcount)).free = true := by
    rw [here, Desc.free, released]
    rfl
  have within := (window.mark_iff small).mp free
  have item := window.items count within
  rw [here] at item
  cases blocks with
  | nil =>
    have inside : count < part.length := within
    have segment : desc = part[count] := item
    obtain ⟨fdes, ldes⟩ := holding.begun count inside
    rw [← segment] at fdes ldes
    exact ⟨fdes, .inl ⟨ldes, fun _ => inside, nofun⟩⟩
  | cons block rest =>
    have inside := ofBlock block rest rfl
    have segment : desc = block[count] := by
      rw [item]
      simp only [List.flatten_cons, List.append_assoc]
      exact List.getElem_append_left inside
    obtain ⟨fdes, ldes⟩ := (holding.whole block List.mem_cons_self).at count inside
    rw [← segment] at fdes ldes
    refine ⟨fdes, ?_⟩
    by_cases last : count + 1 = block.length
    · refine .inr ⟨ldes.trans (decide_eq_true last), block, rest, rfl, last, ?_⟩
      rw [fl_frameOf inside last, segment]
    · refine .inl ⟨ldes.trans (decide_eq_false last), nofun, fun other others same => ?_⟩
      obtain rfl := (List.cons.inj same).1
      omega

/-- The scanners pass a segment that does not end a frame. -/
structure Moved (s t : RxRing) : Prop where
  same : t.tab = s.tab ∧ t.dma = s.dma ∧ t.current = s.current ∧ t.frames = s.frames
  returned : t.returned = s.returned
  toGet : t.toGet = (s.tab s.toGet).buffer2NextDescAddr
  fsDesc : t.fsDesc = if (s.tab s.toGet).fdes then some s.toGet else s.fsDesc
  segCount : t.segCount = if (s.tab s.toGet).fdes then 1 else s.segCount + 1

theorem Moved.sound (narrow : rxBuffcount < 4294967296)
    (holding : Holding rxBuffcount first given blocks part s)
    (driver : Driver rxBuffcount first given blocks part s) (before : s.phase.Between)
    (released : (s.tab s.toGet).own = false) (within : (s.tab s.toGet).ldes = false)
    (moved : Moved s t) (between : t.phase.Between) : Sound rxBuffcount t := by
  have some := holding.window.positive
  have next (count : Nat) (position : s.toGet = (first + count) % rxBuffcount) :
      t.toGet = (first + (count + 1)) % rxBuffcount := by
    have inside := Nat.mod_lt (first + count) some
    rw [moved.toGet, position, holding.linked.next _ inside, next_eq inside, Nat.mod_add_mod,
      Nat.add_assoc]
  refine ⟨first, given, blocks, part, holding.same moved.same, ?_⟩
  cases driver with
  | passed count _ returned small ofPart ofBlock position marks =>
    have here : s.tab ((first + count) % rxBuffcount) = s.tab s.toGet := by rw [position]
    obtain ⟨fdes, ⟨-, ofPart', ofBlock'⟩ | ⟨ends, -⟩⟩ :=
      holding.segment small ofBlock here released
    · have fs : t.fsDesc = .some first := by
        rw [moved.fsDesc, fdes]
        by_cases start : count = 0
        · rw [start, Nat.add_zero, Nat.mod_eq_of_lt holding.window.inside] at position
          simp [start, position]
        · simpa [start] using (marks (Nat.pos_of_ne_zero start)).1
      have segments : t.segCount.toNat = count + 1 := by
        rw [moved.segCount, fdes]
        by_cases start : count = 0
        · simp [start]
        · have counted := (marks (Nat.pos_of_ne_zero start)).2
          have one : (1 : BitVec 32).toNat = 1 := rfl
          simp only [start, decide_false, Bool.false_eq_true, if_false, BitVec.toNat_add, counted,
            one]
          exact Nat.mod_eq_of_lt (by omega)
      by_cases full : count + 1 = rxBuffcount
      · have none : blocks = [] := by
          cases blocks with
          | nil => rfl
          | cons block rest =>
            have more := ofBlock' block rest rfl
            have room := holding.window.room
            rw [List.flatten_cons, List.length_append, List.length_append] at room
            omega
        have whole : part.length = rxBuffcount := by
          have longer := ofPart' none
          have room := holding.window.room
          rw [List.length_append] at room
          omega
        refine .stuck between (moved.returned.trans returned) none whole ⟨0, some, ?_⟩
        rw [next count position, full, Nat.add_mod_right, Nat.add_zero]
      · exact .passed (count + 1) between (moved.returned.trans returned) (by omega) ofPart' ofBlock'
          (next count position) fun _ => ⟨fs, segments⟩
    · exact absurd (within.symm.trans ends) nofun
  | stuck _ returned none full position =>
    obtain ⟨count, small, position⟩ := position
    refine .stuck between (moved.returned.trans returned) none full ?_
    by_cases last : count + 1 = rxBuffcount
    · refine ⟨0, some, ?_⟩
      rw [next count position, last, Nat.add_mod_right, Nat.add_zero]
    · exact ⟨count + 1, by omega, next count position⟩
  | checked _ _ checked => exact absurd (checked ▸ before) not_between_checked
  | held _ _ _ held => exact absurd (held ▸ before) not_between_holding

/-- The scanners come to the last segment of the frame in front. -/
structure Closes (rxBuffcount first : Nat) (given : List RxFrame) (block : List Desc)
    (count : Nat) (s : RxRing) : Prop where
  last : count + 1 = block.length
  fdes : (s.tab s.toGet).fdes = decide (count = 0)
  fl : (frameOf first block).fl = (s.tab s.toGet).fl.toNat
  position : s.toGet = (first + count) % rxBuffcount
  returned : s.returned = given.map RxFrame.expected
  marks : 0 < count → s.fsDesc = some first ∧ s.segCount.toNat = count

theorem Driver.closes (holding : Holding rxBuffcount first given blocks part s)
    (driver : Driver rxBuffcount first given blocks part s) (before : s.phase.Between)
    (ends : Ends s) : ∃ block rest count, blocks = block :: rest ∧
      Closes rxBuffcount first given block count s := by
  cases driver with
  | passed count _ returned small ofPart ofBlock position marks =>
    have here : s.tab ((first + count) % rxBuffcount) = s.tab s.toGet := by rw [position]
    obtain ⟨fdes, ⟨within, -⟩ | ⟨-, block, rest, front, last, fl⟩⟩ :=
      holding.segment small ofBlock here ends.1
    · exact absurd (within.symm.trans ends.2) nofun
    · exact ⟨block, rest, count, front, last, fdes, fl, position, returned, marks⟩
  | stuck _ returned none full position =>
    obtain ⟨count, small, position⟩ := position
    have here : s.tab ((first + count) % rxBuffcount) = s.tab s.toGet := by rw [position]
    have ofBlock (block : List Desc) (rest : List (List Desc)) (front : blocks = block :: rest) :
        count < block.length := absurd (none.symm.trans front) nofun
    obtain ⟨-, ⟨within, -⟩ | ⟨-, block, rest, front, -⟩⟩ :=
      holding.segment small ofBlock here ends.1
    · exact absurd (within.symm.trans ends.2) nofun
    · exact absurd (none.symm.trans front) nofun
  | checked _ _ checked => exact absurd (checked ▸ before) not_between_checked
  | held _ _ _ held => exact absurd (held ▸ before) not_between_holding

-- `segCount` and `FS_RxDesc` after the last segment.
def RxRing.counted (s : RxRing) : BitVec 32 := s.segCount + 1

def RxRing.fsFound (s : RxRing) : Option Nat :=
  if s.counted = 1 then some s.toGet else s.fsDesc

section

variable {block : List Desc} {count : Nat}

theorem Closes.counts (closes : Closes rxBuffcount first given block count s)
    (inside : first < rxBuffcount) (narrow : block.length < 4294967296)
    (fresh : (s.tab s.toGet).fdes = true → s.segCount = 0) :
    s.fsFound = some first ∧ s.counted.toNat = block.length := by
  have last := closes.last
  by_cases start : count = 0
  · have zero : s.segCount = 0 := fresh (closes.fdes.trans (decide_eq_true start))
    have one : s.counted = 1 := by rw [RxRing.counted, zero]; rfl
    have here : s.toGet = first := by
      rw [closes.position, start, Nat.add_zero, Nat.mod_eq_of_lt inside]
    rw [RxRing.fsFound, if_pos one, here, one]
    refine ⟨rfl, ?_⟩
    rw [← last, start]
    rfl
  · obtain ⟨fs, counted⟩ := closes.marks (Nat.pos_of_ne_zero start)
    have total : s.counted.toNat = count + 1 := by
      have one : (1 : BitVec 32).toNat = 1 := rfl
      rw [RxRing.counted, BitVec.toNat_add, counted, one]
      exact Nat.mod_eq_of_lt (by omega)
    have several : s.counted ≠ 1 := by
      intro one
      rw [one] at total
      have one : (1 : BitVec 32).toNat = 1 := rfl
      omega
    rw [RxRing.fsFound, if_neg several]
    exact ⟨fs, total.trans last⟩

theorem Closes.miscounts (closes : Closes rxBuffcount first given block count s)
    (single : (s.tab s.toGet).fdes = true) (stale : s.segCount ≠ 0) :
    s.counted.toNat ≠ block.length := by
  have start : count = 0 := of_decide_eq_true (closes.fdes.symm.trans single)
  have last := closes.last
  rw [start, Nat.zero_add] at last
  intro same
  apply stale
  have one : s.segCount + 1 = 0 + 1 := by
    apply BitVec.eq_of_toNat_eq
    exact same.trans (last.symm.trans rfl)
  exact (BitVec.add_left_inj 1).mp one

end

/-- The returned frame is the one in front, or it is not delivered. -/
theorem not_delivers {block : List Desc} {rest : List (List Desc)} {wrong : Returned}
    (holding : Holding rxBuffcount first given (block :: rest) part s)
    (before : s.returned = given.map RxFrame.expected)
    (returned : t.returned = s.returned ++ [wrong]) (frames : t.frames = s.frames)
    (differs : wrong ≠ (frameOf first block).expected) : ¬ Delivers t := by
  intro delivers
  have front := delivers.inOrder
  rw [returned, frames, holding.frames, before, framesFrom, List.map_append,
    List.prefix_append_right_inj, List.map_cons] at front
  exact differs (List.cons_prefix_cons.mp front).1

theorem length_eq_iff (fl : BitVec 32) : (((fl - 4).toNat : Int) = fl.toNat - 4) ↔
    4 ≤ fl.toNat := by
  have four : (4 : BitVec 32).toNat = 4 := rfl
  constructor
  · intro same
    omega
  · intro long
    rw [BitVec.toNat_sub_of_le (by rw [BitVec.le_def, four]; exact long), four]
    omega

/-! ## The two scanners -/

theorem check_moved (released : (s.tab s.toGet).own = false)
    (within : (s.tab s.toGet).ldes = false) : ∃ t, checkReceivedFrame s = (t, false) ∧
      Moved s t ∧ t.phase = s.phase := by
  unfold checkReceivedFrame
  simp only [released, within, Bool.not_false, Bool.and_true, Bool.and_false, Bool.true_and,
    Bool.false_eq_true, if_false]
  cases fdes : (s.tab s.toGet).fdes with
  | true =>
    refine ⟨_, if_pos rfl, ⟨⟨rfl, rfl, rfl, rfl⟩, rfl, rfl, ?_, ?_⟩, rfl⟩
    · rw [fdes]
      rfl
    · rw [fdes]
      rfl
  | false =>
    simp only [Bool.false_eq_true, if_false, Bool.not_false, if_true]
    refine ⟨_, rfl, ⟨⟨rfl, rfl, rfl, rfl⟩, rfl, rfl, ?_, ?_⟩, rfl⟩
    · rw [fdes]
      rfl
    · rw [fdes]
      rfl

theorem check_found (ends : Ends s) : checkReceivedFrame s =
    ({ s with segCount := s.counted, fsDesc := s.fsFound, lsDesc := some s.toGet }, true) := by
  simp only [checkReceivedFrame, ends.1, ends.2]
  rfl

theorem check_owned (own : (s.tab s.toGet).own = true) : checkReceivedFrame s = (s, false) := by
  simp [checkReceivedFrame, own]

theorem turn_moved {count : Nat} (more : count < ethRxBufNb)
    (released : (s.tab s.toGet).own = false) (within : (s.tab s.toGet).ldes = false) :
    ∃ t, readReceivedFrameInterrupt s count = (t, .again) ∧ Moved s t := by
  unfold readReceivedFrameInterrupt
  simp only [released, within, more, decide_true, Bool.not_false, Bool.and_true, if_true]
  cases fdes : (s.tab s.toGet).fdes with
  | true =>
    refine ⟨_, if_pos rfl, ⟨rfl, rfl, rfl, rfl⟩, rfl, rfl, ?_, ?_⟩
    · rw [fdes]
      rfl
    · rw [fdes]
      rfl
  | false =>
    simp only [Bool.false_eq_true, if_false, Bool.not_false, if_true]
    refine ⟨_, rfl, ⟨rfl, rfl, rfl, rfl⟩, rfl, rfl, ?_, ?_⟩
    · rw [fdes]
      rfl
    · rw [fdes]
      rfl

theorem turn_found {count : Nat} (more : count < ethRxBufNb) (ends : Ends s) :
    readReceivedFrameInterrupt s count =
      ({ s with
        lsDesc := some s.toGet
        segCount := s.counted
        fsDesc := s.fsFound
        toGet := (s.tab s.toGet).buffer2NextDescAddr },
        .found {
          length := (s.tab s.toGet).fl - 4
          buffer := if 1 < s.counted then s.buffer1Addr s.fsFound else (s.tab s.toGet).buffer1Addr
          descriptor := s.fsFound }) := by
  simp only [readReceivedFrameInterrupt, ends.1, ends.2, more, decide_true, Bool.not_false,
    Bool.and_true, if_true, Bool.not_true, Bool.and_false, Bool.false_eq_true, if_false]
  rfl

theorem turn_over {count : Nat} (nothing : (s.tab s.toGet).own = true ∨ ¬ count < ethRxBufNb) :
    readReceivedFrameInterrupt s count = (s, .nothing) := by
  unfold readReceivedFrameInterrupt
  obtain own | many := nothing
  · simp [own]
  · simp [many]

/-! ## Steps -/

-- A call of the scanner begins or ends where the one before it has stopped.
theorem Driver.between {phase : Phase} (driver : Driver rxBuffcount first given blocks part s)
    (before : s.phase.Between) (after : phase.Between) :
    Driver rxBuffcount first given blocks part { s with phase := phase } := by
  cases driver with
  | passed count _ returned small ofPart ofBlock position marks =>
    exact .passed count after returned small ofPart ofBlock position marks
  | stuck _ returned none full position => exact .stuck after returned none full position
  | checked _ _ checked => exact absurd (checked ▸ before) not_between_checked
  | held _ _ _ held => exact absurd (held ▸ before) not_between_holding

theorem Holding.block_length {block : List Desc} {rest : List (List Desc)}
    (holding : Holding rxBuffcount first given (block :: rest) part s) :
    block.length ≤ rxBuffcount := by
  have room := holding.window.room
  rw [List.flatten_cons, List.length_append, List.length_append] at room
  omega

theorem Sound.check (narrow : rxBuffcount < 4294967296) (sound : Sound rxBuffcount s)
    (fits : Counted s .check) (taken : rxStep s .check = some t) : Sound rxBuffcount t := by
  obtain ⟨first, given, blocks, part, holding, driver⟩ := sound
  simp only [rxStep, Option.ite_none_right_eq_some] at taken
  obtain ⟨idle, taken⟩ := taken
  have before : s.phase.Between := .inl idle
  cases own : (s.tab s.toGet).own with
  | true =>
    rw [check_owned own] at taken
    obtain rfl := Option.some.inj taken
    exact ⟨first, given, blocks, part, holding, driver⟩
  | false =>
    cases ldes : (s.tab s.toGet).ldes with
    | false =>
      obtain ⟨after, checked, moved, phase⟩ := check_moved own ldes
      rw [checked] at taken
      obtain rfl := Option.some.inj taken
      exact moved.sound narrow holding driver before own ldes (phase ▸ before)
    | true =>
      obtain ⟨fresh, long⟩ := fits ⟨own, ldes⟩
      rw [check_found ⟨own, ldes⟩] at taken
      obtain rfl := Option.some.inj taken
      obtain ⟨block, rest, count, rfl, closes⟩ := driver.closes holding before ⟨own, ldes⟩
      have length := holding.block_length
      obtain ⟨fs, segments⟩ := closes.counts holding.window.inside (by omega) fresh
      refine ⟨first, given, block :: rest, part, holding.same ⟨rfl, rfl, rfl, rfl⟩, ?_⟩
      refine .checked block rest rfl closes.returned rfl ?_ fs segments long
      rw [← closes.last, Nat.add_sub_cancel]
      exact closes.position

theorem Holding.delivered {block : List Desc} {rest : List (List Desc)} {toGet : Nat}
    (holding : Holding rxBuffcount first given (block :: rest) part s)
    (before : s.returned = given.map RxFrame.expected)
    (phase : t.phase = .holding (some first) s.segCount) (segments : s.segCount.toNat = block.length)
    (returned : t.returned = s.returned ++ [(frameOf first block).expected])
    (position : toGet = (first + (block.length - 1)) % rxBuffcount) (some : 0 < block.length)
    (next : t.toGet = (s.tab toGet).buffer2NextDescAddr)
    (same : t.tab = s.tab ∧ t.dma = s.dma ∧ t.current = s.current ∧ t.frames = s.frames) :
    Sound rxBuffcount t := by
  refine ⟨first, given, block :: rest, part, holding.same same, ?_⟩
  refine .held block rest s.segCount phase segments ?_ rfl ?_
  · rw [returned, before, List.map_append, List.map_singleton]
  · have inside : toGet < rxBuffcount := by
      rw [position]
      exact Nat.mod_lt _ holding.window.positive
    have last : first + (block.length - 1) + 1 = first + block.length := by omega
    rw [next, holding.linked.next _ inside, next_eq inside, position, Nat.mod_add_mod, last]

theorem Sound.read (sound : Sound rxBuffcount s) (taken : rxStep s .read = some t) :
    Sound rxBuffcount t := by
  obtain ⟨first, given, blocks, part, holding, driver⟩ := sound
  simp only [rxStep, Option.ite_none_right_eq_some] at taken
  obtain ⟨checked, taken⟩ := taken
  cases driver with
  | passed _ between => exact absurd (checked ▸ between) not_between_checked
  | stuck between => exact absurd (checked ▸ between) not_between_checked
  | held _ _ _ held => exact absurd (checked.symm.trans held) nofun
  | checked block rest _ returned front position fs segments long =>
    subst front
    obtain rfl := Option.some.inj taken
    have whole := holding.whole block List.mem_cons_self
    have some := whole.positive
    have buffer : s.buffer1Addr (.some first) = first * ethMaxPacketSize :=
      holding.linked.buffer first holding.window.inside
    have fl : (frameOf first block).fl = (s.tab s.toGet).fl.toNat := by
      have within : block.length - 1 < block.length := by omega
      have item := holding.window.items (block.length - 1) (by
        rw [List.flatten_cons, List.length_append, List.length_append]
        omega)
      simp only [List.flatten_cons, List.append_assoc, List.getElem_append_left within] at item
      rw [position, item]
      exact fl_frameOf within (by omega)
    refine holding.delivered returned ?_ segments ?_ position some rfl ⟨rfl, rfl, rfl, rfl⟩
    · exact congrArg (Phase.holding · s.segCount) fs
    · simp only [RxRing.deliver, readReceivedFrame, fs, buffer, segments, RxFrame.expected,
        (length_eq_iff _).mpr long, fl]
      rfl

theorem Sound.turn (narrow : rxBuffcount < 4294967296) (sound : Sound rxBuffcount s)
    (fits : Counted s .turn) (taken : rxStep s .turn = some t) : Sound rxBuffcount t := by
  obtain ⟨first, given, blocks, part, holding, driver⟩ := sound
  simp only [rxStep] at taken
  split at taken
  next count scanning =>
    have before : s.phase.Between := .inr ⟨count, scanning⟩
    by_cases nothing : (s.tab s.toGet).own = true ∨ ¬ count < ethRxBufNb
    · rw [turn_over nothing] at taken
      obtain rfl := Option.some.inj taken
      exact ⟨first, given, blocks, part, holding.same ⟨rfl, rfl, rfl, rfl⟩,
        driver.between before (.inl rfl)⟩
    · rw [not_or, not_not, Bool.not_eq_true] at nothing
      obtain ⟨own, more⟩ := nothing
      cases ldes : (s.tab s.toGet).ldes with
      | false =>
        obtain ⟨after, turned, moved⟩ := turn_moved more own ldes
        rw [turned] at taken
        obtain rfl := Option.some.inj taken
        have again : Moved s { after with phase := .scanning (count + 1) } :=
          ⟨moved.same, moved.returned, moved.toGet, moved.fsDesc, moved.segCount⟩
        exact again.sound narrow holding driver before own ldes (.inr ⟨_, rfl⟩)
      | true =>
        obtain ⟨fresh, long⟩ := fits ⟨count, more, scanning⟩ ⟨own, ldes⟩
        obtain ⟨block, rest, passed, rfl, closes⟩ := driver.closes holding before ⟨own, ldes⟩
        have length := holding.block_length
        obtain ⟨fs, segments⟩ := closes.counts holding.window.inside (by omega) fresh
        rw [turn_found more ⟨own, ldes⟩] at taken
        obtain rfl := Option.some.inj taken
        have some := (holding.whole block List.mem_cons_self).positive
        have position : s.toGet = (first + (block.length - 1)) % rxBuffcount := by
          rw [← closes.last, Nat.add_sub_cancel]
          exact closes.position
        have buffer : (if 1 < s.counted then s.buffer1Addr (.some first)
            else (s.tab s.toGet).buffer1Addr) = first * ethMaxPacketSize := by
          split
          · exact holding.linked.buffer first holding.window.inside
          · next few =>
            -- the only segment of its frame
            have single : block.length = 1 := by
              have one : (1 : BitVec 32).toNat = 1 := rfl
              rw [BitVec.lt_def, one, segments] at few
              omega
            rw [position, single, Nat.sub_self, Nat.add_zero, Nat.mod_eq_of_lt holding.window.inside]
            exact holding.linked.buffer first holding.window.inside
        have again : Holding rxBuffcount first given (block :: rest) part
            { s with segCount := s.counted } := holding.same ⟨rfl, rfl, rfl, rfl⟩
        refine again.delivered closes.returned ?_ segments ?_ position some rfl ⟨rfl, rfl, rfl, rfl⟩
        · exact congrArg (Phase.holding · s.counted) fs
        · simp only [RxRing.deliver, fs, buffer, segments, RxFrame.expected,
            (length_eq_iff _).mpr long, closes.fl]
          rfl
  next => cases taken

theorem Sound.interrupt (sound : Sound rxBuffcount s) (taken : rxStep s .interrupt = some t) :
    Sound rxBuffcount t := by
  obtain ⟨first, given, blocks, part, holding, driver⟩ := sound
  simp only [rxStep, Option.ite_none_right_eq_some] at taken
  obtain ⟨idle, taken⟩ := taken
  obtain rfl := Option.some.inj taken
  exact ⟨first, given, blocks, part, holding.same ⟨rfl, rfl, rfl, rfl⟩,
    driver.between (.inl idle) (.inr ⟨0, rfl⟩)⟩

theorem giveBack_phase {clear : Bool} (taken : rxStep s (.giveBack clear) = some t) :
    ∃ descriptor segCount, s.phase = .holding descriptor segCount := by
  cases phase : s.phase with
  | holding descriptor segCount => exact ⟨descriptor, segCount, rfl⟩
  | idle | checked | scanning =>
    simp only [rxStep, phase] at taken
    cases taken

/-- The frame in front goes, and the one behind it is the next. -/
theorem Sound.giveBack {clear : Bool} (sound : Sound rxBuffcount s)
    (taken : rxStep s (.giveBack clear) = some t) : Sound rxBuffcount t := by
  obtain ⟨first, given, blocks, part, holding, driver⟩ := sound
  obtain ⟨_, _, holds⟩ := giveBack_phase taken
  cases driver with
  | passed _ between => exact absurd (holds ▸ between) not_between_holding
  | stuck between => exact absurd (holds ▸ between) not_between_holding
  | checked _ _ checked => exact absurd (holds.symm.trans checked) nofun
  | held block rest segCount held segments returned front position =>
    subst front
    simp only [rxStep, held, segments] at taken
    obtain rfl := Option.some.inj taken
    obtain ⟨linked, window, whole, begun, dma, current, frames⟩ := holding
    have positive := window.positive
    have flat : (block :: rest).flatten ++ part = block ++ (rest.flatten ++ part) := by
      rw [List.flatten_cons, List.append_assoc]
    rw [flat] at window dma
    obtain ⟨relinked, after⟩ := window_giveBack linked window
    refine ⟨(first + block.length) % rxBuffcount, given ++ [frameOf first block], rest, part,
      ⟨relinked, after, fun other member => whole other (List.mem_cons_of_mem _ member), begun, ?_,
        ?_, ?_⟩, .passed 0 (.inl rfl) returned positive (fun _ => Nat.zero_le _) ?_ ?_ ?_⟩
    · rw [Nat.mod_add_mod, Nat.add_assoc, ← List.length_append]
      exact dma
    · rw [Nat.mod_add_mod, Nat.add_assoc, ← List.length_append, ← List.flatten_cons]
      exact current
    · rw [List.append_assoc]
      exact frames
    · rintro other others rfl
      exact (whole other (by simp)).positive
    · rw [Nat.add_zero, Nat.mod_mod]
      exact position
    · exact fun some => absurd some (Nat.lt_irrefl _)

theorem Sound.step (narrow : rxBuffcount < 4294967296) {label : RxLabel}
    (sound : Sound rxBuffcount s) (fits : Counted s label) (taken : rxStep s label = some t) :
    Sound rxBuffcount t := by
  cases label with
  | dma status => exact sound.dma taken
  | check => exact sound.check narrow fits taken
  | read => exact sound.read taken
  | interrupt => exact sound.interrupt taken
  | turn => exact sound.turn narrow fits taken
  | giveBack clear => exact sound.giveBack taken

theorem Sound.delivers (sound : Sound rxBuffcount s) : Delivers s := by
  obtain ⟨first, given, blocks, part, holding, driver⟩ := sound
  exact driver.delivers holding

/-! ## A stale count -/

theorem Closes.differs {block : List Desc} {count : Nat} {wrong : Returned}
    (closes : Closes rxBuffcount first given block count s) (misfit : ¬ Fits s)
    (segments : wrong.segCount = s.counted.toNat)
    (length : wrong.length = ((s.tab s.toGet).fl - 4).toNat) :
    wrong ≠ (frameOf first block).expected := by
  rintro rfl
  apply misfit
  constructor
  · intro single
    by_contra stale
    exact closes.miscounts single stale segments.symm
  · apply (length_eq_iff _).mp
    rw [← length, ← closes.fl]
    rfl

theorem Sound.miscounts (sound : Sound rxBuffcount s) {wrong : Returned} (before : s.phase.Between)
    (ends : Ends s) (misfit : ¬ Fits s) (segments : wrong.segCount = s.counted.toNat)
    (length : wrong.length = ((s.tab s.toGet).fl - 4).toNat)
    (returned : t.returned = s.returned ++ [wrong]) (frames : t.frames = s.frames) :
    ¬ Delivers t := by
  obtain ⟨first, given, blocks, part, holding, driver⟩ := sound
  obtain ⟨block, rest, count, rfl, closes⟩ := driver.closes holding before ends
  exact not_delivers holding closes.returned returned frames
    (closes.differs misfit segments length)

theorem Sound.misfit {label : RxLabel} (sound : Sound rxBuffcount s) (misfit : ¬ Counted s label)
    (taken : rxStep s label = some t) :
    ¬ Delivers t ∨ ∃ after, rxStep t .read = some after ∧ ¬ Delivers after := by
  cases label with
  | check =>
    simp only [Counted, Classical.not_imp] at misfit
    obtain ⟨ends, misfit⟩ := misfit
    simp only [rxStep, Option.ite_none_right_eq_some, check_found ends] at taken
    obtain ⟨idle, taken⟩ := taken
    obtain rfl := Option.some.inj taken
    exact .inr ⟨_, rfl, sound.miscounts (.inl idle) ends misfit rfl rfl rfl rfl⟩
  | turn =>
    simp only [Counted, Classical.not_imp] at misfit
    obtain ⟨⟨count, more, scanning⟩, ends, misfit⟩ := misfit
    simp only [rxStep, scanning, turn_found more ends] at taken
    obtain rfl := Option.some.inj taken
    exact .inl (sound.miscounts (.inr ⟨count, scanning⟩) ends misfit rfl rfl rfl rfl)
  | dma => exact absurd trivial misfit
  | read => exact absurd trivial misfit
  | interrupt => exact absurd trivial misfit
  | giveBack => exact absurd trivial misfit

/-- Every frame comes to the application as it is, once, and in order; a frame that is found
miscounted is the first that does not. -/
theorem received_frames_exact (tab : Tab) (some : 0 < rxBuffcount)
    (narrow : rxBuffcount < 4294967296) (fsDesc lsDesc : Option Nat) (segCount : BitVec 32)
    {labels : List RxLabel} {label : RxLabel}
    (run : Run rxStep Counted (.config tab rxBuffcount fsDesc lsDesc segCount) labels s)
    (taken : rxStep s label = .some t) :
    Delivers s ∧ (Counted s label → Delivers t) ∧ (¬ Counted s label →
      ¬ Delivers t ∨ ∃ after, rxStep t .read = .some after ∧ ¬ Delivers after) := by
  have sound : Sound rxBuffcount s := by
    refine run.invariant (Sound rxBuffcount) (sound_config tab some fsDesc lsDesc segCount) ?_
    intro before label after held fits stepped
    exact held.step narrow fits stepped
  exact ⟨sound.delivers, fun fits => (sound.step narrow fits taken).delivers,
    fun misfit => sound.misfit misfit taken⟩

end

instance (s : RxRing) : Decidable (Ends s) :=
  inferInstanceAs (Decidable (_ ∧ _))

instance (s : RxRing) : Decidable (Fits s) :=
  inferInstanceAs (Decidable ((_ → _) ∧ _))

instance (s : RxRing) (label : RxLabel) : Decidable (Counted s label) := by
  unfold Counted
  cases label <;> infer_instance

-- The ring of `ETH_RXBUFNB` descriptors, with `RxFrameDescriptor` as after a reset.
def fiveRxBuffers : RxRing := .config (fun _ => ⟨0, 0, 0, 0⟩) 5 none none 0

-- A frame in two segments, and a poll that finds one of them only.
def twoSegments : List RxLabel := [.dma 0x00000200, .check, .check, .dma 0x06400100, .check]

theorem twoSegments_accepted :
    (execute rxStep Counted fiveRxBuffers twoSegments).isSome = true := by
  decide +kernel

def twoSegmentsFound : RxRing := final rxStep Counted fiveRxBuffers _ twoSegments_accepted

theorem twoSegmentsFound_taken : (rxStep twoSegmentsFound .read).isSome = true := by
  decide +kernel

theorem twoSegments_whole :
    ((rxStep twoSegmentsFound .read).get twoSegmentsFound_taken).returned = [⟨some 0, 0, 2, 1596⟩] ∧
      Delivers ((rxStep twoSegmentsFound .read).get twoSegmentsFound_taken) :=
  ⟨by decide +kernel, (received_frames_exact _ (by decide) (by decide) none none 0
    (Run.final _ _ fiveRxBuffers _ twoSegments_accepted)
    (Option.some_get twoSegmentsFound_taken).symm).2.1 trivial⟩

-- Two frames of one segment each.
def twoFrames : List RxLabel :=
  [.dma 0x00640300, .interrupt, .turn, .giveBack false, .dma 0x00640300, .interrupt, .turn]

theorem twoFrames_accepted : (execute rxStep free fiveRxBuffers twoFrames).isSome = true := by
  decide +kernel

theorem second_frame_miscounted : ¬ ∀ (labels : List RxLabel) (s : RxRing),
    Run rxStep free fiveRxBuffers labels s → Delivers s := by
  intro delivers
  have exact := (delivers _ _ (Run.final _ _ fiveRxBuffers _ twoFrames_accepted)).inOrder
  -- the second one comes with the descriptor of the first and a count of two
  exact absurd exact (by decide +kernel)

end ApmSdk.Eth
