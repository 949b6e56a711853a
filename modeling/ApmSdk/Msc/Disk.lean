import ApmSdk.Lib.Replay
import ApmSdk.Usbd.ControlIn
import ApmSdk.Msc.Csw
import ApmSdk.Msc.Capacity

set_option autoImplicit false

/-!
# The disk behind the mass storage class

A host that reads and writes one medium through any run of the bulk-only transport: the commands
that it sees done are a history of a plain memory.
-/

namespace ApmSdk.Msc

open Usbd Runs Chunks FlatMemory

/-- The transport with its medium, and what the host has had of it; `command` is the state in
which the last command block has come. -/
structure Drive where
  bot : Bot
  disk : Nat → Byte
  command : Bot
  history : List (Operation Byte)

-- A step, and what the blocks of a call of `WriteData` hold once it has failed.
abbrev DriveLabel := Label × (Nat → Byte)

def DriveLabel.spoilt : DriveLabel → Option (Nat → Byte)
  | (.out _ storage, spoilt) => if storage.writeData then none else some spoilt
  | _ => none

/-- The medium after the calls of `WriteData`, each of which takes whole blocks. -/
def wroteBlocks (blockSize : Nat) (spoilt : Option (Nat → Byte)) :
    (Nat → Byte) → List Event → Nat → Byte
  | disk, [] => disk
  | disk, .writeData _ first count content :: rest =>
      let bytes := match spoilt with
        | none => content.take (count * blockSize)
        | some spoilt => (List.range (count * blockSize)).map spoilt
      wroteBlocks blockSize spoilt (store disk (first * blockSize) bytes) rest
  | disk, _ :: rest => wroteBlocks blockSize spoilt disk rest

-- The bytes of the calls of `WriteData` that have failed.
def spoiltBytes (blockSize : Nat) (spoilt : Option (Nat → Byte)) : List Event → Nat
  | [] => 0
  | .writeData _ _ count _ :: rest =>
      (if spoilt.isSome then count * blockSize else 0) + spoiltBytes blockSize spoilt rest
  | _ :: rest => spoiltBytes blockSize spoilt rest

def receivedData : List Event → List Byte
  | [] => []
  | .received content :: rest => content ++ receivedData rest
  | _ :: rest => receivedData rest

-- The bytes queued on the IN endpoint since the state `b`.
def Bot.sentData (b t : Bot) : List Byte :=
  (t.inEp.packets.drop b.inEp.packets.length).flatten

def passed (events : List Event) : Bool :=
  events.any fun event => match event with
    | .csw _ _ .cmdOk => true
    | _ => false

/-- What the host has done once the step has ended its command: a READ(10) counts when its CSW is
good, and a WRITE(10) without a good CSW counts as one that was cut. -/
def Drive.operations (blockSize : Nat) (d : Drive) (label : DriveLabel) (after : Bot) :
    List (Operation Byte) :=
  let address := d.command.commandAddr * blockSize
  let length := d.command.commandLen * blockSize
  let good := passed (d.bot.since after)
  match d.bot.state with
  | .lastDataIn => if good then [.read address length (d.command.sentData d.bot)] else []
  | .dataOut =>
      let data := receivedData (d.command.since after)
      if after.state = .dataOut then []
      else if good then [.write address length data]
      else [.cut address (spoiltBytes blockSize label.spoilt (d.bot.since after)) data]
  | _ => []

def Drive.next (blockSize : Nat) (d : Drive) (label : DriveLabel) (after : Bot) : Drive where
  bot := after
  disk := wroteBlocks blockSize label.spoilt d.disk (d.bot.since after)
  command :=
    match label.1 with
    | .out packet _ => if d.bot.state = .idle then d.bot.stored packet else d.command
    | _ => d.command
  history := d.history ++ d.operations blockSize label after

def driveStep (cfg : Config) (blockSize : Nat) (d : Drive) (label : DriveLabel) : Option Drive :=
  (step cfg d.bot label.1).map (d.next blockSize label)

def Drive.plugged (disk : Nat → Byte) (inMaxPackSize outMaxPackSize : Nat) : Drive where
  bot := botInit (opened inMaxPackSize outMaxPackSize)
  disk := disk
  command := botInit (opened inMaxPackSize outMaxPackSize)
  history := []

/-! ## The medium and the host -/

def Event.Served (blockSize : Nat) (disk content : Nat → Byte) : Event → Prop
  | .readData _ first count =>
      ∀ index < count * blockSize, content index = disk (first * blockSize + index)
  | _ => True

instance (blockSize : Nat) (disk content : Nat → Byte) :
    (event : Event) → Decidable (event.Served blockSize disk content)
  | .readData _ _ _ => inferInstanceAs (Decidable (∀ index < _, _))
  | .stallIn => instDecidableTrue
  | .stallOut => instDecidableTrue
  | .csw _ _ _ => instDecidableTrue
  | .writeData _ _ _ _ => instDecidableTrue
  | .received _ => instDecidableTrue

/-- The medium has less than 4 GiB in blocks of one size, and `ReadData` finds what they hold,
whichever unit it is called for. -/
def Faithful (cfg : Config) (blockSize : Nat) (d : Drive) (label : Label) : Prop :=
  ∀ storage ∈ label.storage,
    storage.blkSize.toNat = blockSize ∧ storage.blkNbr.toNat * blockSize < 4294967296 ∧
      ∀ after ∈ step cfg d.bot label, ∀ event ∈ d.bot.since after,
        event.Served blockSize d.disk storage.content

instance (cfg : Config) (blockSize : Nat) (d : Drive) (label : Label) :
    Decidable (Faithful cfg blockSize d label) := by
  unfold Faithful; infer_instance

/-- The host asks for no block beyond the last that has an address, and fills the chunks of a
WRITE(10) with its packets. -/
def Orderly (cfg : Config) (b : Bot) : Label → Prop
  | .out packet storage =>
      let t := b.stored packet
      (Commands b packet → Reading t storage ∨ Writing t storage →
          t.commandAddr + t.commandLen < 4294967296) ∧
        (b.state = .dataOut →
          InWrite b (.out packet storage) ∧ Fills cfg b (.out packet storage))
  | _ => True

instance (cfg : Config) (b : Bot) : (label : Label) → Decidable (Orderly cfg b label)
  | .out _ _ => inferInstanceAs (Decidable ((_ → _ → _) ∧ (_ → _)))
  | .inDone _ => instDecidableTrue
  | .clearHalt _ => instDecidableTrue
  | .reset => instDecidableTrue

def Proper (cfg : Config) (blockSize : Nat) (d : Drive) (label : DriveLabel) : Prop :=
  Faithful cfg blockSize d label.1 ∧ Orderly cfg d.bot label.1

instance (cfg : Config) (blockSize : Nat) (d : Drive) (label : DriveLabel) :
    Decidable (Proper cfg blockSize d label) := by
  unfold Proper; infer_instance

/-- The medium holds what the history has left in `memory`, and the whole chunks of a WRITE(10)
that is under way. -/
def Drive.Holds (blockSize : Nat) (d : Drive) (memory : Nat → Byte) : Prop :=
  if d.bot.state = .dataOut then
    ∃ kept, kept <+: receivedData (d.command.since d.bot) ∧
      d.disk = store memory (d.command.commandAddr * blockSize) kept
  else d.disk = memory

/-! ## Where a data stage stands -/

/-- The bytes of the command in `c` that its data stage has dealt with in `b`. -/
def Bot.covered (blockSize : Nat) (c b : Bot) : Nat := c.commandLen * blockSize - b.blkLen

/-- What is left of the blocks of the command in `c`. -/
structure Inside (blockSize : Nat) (c b : Bot) : Prop where
  fits : (c.commandAddr + c.commandLen) * blockSize < 4294967296
  blkSize : c.commandLen = 0 ∨ b.blkSize = blockSize
  left : b.blkLen ≤ c.commandLen * blockSize
  blocks : blockSize ∣ b.blkLen
  blkAddr : b.blkAddr = c.commandAddr * blockSize + c.covered blockSize b

/-- The bytes queued so far, and those that the endpoint still has to queue, are the ones that
the medium holds. -/
structure Fetching (blockSize : Nat) (c b : Bot) (disk : Nat → Byte) : Prop where
  inside : Inside blockSize c b
  last : b.state = .lastDataIn → b.blkLen = 0
  count : b.inEp.packNum = pieces b.inEp.maxPackSize b.inEp.bufLen
  queued : ∃ packets, b.inEp.packets = c.inEp.packets ++ packets ∧
    packets.flatten ++ b.memory.read b.inEp.pBuf b.inEp.bufLen =
      load disk (c.commandAddr * blockSize) (c.covered blockSize b)

/-- The bytes received so far are those that have been added to `memory`, and the pending ones. -/
structure Filing (cfg : Config) (blockSize : Nat) (c b : Bot) (memory disk : Nat → Byte) :
    Prop where
  inside : Inside blockSize c b
  log : b.log = c.log ++ c.since b
  collecting : Collecting cfg (pendingAfter [] (c.since b)) b
  kept : ∃ kept, receivedData (c.since b) = kept ++ pendingAfter [] (c.since b) ∧
    kept.length = c.covered blockSize b ∧
    disk = store memory (c.commandAddr * blockSize) kept

inductive Stage (cfg : Config) (blockSize : Nat) (c b : Bot) (disk memory : Nat → Byte) : Prop
  | resting (state : b.state = .idle ∨ b.state = .sendData) (same : disk = memory)
  | reading (state : b.state = .dataIn ∨ b.state = .lastDataIn) (same : disk = memory)
      (fetching : b.inEp.txStatus = .valid → Fetching blockSize c b disk)
  | writing (state : b.state = .dataOut) (filing : Filing cfg blockSize c b memory disk)

section

variable {cfg : Config} {blockSize : Nat} {c b after : Bot} {memory disk : Nat → Byte}

theorem Inside.chunk (inside : Inside blockSize c b) (divides : blockSize ∣ cfg.mediaPacket) :
    b.chunkLen cfg / b.blkSize * blockSize = b.chunkLen cfg ∧
      (0 < b.chunkLen cfg → b.blkAddr / b.blkSize * blockSize = b.blkAddr) := by
  obtain ⟨-, blkSize, left, blocks, blkAddr⟩ := inside
  obtain none | same := blkSize
  next =>
    have nothing : b.chunkLen cfg = 0 := by
      rw [none] at left
      simp only [Bot.chunkLen]
      omega
    rw [nothing, Nat.zero_div, Nat.zero_mul]
    exact ⟨rfl, fun some => absurd some (Nat.lt_irrefl 0)⟩
  next =>
    rw [same]
    constructor
    next =>
      apply Nat.div_mul_cancel
      rw [Bot.chunkLen, Nat.min_def]
      split
      next => exact divides
      next => exact blocks
    next =>
      intro _
      apply Nat.div_mul_cancel
      rw [blkAddr]
      exact Nat.dvd_add (Nat.dvd_mul_left _ _) (Nat.dvd_sub (Nat.dvd_mul_left _ _) blocks)

theorem Inside.next (inside : Inside blockSize c b) (divides : blockSize ∣ cfg.mediaPacket)
    (geometry : after.geometry = b.geometry)
    (blkAddr : after.blkAddr = (b.blkAddr + b.chunkLen cfg) % 4294967296)
    (blkLen : after.blkLen = b.blkLen - b.chunkLen cfg) :
    Inside blockSize c after ∧
      c.covered blockSize after = c.covered blockSize b + b.chunkLen cfg := by
  obtain ⟨fits, blkSize, left, blocks, before⟩ := inside
  have short : b.chunkLen cfg ≤ b.blkLen := Nat.min_le_right _ _
  have whole : blockSize ∣ b.chunkLen cfg := by
    rw [Bot.chunkLen, Nat.min_def]
    split
    next => exact divides
    next => exact blocks
  have covered : c.covered blockSize after = c.covered blockSize b + b.chunkLen cfg := by
    simp only [Bot.covered, blkLen]
    omega
  have same : after.blkSize = b.blkSize := congrArg Prod.fst geometry
  refine ⟨⟨fits, by rw [same]; exact blkSize, by omega, ?_, ?_⟩, covered⟩
  next =>
    rw [blkLen]
    exact Nat.dvd_sub blocks whole
  next =>
    have most : c.covered blockSize b + b.chunkLen cfg ≤ c.commandLen * blockSize := by
      simp only [Bot.covered]
      omega
    rw [Nat.add_mul] at fits
    rw [covered, blkAddr, before, Nat.mod_eq_of_lt (by omega), Nat.add_assoc]

theorem Inside.still (inside : Inside blockSize c b) (still : Still b after) :
    Inside blockSize c after ∧ c.covered blockSize after = c.covered blockSize b := by
  obtain ⟨fits, blkSize, left, blocks, blkAddr⟩ := inside
  have same : after.blkSize = b.blkSize := congrArg Prod.fst still.geometry
  have covered : c.covered blockSize after = c.covered blockSize b := by
    rw [Bot.covered, Bot.covered, still.blkLen]
  refine ⟨⟨fits, ?_, ?_, ?_, ?_⟩, covered⟩
  next => rw [same]; exact blkSize
  next => rw [still.blkLen]; exact left
  next => rw [still.blkLen]; exact blocks
  next => rw [still.blkAddr, covered, blkAddr]

/-! ## The data stage of READ(10) -/

theorem nextPacket_whole (ep : InEp Obj) (memory : Memory Obj) :
    memory.read ep.pBuf (min ep.bufLen ep.maxPackSize) ++
        memory.read (ep.nextPacket memory).pBuf (ep.nextPacket memory).bufLen =
      memory.read ep.pBuf ep.bufLen := by
  have taken := Memory.read_take memory ep.pBuf ep.bufLen (min ep.bufLen ep.maxPackSize)
  have left := Memory.read_drop memory ep.pBuf ep.bufLen (min ep.bufLen ep.maxPackSize)
  rw [Nat.min_eq_right (Nat.min_le_left _ _)] at taken
  have split := List.take_append_drop (min ep.bufLen ep.maxPackSize)
    (memory.read ep.pBuf ep.bufLen)
  rw [taken, left] at split
  exact split

theorem txData_whole (ep : InEp Obj) (memory : Memory Obj) (buf : Option (Ptr Obj)) (len : Nat) :
    ∃ packet, (ep.txData memory buf len).packets = ep.packets ++ [packet] ∧
      packet ++ memory.read (ep.txData memory buf len).pBuf (ep.txData memory buf len).bufLen =
        memory.read buf len := by
  unfold InEp.txData
  split
  next full =>
    have taken := Memory.read_take memory buf len ep.maxPackSize
    have left := Memory.read_drop memory buf len ep.maxPackSize
    rw [Nat.min_eq_right full] at taken
    refine ⟨memory.read buf ep.maxPackSize, rfl, ?_⟩
    have split := List.take_append_drop ep.maxPackSize (memory.read buf len)
    rw [taken, left] at split
    exact split
  next =>
    refine ⟨memory.read buf len, rfl, ?_⟩
    have nothing (buf : Option (Ptr Obj)) : memory.read buf 0 = [] :=
      List.eq_nil_of_length_eq_zero (Memory.read_length _ _ _)
    dsimp only
    rw [nothing, List.append_nil]

theorem Fetching.still (fetching : Fetching blockSize c b disk) (still : Still b after) :
    Fetching blockSize c after disk := by
  obtain ⟨inside, last, count, packets, queued, bytes⟩ := fetching
  obtain ⟨inside', covered⟩ := inside.still still
  have packNum := congrArg (fun ep => ep.packNum) still.inEp
  have bufLen := congrArg (fun ep => ep.bufLen) still.inEp
  have pBuf := congrArg (fun ep => ep.pBuf) still.inEp
  have size := congrArg (fun ep => ep.maxPackSize) still.inEp
  have sent := congrArg (fun ep => ep.packets) still.inEp
  dsimp only at packNum bufLen pBuf size sent
  refine ⟨inside', ?_, ?_, packets, ?_, ?_⟩
  next =>
    rw [still.state, still.blkLen]
    exact last
  next => rw [packNum, bufLen, size, count]
  next => rw [sent, queued]
  next => rw [still.memory, pBuf, bufLen, covered, bytes]

/-- `USBD_DataInProcess` with packets left. -/
theorem Fetching.packet (fetching : Fetching blockSize c b disk) (more : b.inEp.packNum ≠ 0)
    (positive : 0 < b.inEp.maxPackSize) :
    Fetching blockSize c { b with inEp := b.inEp.nextPacket b.memory } disk := by
  obtain ⟨⟨fits, blkSize, left, blocks, blkAddr⟩, last, count, packets, queued, bytes⟩ := fetching
  obtain ⟨-, -, -, count'⟩ := @nextPacket_counted b.inEp b.memory more positive count
  refine ⟨⟨fits, blkSize, left, blocks, blkAddr⟩, last, count',
    packets ++ [b.memory.read b.inEp.pBuf (min b.inEp.bufLen b.inEp.maxPackSize)], ?_, ?_⟩
  next =>
    rw [← List.append_assoc, ← queued]
    rfl
  next =>
    have whole := nextPacket_whole b.inEp b.memory
    rw [List.flatten_append, List.flatten_singleton, List.append_assoc]
    exact (congrArg (packets.flatten ++ ·) whole).trans bytes

/-- `SCSI_Read` with a medium that gives what it holds. -/
theorem Fetching.chunk {storage : Storage} (packets : List (List Byte)) (state : b.state = .dataIn)
    (inside : Inside blockSize c b) (divides : blockSize ∣ cfg.mediaPacket)
    (narrow : b.inEp.maxPackSize < 1024) (counted : cfg.mediaPacket ≤ 256 * b.inEp.maxPackSize)
    (served : ∀ index < b.chunkLen cfg / b.blkSize * blockSize,
      storage.content index = disk (b.blkAddr / b.blkSize * blockSize + index))
    (queued : b.inEp.packets = c.inEp.packets ++ packets)
    (bytes : packets.flatten = load disk (c.commandAddr * blockSize) (c.covered blockSize b))
    (isAfter : after = (b.readCall storage (b.chunkLen cfg)).readNext (b.chunkLen cfg)) :
    Fetching blockSize c after disk := by
  obtain ⟨len, isLen⟩ : ∃ len, len = b.chunkLen cfg := ⟨_, rfl⟩
  obtain ⟨whole, first⟩ := inside.chunk divides
  have start : b.blkAddr = c.commandAddr * blockSize + c.covered blockSize b := inside.blkAddr
  have geometry : after.geometry = b.geometry := by
    rw [isAfter, geometry_readNext, geometry_readCall]
  have moved (t : Bot) : (t.readNext len).blkAddr = (t.blkAddr + len) % 4294967296 ∧
      (t.readNext len).blkLen = t.blkLen - len := ⟨rfl, rfl⟩
  rw [← isLen] at isAfter whole first
  rw [← isLen, whole] at served
  obtain ⟨blkAddr, blkLen⟩ := moved (b.readCall storage len)
  rw [← isAfter] at blkAddr blkLen
  obtain ⟨inside', covered⟩ : Inside blockSize c after ∧
      c.covered blockSize after = c.covered blockSize b + len := by
    rw [isLen] at blkAddr blkLen ⊢
    exact inside.next divides geometry blkAddr blkLen
  have fits : len ≤ 256 * b.inEp.maxPackSize := by
    rw [isLen, Bot.chunkLen]
    omega
  -- what lies in the data buffer is what the endpoint is given
  obtain ⟨given, isGiven⟩ : ∃ given, given = (b.readCall storage len).memory := ⟨_, rfl⟩
  have content : given.read (some ⟨.data, 0⟩) len = load disk b.blkAddr len := by
    rw [load, List.range'_eq_map_range, List.map_map, Memory.read]
    apply List.map_congr_left
    intro index member
    have short : index < len := List.mem_range.mp member
    have answer : given .data (0 + index) = storage.content index := by
      rw [isGiven, Nat.zero_add]
      exact if_pos short
    rw [answer, served index short, first (by omega)]
    rfl
  have sent : after.inEp = b.inEp.txData given (some ⟨.data, 0⟩) len := by
    rw [isAfter, isGiven]
    rfl
  obtain ⟨packet, added, split⟩ := txData_whole b.inEp given (some ⟨.data, 0⟩) len
  obtain ⟨-, -, -, count⟩ := @txData_counted b.inEp given (some ⟨.data, 0⟩) len narrow fits
  have size : (b.inEp.txData given (some ⟨.data, 0⟩) len).maxPackSize = b.inEp.maxPackSize := by
    unfold InEp.txData
    split <;> rfl
  -- the residue in the CSW has changed since, the data buffer has not
  have same : after.memory.read after.inEp.pBuf after.inEp.bufLen =
      given.read after.inEp.pBuf after.inEp.bufLen := by
    rw [sent]
    unfold InEp.txData
    split
    next =>
      rw [isAfter, isGiven]
      rfl
    next =>
      rw [List.eq_nil_of_length_eq_zero (Memory.read_length after.memory _ 0),
        List.eq_nil_of_length_eq_zero (Memory.read_length given _ 0)]
  refine ⟨inside', ?_, ?_, packets ++ [packet], ?_, ?_⟩
  next =>
    intro last
    have same := readNext_state (b.readCall storage len) len
    rw [← isAfter, last] at same
    by_contra more
    rw [if_neg more] at same
    cases same.trans state
  next => rw [sent, size, count]
  next => rw [sent, added, queued, List.append_assoc]
  next =>
    rw [same, sent, List.flatten_append, List.flatten_singleton, List.append_assoc, split, content,
      bytes, start, covered, load_add]

end

/-! ## One step -/

theorem wroteBlocks_quiet {blockSize : Nat} {spoilt : Option (Nat → Byte)} {disk : Nat → Byte}
    {events : List Event} (none : storageCalls events = []) :
    wroteBlocks blockSize spoilt disk events = disk := by
  induction events with
  | nil => rfl
  | cons event rest ih =>
    cases event with
    | readData => cases none
    | writeData => cases none
    | stallIn => exact ih none
    | stallOut => exact ih none
    | csw => exact ih none
    | received => exact ih none

/-- What a step adds to the history takes `memory` on to what the medium holds then. -/
def Carries (cfg : Config) (blockSize : Nat) (d : Drive) (label : DriveLabel) (after : Bot)
    (memory : Nat → Byte) : Prop :=
  ∃ next, Replays memory (d.operations blockSize label after) next ∧
    Stage cfg blockSize (d.next blockSize label after).command after
      (d.next blockSize label after).disk next

-- What READ CAPACITY(10) has left, if the host has asked for it.
def Bot.Measures (blockSize : Nat) (b : Bot) : Prop :=
  b.blkSize = blockSize ∧ b.blkNbr * blockSize < 4294967296 ∨ b.blkSize = 0 ∧ b.blkNbr = 0

section

variable {cfg : Config} {blockSize : Nat} {d : Drive} {label : DriveLabel} {after : Bot}
  {memory : Nat → Byte}

/-- A step that calls `WriteData` for nothing and ends no command of the history. -/
theorem Carries.quiet (events : List Event) (log : after.log = d.bot.log ++ events)
    (disk : wroteBlocks blockSize label.spoilt d.disk events = d.disk)
    (none : d.operations blockSize label after = [])
    (stage : Stage cfg blockSize (d.next blockSize label after).command after d.disk memory) :
    Carries cfg blockSize d label after memory := by
  have same : (d.next blockSize label after).disk = d.disk := by
    rw [← since_log log] at disk
    exact disk
  refine ⟨memory, ?_, ?_⟩
  next =>
    rw [none]
    rfl
  next =>
    rw [same]
    exact stage

theorem Carries.answered {t : Bot} {status : CswStatus} (log : t.log = d.bot.log)
    (none : d.operations blockSize label (txCSW t status) = []) (same : d.disk = memory) :
    Carries cfg blockSize d label (txCSW t status) memory := by
  refine .quiet [.csw t.csw.dTag t.csw.dDataResidue status] ?_ rfl none (.resting (.inl rfl) same)
  rw [log_txCSW, log]

theorem operations_rest (rest : d.bot.state = .idle ∨ d.bot.state = .sendData) :
    d.operations blockSize label after = [] := by
  obtain idle | sending := rest
  next => simp only [Drive.operations, idle]
  next => simp only [Drive.operations, sending]

theorem inside_begun {c t : Bot} {storage : Storage} (measures : c.Measures blockSize)
    (accepted : Accepted c storage) (unwrapped : c.commandAddr + c.commandLen < 4294967296)
    (blkSize : t.blkSize = c.blkSize) (blkAddr : t.blkAddr = c.commandAddr * c.blkSize % 4294967296)
    (blkLen : t.blkLen = c.commandLen * c.blkSize % 4294967296) :
    Inside blockSize c t ∧ c.covered blockSize t = 0 := by
  have inRange : (c.commandAddr + c.commandLen) % 4294967296 ≤ c.blkNbr := by
    have checked := accepted.inRange
    rw [outOfRange, decide_eq_false_iff_not, Nat.not_lt, Nat.add_comm] at checked
    exact checked
  rw [Nat.mod_eq_of_lt unwrapped] at inRange
  obtain ⟨same, room⟩ | ⟨unsized, none⟩ := measures
  next =>
    have fits : (c.commandAddr + c.commandLen) * blockSize < 4294967296 :=
      Nat.lt_of_le_of_lt (Nat.mul_le_mul_right _ inRange) room
    have parts := fits
    rw [Nat.add_mul] at parts
    rw [same, Nat.mod_eq_of_lt (by omega)] at blkAddr blkLen
    have covered : c.covered blockSize t = 0 := by
      rw [Bot.covered, blkLen, Nat.sub_self]
    refine ⟨⟨fits, .inr (blkSize.trans same), blkLen.le, ?_, ?_⟩, covered⟩
    next =>
      rw [blkLen]
      exact Nat.dvd_mul_left _ _
    next => rw [covered, blkAddr, Nat.add_zero]
  next =>
    have first : c.commandAddr = 0 := by omega
    have empty : c.commandLen = 0 := by omega
    rw [empty, Nat.zero_mul, Nat.zero_mod] at blkLen
    rw [first, Nat.zero_mul, Nat.zero_mod] at blkAddr
    have covered : c.covered blockSize t = 0 := by
      rw [Bot.covered, empty, Nat.zero_mul, Nat.zero_sub]
    refine ⟨⟨?_, .inl empty, ?_, ?_, ?_⟩, covered⟩
    next =>
      rw [first, empty, Nat.zero_mul]
      decide
    next => rw [blkLen, empty, Nat.zero_mul]
    next =>
      rw [blkLen]
      exact Nat.dvd_zero _
    next => rw [covered, first, blkAddr, Nat.zero_mul]

/-- A chunk of READ(10) that the medium has given. -/
theorem carries_chunk {t : Bot} {storage : Storage} (packets : List (List Byte))
    (isAfter : after = (t.readCall storage (t.chunkLen cfg)).readNext (t.chunkLen cfg))
    (log : t.log = d.bot.log) (state : t.state = .dataIn) (same : d.disk = memory)
    (inside : Inside blockSize (d.next blockSize label after).command t)
    (divides : blockSize ∣ cfg.mediaPacket) (narrow : t.inEp.maxPackSize < 1024)
    (counted : cfg.mediaPacket ≤ 256 * t.inEp.maxPackSize)
    (queued : t.inEp.packets = (d.next blockSize label after).command.inEp.packets ++ packets)
    (bytes : packets.flatten =
      load d.disk ((d.next blockSize label after).command.commandAddr * blockSize)
        ((d.next blockSize label after).command.covered blockSize t))
    (none : passed (d.bot.since after) = false → d.operations blockSize label after = [])
    (served : ∀ event ∈ d.bot.since after, event.Served blockSize d.disk storage.content) :
    Carries cfg blockSize d label after memory := by
  have added : after.log = d.bot.log ++ [.readData (UInt8.ofNat (t.chunkLen cfg))
      (t.blkAddr / t.blkSize) (t.chunkLen cfg / t.blkSize)] := by
    rw [isAfter, ← log]
    rfl
  have reading : after.state = .dataIn ∨ after.state = .lastDataIn := by
    have waiting : (t.readCall storage (t.chunkLen cfg)).state = .dataIn := state
    rw [isAfter]
    exact (state_readNext (t.readCall storage (t.chunkLen cfg)) (t.chunkLen cfg) waiting).symm
  rw [since_log added] at none served
  have content := served _ (List.mem_singleton.mpr rfl)
  refine .quiet _ added rfl (none rfl) (.reading reading same fun _ => ?_)
  exact .chunk packets state inside divides narrow counted content queued bytes isAfter

theorem carries_command {packet : List Byte} {storage : Storage} {spoilt : Nat → Byte}
    (idle : d.bot.state = .idle) (complete : (d.bot.stored packet).outEp.packNum = 0)
    (same : d.disk = memory) (measures : d.bot.Measures blockSize)
    (divides : blockSize ∣ cfg.mediaPacket) (narrow : d.bot.inEp.maxPackSize < 1024)
    (counted : cfg.mediaPacket ≤ 256 * d.bot.inEp.maxPackSize)
    (proper : Proper cfg blockSize d (.out packet storage, spoilt))
    (taken : step cfg d.bot (.out packet storage) =
      some (decodeCBW cfg (d.bot.stored packet) storage)) :
    Carries cfg blockSize d (.out packet storage, spoilt)
      (decodeCBW cfg (d.bot.stored packet) storage) memory := by
  obtain ⟨faithful, orderly⟩ := proper
  obtain ⟨-, -, served⟩ := faithful storage rfl
  have served := served _ taken
  obtain ⟨c, isCommand⟩ : ∃ c, c = d.bot.stored packet := ⟨_, rfl⟩
  have state : c.state = .idle := by rw [isCommand]; exact idle
  have log : c.log = d.bot.log := by
    rw [isCommand]
    simp [Bot.stored, idle]
  have sized : c.Measures blockSize := by rw [isCommand]; exact measures
  have inEp : c.inEp = d.bot.inEp := by rw [isCommand]; rfl
  have none : ∀ after, d.operations blockSize (.out packet storage, spoilt) after = [] :=
    fun _ => operations_rest (.inl idle)
  have command : ∀ after,
      (d.next blockSize (.out packet storage, spoilt) after).command = c := by
    intro after
    rw [isCommand]
    exact if_pos idle
  have within : c.valid = true → Reading c storage ∨ Writing c storage →
      c.commandAddr + c.commandLen < 4294967296 := by
    rw [isCommand]
    exact fun valid accepted => orderly.1 ⟨idle, complete, valid⟩ accepted
  rw [← isCommand] at served ⊢
  have decoded : Decoded cfg c storage (decodeCBW cfg c storage) := decodeCBW_cases state
  generalize decodeCBW cfg c storage = after at decoded served ⊢
  cases decoded with
  | refused =>
    refine .quiet [] ?_ rfl (none _) (.resting (.inl state) same)
    rw [List.append_nil]
    exact log
  | @failed t _ kept stopped =>
    obtain ⟨events, added, calls, unmoved, halted⟩ := stall_log t
    have dead : (stall t).inEp.txStatus ≠ .valid := by
      simp [halted]
    refine .quiet events ?_ (wroteBlocks_quiet calls) (none _) ?_
    next =>
      rw [added, kept.log]
      exact congrArg (· ++ events) log
    next =>
      obtain done | ⟨reading, -⟩ := stopped
      next => exact .resting (.inl (unmoved.trans done)) same
      next => exact .reading (.inl (unmoved.trans reading)) same fun valid => absurd valid dead
  | @replied t _ kept done =>
    have before : t.log = d.bot.log := kept.log.trans log
    split
    next =>
      refine .quiet [] ?_ rfl (none _) (.resting (.inr rfl) same)
      rw [List.append_nil]
      exact before
    next =>
      exact .answered before (none _) same
  | @unread t _ reading failed begun =>
    obtain ⟨events, added, calls, unmoved, halted⟩ := stall_log
      (putSenseCode (t.readCall storage (t.chunkLen cfg)) hardwareError ascUnrecoveredReadError 0)
    have noted : ∃ lun first count, (putSenseCode (t.readCall storage (t.chunkLen cfg))
        hardwareError ascUnrecoveredReadError 0).log =
          d.bot.log ++ [.readData lun first count] := by
      rw [← log, begun]
      exact ⟨_, _, _, rfl⟩
    have reading' : (putSenseCode (t.readCall storage (t.chunkLen cfg)) hardwareError
        ascUnrecoveredReadError 0).state = .dataIn := by
      rw [begun]
      rfl
    generalize putSenseCode (t.readCall storage (t.chunkLen cfg)) hardwareError
      ascUnrecoveredReadError 0 = u at added unmoved halted noted reading' ⊢
    obtain ⟨lun, first, count, noted⟩ := noted
    have dead : (stall u).inEp.txStatus ≠ .valid := by
      simp [halted]
    have unwritten : wroteBlocks blockSize (DriveLabel.spoilt (.out packet storage, spoilt)) d.disk
        events = d.disk := wroteBlocks_quiet calls
    refine .quiet (.readData lun first count :: events) ?_ unwritten (none _) ?_
    next =>
      rw [added, noted, List.append_assoc]
      rfl
    next => exact .reading (.inl (unmoved.trans reading')) same fun valid => absurd valid dead
  | @reading t valid reading _ begun =>
    obtain ⟨inside, covered⟩ : Inside blockSize c t ∧ c.covered blockSize t = 0 := by
      apply inside_begun sized reading.toAccepted (within valid (.inl reading))
      all_goals
        rw [begun]
        rfl
    have before : t.log = d.bot.log := by
      rw [← log, begun]
      rfl
    have state' : t.state = .dataIn := by
      rw [begun]
      rfl
    have inEp' : t.inEp = d.bot.inEp := by
      rw [← inEp, begun]
      rfl
    apply carries_chunk [] rfl before state' same
    next => rw [command]; exact inside
    next => exact divides
    next => rw [inEp']; exact narrow
    next => rw [inEp']; exact counted
    next => rw [command, inEp', inEp, List.append_nil]
    next => rw [command, covered, load_zero, List.flatten_nil]
    next => exact fun _ => none _
    next => exact served
  | @writing t valid writing begun =>
    obtain ⟨inside, covered⟩ : Inside blockSize c t ∧ c.covered blockSize t = 0 := by
      apply inside_begun sized writing.toAccepted (within valid (.inr writing))
      all_goals
        rw [begun]
        rfl
    have before : (t.rxData .data (t.chunkLen cfg)).log = c.log := by
      rw [begun]
      rfl
    have state' : t.state = .dataOut := by
      rw [begun]
      rfl
    have nothing : c.since (t.rxData .data (t.chunkLen cfg)) = [] := by
      rw [Bot.since, before, List.drop_length]
    refine .quiet [] ?_ rfl (none _) (.writing state' ?_)
    next => rw [before, log, List.append_nil]
    next =>
      rw [command]
      refine ⟨⟨inside.fits, inside.blkSize, inside.left, inside.blocks, inside.blkAddr⟩, ?_, ?_,
        [], ?_, ?_, ?_⟩
      next => rw [nothing, before, List.append_nil]
      next =>
        rw [nothing]
        exact .armed t
      next => rw [nothing]; rfl
      next => exact covered.symm
      next => exact same

/-- A packet that nobody expects, outside a data stage to the device. -/
theorem still_stored {b : Bot} (none : b.outEp.packNum = 0) (other : b.state ≠ .dataOut)
    (packet : List Byte) :
    Still b (b.stored packet) ∧ (b.stored packet).outEp.packNum = 0 := by
  have unexpected : b.outEp.acknowledged.packNum = 0 := none
  have untouched : b.outEp.acknowledged.target packet.length = Option.none := by
    simp [OutEp.target, unexpected]
  have outEp : (b.stored packet).outEp = b.outEp.acknowledged := by
    rw [outEp_stored, OutEp.receive_unexpected unexpected]
  refine ⟨⟨rfl, rfl, rfl, rfl, ?_, ?_, rfl, ?_, id⟩, ?_⟩
  next =>
    have memory : ∀ obj, (b.stored packet).memory obj = b.memory obj := by
      intro obj
      cases obj with
      | cbw =>
        simp only [Bot.stored, untouched]
        rfl
      | data =>
        simp only [Bot.stored, untouched]
        rfl
      | csw => rfl
    exact funext memory
  next => simp [Bot.stored, other]
  next =>
    rw [outEp]
    rfl
  next =>
    rw [outEp]
    exact none

theorem carries_rest (rest : d.bot.state = .idle ∨ d.bot.state = .sendData)
    (same : d.disk = memory) (measures : d.bot.Measures blockSize)
    (divides : blockSize ∣ cfg.mediaPacket) (narrow : d.bot.inEp.maxPackSize < 1024)
    (counted : cfg.mediaPacket ≤ 256 * d.bot.inEp.maxPackSize)
    (proper : Proper cfg blockSize d label) (taken : step cfg d.bot label.1 = some after) :
    Carries cfg blockSize d label after memory := by
  have none : ∀ after, d.operations blockSize label after = [] := fun _ => operations_rest rest
  have unmoved (t : Bot) (state : t.state = d.bot.state) (log : t.log = d.bot.log) :
      Carries cfg blockSize d label t memory := by
    refine .quiet [] ?_ rfl (none _) (.resting ?_ same)
    next => rw [log, List.append_nil]
    next => rw [state]; exact rest
  have elsewhere : d.bot.state ≠ .dataOut := by
    obtain idle | sending := rest
    next => simp [idle]
    next => simp [sending]
  obtain ⟨label, spoilt⟩ := label
  cases label with
  | out packet storage =>
    have next := taken
    obtain ⟨-, rfl⟩ := step_out next
    have log : (d.bot.stored packet).log = d.bot.log := by simp [Bot.stored, elsewhere]
    have kept := unmoved (d.bot.stored packet) rfl log
    simp only [dataOutProcess] at taken ⊢
    split
    next complete =>
      rw [if_pos complete] at taken
      obtain idle | sending := rest
      next =>
        have state : (d.bot.stored packet).state = .idle := idle
        simp only [outData, state] at taken ⊢
        exact carries_command idle complete same measures divides narrow counted proper taken
      next =>
        have state : (d.bot.stored packet).state = .sendData := sending
        simp only [outData, state]
        exact kept
    next => exact kept
  | inDone storage =>
    obtain ⟨-, rfl⟩ := step_inDone taken
    unfold dataInProcess
    split
    next => exact unmoved _ rfl rfl
    next =>
      obtain idle | sending := rest
      next =>
        simp only [inData, idle]
        exact unmoved _ idle.symm rfl
      next =>
        simp only [inData, sending]
        exact .answered rfl (none _) same
  | clearHalt wIndex0 =>
    obtain rfl := Option.some.inj taken
    obtain still | ⟨t, still, answered⟩ := cleared_cases cfg d.bot wIndex0
    next => exact unmoved _ still.state still.log
    next =>
      rw [answered]
      exact .answered still.log (none _) same
  | reset =>
    obtain rfl := Option.some.inj taken
    refine .quiet [] ?_ rfl (none _) (.resting (.inl rfl) same)
    exact (List.append_nil _).symm

/-- The next packet of READ(10), its next chunk, or its CSW. -/
theorem carries_sent {b : Bot} {storage : Storage}
    (reading : b.state = .dataIn ∨ b.state = .lastDataIn) (same : d.disk = memory)
    (started : Fetching blockSize d.command b d.disk) (log : b.log = d.bot.log)
    (packets : b.inEp.packets = d.bot.inEp.packets) (state : b.state = d.bot.state)
    (read : b.state = .dataIn → opcode (b.command 0) = .read10)
    (divides : blockSize ∣ cfg.mediaPacket) (positive : 0 < b.inEp.maxPackSize)
    (narrow : b.inEp.maxPackSize < 1024) (counted : cfg.mediaPacket ≤ 256 * b.inEp.maxPackSize)
    (command : (d.next blockSize label (dataInProcess cfg b storage)).command = d.command)
    (none : ∀ t, passed (d.bot.since t) = false → d.operations blockSize label t = [])
    (served : ∀ event ∈ d.bot.since (dataInProcess cfg b storage),
      event.Served blockSize d.disk storage.content) :
    Carries cfg blockSize d label (dataInProcess cfg b storage) memory := by
  unfold dataInProcess at command served ⊢
  split
  next more =>
    have added : ({ b with inEp := b.inEp.nextPacket b.memory } : Bot).log = d.bot.log ++ [] :=
      log.trans (List.append_nil _).symm
    rw [if_pos more] at command
    refine .quiet [] added rfl (none _ (by rw [since_log added]; rfl)) (.reading reading same ?_)
    intro _
    rw [command]
    exact started.packet more positive
  next done =>
    have unsent : b.inEp.packNum = 0 := not_not.mp done
    rw [if_neg done] at command served
    have nothing : b.inEp.bufLen = 0 := by
      have count := started.count
      rw [unsent] at count
      by_contra some
      exact (pieces_ne_zero positive).mpr (Nat.pos_of_ne_zero some) count.symm
    obtain ⟨data, queued, bytes⟩ := started.queued
    rw [nothing, List.eq_nil_of_length_eq_zero (Memory.read_length _ _ 0), List.append_nil] at bytes
    obtain ongoing | last := reading
    next =>
      obtain ⟨t, isT⟩ : ∃ t : Bot, t = { b with dataLen := cfg.mediaPacket % 65536 } := ⟨_, rfl⟩
      have before : t.log = d.bot.log := by
        rw [← log, isT]
      have inside : Inside blockSize d.command t := by
        obtain ⟨fits, blkSize, left, blocks, blkAddr⟩ := started.inside
        rw [isT]
        exact ⟨fits, blkSize, left, blocks, blkAddr⟩
      have state' : t.state = .dataIn := by
        rw [isT]
        exact ongoing
      have inEp : t.inEp = b.inEp := by rw [isT]
      have covered : d.command.covered blockSize t = d.command.covered blockSize b := by
        rw [isT]
        rfl
      rw [inData_scsiRead ongoing (read ongoing), ← isT] at command served ⊢
      have called : (t.readCall storage (t.chunkLen cfg)).log =
          d.bot.log ++ [.readData (UInt8.ofNat (t.chunkLen cfg)) (t.blkAddr / t.blkSize)
            (t.chunkLen cfg / t.blkSize)] := by
        rw [← before]
        rfl
      cases answer : storage.readData with
      | false =>
        simp only [scsiRead, answer, Bool.not_false, if_true, failWith]
        generalize failed : putSenseCode (t.readCall storage (t.chunkLen cfg)) hardwareError
          ascUnrecoveredReadError 0 = u
        have noted : u.log = _ := (congrArg Bot.log failed.symm).trans called
        have added : (txCSW u .cmdFail).log = d.bot.log ++
            ([.readData (UInt8.ofNat (t.chunkLen cfg)) (t.blkAddr / t.blkSize)
              (t.chunkLen cfg / t.blkSize)] ++ [.csw u.csw.dTag u.csw.dDataResidue .cmdFail]) := by
          rw [log_txCSW, noted, List.append_assoc]
        exact .quiet _ added rfl (none _ (by rw [since_log added]; rfl)) (.resting (.inl rfl) same)
      | true =>
        simp only [scsiRead, answer, Bool.not_true, Bool.false_eq_true, if_false]
          at command served ⊢
        apply carries_chunk data rfl before state' same
        next => rw [command]; exact inside
        next => exact divides
        next => rw [inEp]; exact narrow
        next => rw [inEp]; exact counted
        next => rw [command, inEp, queued]
        next => rw [command, covered, bytes]
        next => exact none _
        next => exact served
    next =>
      have answered : inData cfg b storage = txCSW b .cmdOk := by simp only [inData, last]
      rw [answered]
      have added : (txCSW b .cmdOk).log =
          d.bot.log ++ [.csw b.csw.dTag b.csw.dDataResidue .cmdOk] := by
        rw [log_txCSW, log]
      have good : passed (d.bot.since (txCSW b .cmdOk)) = true := by
        rw [since_log added]
        rfl
      have before : d.bot.state = .lastDataIn := state.symm.trans last
      have operations : d.operations blockSize label (txCSW b .cmdOk) =
          [.read (d.command.commandAddr * blockSize) (d.command.commandLen * blockSize)
            (d.command.sentData d.bot)] := by
        simp only [Drive.operations, before, good, if_true]
      have whole : d.command.sentData d.bot =
          load memory (d.command.commandAddr * blockSize) (d.command.commandLen * blockSize) := by
        rw [Bot.sentData, ← packets, queued, List.drop_left, bytes, same, Bot.covered,
          started.last last, Nat.sub_zero]
      refine ⟨memory, ?_, .resting (.inl rfl) ?_⟩
      next =>
        rw [operations, whole]
        exact ⟨memory, .read _ _, rfl⟩
      next =>
        have disk : (d.next blockSize label (txCSW b .cmdOk)).disk = d.disk := by
          simp only [Drive.next, since_log added]
          rfl
        rw [disk, same]

theorem carries_reading (reading : d.bot.state = .dataIn ∨ d.bot.state = .lastDataIn)
    (same : d.disk = memory)
    (fetching : d.bot.inEp.txStatus = .valid → Fetching blockSize d.command d.bot d.disk)
    (sound : Sound d.bot) (divides : blockSize ∣ cfg.mediaPacket)
    (positive : 0 < d.bot.inEp.maxPackSize) (narrow : d.bot.inEp.maxPackSize < 1024)
    (counted : cfg.mediaPacket ≤ 256 * d.bot.inEp.maxPackSize)
    (proper : Proper cfg blockSize d label) (taken : step cfg d.bot label.1 = some after) :
    Carries cfg blockSize d label after memory := by
  have busy : d.bot.state ≠ .idle := by
    obtain state | state := reading
    next => simp [state]
    next => simp [state]
  have elsewhere : d.bot.state ≠ .dataOut := by
    obtain state | state := reading
    next => simp [state]
    next => simp [state]
  -- without a good CSW the command is no part of the history
  have none (t : Bot) (bad : passed (d.bot.since t) = false) :
      d.operations blockSize label t = [] := by
    obtain state | state := reading
    next => simp only [Drive.operations, state]
    next => simp only [Drive.operations, state, bad, Bool.false_eq_true, if_false]
  have unmoved (t : Bot) (still : Still d.bot t)
      (command : (d.next blockSize label t).command = d.command) :
      Carries cfg blockSize d label t memory := by
    have log : t.log = d.bot.log ++ [] := by rw [still.log, List.append_nil]
    refine .quiet [] log rfl (none t (by rw [since_log log]; rfl)) (.reading ?_ same ?_)
    next =>
      rw [still.state]
      exact reading
    next =>
      intro valid
      rw [command]
      exact (fetching (still.halted valid)).still still
  obtain ⟨label, spoilt⟩ := label
  cases label with
  | out packet storage =>
    obtain ⟨-, rfl⟩ := step_out taken
    obtain ⟨still, unexpected⟩ := still_stored (sound.quiet busy elsewhere) elsewhere packet
    have nothing : outData cfg (d.bot.stored packet) storage = d.bot.stored packet := by
      unfold outData
      obtain state | state := reading
      next => simp only [state_stored, state]
      next => simp only [state_stored, state]
    simp only [dataOutProcess, unexpected, if_true, nothing]
    exact unmoved _ still (if_neg busy)
  | inDone storage =>
    obtain ⟨valid, rfl⟩ := step_inDone taken
    obtain ⟨b, isB⟩ : ∃ b : Bot, b = { d.bot with inEp.txStatus := .nak } := ⟨_, rfl⟩
    have still : Still d.bot b := by
      rw [isB]
      exact ⟨rfl, rfl, rfl, rfl, rfl, rfl, rfl, rfl, by simp⟩
    have size : b.inEp.maxPackSize = d.bot.inEp.maxPackSize := by rw [isB]
    have read : b.state = .dataIn → opcode (b.command 0) = .read10 := by
      rw [isB]
      exact sound.reading
    have packets : b.inEp.packets = d.bot.inEp.packets := by rw [isB]
    obtain ⟨faithful, -⟩ := proper
    obtain ⟨-, -, served⟩ := faithful storage rfl
    have served := served _ taken
    rw [← isB] at served ⊢
    rw [← size] at positive narrow counted
    rw [← still.state] at reading
    exact carries_sent reading same ((fetching valid).still still) still.log packets
      still.state read divides positive narrow counted rfl none served
  | clearHalt wIndex0 =>
    obtain rfl := Option.some.inj taken
    obtain still | ⟨t, still, answered⟩ := cleared_cases cfg d.bot wIndex0
    next => exact unmoved _ still rfl
    next =>
      rw [answered]
      refine .answered still.log (none _ ?_) same
      rw [since_log ((log_txCSW t .cmdFail).trans (congrArg (· ++ _) still.log))]
      rfl
  | reset =>
    obtain rfl := Option.some.inj taken
    have log : (botReset d.bot).log = d.bot.log ++ [] := (List.append_nil _).symm
    exact .quiet [] log rfl (none _ (by rw [since_log log]; rfl)) (.resting (.inl rfl) same)

/-! ### The data stage of WRITE(10) -/

theorem receivedData_append (earlier later : List Event) :
    receivedData (earlier ++ later) = receivedData earlier ++ receivedData later := by
  induction earlier with
  | nil => rfl
  | cons event rest ih => cases event <;> simp [receivedData, ih]

/-- A WRITE(10) that ends without a good CSW. -/
theorem carries_cut (writing : d.bot.state = .dataOut)
    (filing : Filing cfg blockSize d.command d.bot memory d.disk) {events : List Event}
    (log : after.log = d.bot.log ++ events) (state : after.state = .idle)
    (bad : passed events = false) (spoilt : List Byte)
    (room : spoilt.length ≤
      (pendingAfter [] (d.command.since d.bot) ++ receivedData events).length)
    (spoils : spoiltBytes blockSize label.spoilt events = spoilt.length)
    (disk : wroteBlocks blockSize label.spoilt d.disk events = store d.disk
      (d.command.commandAddr * blockSize + d.command.covered blockSize d.bot) spoilt) :
    Carries cfg blockSize d label after memory := by
  obtain ⟨kept, received, count, same⟩ := filing.kept
  have since : d.command.since after = d.command.since d.bot ++ events :=
    since_append filing.log log
  have ended : after.state ≠ .dataOut := by
    rw [state]
    exact nofun
  rw [← since_log log] at bad disk spoils
  have operations : d.operations blockSize label after =
      [.cut (d.command.commandAddr * blockSize) spoilt.length
        (receivedData (d.command.since after))] := by
    simp only [Drive.operations, writing, ended, bad, spoils, Bool.false_eq_true, if_false]
  have data : receivedData (d.command.since after) =
      kept ++ (pendingAfter [] (d.command.since d.bot) ++ receivedData events) := by
    rw [since, receivedData_append, received, List.append_assoc]
  refine ⟨store memory (d.command.commandAddr * blockSize) (kept ++ spoilt), ?_,
    .resting (.inl state) ?_⟩
  next =>
    rw [operations, data]
    refine ⟨_, ?_, rfl⟩
    generalize pendingAfter [] (d.command.since d.bot) ++ receivedData events = rest at room ⊢
    have performs : Operation.Performs memory
        (.cut (d.command.commandAddr * blockSize) spoilt.length (kept ++ rest))
        (store memory (d.command.commandAddr * blockSize)
          ((kept ++ rest).take kept.length ++ spoilt)) := by
      apply Operation.Performs.cut
      rw [List.length_append]
      omega
    rw [List.take_left] at performs
    exact performs
  next =>
    have found : (d.next blockSize label after).disk = store d.disk
        (d.command.commandAddr * blockSize + d.command.covered blockSize d.bot) spoilt := disk
    rw [found, same, store_append, count]

/-- A WRITE(10) whose last chunk has been written. -/
theorem carries_written (writing : d.bot.state = .dataOut)
    (filing : Filing cfg blockSize d.command d.bot memory d.disk) {events : List Event}
    (log : after.log = d.bot.log ++ events) (state : after.state = .idle)
    (good : passed events = true) {bytes : List Byte}
    (chunk : pendingAfter [] (d.command.since d.bot) ++ receivedData events = bytes)
    (last : d.command.covered blockSize d.bot + bytes.length = d.command.commandLen * blockSize)
    (disk : wroteBlocks blockSize label.spoilt d.disk events = store d.disk
      (d.command.commandAddr * blockSize + d.command.covered blockSize d.bot) bytes) :
    Carries cfg blockSize d label after memory := by
  obtain ⟨kept, received, count, same⟩ := filing.kept
  have since : d.command.since after = d.command.since d.bot ++ events :=
    since_append filing.log log
  have ended : after.state ≠ .dataOut := by
    rw [state]
    exact nofun
  rw [← since_log log] at good disk
  have operations : d.operations blockSize label after =
      [.write (d.command.commandAddr * blockSize) (d.command.commandLen * blockSize)
        (receivedData (d.command.since after))] := by
    simp only [Drive.operations, writing, ended, good, if_false, if_true]
  have data : receivedData (d.command.since after) = kept ++ bytes := by
    rw [since, receivedData_append, received, List.append_assoc, chunk]
  refine ⟨store memory (d.command.commandAddr * blockSize) (kept ++ bytes), ?_,
    .resting (.inl state) ?_⟩
  next =>
    rw [operations, data]
    refine ⟨_, .write _ ?_, rfl⟩
    rw [List.length_append, count, last]
  next =>
    have found : (d.next blockSize label after).disk = store d.disk
        (d.command.commandAddr * blockSize + d.command.covered blockSize d.bot) bytes := disk
    rw [found, same, store_append, count]

theorem Filing.still {c b : Bot} {disk : Nat → Byte}
    (filing : Filing cfg blockSize c b memory disk) (still : Still b after) :
    Filing cfg blockSize c after memory disk := by
  obtain ⟨inside, log, collecting, kept, received, length, same⟩ := filing
  obtain ⟨⟨count, position, bytes⟩, uncounted⟩ := collecting
  obtain ⟨inside', covered⟩ := inside.still still
  have since : c.since after = c.since b := since_same still.log
  have pBuf := congrArg (fun ep => ep.pBuf) still.outEp
  have packNum := congrArg (fun ep => ep.packNum) still.outEp
  have size := congrArg (fun ep => ep.maxPackSize) still.outEp
  have data : after.data = b.data := congrArg (· .data) still.memory
  dsimp only at pBuf packNum size
  refine ⟨inside', ?_, ⟨⟨count, ?_, ?_⟩, ?_⟩, kept, ?_, ?_, same⟩
  next => rw [still.log, since, log, ← log]
  next => rw [pBuf, position]
  next => rw [since, data, bytes]
  next =>
    rw [since, packNum, size, Bot.chunkLen, still.blkLen]
    exact uncounted
  next => rw [since, received]
  next => rw [covered, length]

/-- A packet of a chunk that is not complete yet, or the last of one. -/
theorem carries_received {packet : List Byte} {storage : Storage} {spoilt : Nat → Byte}
    (writing : d.bot.state = .dataOut)
    (filing : Filing cfg blockSize d.command d.bot memory d.disk)
    (write : opcode ((d.bot.stored packet).command 0) = .write10)
    (divides : blockSize ∣ cfg.mediaPacket) (some : 0 < packet.length)
    (fills : Fills cfg d.bot (.out packet storage)) :
    Carries cfg blockSize d (.out packet storage, spoilt) (dataOutProcess cfg d.bot packet storage)
      memory := by
  obtain ⟨counted, full⟩ := fills
  obtain ⟨count, gathered, left, position, bytes⟩ := filing.collecting.stored counted some
  have arrived := log_stored writing packet
  have command : ∀ after,
      (d.next blockSize (.out packet storage, spoilt) after).command = d.command := by
    intro after
    exact if_neg (by rw [writing]; exact nofun)
  obtain ⟨b, isB⟩ : ∃ b, b = d.bot.stored packet := ⟨_, rfl⟩
  have state : b.state = .dataOut := by rw [isB]; exact writing
  have inside : Inside blockSize d.command b ∧
      d.command.covered blockSize b = d.command.covered blockSize d.bot := by
    obtain ⟨fits, blkSize, left, blocks, blkAddr⟩ := filing.inside
    rw [isB]
    exact ⟨⟨fits, blkSize, left, blocks, blkAddr⟩, rfl⟩
  simp only [dataOutProcess]
  rw [← isB] at write left position bytes arrived ⊢
  split
  next complete =>
    have one : d.bot.outEp.packNum = 1 := by omega
    have sizes : b.chunkLen cfg = d.bot.chunkLen cfg := by rw [isB]; rfl
    obtain ⟨len, isLen⟩ : ∃ len, len = b.chunkLen cfg := ⟨_, rfl⟩
    have exactly : count + packet.length = len := by
      rw [isLen, sizes, ← full one, gathered]
    obtain ⟨whole, first⟩ := inside.1.chunk divides
    rw [← isLen] at whole first
    have start := inside.1.blkAddr
    rw [inside.2] at start
    rw [exactly] at bytes
    -- the call of `WriteData` for the chunk
    have called : (b.writeCall len).log = d.bot.log ++ [.received packet,
        .writeData b.bLUN (b.blkAddr / b.blkSize) (len / b.blkSize)
          (pendingAfter [] (d.command.since d.bot) ++ packet)] := by
      rw [bytes, Bot.writeCall, Bot.note, arrived, List.append_assoc]
      rfl
    have chunk (rest : List Event) (none : receivedData rest = []) :
        pendingAfter [] (d.command.since d.bot) ++ receivedData (.received packet ::
          .writeData b.bLUN (b.blkAddr / b.blkSize) (len / b.blkSize)
            (pendingAfter [] (d.command.since d.bot) ++ packet) :: rest) =
        pendingAfter [] (d.command.since d.bot) ++ packet := by
      simp only [receivedData, none, List.append_nil]
    have length : (pendingAfter [] (d.command.since d.bot) ++ packet).length = len := by
      rw [bytes, List.length_map, List.length_range]
    generalize pendingAfter [] (d.command.since d.bot) ++ packet = content at *
    rw [outData_scsiWrite state write]
    unfold scsiWrite
    rw [← isLen]
    cases answer : storage.writeData with
    | false =>
      simp only [Bool.not_false, if_true, failWith]
      generalize failed : putSenseCode (b.writeCall len) hardwareError ascWriteFault 0 = u
      have noted : u.log = _ := (congrArg Bot.log failed.symm).trans called
      have added : (txCSW u .cmdFail).log = d.bot.log ++ [.received packet, .writeData b.bLUN
          (b.blkAddr / b.blkSize) (len / b.blkSize) content,
          .csw u.csw.dTag u.csw.dDataResidue .cmdFail] := by
        rw [log_txCSW, noted, List.append_assoc]
        rfl
      apply carries_cut writing filing added rfl rfl ((List.range len).map spoilt)
      next =>
        rw [chunk _ rfl, length, List.length_map, List.length_range]
      next =>
        have failing : spoiltBytes blockSize (DriveLabel.spoilt (.out packet storage, spoilt))
            [.received packet, .writeData b.bLUN (b.blkAddr / b.blkSize) (len / b.blkSize) content,
              .csw u.csw.dTag u.csw.dDataResidue .cmdFail] = len / b.blkSize * blockSize := by
          simp [spoiltBytes, DriveLabel.spoilt, answer]
        rw [failing, whole, List.length_map, List.length_range]
      next =>
        have disk : wroteBlocks blockSize (DriveLabel.spoilt (.out packet storage, spoilt)) d.disk
            [.received packet, .writeData b.bLUN (b.blkAddr / b.blkSize) (len / b.blkSize) content,
              .csw u.csw.dTag u.csw.dDataResidue .cmdFail] =
            store d.disk (b.blkAddr / b.blkSize * blockSize)
              ((List.range (len / b.blkSize * blockSize)).map spoilt) := by
          simp only [wroteBlocks, DriveLabel.spoilt, answer, Bool.false_eq_true, if_false]
        rw [disk, whole, first (by omega), start]
    | true =>
      simp only [Bool.not_true, Bool.false_eq_true, if_false]
      have disk (rest : List Event) (none : storageCalls rest = []) :
          wroteBlocks blockSize (DriveLabel.spoilt (.out packet storage, spoilt)) d.disk
            (.received packet :: .writeData b.bLUN (b.blkAddr / b.blkSize) (len / b.blkSize)
              content :: rest) =
          store d.disk (d.command.commandAddr * blockSize + d.command.covered blockSize d.bot)
            content := by
        simp only [wroteBlocks, DriveLabel.spoilt, answer, if_true, wroteBlocks_quiet none, whole]
        rw [first (by omega), start, List.take_of_length_le length.le]
      obtain ⟨next, isNext⟩ : ∃ next, next = (b.writeCall len).advance len := ⟨_, rfl⟩
      obtain ⟨inside', covered⟩ : Inside blockSize d.command next ∧
          d.command.covered blockSize next = d.command.covered blockSize d.bot + len := by
        rw [isNext, isLen, ← inside.2]
        exact inside.1.next divides rfl rfl rfl
      have noted : next.log = _ := (congrArg Bot.log isNext).trans called
      unfold Bot.writeNext
      rw [← isNext]
      dsimp only
      split
      next more =>
        obtain ⟨kept, received, size, same⟩ := filing.kept
        have added : (next.rxData .data (next.chunkLen cfg)).log = _ := noted
        have since := since_append filing.log added
        have pending : pendingAfter [] (d.command.since (next.rxData .data (next.chunkLen cfg))) =
            [] := by
          rw [since, pendingAfter_append]
          rfl
        have state' : (next.rxData .data (next.chunkLen cfg)).state = .dataOut := by
          rw [isNext]
          exact state
        refine ⟨memory, ?_, .writing state' ?_⟩
        next =>
          simp only [Drive.operations, writing, state', if_true]
          rfl
        next =>
          rw [command]
          refine ⟨⟨inside'.fits, inside'.blkSize, inside'.left, inside'.blocks, inside'.blkAddr⟩,
            ?_, ?_, kept ++ content, ?_, ?_, ?_⟩
          next => rw [since, added, ← List.append_assoc, ← filing.log]
          next =>
            rw [pending]
            exact .armed next
          next =>
            rw [pending, since, receivedData_append, received, List.append_assoc, chunk [] rfl,
              List.append_nil]
          next =>
            rw [List.length_append, size, length]
            exact covered.symm
          next =>
            have found : (d.next blockSize (.out packet storage, spoilt)
                (next.rxData .data (next.chunkLen cfg))).disk = _ :=
              (congrArg _ (since_log added)).trans (disk [] rfl)
            rw [found, same, store_append, size]
      next done =>
        have none : next.blkLen = 0 := not_not.mp done
        have added : (txCSW next .cmdOk).log = d.bot.log ++ [.received packet, .writeData b.bLUN
            (b.blkAddr / b.blkSize) (len / b.blkSize) content,
            .csw next.csw.dTag next.csw.dDataResidue .cmdOk] := by
          rw [log_txCSW, noted, List.append_assoc]
          rfl
        apply carries_written writing filing added rfl rfl (chunk _ rfl) ?_ (disk _ rfl)
        rw [length, ← covered, Bot.covered, none, Nat.sub_zero]
  next more =>
    obtain ⟨kept, received, length, same⟩ := filing.kept
    have since : d.command.since b = d.command.since d.bot ++ [.received packet] :=
      since_append filing.log arrived
    have pending : pendingAfter [] (d.command.since b) =
        pendingAfter [] (d.command.since d.bot) ++ packet := by
      rw [since, pendingAfter_append]
      rfl
    refine .quiet _ arrived rfl ?_ (.writing state ?_)
    next => simp only [Drive.operations, writing, state, if_true]
    next =>
      rw [command]
      refine ⟨inside.1, ?_, ⟨⟨_, position, ?_⟩, fun none => absurd none more⟩, kept, ?_, ?_, same⟩
      next => rw [since, arrived, ← List.append_assoc, ← filing.log]
      next => rw [pending, bytes]
      next =>
        rw [pending, since, receivedData_append, received, List.append_assoc]
        exact congrArg (fun data => kept ++ (pendingAfter [] (d.command.since d.bot) ++ data))
          (List.append_nil packet)
      next => rw [inside.2, length]

theorem carries_writing (writing : d.bot.state = .dataOut)
    (filing : Filing cfg blockSize d.command d.bot memory d.disk) (sound : Sound d.bot)
    (divides : blockSize ∣ cfg.mediaPacket) (proper : Proper cfg blockSize d label)
    (taken : step cfg d.bot label.1 = some after) : Carries cfg blockSize d label after memory := by
  have unmoved (t : Bot) (still : Still d.bot t)
      (command : (d.next blockSize label t).command = d.command) :
      Carries cfg blockSize d label t memory := by
    have state : t.state = .dataOut := still.state.trans writing
    refine .quiet [] ?_ rfl ?_ (.writing state ?_)
    next => rw [still.log, List.append_nil]
    next => simp only [Drive.operations, writing, state, if_true]
    next =>
      rw [command]
      exact filing.still still
  obtain ⟨label, spoilt⟩ := label
  cases label with
  | out packet storage =>
    obtain ⟨⟨valid, _⟩, rfl⟩ := step_out taken
    obtain ⟨⟨-, some, -⟩, fills⟩ := proper.2.2 writing
    exact carries_received writing filing ((sound.stored valid packet).writing writing) divides some
      fills
  | inDone storage =>
    obtain ⟨-, rfl⟩ := step_inDone taken
    obtain ⟨inside, log, collecting, kept⟩ := filing
    have nothing : ∀ t : Bot, t.state = .dataOut →
        d.operations blockSize (.inDone storage, spoilt) t = [] := by
      intro t state
      simp only [Drive.operations, writing, state, if_true]
    unfold dataInProcess
    split
    next =>
      refine .quiet [] (List.append_nil _).symm rfl (nothing _ writing) (.writing writing ?_)
      exact ⟨⟨inside.fits, inside.blkSize, inside.left, inside.blocks, inside.blkAddr⟩, log,
        ⟨collecting.position, collecting.uncounted⟩, kept⟩
    next =>
      have idle : inData cfg { d.bot with inEp.txStatus := .nak } storage =
          { d.bot with inEp.txStatus := .nak } := by simp only [inData, writing]
      rw [idle]
      refine .quiet [] (List.append_nil _).symm rfl (nothing _ writing) (.writing writing ?_)
      exact ⟨⟨inside.fits, inside.blkSize, inside.left, inside.blocks, inside.blkAddr⟩, log,
        ⟨collecting.position, collecting.uncounted⟩, kept⟩
  | clearHalt wIndex0 =>
    obtain rfl := Option.some.inj taken
    obtain still | ⟨t, still, answered⟩ := cleared_cases cfg d.bot wIndex0
    next => exact unmoved _ still rfl
    next =>
      rw [answered]
      have log : (txCSW t .cmdFail).log =
          d.bot.log ++ [.csw t.csw.dTag t.csw.dDataResidue .cmdFail] := by
        rw [log_txCSW, still.log]
      exact carries_cut writing filing log rfl rfl [] (Nat.zero_le _) rfl rfl
  | reset =>
    obtain rfl := Option.some.inj taken
    have log : (botReset d.bot).log = d.bot.log ++ [] := (List.append_nil _).symm
    exact carries_cut writing filing log rfl rfl [] (Nat.zero_le _) rfl rfl

end

/-! ## Runs -/

/-- The history is one of a plain memory that begins as `start`. -/
structure InOrder (cfg : Config) (blockSize : Nat) (start : Nat → Byte) (sizes : Nat × Nat)
    (d : Drive) : Prop where
  sound : Sound d.bot
  sizes : d.bot.sizes = sizes
  measures : d.bot.Measures blockSize
  stage : ∃ memory, Replays start d.history memory ∧
    Stage cfg blockSize d.command d.bot d.disk memory

section

variable {cfg : Config} {blockSize inMaxPackSize outMaxPackSize : Nat} {disk : Nat → Byte}
  {d next : Drive} {label : DriveLabel} {labels : List DriveLabel}

theorem Proper.measures (proper : Proper cfg blockSize d label) (sound : Sound d.bot) {after : Bot}
    (taken : step cfg d.bot label.1 = some after) (measures : d.bot.Measures blockSize) :
    after.Measures blockSize := by
  obtain kept | ⟨storage, given, reported⟩ := geometry_cases sound taken
  next =>
    have size : after.blkSize = d.bot.blkSize := congrArg Prod.fst kept
    have number : after.blkNbr = d.bot.blkNbr := congrArg Prod.snd kept
    rw [Bot.Measures, size, number]
    exact measures
  next =>
    obtain ⟨size, room, -⟩ := proper.1 storage given
    have size' : after.blkSize = storage.blkSize.toNat := congrArg Prod.fst reported
    have number : after.blkNbr = storage.blkNbr.toNat := congrArg Prod.snd reported
    left
    rw [size', number]
    exact ⟨size, room⟩

theorem InOrder.step (inSize : 0 < inMaxPackSize ∧ inMaxPackSize < 1024)
    (divides : blockSize ∣ cfg.mediaPacket) (counted : cfg.mediaPacket ≤ 256 * inMaxPackSize)
    (inOrder : InOrder cfg blockSize disk (inMaxPackSize, outMaxPackSize) d)
    (proper : Proper cfg blockSize d label) (taken : driveStep cfg blockSize d label = some next) :
    InOrder cfg blockSize disk (inMaxPackSize, outMaxPackSize) next := by
  obtain ⟨sound, sizes, measures, memory, replays, stage⟩ := inOrder
  obtain ⟨after, stepped, rfl⟩ := Option.map_eq_some_iff.mp taken
  have size : d.bot.inEp.maxPackSize = inMaxPackSize := congrArg Prod.fst sizes
  rw [← size] at inSize counted
  have carries : Carries cfg blockSize d label after memory := by
    cases stage with
    | resting state same =>
      exact carries_rest state same measures divides inSize.2 counted proper stepped
    | reading state same fetching =>
      exact carries_reading state same fetching sound divides inSize.1 inSize.2 counted proper
        stepped
    | writing state filing => exact carries_writing state filing sound divides proper stepped
  obtain ⟨later, further, stage'⟩ := carries
  refine ⟨sound.step stepped, (sizes_step sound stepped).trans sizes,
    proper.measures sound stepped measures, later, ?_, stage'⟩
  exact replays_append.mpr ⟨memory, replays, further⟩

theorem run_inOrder (inSize : 0 < inMaxPackSize ∧ inMaxPackSize < 1024)
    (divides : blockSize ∣ cfg.mediaPacket) (counted : cfg.mediaPacket ≤ 256 * inMaxPackSize)
    (run : Run (driveStep cfg blockSize) (Proper cfg blockSize)
      (.plugged disk inMaxPackSize outMaxPackSize) labels d) :
    InOrder cfg blockSize disk (inMaxPackSize, outMaxPackSize) d := by
  apply run.invariant (InOrder cfg blockSize disk (inMaxPackSize, outMaxPackSize))
  next =>
    exact ⟨sound_init _ _, rfl, .inr ⟨rfl, rfl⟩, disk, rfl, .resting (.inl rfl) rfl⟩
  next =>
    intro before label after inOrder proper taken
    exact inOrder.step inSize divides counted proper taken

theorem Stage.holds {memory : Nat → Byte}
    (stage : Stage cfg blockSize d.command d.bot d.disk memory) : d.Holds blockSize memory := by
  unfold Drive.Holds
  cases stage with
  | resting state same =>
    obtain idle | sending := state
    next => rw [idle, if_neg nofun]; exact same
    next => rw [sending, if_neg nofun]; exact same
  | reading state same =>
    obtain reading | last := state
    next => rw [reading, if_neg nofun]; exact same
    next => rw [last, if_neg nofun]; exact same
  | writing state filing =>
    obtain ⟨kept, received, -, same⟩ := filing.kept
    rw [if_pos state]
    refine ⟨kept, ?_, same⟩
    rw [received]
    exact List.prefix_append _ _

/-- A byte that a READ(10) has returned is the one that the last WRITE(10) of it has sent. -/
theorem read_returns_written (inSize : 0 < inMaxPackSize ∧ inMaxPackSize < 1024)
    (divides : blockSize ∣ cfg.mediaPacket) (counted : cfg.mediaPacket ≤ 256 * inMaxPackSize)
    (run : Run (driveStep cfg blockSize) (Proper cfg blockSize)
      (.plugged disk inMaxPackSize outMaxPackSize) labels d)
    {earlier between later : List (Operation Byte)} {address count first many : Nat}
    {sent found : List Byte}
    (history : d.history = earlier ++ .write address count sent ::
      (between ++ .read first many found :: later)) {place : Nat}
    (written : address ≤ place ∧ place < address + count)
    (asked : first ≤ place ∧ place < first + many)
    (elsewhere : ∀ operation ∈ between, ¬ operation.Stores place) :
    found[place - first]? = sent[place - address]? := by
  obtain ⟨memory, replays, -⟩ := (run_inOrder inSize divides counted run).stage
  rw [history] at replays
  exact replays.read_written written asked elsewhere

end

/-- READ CAPACITY(10), WRITE(10) of the second block and READ(10) of the first two, each to its
CSW. -/
def storeAndFetch : List DriveLabel :=
  let empty := goodMedium 8 64
  let full := { empty with content := fun index => if index < 64 then 0 else 7 }
  let labels : List Label :=
    [.out (commandBlock [8, 0, 0, 0] 0x80 [0x25]) empty, .inDone empty, .inDone empty,
      .out (commandBlock [64, 0, 0, 0] 0 [0x2A, 0, 0, 0, 0, 1, 0, 0, 1]) empty,
      .out (List.replicate 64 7) empty, .inDone empty,
      .out (commandBlock [128, 0, 0, 0] 0x80 [0x28, 0, 0, 0, 0, 0, 0, 0, 2]) full, .inDone full,
      .inDone full]
  labels.map fun label => (label, fun _ => 0)

theorem storeAndFetch_accepted : (execute (driveStep mediaConfig 64) (Proper mediaConfig 64)
    (.plugged (fun _ => 0) 64 64) storeAndFetch).isSome = true := by decide +kernel

def fetched : Drive := final (driveStep mediaConfig 64) (Proper mediaConfig 64)
  (.plugged (fun _ => 0) 64 64) storeAndFetch storeAndFetch_accepted

end ApmSdk.Msc
