import ApmSdk.Msc.Blocks
import ApmSdk.Msc.Geometry
import ApmSdk.Msc.Recovery

set_option autoImplicit false

/-!
# The address check

`SCSI_CheckAddress` and the divisions by `s_blkSize` over all histories of commands, against the
block count that was last reported for each unit.
-/

namespace ApmSdk.Msc

open Usbd Runs

structure Verifying (b : Bot) : Prop where
  command : opcode (b.command 0) = .verify10
  unread : (b.command 1).toNat / 2 % 2 ≠ 1
  inRange : outOfRange b b.commandAddr b.commandLen = false

instance (b : Bot) (storage : Storage) : Decidable (Reading b storage) :=
  decidable_of_iff
    ((storage.checkReady = true ∧ outOfRange b b.commandAddr b.commandLen = false ∧
      b.dDataXferLen = b.transferLen) ∧ opcode (b.command 0) = .read10 ∧ b.dirIn = true)
    ⟨fun ⟨⟨ready, inRange, length⟩, command, direction⟩ =>
        ⟨⟨ready, inRange, length⟩, command, direction⟩,
      fun reading => ⟨⟨reading.ready, reading.inRange, reading.length⟩, reading.command,
        reading.direction⟩⟩

instance (b : Bot) : Decidable (Verifying b) :=
  decidable_of_iff
    (opcode (b.command 0) = .verify10 ∧ (b.command 1).toNat / 2 % 2 ≠ 1 ∧
      outOfRange b b.commandAddr b.commandLen = false)
    ⟨fun ⟨command, unread, inRange⟩ => ⟨command, unread, inRange⟩,
      fun verifying => ⟨verifying.command, verifying.unread, verifying.inRange⟩⟩

-- The command passes `SCSI_CheckAddress` and goes on.
def Proceeds (b : Bot) (storage : Storage) : Prop :=
  Reading b storage ∨ Writing b storage ∨ Verifying b

instance (b : Bot) (storage : Storage) : Decidable (Proceeds b storage) :=
  inferInstanceAs (Decidable (Reading b storage ∨ Writing b storage ∨ Verifying b))

structure Tracked where
  bot : Bot
  -- what `ReadCapacity` has last reported for each unit, and 0 before
  capacity : Byte → UInt32
  -- the block size and the count that it has left at the last READ CAPACITY(10), and 0 before
  told : Nat × Nat

-- READ CAPACITY(10) and READ FORMAT CAPACITIES both hand the count of their unit to the host; only
-- the first of them leaves it in `s_blkNbr`.
def reported (b : Bot) : Label → Option (Byte × UInt32)
  | .out packet storage =>
      let t := b.stored packet
      if (b.state = .idle ∧ t.outEp.packNum = 0 ∧ t.valid = true) ∧
          (opcode (t.command 0) = .readCapacity10 ∨ opcode (t.command 0) = .readFormatCapacities) ∧
          storage.readCapacity = true then
        some (t.bLUN, storage.blkNbr)
      else none
  | _ => none

def Tracked.next (s : Tracked) (label : Label) (after : Bot) : Tracked where
  bot := after
  capacity :=
    match reported s.bot label with
    | some (lun, count) => Function.update s.capacity lun count
    | none => s.capacity
  told := (learnt s.bot label).getD s.told

def trackedStep (cfg : Config) (s : Tracked) (label : Label) : Option Tracked :=
  (step cfg s.bot label).map (s.next label)

/-! ## The property of a step -/

def Checked (s : Tracked) : Label → Prop
  | .out packet storage =>
      let t := s.bot.stored packet
      Commands s.bot packet → Proceeds t storage →
        t.commandAddr + t.commandLen ≤ (s.capacity t.bLUN).toNat
  | _ => True

-- `SCSI_Read` and `SCSI_Write` divide where they call the medium.
def Divided (b after : Bot) : Prop := storageCalls (b.since after) ≠ [] → 0 < b.blkSize

/-- The sum of the check does not wrap, and the count that the last READ CAPACITY(10) was told, for
whichever unit, is not larger than that of the unit. -/
structure Covered (capacity : UInt32) (told : Nat) (b : Bot) : Prop where
  unwrapped : b.commandAddr + b.commandLen < 4294967296
  counted : told ≤ capacity.toNat

instance (capacity : UInt32) (told : Nat) (b : Bot) : Decidable (Covered capacity told b) :=
  decidable_of_iff
    (b.commandAddr + b.commandLen < 4294967296 ∧ told ≤ capacity.toNat)
    ⟨fun ⟨unwrapped, counted⟩ => ⟨unwrapped, counted⟩,
      fun covered => ⟨covered.unwrapped, covered.counted⟩⟩

/-- A command that goes on is covered by its unit's count, and before one with a data stage a
READ CAPACITY(10) was told a block size. -/
def Measured (s : Tracked) : Label → Prop
  | .out packet storage =>
      let t := s.bot.stored packet
      Commands s.bot packet →
        (Proceeds t storage → Covered (s.capacity t.bLUN) s.told.2 t) ∧
          (Reading t storage ∨ Writing t storage → 0 < s.told.1)
  | _ => True

instance (s : Tracked) : (label : Label) → Decidable (Measured s label)
  | .out _ _ => inferInstanceAs (Decidable (_ → (_ → _) ∧ (_ → _)))
  | .inDone _ => instDecidableTrue
  | .clearHalt _ => instDecidableTrue
  | .reset => instDecidableTrue

-- The same command block wrapper with another command.
def Bot.withCommand (b : Bot) (command : Nat → Byte) : Bot :=
  { b with cbw := fun index => if index < 15 then b.cbw index else command (index - 15) }

/-- Another command in place of this one would go on beyond the count of its unit. -/
def Exceedable (s : Tracked) : Label → Prop
  | .out packet storage =>
      ∃ command, let t := (s.bot.stored packet).withCommand command
        t.valid = true ∧ Proceeds t storage ∧
          (s.capacity t.bLUN).toNat < t.commandAddr + t.commandLen
  | _ => False

section

variable {cfg : Config} {b : Bot}

theorem Proceeds.inRange {storage : Storage} (proceeds : Proceeds b storage) :
    (b.commandAddr + b.commandLen) % 4294967296 ≤ b.blkNbr := by
  have inRange : outOfRange b b.commandAddr b.commandLen = false := by
    obtain reading | writing | verifying := proceeds
    · exact reading.inRange
    · exact writing.inRange
    · exact verifying.inRange
  rw [outOfRange, decide_eq_false_iff_not, Nat.not_lt, Nat.add_comm] at inRange
  exact inRange

theorem Covered.checked {capacity : UInt32} (covered : Covered capacity b.blkNbr b)
    (inRange : (b.commandAddr + b.commandLen) % 4294967296 ≤ b.blkNbr) :
    b.commandAddr + b.commandLen ≤ capacity.toNat := by
  rw [Nat.mod_eq_of_lt covered.unwrapped] at inRange
  exact inRange.trans covered.counted

-- VERIFY(10) of no block, with `addr` as its logical block address.
def verifyBlock (addr : Nat) : Nat → Byte
  | 0 => 0x2F
  | 2 => byteOf addr 3
  | 3 => byteOf addr 2
  | 4 => byteOf addr 1
  | 5 => byteOf addr 0
  | _ => 0

theorem commandAddr_verifyBlock {addr : Nat} (narrow : addr < 4294967296) :
    (b.withCommand (verifyBlock addr)).commandAddr = addr := by
  change le32 (byteOf addr 0) (byteOf addr 1) (byteOf addr 2) (byteOf addr 3) = addr
  simp only [le32, byteOf, UInt8.toNat_ofNat']
  omega

/-- A count that is larger than that of the unit lets a command through that exceeds it. -/
theorem exceeds {capacity : UInt32} (narrow : b.blkNbr < 4294967296)
    (larger : capacity.toNat < b.blkNbr) (storage : Storage) :
    Proceeds (b.withCommand (verifyBlock b.blkNbr)) storage ∧
      capacity.toNat < (b.withCommand (verifyBlock b.blkNbr)).commandAddr +
        (b.withCommand (verifyBlock b.blkNbr)).commandLen := by
  have addr := commandAddr_verifyBlock (b := b) narrow
  have none : (b.withCommand (verifyBlock b.blkNbr)).commandLen = 0 := rfl
  have count : (b.withCommand (verifyBlock b.blkNbr)).blkNbr = b.blkNbr := rfl
  constructor
  · have unread : ((b.withCommand (verifyBlock b.blkNbr)).command 1).toNat / 2 % 2 ≠ 1 :=
      (by decide : ((0 : UInt8).toNat / 2 % 2 ≠ 1))
    refine .inr (.inr ⟨rfl, unread, ?_⟩)
    rw [outOfRange, addr, none, count, Nat.zero_add, Nat.mod_eq_of_lt narrow]
    exact decide_eq_false (Nat.lt_irrefl _)
  · rw [addr, none]
    exact larger

/-! ## Where a step divides -/

-- A data stage that the next packet can carry on.
def Bot.Transferring (b : Bot) : Prop :=
  b.state = .dataIn ∧ b.inEp.txStatus = .valid ∨ b.state = .dataOut

theorem not_transferring_idle (idle : b.state = .idle) : ¬ b.Transferring := by
  rintro (⟨reading, -⟩ | writing)
  · exact absurd (idle.symm.trans reading) nofun
  · exact absurd (idle.symm.trans writing) nofun

theorem stall_log (t : Bot) : ∃ events, (stall t).log = t.log ++ events ∧
    storageCalls events = [] ∧ (stall t).state = t.state ∧ (stall t).inEp.txStatus = .stall := by
  unfold stall
  dsimp only
  split
  · refine ⟨[.stallOut, .stallIn], ?_⟩
    split <;> simp [Bot.note, storageCalls]
  · refine ⟨[.stallIn], ?_⟩
    split <;> simp [Bot.note, storageCalls]

/-- What a step without a data stage before it does: a call of the medium and the beginning of a
data stage are those of an accepted command. -/
structure Opening (cfg : Config) (b : Bot) (label : Label) (after : Bot) : Prop where
  log : ∃ events, after.log = b.log ++ events ∧ (storageCalls events ≠ [] →
    ∃ packet storage, label = .out packet storage ∧ Commands b packet ∧
      Reading (b.stored packet) storage)
  stage : after.Transferring → ∃ packet storage, label = .out packet storage ∧ Commands b packet ∧
    (Reading (b.stored packet) storage ∨ Writing (b.stored packet) storage) ∧
      after.blkSize = (b.stored packet).blkSize

theorem Opening.quiet {label : Label} {after : Bot} (events : List Event)
    (log : after.log = b.log ++ events) (calls : storageCalls events = [])
    (rest : ¬ after.Transferring) : Opening cfg b label after where
  log := ⟨events, log, fun some => absurd calls some⟩
  stage going := absurd going rest

theorem opening_command (rest : b.state = .idle) {packet : List Byte}
    (complete : (b.stored packet).outEp.packNum = 0) (storage : Storage) :
    Opening cfg b (.out packet storage) (decodeCBW cfg (b.stored packet) storage) := by
  have idle : (b.stored packet).state = .idle := rest
  have log : (b.stored packet).log = b.log := by simp [Bot.stored, rest]
  have decoded : Decoded cfg (b.stored packet) storage (decodeCBW cfg (b.stored packet) storage) :=
    decodeCBW_cases idle
  generalize decodeCBW cfg (b.stored packet) storage = after at decoded ⊢
  -- a command that ends in a stall leaves the IN endpoint halted
  have halted (t : Bot) (events : List Event) (before : t.log = b.log ++ events)
      (calls : storageCalls events ≠ [] →
        Commands b packet ∧ Reading (b.stored packet) storage) (state : t.state ≠ .dataOut) :
      Opening cfg b (.out packet storage) (stall t) := by
    obtain ⟨stalls, added, quiet, kept, stopped⟩ := stall_log t
    constructor
    case log =>
      refine ⟨events ++ stalls, by rw [added, before, List.append_assoc], fun some => ?_⟩
      rw [storageCalls_append, quiet, List.append_nil] at some
      exact ⟨packet, storage, rfl, calls some⟩
    case stage =>
      rintro (⟨-, valid⟩ | writing)
      · cases stopped.symm.trans valid
      · exact absurd (kept.symm.trans writing) state
  cases decoded with
  | refused =>
    exact .quiet [] (by simp [putSenseCode, Bot.started, log]) rfl (not_transferring_idle idle)
  | @failed t _ kept state =>
    refine halted t [] (by rw [kept.log]; simp [Bot.started, log]) (absurd rfl) ?_
    obtain done | ⟨reading, -⟩ := state
    · rw [done]
      decide
    · rw [reading]
      decide
  | @replied t _ kept state =>
    have same : t.log = b.log := kept.log.trans log
    split
    · refine .quiet [] (by simp [botTxData, same, Bot.moved]) rfl ?_
      rintro (⟨reading, -⟩ | writing)
      · cases reading
      · cases writing
    · exact .quiet [_] (by rw [log_txCSW, same]) rfl (not_transferring_idle rfl)
  | unread valid reading _ begun =>
    subst begun
    have apart : BotState.dataIn ≠ .dataOut := by decide
    exact halted _ [.readData _ _ _] (congrArg (· ++ _) log)
      (fun _ => ⟨⟨rest, complete, valid⟩, reading⟩) apart
  | reading valid reading _ begun =>
    subst begun
    have commands : Commands b packet := ⟨rest, complete, valid⟩
    constructor
    case log =>
      exact ⟨[.readData _ _ _], congrArg (· ++ _) log,
        fun _ => ⟨packet, storage, rfl, commands, reading⟩⟩
    case stage => exact fun _ => ⟨packet, storage, rfl, commands, .inl reading, rfl⟩
  | writing valid writing begun =>
    subst begun
    have commands : Commands b packet := ⟨rest, complete, valid⟩
    constructor
    case log => exact ⟨[], log.trans (List.append_nil _).symm, absurd rfl⟩
    case stage => exact fun _ => ⟨packet, storage, rfl, commands, .inr writing, rfl⟩

-- Between commands, and while a reply is sent.
theorem opening_rest {label : Label} {after : Bot} (rest : b.state = .idle ∨ b.state = .sendData)
    (taken : step cfg b label = some after) : Opening cfg b label after := by
  have still (t : Bot) (state : t.state = b.state) : ¬ t.Transferring := by
    rintro (⟨reading, -⟩ | writing)
    · rw [state] at reading
      exact rest.elim (fun idle => nomatch idle.symm.trans reading)
        fun sending => nomatch sending.symm.trans reading
    · rw [state] at writing
      exact rest.elim (fun idle => nomatch idle.symm.trans writing)
        fun sending => nomatch sending.symm.trans writing
  have answered (t : Bot) (log : t.log = b.log) (status : CswStatus) :
      Opening cfg b label (txCSW t status) :=
    .quiet [_] (by rw [log_txCSW, log]) rfl (not_transferring_idle rfl)
  cases label with
  | out packet storage =>
    obtain ⟨-, rfl⟩ := step_out taken
    have log : (b.stored packet).log = b.log := by
      have elsewhere : b.state ≠ .dataOut := fun writing => still b rfl (.inr writing)
      simp [Bot.stored, elsewhere]
    have kept : Opening cfg b (.out packet storage) (b.stored packet) :=
      .quiet [] (by simp [log]) rfl (still _ rfl)
    unfold dataOutProcess
    dsimp only
    split
    · next complete =>
      obtain idle | sending := rest
      · have state : (b.stored packet).state = .idle := idle
        simp only [outData, state]
        exact opening_command idle complete storage
      · have state : (b.stored packet).state = .sendData := sending
        simp only [outData, state]
        exact kept
    · exact kept
  | inDone storage =>
    obtain ⟨-, rfl⟩ := step_inDone taken
    unfold dataInProcess
    split
    · exact .quiet [] (by simp) rfl (still _ rfl)
    · obtain idle | sending := rest
      · simp only [inData, idle]
        exact .quiet [] (by simp) rfl (not_transferring_idle rfl)
      · simp only [inData, sending]
        exact answered _ rfl _
  | clearHalt wIndex0 =>
    obtain rfl := Option.some.inj taken
    have log : (clearHalt cfg b wIndex0).log = b.log := by
      unfold clearHalt
      dsimp only
      split <;> rfl
    have state : (clearHalt cfg b wIndex0).state = b.state := by
      unfold clearHalt
      dsimp only
      split <;> rfl
    unfold clearFeatureHandler
    split
    · exact .quiet [] (by simp [log]) rfl (still _ state)
    · split
      · exact answered _ log _
      · exact .quiet [] (by simp [log]) rfl (still _ state)
  | reset =>
    obtain rfl := Option.some.inj taken
    exact .quiet [] (by simp [botReset]) rfl (not_transferring_idle rfl)

/-- The divisions of a step are by the block size that was there before it: the one of a data stage
in progress, or of the READ(10) that the step begins. -/
structure Divides (b : Bot) (label : Label) (after : Bot) : Prop where
  calls : storageCalls (b.since after) ≠ [] → b.Transferring ∨
    ∃ packet storage, label = .out packet storage ∧ Commands b packet ∧
      Reading (b.stored packet) storage
  stage : after.Transferring → b.Transferring ∧ after.blkSize = b.blkSize ∨
    ∃ packet storage, label = .out packet storage ∧ Commands b packet ∧
      (Reading (b.stored packet) storage ∨ Writing (b.stored packet) storage) ∧
      after.blkSize = (b.stored packet).blkSize

theorem divides_step {label : Label} {after : Bot} (sound : Sound b)
    (taken : step cfg b label = some after) : Divides b label after := by
  have resting (rest : b.state = .idle ∨ b.state = .sendData) : Divides b label after := by
    obtain ⟨⟨events, log, calls⟩, stage⟩ := opening_rest rest taken
    rw [← since_log log] at calls
    exact ⟨fun some => .inr (calls some), fun going => .inr (stage going)⟩
  have staged (busy : b.state = .dataIn ∨ b.state = .lastDataIn ∨ b.state = .dataOut) :
      Divides b label after := by
    obtain ⟨events, log, moves⟩ := moves_step sound busy taken
    rw [← since_log log] at moves
    cases moves with
    | quiet paused calls =>
      refine ⟨fun some => absurd calls some, ?_⟩
      rintro (⟨reading, valid⟩ | writing)
      · have running : b.inEp.txStatus = .valid := by
          by_contra halted
          exact paused.halted halted valid
        exact .inl ⟨.inl ⟨paused.state.symm.trans reading, running⟩, paused.blkSize⟩
      · exact .inl ⟨.inr (paused.state.symm.trans writing), paused.blkSize⟩
    | ended state calls =>
      exact ⟨fun some => absurd calls some, fun going => absurd going (not_transferring_idle state)⟩
    | failed state _ _ stage =>
      exact ⟨fun _ => .inl stage, fun going => absurd going (not_transferring_idle state)⟩
    | moved _ _ _ blkSize _ _ _ stage => exact ⟨fun _ => .inl stage, fun _ => .inl ⟨stage, blkSize⟩⟩
  cases state : b.state with
  | idle => exact resting (.inl state)
  | sendData => exact resting (.inr state)
  | dataIn => exact staged (.inl state)
  | lastDataIn => exact staged (.inr (.inl state))
  | dataOut => exact staged (.inr (.inr state))

/-! ## Runs -/

/-- A data stage in progress knows the size of a block; what is known of the medium is what the
last READ CAPACITY(10) was told, and a count has 32 bits. -/
structure Sized (s : Tracked) : Prop where
  sound : Sound s.bot
  size : s.bot.Transferring → 0 < s.bot.blkSize
  known : s.bot.geometry = s.told
  narrow : s.bot.blkNbr < 4294967296

theorem trackedStep_eq_some {s t : Tracked} {label : Label} :
    trackedStep cfg s label = some t ↔
      ∃ after, step cfg s.bot label = some after ∧ s.next label after = t :=
  Option.map_eq_some_iff

theorem Sized.blkSize {s : Tracked} (sized : Sized s) : s.bot.blkSize = s.told.1 :=
  congrArg Prod.fst sized.known

theorem Sized.blkNbr {s : Tracked} (sized : Sized s) : s.bot.blkNbr = s.told.2 :=
  congrArg Prod.snd sized.known

theorem narrow_step {label : Label} {after : Bot} (sound : Sound b)
    (narrow : b.blkNbr < 4294967296) (taken : step cfg b label = some after) :
    after.blkNbr < 4294967296 := by
  obtain kept | ⟨storage, -, reported⟩ := geometry_cases sound taken
  · have same : after.blkNbr = b.blkNbr := congrArg Prod.snd kept
    rw [same]
    exact narrow
  · have same : after.blkNbr = storage.blkNbr.toNat := congrArg Prod.snd reported
    rw [same]
    exact storage.blkNbr.toNat_lt

theorem Sized.step {s t : Tracked} {label : Label} (sized : Sized s) (measured : Measured s label)
    (taken : trackedStep cfg s label = some t) : Sized t ∧ Divided s.bot t.bot := by
  obtain ⟨after, stepped, rfl⟩ := trackedStep_eq_some.mp taken
  obtain ⟨calls, stage⟩ := divides_step sized.sound stepped
  have known : after.geometry = (learnt s.bot label).getD s.told := by
    rw [geometry_step sized.sound stepped, sized.known]
  have sizeOf {packet : List Byte} {storage : Storage} (is : label = .out packet storage)
      (commands : Commands s.bot packet)
      (accepted : Reading (s.bot.stored packet) storage ∨ Writing (s.bot.stored packet) storage) :
      0 < s.bot.blkSize := by
    subst is
    rw [sized.blkSize]
    exact (measured commands).2 accepted
  constructor
  case left =>
    refine ⟨sized.sound.step stepped, fun going => ?_, known,
      narrow_step sized.sound sized.narrow stepped⟩
    obtain ⟨before, same⟩ | ⟨packet, storage, is, commands, accepted, same⟩ := stage going
    · rw [Tracked.next, same]
      exact sized.size before
    · rw [Tracked.next, same]
      exact sizeOf is commands accepted
  case right =>
    intro some
    obtain before | ⟨packet, storage, is, commands, reading⟩ := calls some
    · exact sized.size before
    · exact sizeOf is commands (.inl reading)

theorem Measured.checked {s : Tracked} {label : Label} (sized : Sized s)
    (measured : Measured s label) : Checked s label := by
  cases label with
  | out packet storage =>
    intro commands proceeds
    have covered := (measured commands).1 proceeds
    rw [← sized.blkNbr] at covered
    exact Covered.checked covered proceeds.inRange
  | inDone | clearHalt | reset => trivial

/-! ## Where the condition fails -/

theorem reading_divides {packet : List Byte} {storage : Storage} {after : Bot}
    (commands : Commands b packet) (reading : Reading (b.stored packet) storage)
    (taken : step cfg b (.out packet storage) = some after) : storageCalls (b.since after) ≠ [] := by
  have log : (b.stored packet).log = b.log := by simp [Bot.stored, commands.idle]
  have idle : (b.stored packet).state = .idle := commands.idle
  obtain ⟨call, rest, medium, whole⟩ : ∃ call rest, storageCalls [call] ≠ [] ∧
      after.log = b.log ++ call :: rest := by
    rw [command_decoded commands taken, decodeCBW_reading idle commands.valid reading]
    dsimp only
    generalize beginning : (b.stored packet).started.beginRead cfg = t
    have start : t.log = b.log := by
      rw [← beginning]
      exact log
    obtain ⟨call, medium, called⟩ : ∃ call, storageCalls [call] ≠ [] ∧
        (t.readCall storage (t.chunkLen cfg)).log = b.log ++ [call] := by
      rw [← start]
      exact ⟨.readData (UInt8.ofNat (t.chunkLen cfg)) (t.blkAddr / t.blkSize)
        (t.chunkLen cfg / t.blkSize), List.cons_ne_nil _ _, rfl⟩
    split
    · exact ⟨call, [], medium, called⟩
    · obtain ⟨stalls, added, -⟩ := stall_log
        (putSenseCode (t.readCall storage (t.chunkLen cfg)) hardwareError ascUnrecoveredReadError 0)
      refine ⟨call, stalls, medium, added.trans ((congrArg (· ++ stalls) called).trans ?_)⟩
      rw [List.append_assoc, List.singleton_append]
  rw [since_log whole, ← List.singleton_append, storageCalls_append]
  exact List.append_ne_nil_of_left_ne_nil medium _

theorem writeCall_divides (writing : b.state = .dataOut) (write : opcode (b.command 0) = .write10)
    (none : b.outEp.packNum = 0) (valid : b.outEp.rxStatus = .valid) (storage : Storage) :
    ∃ later, step cfg b (.out [] storage) = some later ∧ storageCalls (b.since later) ≠ [] := by
  refine ⟨dataOutProcess cfg b [] storage, ?_, ?_⟩
  · simp only [step, valid, List.length_nil, Nat.zero_le, and_self, if_true]
  · have complete : (b.stored []).outEp.packNum = 0 := by
      have unexpected : b.outEp.acknowledged.packNum = 0 := none
      rw [outEp_stored, OutEp.receive_unexpected unexpected]
      exact none
    have command : opcode ((b.stored []).command 0) = .write10 := by
      rw [Bot.command, cbw_stored (fun expected => absurd none expected)]
      exact write
    have state : (b.stored []).state = .dataOut := writing
    obtain ⟨tail, log, -⟩ := @outData_writes cfg _ state command storage
    simp only [dataOutProcess, complete, if_true]
    rw [log_stored writing, List.append_assoc] at log
    rw [since_log log]
    exact List.cons_ne_nil _ _

-- An accepted WRITE(10) of blocks without a size has an empty first chunk, which the next packet
-- completes.
theorem writing_divides {packet : List Byte} {storage : Storage} {after : Bot}
    (commands : Commands b packet) (writing : Writing (b.stored packet) storage)
    (unsized : (b.stored packet).blkSize = 0)
    (taken : step cfg b (.out packet storage) = some after) :
    ∃ later, step cfg after (.out [] storage) = some later ∧ ¬ Divided after later := by
  have begins := writing_begins commands writing taken
  have empty : ((b.stored packet).started.beginWrite).chunkLen cfg = 0 := by
    have length : ((b.stored packet).started.beginWrite).blkLen = (b.stored packet).commandLen *
        (b.stored packet).blkSize % 4294967296 := rfl
    rw [Bot.chunkLen, length, unsized]
    simp
  rw [empty] at begins
  subst begins
  obtain ⟨later, stepped, calls⟩ := @writeCall_divides cfg
    ((b.stored packet).started.beginWrite.rxData .data 0) rfl writing.command (packetCount_zero _)
    rfl storage
  refine ⟨later, stepped, fun divided => ?_⟩
  have size : ((b.stored packet).started.beginWrite.rxData .data 0).blkSize = 0 := unsized
  exact absurd (divided calls) (by rw [size]; exact Nat.lt_irrefl 0)

end

/-- A command that goes on ends within the count of its unit, and no division is by zero, in every
run whose commands are measured. A command that is not goes wrong at once or with the next packet,
or another one in its place would. -/
theorem address_check_exact {cfg : Config} {inMaxPackSize outMaxPackSize : Nat}
    {labels : List Label} {s t : Tracked} {label : Label}
    (run : Run (trackedStep cfg) Measured
      ⟨botInit (opened inMaxPackSize outMaxPackSize), fun _ => 0, (0, 0)⟩ labels s)
    (taken : trackedStep cfg s label = some t) :
    (Measured s label → Checked s label ∧ Divided s.bot t.bot) ∧
      (¬ Measured s label → ¬ Checked s label ∨ Exceedable s label ∨ ¬ Divided s.bot t.bot ∨
        ∃ packet storage later, step cfg t.bot (.out packet storage) = some later ∧
          ¬ Divided t.bot later) := by
  have sized : Sized s := by
    refine run.invariant Sized ⟨sound_init _ _, fun going => ?_, rfl, Nat.two_pow_pos 32⟩ ?_
    · exact absurd going (not_transferring_idle rfl)
    · exact fun before label after held measured stepped => (held.step measured stepped).1
  refine ⟨fun measured => ⟨measured.checked sized, (sized.step measured taken).2⟩,
    fun unmeasured => ?_⟩
  obtain ⟨after, stepped, rfl⟩ := trackedStep_eq_some.mp taken
  cases label with
  | inDone | clearHalt | reset => exact absurd trivial unmeasured
  | out packet storage =>
    have size : (s.bot.stored packet).blkSize = s.told.1 := sized.blkSize
    have number : (s.bot.stored packet).blkNbr = s.told.2 := sized.blkNbr
    simp only [Measured, Classical.not_imp, not_and_or, ← size, ← number] at unmeasured
    obtain ⟨commands, ⟨proceeds, uncovered⟩ | ⟨accepted, unsized⟩⟩ := unmeasured
    · by_cases unwrapped : (s.bot.stored packet).commandAddr +
          (s.bot.stored packet).commandLen < 4294967296
      · have larger := Nat.lt_of_not_le fun counted => uncovered ⟨unwrapped, counted⟩
        have exceeded := exceeds (b := s.bot.stored packet) sized.narrow larger storage
        exact .inr (.inl ⟨_, commands.valid, exceeded⟩)
      · have small := (s.capacity (s.bot.stored packet).bLUN).toNat_lt
        refine .inl fun checked => unwrapped ?_
        exact (checked commands proceeds).trans_lt small
    · refine .inr (.inr ?_)
      obtain reading | writing := accepted
      · exact .inl fun divided => unsized (divided (reading_divides commands reading stepped))
      · obtain ⟨later, next, wrong⟩ :=
          writing_divides commands writing (Nat.eq_zero_of_not_pos unsized) stepped
        exact .inr ⟨[], storage, later, next, wrong⟩

def attached : Tracked := ⟨plugged, fun _ => 0, (0, 0)⟩

theorem capacityRead_measured :
    (execute (trackedStep mediaConfig) Measured attached capacityRead).isSome = true := by
  decide +kernel

def reportedUnit : Tracked :=
  final (trackedStep mediaConfig) Measured attached capacityRead capacityRead_measured

theorem readBlocks_tracked :
    (trackedStep mediaConfig reportedUnit (.out readBlocks (goodMedium 8 128))).isSome = true := by
  decide +kernel

theorem readBlocks_checked : Checked reportedUnit (.out readBlocks (goodMedium 8 128)) :=
  ((address_check_exact (Run.final _ _ attached capacityRead capacityRead_measured)
    (Option.some_get readBlocks_tracked).symm).1 (by decide +kernel)).1

-- One block from LBA 2^32 - 1 on, of the eight blocks that the unit has.
def readWrapped : List Byte :=
  commandBlock [128, 0, 0, 0] 0x80 [0x28, 0, 255, 255, 255, 255, 0, 0, 1]

theorem readWrapped_tracked :
    (trackedStep mediaConfig reportedUnit (.out readWrapped (goodMedium 8 128))).isSome = true := by
  decide +kernel

theorem readWrapped_proceeds : Commands reportedUnit.bot readWrapped ∧
    Proceeds (reportedUnit.bot.stored readWrapped) (goodMedium 8 128) := by
  decide +kernel

theorem address_check_wraps : ¬ ∀ (labels : List Label) (s t : Tracked) (label : Label),
    Run (trackedStep mediaConfig) free attached labels s →
    trackedStep mediaConfig s label = some t → Checked s label ∧ Divided s.bot t.bot := by
  intro safe
  have run := Run.weaken (fun _ _ _ => trivial : ∀ s label, Measured s label → free s label)
    (Run.final _ _ attached capacityRead capacityRead_measured)
  obtain ⟨checked, -⟩ := safe _ _ _ _ run (Option.some_get readWrapped_tracked).symm
  have inside := checked readWrapped_proceeds.1 readWrapped_proceeds.2
  exact absurd inside (by decide +kernel)

end ApmSdk.Msc
