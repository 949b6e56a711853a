import ApmSdk.Msc.WriteData

set_option autoImplicit false

/-!
# The blocks that READ(10) and WRITE(10) address

The calls of `ReadData` and `WriteData` of a whole data stage against the blocks that the
command names.
-/

namespace ApmSdk.Msc

open Usbd Runs Chunks

structure StorageCall where
  lun : Byte
  first : Nat
  count : Nat
  deriving DecidableEq, Repr

def storageCalls : List Event → List StorageCall
  | [] => []
  | .readData lun first count :: rest => ⟨lun, first, count⟩ :: storageCalls rest
  | .writeData lun first count _ :: rest => ⟨lun, first, count⟩ :: storageCalls rest
  | _ :: rest => storageCalls rest

def StorageCall.blocks (call : StorageCall) : List Nat := List.range' call.first call.count

/-- The command has ended with a good CSW. -/
def Complete (events : List Event) : Prop :=
  ∃ dTag dDataResidue, Event.csw dTag dDataResidue .cmdOk ∈ events

/-- The command goes on until the BOT state is IDLE again. -/
def InCommand : Bot → Label → Prop := fun b _ => b.state ≠ .idle

instance (b : Bot) (label : Label) : Decidable (InCommand b label) := by
  unfold InCommand; infer_instance

-- The state in which `SCSI_Read` is called for the first time, or `SCSI_Write` is.
def Bot.begun (cfg : Config) (b : Bot) : Bot :=
  if b.dirIn then b.started.beginRead cfg else b.started.beginWrite

/-- The bytes of the next call are those of the blocks it names. -/
def Bot.Whole (cfg : Config) (blockSize : Nat) (b : Bot) : Prop :=
  b.chunkLen cfg = b.chunkLen cfg / b.blkSize * blockSize

/-- What the data stage of the command in `b`, begun in `start`, must do on a medium with blocks
of `blockSize` bytes. -/
structure Addresses (cfg : Config) (blockSize : Nat) (b start : Bot) : Prop where
  first : (b.begun cfg).Whole cfg blockSize
  whole : ∀ labels t, Run (step cfg) InCommand start labels t →
    t.state = .dataIn ∨ t.state = .dataOut → t.Whole cfg blockSize
  unit : ∀ labels t, Run (step cfg) InCommand start labels t →
    ∀ call ∈ storageCalls (b.since t), call.lun = b.bLUN
  covered : ∀ labels t, Run (step cfg) InCommand start labels t →
    (storageCalls (b.since t)).flatMap StorageCall.blocks <+:
      List.range' b.commandAddr b.commandLen
  complete : ∀ labels t, Run (step cfg) InCommand start labels t → Complete (b.since t) →
    (storageCalls (b.since t)).flatMap StorageCall.blocks =
      List.range' b.commandAddr b.commandLen

def Bot.chunkCount (cfg : Config) (b : Bot) : Nat := max 1 (pieces cfg.mediaPacket b.transferLen)

def Bot.chunkAt (cfg : Config) (b : Bot) (index : Nat) : Nat :=
  min cfg.mediaPacket (b.transferLen - index * cfg.mediaPacket)

/-- READ CAPACITY has reported the blocks of this medium, the bytes of the command and the
position of its last chunk have 32 bits, and `ReadData` gets the unit number in place of the
length of each chunk. -/
def Addressable (cfg : Config) (blockSize : Nat) (b : Bot) : Prop :=
  (b.commandLen ≠ 0 → b.blkSize = blockSize ∧ b.commandLen * blockSize < 4294967296 ∧
    b.commandAddr * blockSize + (b.chunkCount cfg - 1) * cfg.mediaPacket < 4294967296) ∧
  (b.dirIn = true → ∀ index < b.chunkCount cfg, UInt8.ofNat (b.chunkAt cfg index) = b.bLUN)

instance (cfg : Config) (blockSize : Nat) (b : Bot) : Decidable (Addressable cfg blockSize b) := by
  unfold Addressable; infer_instance

/-! ## One step of the data stage -/

-- The call that `SCSI_Read` or `SCSI_Write` makes.
def Bot.call (cfg : Config) (b : Bot) : StorageCall where
  lun := if b.state = .dataIn then UInt8.ofNat (b.chunkLen cfg) else b.bLUN
  first := b.blkAddr / b.blkSize
  count := b.chunkLen cfg / b.blkSize

/-- Nothing that the next call depends on has changed. -/
structure Paused (b after : Bot) : Prop where
  state : after.state = b.state
  blkAddr : after.blkAddr = b.blkAddr
  blkLen : after.blkLen = b.blkLen
  blkSize : after.blkSize = b.blkSize
  cbw : after.cbw = b.cbw
  halted : b.inEp.txStatus ≠ .valid → after.inEp.txStatus ≠ .valid

inductive Moves (cfg : Config) (b after : Bot) (events : List Event) : Prop
  | quiet (paused : Paused b after) (calls : storageCalls events = [])
      (incomplete : ¬ Complete events)
  | ended (state : after.state = .idle) (calls : storageCalls events = [])
      (complete : Complete events → b.state = .lastDataIn)
  | failed (state : after.state = .idle) (calls : storageCalls events = [b.call cfg])
      (incomplete : ¬ Complete events)
      (stage : b.state = .dataIn ∧ b.inEp.txStatus = .valid ∨ b.state = .dataOut)
  | moved (calls : storageCalls events = [b.call cfg])
      (blkAddr : after.blkAddr = (b.blkAddr + b.chunkLen cfg) % 4294967296)
      (blkLen : after.blkLen = b.blkLen - b.chunkLen cfg)
      (blkSize : after.blkSize = b.blkSize) (cbw : after.cbw = b.cbw)
      (more : after.blkLen ≠ 0 → after.state = b.state ∧ ¬ Complete events)
      (last : after.blkLen = 0 → b.state = .dataIn ∧ after.state = .lastDataIn ∧
        ¬ Complete events ∨ b.state = .dataOut ∧ after.state = .idle)
      (stage : b.state = .dataIn ∧ b.inEp.txStatus = .valid ∨ b.state = .dataOut)

theorem storageCalls_append (earlier later : List Event) :
    storageCalls (earlier ++ later) = storageCalls earlier ++ storageCalls later := by
  induction earlier with
  | nil => rfl
  | cons event rest ih => cases event <;> simp [storageCalls, ih]

theorem complete_append {earlier later : List Event} :
    Complete (earlier ++ later) ↔ Complete earlier ∨ Complete later := by
  simp only [Complete, List.mem_append, exists_or]

section

variable {cfg : Config} {b : Bot}

theorem complete_fail (dTag dDataResidue : Nat) :
    ¬ Complete [.csw dTag dDataResidue .cmdFail] := by
  rintro ⟨_, _, member⟩
  cases List.mem_singleton.mp member

theorem complete_nil : ¬ Complete [] := by
  rintro ⟨_, _, member⟩
  cases member

/-- A packet from the host outside of a chunk's end. -/
theorem moves_stored (sound : Sound b) (busy : b.state ≠ .idle) (packet : List Byte) :
    Paused b (b.stored packet) ∧ ∃ events, (b.stored packet).log = b.log ++ events ∧
      storageCalls events = [] ∧ ¬ Complete events := by
  have cbw : (b.stored packet).cbw = b.cbw := by
    apply cbw_stored
    intro expected other
    rcases sound.expects expected with ⟨idle, _⟩ | ⟨_, obj⟩
    · exact busy idle
    · exact absurd (other.symm.trans obj) (by decide)
  refine ⟨⟨rfl, rfl, rfl, rfl, cbw, id⟩, if b.state = .dataOut then [.received packet] else [],
    ?_, ?_, ?_⟩
  · simp only [Bot.stored]
    split <;> simp
  · split <;> rfl
  · split
    · rintro ⟨_, _, member⟩
      cases List.mem_singleton.mp member
    · exact complete_nil

theorem paused_call {after : Bot} (paused : Paused b after) : after.call cfg = b.call cfg := by
  have lun : after.bLUN = b.bLUN := congrArg (· 13) paused.cbw
  simp only [Bot.call, Bot.chunkLen, paused.state, paused.blkAddr, paused.blkLen, paused.blkSize,
    lun]

theorem moves_read (state : b.state = .dataIn) (running : b.inEp.txStatus = .valid)
    (read : opcode (b.command 0) = .read10) (storage : Storage) : ∃ events,
      (inData cfg { b with inEp.txStatus := .nak } storage).log = b.log ++ events ∧
        Moves cfg b (inData cfg { b with inEp.txStatus := .nak } storage) events := by
  have calls (rest : List Event) (none : storageCalls rest = []) :
      storageCalls (.readData (UInt8.ofNat (b.chunkLen cfg)) (b.blkAddr / b.blkSize)
        (b.chunkLen cfg / b.blkSize) :: rest) = [b.call cfg] := by
    simp [storageCalls, none, Bot.call, state]
  have waiting : Bot.state { b with inEp.txStatus := .nak } = .dataIn := state
  rw [inData_scsiRead waiting read]
  unfold scsiRead
  cases storage.readData with
  | false =>
    refine ⟨[_, .csw b.csw.dTag b.csw.dDataResidue .cmdFail], ?_, .failed rfl (calls _ rfl) ?_
      (.inl ⟨state, running⟩)⟩
    · simp [failWith, putSenseCode, Bot.readCall, Bot.note, Bot.chunkLen]
    · rintro ⟨_, _, member⟩
      simp at member
  | true =>
    refine ⟨[_], ?_, .moved (calls _ rfl) ?_ ?_ ?_ ?_ ?_ ?_
      (.inl ⟨state, running⟩)⟩
    · simp [Bot.readNext, Bot.advance, Bot.moved, Bot.readCall, Bot.note, Bot.chunkLen]
    · rfl
    · rfl
    · rfl
    · rfl
    · intro more
      refine ⟨Eq.trans (readNext_state _ _) (Eq.trans (if_neg more) rfl), ?_⟩
      rintro ⟨_, _, member⟩
      cases List.mem_singleton.mp member
    · intro last
      refine .inl ⟨state, Eq.trans (readNext_state _ _) (if_pos last), ?_⟩
      rintro ⟨_, _, member⟩
      cases List.mem_singleton.mp member

theorem moves_inDone (sound : Sound b) (running : b.inEp.txStatus = .valid)
    (busy : b.state = .dataIn ∨ b.state = .lastDataIn ∨ b.state = .dataOut) (storage : Storage) :
    ∃ events, (dataInProcess cfg { b with inEp.txStatus := .nak } storage).log =
        b.log ++ events ∧
      Moves cfg b (dataInProcess cfg { b with inEp.txStatus := .nak } storage) events := by
  simp only [dataInProcess]
  split
  · exact ⟨[], by simp, .quiet ⟨rfl, rfl, rfl, rfl, rfl, fun halted => absurd running halted⟩ rfl
      complete_nil⟩
  · rcases busy with reading | last | writing
    · exact moves_read reading running (sound.reading reading) storage
    · refine ⟨[.csw b.csw.dTag b.csw.dDataResidue .cmdOk], ?_, .ended ?_ rfl fun _ => last⟩
      · simp [inData, last]
      · simp [inData, last]
    · refine ⟨[], ?_, .quiet ⟨?_, ?_, ?_, ?_, ?_, fun halted => absurd running halted⟩ rfl
        complete_nil⟩
      all_goals simp [inData, writing]

theorem moves_write (state : b.state = .dataOut) (write : opcode (b.command 0) = .write10)
    (storage : Storage) : ∃ events, (outData cfg b storage).log = b.log ++ events ∧
      Moves cfg b (outData cfg b storage) events := by
  have reading : b.state ≠ .dataIn := by
    rw [state]
    exact nofun
  have calls (rest : List Event) (none : storageCalls rest = []) :
      storageCalls (.writeData b.bLUN (b.blkAddr / b.blkSize) (b.chunkLen cfg / b.blkSize)
        ((List.range (b.chunkLen cfg)).map b.data) :: rest) = [b.call cfg] := by
    simp [storageCalls, none, Bot.call, reading]
  rw [outData_scsiWrite state write]
  unfold scsiWrite
  cases storage.writeData with
  | false =>
    refine ⟨[_, .csw b.csw.dTag b.csw.dDataResidue .cmdFail], ?_, .failed rfl (calls _ rfl) ?_
      (.inr state)⟩
    · simp [failWith, putSenseCode, Bot.writeCall, Bot.note]
    · rintro ⟨_, _, member⟩
      simp at member
  | true =>
    simp only [Bool.not_true, Bool.false_eq_true, if_false, Bot.writeNext]
    split
    · next more =>
      refine ⟨[_], by simp [Bot.advance, Bot.moved, Bot.writeCall, Bot.note],
        .moved (calls _ rfl) rfl rfl rfl rfl (fun _ => ⟨rfl, ?_⟩)
        (fun last => absurd last more) (.inr state)⟩
      rintro ⟨_, _, member⟩
      cases List.mem_singleton.mp member
    · next last =>
      refine ⟨[_, .csw b.csw.dTag ((b.moved (b.chunkLen cfg)).csw.dDataResidue) .cmdOk], ?_,
        .moved (calls _ rfl) rfl rfl rfl rfl (fun more => absurd more last)
        (fun _ => .inr ⟨state, rfl⟩) (.inr state)⟩
      simp [Bot.advance, Bot.moved, Bot.writeCall, Bot.note]

theorem Moves.after {middle after : Bot} {received events : List Event} (paused : Paused b middle)
    (calls : storageCalls received = []) (incomplete : ¬ Complete received)
    (moves : Moves cfg middle after events) : Moves cfg b after (received ++ events) := by
  have same : middle.call cfg = b.call cfg := paused_call paused
  have chunk : middle.chunkLen cfg = b.chunkLen cfg := by
    simp only [Bot.chunkLen, paused.blkLen]
  have called : storageCalls (received ++ events) = storageCalls events := by
    rw [storageCalls_append, calls, List.nil_append]
  have completed : Complete (received ++ events) ↔ Complete events := by
    rw [complete_append, or_iff_right incomplete]
  have live (stage : middle.state = .dataIn ∧ middle.inEp.txStatus = .valid ∨
      middle.state = .dataOut) :
      b.state = .dataIn ∧ b.inEp.txStatus = .valid ∨ b.state = .dataOut := by
    rw [paused.state] at stage
    refine stage.imp_left fun reading => ⟨reading.1, ?_⟩
    by_contra stopped
    exact paused.halted stopped reading.2
  cases moves with
  | quiet still none good =>
    refine .quiet ⟨?_, ?_, ?_, ?_, ?_, ?_⟩ (called.trans none) (mt completed.mp good)
    · exact still.state.trans paused.state
    · exact still.blkAddr.trans paused.blkAddr
    · exact still.blkLen.trans paused.blkLen
    · exact still.blkSize.trans paused.blkSize
    · exact still.cbw.trans paused.cbw
    · exact fun stopped => still.halted (paused.halted stopped)
  | ended state none complete =>
    exact .ended state (called.trans none) fun good =>
      paused.state.symm.trans (complete (completed.mp good))
  | failed state call good stage =>
    refine .failed state ?_ (mt completed.mp good) (live stage)
    rw [called, call, same]
  | moved call blkAddr blkLen blkSize cbw more last stage =>
    refine .moved ?_ ?_ ?_ (blkSize.trans paused.blkSize) (cbw.trans paused.cbw) ?_ ?_
      (live stage)
    · rw [called, call, same]
    · rw [blkAddr, chunk, paused.blkAddr]
    · rw [blkLen, chunk, paused.blkLen]
    · rw [completed, ← paused.state]
      exact more
    · rw [completed, ← paused.state]
      exact last

theorem moves_out (sound : Sound b) (valid : b.outEp.rxStatus = .valid)
    (busy : b.state = .dataIn ∨ b.state = .lastDataIn ∨ b.state = .dataOut) (packet : List Byte)
    (storage : Storage) : ∃ events, (dataOutProcess cfg b packet storage).log = b.log ++ events ∧
      Moves cfg b (dataOutProcess cfg b packet storage) events := by
  have notIdle : b.state ≠ .idle := by
    rcases busy with state | state | state
    all_goals
      rw [state]
      exact nofun
  obtain ⟨paused, received, log, calls, incomplete⟩ := moves_stored sound notIdle packet
  simp only [dataOutProcess]
  split
  · rcases busy with state | state | state
    · refine ⟨received, ?_, .quiet ?_ calls incomplete⟩
      all_goals simp only [outData, state_stored, state]
      · exact log
      · exact paused
    · refine ⟨received, ?_, .quiet ?_ calls incomplete⟩
      all_goals simp only [outData, state_stored, state]
      · exact log
      · exact paused
    · have write := (sound.stored valid packet).writing state
      obtain ⟨events, next, moves⟩ := moves_write (b := b.stored packet) state write storage
      exact ⟨received ++ events, by rw [next, log, List.append_assoc],
        moves.after paused calls incomplete⟩
  · exact ⟨received, log, .quiet paused calls incomplete⟩

theorem moves_clearHalt (sound : Sound b) (busy : b.state ≠ .idle) (wIndex0 : Byte) :
    ∃ events, (clearFeatureHandler (clearHalt cfg b wIndex0)).log = b.log ++ events ∧
      Moves cfg b (clearFeatureHandler (clearHalt cfg b wIndex0)) events := by
  have normal : b.status ≠ .error := fun error => busy (sound.refused error).1
  have paused : Paused b (clearHalt cfg b wIndex0) := by
    refine ⟨?_, ?_, ?_, ?_, ?_, fun stopped => ?_⟩
    all_goals
      unfold clearHalt
      dsimp only
      split
    all_goals try rfl
    · dsimp only
      split
      · exact nofun
      · exact stopped
    · exact stopped
  have log : (clearHalt cfg b wIndex0).log = b.log := by
    unfold clearHalt
    dsimp only
    split <;> rfl
  have status : (clearHalt cfg b wIndex0).status = b.status := by
    unfold clearHalt
    dsimp only
    split <;> rfl
  unfold clearFeatureHandler
  rw [if_neg (by rw [status]; exact normal)]
  split
  · exact ⟨[.csw _ _ .cmdFail], by rw [log_txCSW, log], .ended rfl rfl fun good =>
      absurd good (complete_fail _ _)⟩
  · exact ⟨[], by rw [log, List.append_nil], .quiet paused rfl complete_nil⟩

theorem moves_step {label : Label} {after : Bot} (sound : Sound b)
    (busy : b.state = .dataIn ∨ b.state = .lastDataIn ∨ b.state = .dataOut)
    (taken : step cfg b label = some after) :
    ∃ events, after.log = b.log ++ events ∧ Moves cfg b after events := by
  have notIdle : b.state ≠ .idle := by
    rcases busy with state | state | state
    all_goals
      rw [state]
      exact nofun
  cases label with
  | out packet storage =>
    obtain ⟨⟨valid, _⟩, rfl⟩ := step_out taken
    exact moves_out sound valid busy packet storage
  | inDone storage =>
    obtain ⟨running, rfl⟩ := step_inDone taken
    exact moves_inDone sound running busy storage
  | clearHalt wIndex0 =>
    obtain rfl := Option.some.inj taken
    exact moves_clearHalt sound notIdle wIndex0
  | reset =>
    obtain rfl := Option.some.inj taken
    exact ⟨[], by simp [botReset], .ended rfl rfl fun good => absurd good complete_nil⟩

end

/-! ## The calls of a whole data stage -/

/-- The byte address of a chunk, in 32 bits. -/
def Bot.addrAt (cfg : Config) (b : Bot) (index : Nat) : Nat :=
  (b.commandAddr * b.blkSize % 4294967296 + index * cfg.mediaPacket) % 4294967296

-- The call for a chunk of the command in `b`.
def Bot.planned (cfg : Config) (b : Bot) (index : Nat) : StorageCall where
  lun := if b.dirIn then UInt8.ofNat (b.chunkAt cfg index) else b.bLUN
  first := b.addrAt cfg index / b.blkSize
  count := b.chunkAt cfg index / b.blkSize

-- The state after `count` calls.
inductive Progress (cfg : Config) (b : Bot) (count : Nat) (t : Bot) : Prop
  | going (state : t.state = if b.dirIn then .dataIn else .dataOut)
      (few : count < b.chunkCount cfg) (blkAddr : t.blkAddr = b.addrAt cfg count)
      (blkLen : t.blkLen = b.transferLen - count * cfg.mediaPacket)
      (blkSize : t.blkSize = b.blkSize) (cbw : t.cbw = b.cbw)
  -- the first call of READ(10) has failed
  | halted (dirIn : b.dirIn = true) (state : t.state = .dataIn)
      (stopped : t.inEp.txStatus ≠ .valid) (one : count = 1) (blkLen : t.blkLen = b.transferLen)
      (blkSize : t.blkSize = b.blkSize)
  | last (state : t.state = .lastDataIn) (all : count = b.chunkCount cfg)
  | ended (state : t.state = .idle) (most : count ≤ b.chunkCount cfg)

structure Issued (cfg : Config) (b t : Bot) (count : Nat) : Prop where
  sound : Sound t
  log : t.log = b.log ++ b.since t
  calls : storageCalls (b.since t) = (List.range count).map (b.planned cfg)
  progress : Progress cfg b count t
  complete : Complete (b.since t) → t.state = .idle ∧ count = b.chunkCount cfg

section

variable {cfg : Config} {b t : Bot} {count : Nat}

theorem Progress.busy (progress : Progress cfg b count t) (busy : t.state ≠ .idle) :
    t.state = .dataIn ∨ t.state = .lastDataIn ∨ t.state = .dataOut := by
  cases progress with
  | going state =>
    rw [state]
    split
    · exact .inl rfl
    · exact .inr (.inr rfl)
  | halted _ state => exact .inl state
  | last state => exact .inr (.inl state)
  | ended state => exact absurd state busy

theorem chunk_left (positive : 0 < cfg.mediaPacket)
    (blkLen : t.blkLen = b.transferLen - count * cfg.mediaPacket) :
    t.chunkLen cfg = b.chunkAt cfg count ∧
      t.blkLen - t.chunkLen cfg = b.transferLen - (count + 1) * cfg.mediaPacket ∧
      (b.transferLen - (count + 1) * cfg.mediaPacket ≠ 0 →
        t.chunkLen cfg = cfg.mediaPacket ∧ count + 1 < b.chunkCount cfg) ∧
      (b.transferLen - (count + 1) * cfg.mediaPacket = 0 → b.chunkCount cfg ≤ count + 1) := by
  simp only [Bot.chunkLen, Bot.chunkAt, blkLen, Nat.succ_mul]
  refine ⟨trivial, by omega, fun more => ⟨by omega, ?_⟩, fun none => ?_⟩
  · apply lt_max_of_lt_right
    apply pieces_of_mul_lt positive
    rw [Nat.succ_mul]
    omega
  · apply max_le (by omega)
    apply pieces_le positive
    rw [Nat.succ_mul]
    omega

theorem going_call (state : t.state = if b.dirIn then .dataIn else .dataOut)
    (blkAddr : t.blkAddr = b.addrAt cfg count)
    (chunk : t.chunkLen cfg = b.chunkAt cfg count) (blkSize : t.blkSize = b.blkSize)
    (cbw : t.cbw = b.cbw) : t.call cfg = b.planned cfg count := by
  have lun : t.bLUN = b.bLUN := congrArg (· 13) cbw
  have reading : t.state = .dataIn ↔ b.dirIn = true := by
    rw [state]
    split
    · next dirIn => exact iff_of_true rfl dirIn
    · next dirOut => exact iff_of_false nofun dirOut
  simp only [Bot.call, Bot.planned, blkAddr, chunk, blkSize, lun, reading]

theorem Progress.most (progress : Progress cfg b count t) : count ≤ b.chunkCount cfg := by
  cases progress with
  | going _ few => exact few.le
  | halted _ _ _ one =>
    rw [one]
    exact Nat.le_max_left _ _
  | last _ all => exact all.le
  | ended _ most => exact most

theorem Progress.all (progress : Progress cfg b count t) (last : t.state = .lastDataIn) :
    count = b.chunkCount cfg := by
  cases progress with
  | going state =>
    rw [state] at last
    split at last <;> cases last
  | halted _ state => exact absurd (state.symm.trans last) nofun
  | last _ all => exact all
  | ended state => exact absurd (state.symm.trans last) nofun

/-- A call is only made while the data stage goes on. -/
theorem Progress.calling (progress : Progress cfg b count t)
    (stage : t.state = .dataIn ∧ t.inEp.txStatus = .valid ∨ t.state = .dataOut) :
    t.state ≠ .idle ∧ count < b.chunkCount cfg ∧ t.blkAddr = b.addrAt cfg count ∧
      t.blkLen = b.transferLen - count * cfg.mediaPacket ∧ t.blkSize = b.blkSize ∧
      t.cbw = b.cbw ∧ t.state = if b.dirIn then .dataIn else .dataOut := by
  have notIdle : t.state ≠ .idle := by
    rcases stage with ⟨state, _⟩ | state
    all_goals
      rw [state]
      exact nofun
  cases progress with
  | going state few blkAddr blkLen blkSize cbw =>
    exact ⟨notIdle, few, blkAddr, blkLen, blkSize, cbw, state⟩
  | halted _ state stopped =>
    rcases stage with ⟨_, running⟩ | writing
    · exact absurd running stopped
    · exact absurd (state.symm.trans writing) nofun
  | last state =>
    rcases stage with ⟨reading, _⟩ | writing
    · exact absurd (state.symm.trans reading) nofun
    · exact absurd (state.symm.trans writing) nofun
  | ended state => exact absurd state notIdle

theorem Issued.step {label : Label} {after : Bot} (positive : 0 < cfg.mediaPacket)
    (issued : Issued cfg b t count) (busy : t.state ≠ .idle)
    (taken : step cfg t label = some after) :
    ∃ next, Issued cfg b after next := by
  obtain ⟨sound, log, calls, progress, complete⟩ := issued
  have incomplete : ¬ Complete (b.since t) := fun good => busy (complete good).1
  obtain ⟨events, added, moves⟩ := @moves_step cfg t label after sound (progress.busy busy) taken
  have since := since_append log added
  have sound' := sound.step taken
  have log' : after.log = b.log ++ b.since after := by
    rw [since, added, ← List.append_assoc, ← log]
  have calls' : storageCalls (b.since after) =
      (List.range count).map (b.planned cfg) ++ storageCalls events := by
    rw [since, storageCalls_append, calls]
  have complete' : Complete (b.since after) ↔ Complete events := by
    rw [since, complete_append, or_iff_right incomplete]
  cases moves with
  | quiet paused none good =>
    refine ⟨count, sound', log', by rw [calls', none, List.append_nil], ?_, fun wrong =>
      absurd (complete'.mp wrong) good⟩
    cases progress with
    | going state few blkAddr blkLen blkSize cbw =>
      exact .going (paused.state.trans state) few (paused.blkAddr.trans blkAddr)
        (paused.blkLen.trans blkLen) (paused.blkSize.trans blkSize) (paused.cbw.trans cbw)
    | halted dirIn state stopped one blkLen blkSize =>
      exact .halted dirIn (paused.state.trans state) (paused.halted stopped) one
        (paused.blkLen.trans blkLen) (paused.blkSize.trans blkSize)
    | last state all => exact .last (paused.state.trans state) all
    | ended state => exact absurd state busy
  | ended state none good =>
    refine ⟨count, sound', log', by rw [calls', none, List.append_nil], .ended state progress.most,
      fun all => ⟨state, ?_⟩⟩
    exact progress.all (good (complete'.mp all))
  | failed state call good stage =>
    obtain ⟨_, few, blkAddr, blkLen, blkSize, cbw, before⟩ := progress.calling stage
    have chunk := (chunk_left positive blkLen).1
    refine ⟨count + 1, sound', log', ?_, .ended state few, fun wrong =>
      absurd (complete'.mp wrong) good⟩
    rw [calls', call, going_call before blkAddr chunk blkSize cbw, List.range_succ, List.map_append]
    rfl
  | moved call blkAddr blkLen blkSize cbw more last stage =>
    obtain ⟨direction, few, addr, left, size, block, before⟩ := progress.calling stage
    obtain ⟨chunk, rest, another, done⟩ := chunk_left positive left
    have called : storageCalls (b.since after) =
        (List.range (count + 1)).map (b.planned cfg) := by
      rw [calls', call, going_call before addr chunk size block, List.range_succ,
        List.map_append]
      rfl
    rw [rest] at blkLen
    by_cases none : b.transferLen - (count + 1) * cfg.mediaPacket = 0
    · have all : count + 1 = b.chunkCount cfg := Nat.le_antisymm few (done none)
      refine ⟨count + 1, sound', log', called, ?_, ?_⟩
      · rcases last (blkLen.trans none) with ⟨_, state, _⟩ | ⟨_, state⟩
        · exact .last state all
        · exact .ended state all.le
      · intro good
        rcases last (blkLen.trans none) with ⟨_, _, wrong⟩ | ⟨_, state⟩
        · exact absurd (complete'.mp good) wrong
        · exact ⟨state, all⟩
    · obtain ⟨whole, fewer⟩ := another none
      obtain ⟨same, wrong⟩ := more (by rw [blkLen]; exact none)
      refine ⟨count + 1, sound', log', called, .going (same.trans before) fewer ?_ blkLen
        (blkSize.trans size) (cbw.trans block), fun good => absurd (complete'.mp good) wrong⟩
      rw [blkAddr, addr, whole, Bot.addrAt, Bot.addrAt, Nat.mod_add_mod, Nat.succ_mul,
        Nat.add_assoc]

/-! ### The first call -/

variable {storage : Storage}

theorem read10_reading (idle : b.state = .idle) (reading : Reading b storage) :
    cmdHandler cfg b storage = scsiRead cfg (b.beginRead cfg) storage := by
  obtain ⟨⟨ready, inRange, length⟩, command, direction⟩ := reading
  have within : ¬ outOfRange (addressed b) (addressed b).blkAddr (addressed b).blkLen = true :=
    Bool.eq_false_iff.mp inRange
  have same : (scaled (addressed b)).dDataXferLen = (scaled (addressed b)).blkLen := length
  simp only [cmdHandler, command, read10, idle, if_true, direction, ready, Bool.not_true,
    Bool.false_eq_true, if_false]
  rw [if_neg within]
  exact if_neg (not_not_intro same)

theorem decodeCBW_reading (idle : b.state = .idle) (valid : b.valid = true)
    (reading : Reading b storage) : decodeCBW cfg b storage =
      let t := b.started.beginRead cfg
      let called := t.readCall storage (t.chunkLen cfg)
      if storage.readData then called.readNext (t.chunkLen cfg)
      else stall (putSenseCode called hardwareError ascUnrecoveredReadError 0) := by
  have accepted : b.started.valid = true := valid
  have started : Reading b.started storage :=
    ⟨⟨reading.ready, reading.inRange, reading.length⟩, reading.command, reading.direction⟩
  have handled := @read10_reading cfg b.started storage idle started
  unfold decodeCBW
  simp only [accepted, handled, Bool.not_true, Bool.false_eq_true, if_false]
  unfold scsiRead
  cases storage.readData with
  | false => rfl
  | true =>
    simp only [Bool.not_true, Bool.false_eq_true, if_false, if_true]
    apply if_neg
    rw [readNext_state]
    split <;> simp [Bot.readCall, Bot.note, Bot.beginRead, scaled]

theorem begun_reading (cfg : Config) (b : Bot) : (b.started.beginRead cfg).blkAddr =
      b.addrAt cfg 0 ∧ (b.started.beginRead cfg).blkLen = b.transferLen - 0 * cfg.mediaPacket := by
  refine ⟨?_, ?_⟩
  · rw [Bot.addrAt, Nat.zero_mul, Nat.add_zero, Nat.mod_mod]
    rfl
  · rw [Nat.zero_mul, Nat.sub_zero]
    rfl

theorem Issued.of_log {events : List Event} (sound : Sound t) (log : t.log = b.log ++ events)
    (calls : storageCalls events = (List.range count).map (b.planned cfg))
    (progress : Progress cfg b count t) (incomplete : ¬ Complete events) :
    Issued cfg b t count := by
  have since : b.since t = events := by rw [Bot.since, log, List.drop_left]
  exact ⟨sound, by rw [since]; exact log, by rw [since]; exact calls, progress, fun good =>
    absurd (since ▸ good) incomplete⟩

theorem reading_issued (positive : 0 < cfg.mediaPacket) (idle : b.state = .idle)
    (valid : b.valid = true) (reading : Reading b storage) (normal : b.status ≠ .error)
    (sound : Sound (decodeCBW cfg b storage)) :
    Issued cfg b (decodeCBW cfg b storage) 1 := by
  obtain ⟨blkAddr, blkLen⟩ := begun_reading cfg b
  obtain ⟨chunk, rest, another, done⟩ := chunk_left positive blkLen
  have state : (b.started.beginRead cfg).state = .dataIn := rfl
  have call : (b.started.beginRead cfg).call cfg = b.planned cfg 0 :=
    going_call (by rw [if_pos reading.direction, state]) blkAddr chunk rfl rfl
  rw [decodeCBW_reading idle valid reading] at sound ⊢
  generalize begun : b.started.beginRead cfg = t at *
  have log : t.log = b.log := by rw [← begun]; rfl
  have blkSize : t.blkSize = b.blkSize := by rw [← begun]; rfl
  have cbw : t.cbw = b.cbw := by rw [← begun]; rfl
  have event : (t.readCall storage (t.chunkLen cfg)).log = b.log ++
      [.readData (UInt8.ofNat (t.chunkLen cfg)) (t.blkAddr / t.blkSize)
        (t.chunkLen cfg / t.blkSize)] := by
    rw [← log]
    rfl
  have called (events : List Event) (none : storageCalls events = []) :
      storageCalls (.readData (UInt8.ofNat (t.chunkLen cfg)) (t.blkAddr / t.blkSize)
        (t.chunkLen cfg / t.blkSize) :: events) = (List.range 1).map (b.planned cfg) := by
    rw [storageCalls, none, List.range_one, List.map_singleton, ← call, Bot.call, if_pos state]
  dsimp only at sound ⊢
  cases answer : storage.readData with
  | false =>
    simp only [answer, Bool.false_eq_true, if_false] at sound ⊢
    have dirIn : t.dirIn = true := by rw [← begun]; exact reading.direction
    have healthy : t.status ≠ .error := by rw [← begun]; exact normal
    generalize failed : putSenseCode (t.readCall storage (t.chunkLen cfg)) hardwareError
      ascUnrecoveredReadError 0 = u at sound ⊢
    have running : ¬ u.HaltsOut := by
      rintro ⟨none, _⟩
      have out : t.bmFlags = 0 := by rw [← none, ← failed]; rfl
      simp [Bot.dirIn, out] at dirIn
    have faulty : u.status ≠ .error := by rw [← failed]; exact healthy
    have noted : u.log = _ := (congrArg Bot.log failed.symm).trans event
    rw [stall_eq faulty] at sound ⊢
    rw [if_neg running, noted, List.append_assoc] at sound ⊢
    apply Issued.of_log sound rfl
    · rw [if_neg running]
      exact called [.stallIn] rfl
    · refine .halted reading.direction ?_ nofun rfl ?_ ?_
      · rw [← failed]
        exact state
      · rw [← failed]
        exact blkLen.trans (by simp)
      · rw [← failed]
        exact blkSize
    · rintro ⟨_, _, member⟩
      rw [if_neg running] at member
      simp at member
  | true =>
    simp only [answer, if_true] at sound ⊢
    have left : ((t.readCall storage (t.chunkLen cfg)).readNext (t.chunkLen cfg)).blkLen =
        b.transferLen - 1 * cfg.mediaPacket := rest
    apply Issued.of_log sound event (called _ rfl)
    · by_cases none : b.transferLen - 1 * cfg.mediaPacket = 0
      · refine .last ?_ (Nat.le_antisymm (Nat.le_max_left _ _) (done none))
        rw [readNext_state, left, if_pos none]
      · obtain ⟨whole, fewer⟩ := another none
        refine .going ?_ fewer ?_ left blkSize cbw
        · rw [readNext_state, left, if_neg none, if_pos reading.direction]
          exact state
        · have next : ((t.readCall storage (t.chunkLen cfg)).readNext (t.chunkLen cfg)).blkAddr =
            (t.blkAddr + t.chunkLen cfg) % 4294967296 := rfl
          rw [next, blkAddr, whole, Bot.addrAt, Bot.addrAt, Nat.mod_add_mod, Nat.zero_mul,
            Nat.add_zero, Nat.one_mul]
    · rintro ⟨_, _, member⟩
      simp at member

theorem writing_issued (valid : Writing b storage)
    (sound : Sound (b.started.beginWrite.rxData .data (b.started.beginWrite.chunkLen cfg))) :
    Issued cfg b (b.started.beginWrite.rxData .data (b.started.beginWrite.chunkLen cfg)) 0 := by
  apply Issued.of_log sound (List.append_nil b.log).symm
  · rfl
  · refine .going ?_ (Nat.lt_of_lt_of_le Nat.one_pos (Nat.le_max_left _ _)) ?_ ?_ rfl rfl
    · rw [if_neg (by simp [valid.direction])]
      rfl
    · rw [Bot.addrAt, Nat.zero_mul, Nat.add_zero, Nat.mod_mod]
      rfl
    · rw [Nat.zero_mul, Nat.sub_zero]
      rfl
  · exact complete_nil

end

end ApmSdk.Msc
