import ApmSdk.Msc.Addressing

set_option autoImplicit false

/-!
# Which commands address the right blocks

READ(10) and WRITE(10) cover the blocks that the host has named exactly under `Addressable`.
-/

namespace ApmSdk.Msc

open Usbd Runs Chunks

section

variable {cfg : Config} {b t : Bot} {count blockSize : Nat}

/-- The whole command in bytes, when nothing wraps. -/
theorem Addressable.transferLen (fits : Addressable cfg blockSize b) :
    b.transferLen = b.commandLen * blockSize := by
  by_cases none : b.commandLen = 0
  · simp [Bot.transferLen, none]
  · obtain ⟨blkSize, length, _⟩ := fits.1 none
    rw [Bot.transferLen, blkSize, Nat.mod_eq_of_lt length]

theorem chunk_blocks {perChunk : Nat} (media : cfg.mediaPacket = perChunk * blockSize)
    (length : b.transferLen = b.commandLen * blockSize) (index : Nat) :
    b.chunkAt cfg index = min perChunk (b.commandLen - index * perChunk) * blockSize := by
  rw [Bot.chunkAt, media, length, ← Nat.mul_assoc, ← Nat.sub_mul, Nat.mul_min_mul_right]

theorem chunk_whole (positive : 0 < blockSize) (divides : blockSize ∣ cfg.mediaPacket)
    (fits : Addressable cfg blockSize b) (index : Nat) :
    b.chunkAt cfg index = b.chunkAt cfg index / b.blkSize * blockSize := by
  obtain ⟨perChunk, media⟩ := exists_eq_mul_left_of_dvd divides
  have chunk := chunk_blocks media fits.transferLen index
  by_cases none : b.commandLen = 0
  · simp [chunk, none]
  · rw [chunk, (fits.1 none).1, Nat.mul_div_cancel _ positive]

theorem planned_blocks {perChunk index : Nat} (positive : 0 < blockSize)
    (media : cfg.mediaPacket = perChunk * blockSize) (fits : Addressable cfg blockSize b)
    (within : index < b.chunkCount cfg) : (b.planned cfg index).blocks =
      List.range' (b.commandAddr + index * perChunk)
        (min perChunk (b.commandLen - index * perChunk)) := by
  have chunk := chunk_blocks media fits.transferLen index
  by_cases none : b.commandLen = 0
  · have nothing : b.chunkAt cfg index = 0 := by simp [chunk, none]
    simp [StorageCall.blocks, Bot.planned, nothing, none]
  · obtain ⟨blkSize, _, last⟩ := fits.1 none
    have sooner : index * cfg.mediaPacket ≤ (b.chunkCount cfg - 1) * cfg.mediaPacket :=
      Nat.mul_le_mul_right _ (by omega)
    have addr : b.addrAt cfg index = (b.commandAddr + index * perChunk) * blockSize := by
      rw [Bot.addrAt, blkSize, Nat.mod_add_mod, Nat.mod_eq_of_lt (by omega), media, Nat.add_mul,
        Nat.mul_assoc]
    simp only [StorageCall.blocks, Bot.planned, addr, chunk, blkSize]
    rw [Nat.mul_div_cancel _ positive, Nat.mul_div_cancel _ positive]

theorem covered_blocks {perChunk : Nat} (positive : 0 < blockSize)
    (media : cfg.mediaPacket = perChunk * blockSize) (fits : Addressable cfg blockSize b)
    (most : count ≤ b.chunkCount cfg) :
    ((List.range count).map (b.planned cfg)).flatMap StorageCall.blocks =
      List.range' b.commandAddr (min b.commandLen (count * perChunk)) := by
  rw [List.flatMap_map, ← flatMap_range']
  apply List.flatMap_congr
  intro index member
  exact planned_blocks positive media fits
    (Nat.lt_of_lt_of_le (List.mem_range.mp member) most)

theorem planned_unit (fits : Addressable cfg blockSize b) {index : Nat}
    (within : index < b.chunkCount cfg) : (b.planned cfg index).lun = b.bLUN := by
  simp only [Bot.planned]
  split
  · next dirIn => exact fits.2 dirIn index within
  · rfl

theorem Issued.run {start : Bot} {labels : List Label} (positive : 0 < cfg.mediaPacket)
    (issued : Issued cfg b start count) (run : Run (Msc.step cfg) InCommand start labels t) :
    ∃ count, Issued cfg b t count := by
  apply run.invariant fun t => ∃ count, Issued cfg b t count
  · exact ⟨count, issued⟩
  · rintro before label after ⟨count, issued⟩ busy taken
    exact issued.step positive busy taken

theorem Issued.whole (positive : 0 < blockSize) (divides : blockSize ∣ cfg.mediaPacket)
    (fits : Addressable cfg blockSize b) (issued : Issued cfg b t count)
    (stage : t.state = .dataIn ∨ t.state = .dataOut) : t.Whole cfg blockSize := by
  have block (index : Nat) (chunk : t.chunkLen cfg = b.chunkAt cfg index)
      (blkSize : t.blkSize = b.blkSize) : t.Whole cfg blockSize := by
    rw [Bot.Whole, chunk, blkSize]
    exact chunk_whole positive divides fits index
  cases issued.progress with
  | going _ _ _ blkLen blkSize =>
    apply block count _ blkSize
    rw [Bot.chunkLen, blkLen, Bot.chunkAt]
  | halted _ _ _ _ blkLen blkSize =>
    apply block 0 _ blkSize
    rw [Bot.chunkLen, blkLen, Bot.chunkAt, Nat.zero_mul, Nat.sub_zero]
  | last state =>
    rw [state] at stage
    exact absurd stage (by decide)
  | ended state =>
    rw [state] at stage
    exact absurd stage (by decide)

/-- Enough for a whole data stage: nothing wraps and every unit number is the command's. -/
theorem Issued.addresses {start : Bot} (positive : 0 < blockSize)
    (divides : blockSize ∣ cfg.mediaPacket) (buffer : 0 < cfg.mediaPacket)
    (fits : Addressable cfg blockSize b) (issued : Issued cfg b start count)
    (begun : (b.begun cfg).chunkLen cfg = b.chunkAt cfg 0)
    (size : (b.begun cfg).blkSize = b.blkSize) : Addresses cfg blockSize b start := by
  obtain ⟨perChunk, media⟩ := exists_eq_mul_left_of_dvd divides
  have covered {t : Bot} {count : Nat} (issued : Issued cfg b t count) :
      (storageCalls (b.since t)).flatMap StorageCall.blocks =
        List.range' b.commandAddr (min b.commandLen (count * perChunk)) := by
    rw [issued.calls]
    exact covered_blocks positive media fits issued.progress.most
  constructor
  · rw [Bot.Whole, begun, size]
    exact chunk_whole positive divides fits 0
  · intro labels t run stage
    obtain ⟨count, issued⟩ := issued.run buffer run
    exact issued.whole positive divides fits stage
  · intro labels t run call member
    obtain ⟨count, issued⟩ := issued.run buffer run
    rw [issued.calls] at member
    obtain ⟨index, within, rfl⟩ := List.mem_map.mp member
    exact planned_unit fits
      (Nat.lt_of_lt_of_le (List.mem_range.mp within) issued.progress.most)
  · intro labels t run
    obtain ⟨count, issued⟩ := issued.run buffer run
    rw [covered issued]
    refine ⟨List.range' (b.commandAddr + min b.commandLen (count * perChunk))
      (b.commandLen - min b.commandLen (count * perChunk)), ?_⟩
    rw [List.range'_append_1, Nat.add_sub_cancel' (Nat.min_le_left _ _)]
  · intro labels t run complete
    obtain ⟨count, issued⟩ := issued.run buffer run
    rw [covered issued, (issued.complete complete).2]
    congr 1
    apply Nat.min_eq_left
    apply Nat.le_of_mul_le_mul_right _ positive
    rw [Nat.mul_assoc, ← media, ← fits.transferLen]
    exact (pieces_mul buffer _).trans (Nat.mul_le_mul_right _ (Nat.le_max_right _ _))

end

/-! ## A run to the end of the command -/

/-- The data stage can go on: data or a CSW is queued, or the next packet is awaited. -/
def Bot.Going (t : Bot) : Prop :=
  (t.state = .dataIn ∨ t.state = .lastDataIn) ∧ t.inEp.txStatus = .valid ∨
    t.state = .dataOut ∧ t.outEp.rxStatus = .valid ∧
      (t.outEp.packNum ≠ 0 → 0 < rxCapacity t.outEp.rxCount)

/-- The same answers, with every chunk read and written. -/
def Storage.willing (storage : Storage) : Storage :=
  { storage with readData := true, writeData := true }

theorem going_rxData {t : Bot} (state : t.state = .dataOut) (len : Nat) :
    (t.rxData .data len).Going :=
  .inr ⟨state, rfl, expected_pos⟩

theorem going_readNext {t : Bot} (state : t.state = .dataIn) (len : Nat) :
    (t.readNext len).Going :=
  .inl ⟨(state_readNext t len state).symm, txStatus_txData t .data len⟩

section

variable {cfg : Config} {t : Bot}

/-- The packets of a transfer to the host that are still to come. -/
theorem sent_run (storage : Storage) (busy : t.state ≠ .idle) (valid : t.inEp.txStatus = .valid) :
    ∃ labels ep, Run (step cfg) InCommand t labels { t with inEp := ep } ∧ ep.packNum = 0 ∧
      ep.txStatus = .valid := by
  generalize counted : t.inEp.packNum = packNum
  induction packNum generalizing t with
  | zero => exact ⟨[], t.inEp, .nil, counted, valid⟩
  | succ packNum ih =>
    have more : t.inEp.packNum ≠ 0 := by simp [counted]
    let ep := ({ t.inEp with txStatus := .nak } : InEp Obj).nextPacket t.memory
    have taken : step cfg t (.inDone storage) = some { t with inEp := ep } := by
      simp only [step, valid, if_true, dataInProcess]
      rw [if_pos more]
      rfl
    obtain ⟨labels, last, run, none, queued⟩ := @ih { t with inEp := ep } busy rfl
      (by simp [ep, InEp.nextPacket, InEp.queue, counted])
    exact ⟨.inDone storage :: labels, last, .cons busy taken run, none, queued⟩

theorem read_run (sound : Sound t) (state : t.state = .dataIn)
    (valid : t.inEp.txStatus = .valid) (storage : Storage) :
    ∃ labels after events, Run (step cfg) InCommand t labels after ∧
      after.log = t.log ++ events ∧ storageCalls events = [t.call cfg] ∧ after.Going := by
  have busy : t.state ≠ .idle := by simp [state]
  obtain ⟨labels, ep, run, none, queued⟩ := @sent_run cfg t storage busy valid
  let waiting : Bot := { t with inEp := { ep with txStatus := .nak } }
  have read : opcode (waiting.command 0) = .read10 := sound.reading state
  have taken : step cfg { t with inEp := ep } (.inDone storage.willing) =
      some (((({ waiting with dataLen := cfg.mediaPacket % 65536 } : Bot).readCall
        storage.willing (t.chunkLen cfg)).readNext (t.chunkLen cfg))) := by
    simp only [step, queued, if_true, dataInProcess, none, ne_eq, not_true_eq_false, if_false]
    exact congrArg some (@inData_scsiRead cfg waiting state read storage.willing)
  refine ⟨_, _, [.readData (UInt8.ofNat (t.chunkLen cfg)) (t.blkAddr / t.blkSize)
    (t.chunkLen cfg / t.blkSize)], run.snoc busy taken, rfl, ?_, ?_⟩
  · simp [storageCalls, Bot.call, state]
  · apply going_readNext
    exact state

theorem lastDataIn_run (state : t.state = .lastDataIn) (valid : t.inEp.txStatus = .valid)
    (storage : Storage) : ∃ labels after events, Run (step cfg) InCommand t labels after ∧
      after.log = t.log ++ events ∧ Complete events := by
  have busy : t.state ≠ .idle := by simp [state]
  obtain ⟨labels, ep, run, none, queued⟩ := @sent_run cfg t storage busy valid
  let waiting : Bot := { t with inEp := { ep with txStatus := .nak } }
  have taken : step cfg { t with inEp := ep } (.inDone storage) =
      some (txCSW waiting .cmdOk) := by
    simp only [step, queued, if_true, dataInProcess, none, ne_eq, not_true_eq_false, if_false,
      inData, state]
    rfl
  exact ⟨_, _, [.csw t.csw.dTag t.csw.dDataResidue .cmdOk], run.snoc busy taken, rfl, _, _,
    List.mem_singleton.mpr rfl⟩

theorem outData_willing (state : t.state = .dataOut) (write : opcode (t.command 0) = .write10)
    (storage : Storage) : ∃ events,
      (outData cfg t storage.willing).log = t.log ++ events ∧
        storageCalls events = [t.call cfg] ∧
        ((outData cfg t storage.willing).Going ∨ Complete events) := by
  have reading : t.state ≠ .dataIn := by simp [state]
  have written : outData cfg t storage.willing =
      (t.writeCall (t.chunkLen cfg)).writeNext cfg (t.chunkLen cfg) := by
    simp only [outData, state, cmdHandler_dataOut state write]
    rfl
  rw [written]
  simp only [Bot.writeNext]
  let call : Event := .writeData t.bLUN (t.blkAddr / t.blkSize) (t.chunkLen cfg / t.blkSize)
    ((List.range (t.chunkLen cfg)).map t.data)
  split
  · refine ⟨[call], by simp [call, Bot.advance, Bot.moved, Bot.writeCall, Bot.note], ?_,
      .inl (going_rxData state _)⟩
    simp [call, storageCalls, Bot.call, reading]
  · refine ⟨[call, .csw t.csw.dTag ((t.moved (t.chunkLen cfg)).csw.dDataResidue) .cmdOk], ?_, ?_,
      .inr ⟨_, _, List.mem_cons_of_mem _ (List.mem_singleton.mpr rfl)⟩⟩
    · simp [call, Bot.advance, Bot.moved, Bot.writeCall, Bot.note]
    · simp [call, storageCalls, Bot.call, reading]

/-- A packet that leaves none expected hands the chunk on. -/
theorem chunk_run (sound : Sound t) (state : t.state = .dataOut)
    (valid : t.outEp.rxStatus = .valid) {packet : List Byte}
    (fits : packet.length ≤ rxCapacity t.outEp.rxCount)
    (complete : (t.stored packet).outEp.packNum = 0) (storage : Storage) :
    ∃ labels after events, Run (step cfg) InCommand t labels after ∧
      after.log = t.log ++ events ∧ storageCalls events = [t.call cfg] ∧
      (after.Going ∨ Complete events) := by
  have busy : t.state ≠ .idle := by simp [state]
  obtain ⟨paused, received, log, quiet, _⟩ := moves_stored sound busy packet
  have write := (sound.stored valid packet).writing state
  obtain ⟨events, next, calls, ends⟩ := @outData_willing cfg (t.stored packet) state write storage
  have taken : step cfg t (.out packet storage.willing) =
      some (outData cfg (t.stored packet) storage.willing) := by
    simp only [step, dataOutProcess]
    rw [if_pos ⟨valid, fits⟩, if_pos complete]
  refine ⟨_, _, received ++ events, Run.nil.snoc busy taken, ?_, ?_,
    ends.imp_right fun good => complete_append.mpr (.inr good)⟩
  · rw [next, log, List.append_assoc]
  · rw [storageCalls_append, quiet, List.nil_append, calls, paused_call paused]

/-- Packets until a chunk from the host is complete. -/
theorem write_run (sound : Sound t) (state : t.state = .dataOut)
    (valid : t.outEp.rxStatus = .valid)
    (room : t.outEp.packNum ≠ 0 → 0 < rxCapacity t.outEp.rxCount) (storage : Storage) :
    ∃ labels after events, Run (step cfg) InCommand t labels after ∧
      after.log = t.log ++ events ∧ storageCalls events = [t.call cfg] ∧
      (after.Going ∨ Complete events) := by
  generalize counted : t.outEp.packNum = packNum
  induction packNum generalizing t with
  | zero =>
    apply @chunk_run cfg t sound state valid [] (Nat.zero_le _) _ storage
    have unexpected : t.outEp.acknowledged.packNum = 0 := counted
    rw [outEp_stored, OutEp.receive_unexpected unexpected]
    exact counted
  | succ packNum ih =>
    have busy : t.state ≠ .idle := by simp [state]
    have capacity := room (by simp [counted])
    obtain ⟨left, rxCount⟩ := sound.counted state counted (List.cons_ne_nil 0 [])
    by_cases none : packNum = 0
    · exact @chunk_run cfg t sound state valid [0] capacity (left.trans none) storage
    · obtain ⟨paused, received, log, quiet, _⟩ := moves_stored sound busy [0]
      have unfinished : ¬ (t.stored [0]).outEp.packNum = 0 := by rw [left]; exact none
      have taken : step cfg t (.out [0] storage.willing) = some (t.stored [0]) := by
        simp only [step, dataOutProcess]
        rw [if_pos ⟨valid, capacity⟩, if_neg unfinished]
      have rearmed : (t.stored [0]).outEp.rxStatus = .valid := by
        rw [outEp_stored] at unfinished ⊢
        rw [OutEp.rxStatus_receive, if_neg unfinished]
      obtain ⟨labels, after, events, run, next, calls, ends⟩ :=
        @ih (t.stored [0]) (sound.stored valid [0]) state rearmed
          (by rw [rxCount]; exact fun _ => capacity) left
      refine ⟨_, after, received ++ events, .cons busy taken run, ?_, ?_,
        ends.imp_right fun good => complete_append.mpr (.inr good)⟩
      · rw [next, log, List.append_assoc]
      · rw [storageCalls_append, quiet, List.nil_append, calls, paused_call paused]

end

section

variable {cfg : Config} {b t : Bot} {count : Nat}

theorem since_log {events : List Event} (log : t.log = b.log ++ events) : b.since t = events := by
  rw [Bot.since, log, List.drop_left]

/-- The state after a run that makes one more call. -/
theorem Issued.called {labels : List Label} {after : Bot} {events : List Event}
    (positive : 0 < cfg.mediaPacket) (issued : Issued cfg b t count)
    (run : Run (Msc.step cfg) InCommand t labels after) (log : after.log = t.log ++ events)
    {calls : List StorageCall} (made : storageCalls events = calls) :
    Issued cfg b after (count + calls.length) := by
  obtain ⟨next, later⟩ := issued.run positive run
  have since := since_append issued.log log
  have length := congrArg List.length later.calls
  rw [since, storageCalls_append, issued.calls, made] at length
  simp only [List.length_append, List.length_map, List.length_range] at length
  rw [length]
  exact later

/-- From every state that can go on there is one more call, or the end of the command. -/
theorem Issued.next (positive : 0 < cfg.mediaPacket) (storage : Storage)
    (issued : Issued cfg b t count) (going : t.Going) :
    ∃ labels after, Run (Msc.step cfg) InCommand t labels after ∧
      (after.Going ∧ Issued cfg b after (count + 1) ∨
        Complete (b.since after) ∧ b.chunkCount cfg ≤ count + 1) := by
  have ends {after : Bot} {events : List Event} (log : after.log = t.log ++ events)
      (complete : Complete events) : Complete (b.since after) := by
    rw [since_append issued.log log]
    exact complete_append.mpr (.inr complete)
  rcases going with ⟨reading | last, valid⟩ | ⟨writing, valid, room⟩
  · obtain ⟨labels, after, events, run, log, calls, going⟩ :=
      @read_run cfg t issued.sound reading valid storage
    exact ⟨labels, after, run, .inl ⟨going, issued.called positive run log calls⟩⟩
  · obtain ⟨labels, after, events, run, log, complete⟩ := @lastDataIn_run cfg t last valid storage
    have all := issued.progress.all last
    exact ⟨labels, after, run, .inr ⟨ends log complete, by omega⟩⟩
  · obtain ⟨labels, after, events, run, log, calls, going | complete⟩ :=
      @write_run cfg t issued.sound writing valid room storage
    · exact ⟨labels, after, run, .inl ⟨going, issued.called positive run log calls⟩⟩
    · have called := issued.called positive run log calls
      have all := (called.complete (ends log complete)).2
      exact ⟨labels, after, run, .inr ⟨ends log complete, all.ge⟩⟩

theorem Issued.reaches (positive : 0 < cfg.mediaPacket) (storage : Storage)
    (issued : Issued cfg b t count) (going : t.Going) {index : Nat} (later : count ≤ index)
    (within : index < b.chunkCount cfg) :
    ∃ labels after, Run (Msc.step cfg) InCommand t labels after ∧ after.Going ∧
      Issued cfg b after index := by
  induction index, later using Nat.le_induction with
  | base => exact ⟨[], t, .nil, going, issued⟩
  | succ index _ ih =>
    obtain ⟨labels, middle, run, going, issued⟩ := ih (by omega)
    obtain ⟨rest, after, next, more | ⟨_, all⟩⟩ := issued.next positive storage going
    · exact ⟨labels ++ rest, after, run.append next, more⟩
    · omega

/-- The command can always be brought to its good CSW. -/
theorem Issued.finishes (positive : 0 < cfg.mediaPacket) (storage : Storage)
    (issued : Issued cfg b t count) (going : t.Going) :
    ∃ labels after, Run (Msc.step cfg) InCommand t labels after ∧ Complete (b.since after) := by
  generalize remaining : b.chunkCount cfg - count = left
  induction left generalizing t count with
  | zero =>
    obtain ⟨labels, after, run, ⟨_, more⟩ | ⟨complete, _⟩⟩ := issued.next positive storage going
    · have most := more.progress.most
      omega
    · exact ⟨labels, after, run, complete⟩
  | succ left ih =>
    obtain ⟨labels, after, run, ⟨going, more⟩ | ⟨complete, _⟩⟩ :=
      issued.next positive storage going
    · obtain ⟨rest, final, later, complete⟩ := ih more going (by omega)
      exact ⟨labels ++ rest, final, run.append later, complete⟩
    · exact ⟨labels, after, run, complete⟩

/-! ## The condition is needed -/

/-- The blocks named by the first chunks, when those are whole. -/
theorem blocks_length {blockSize : Nat}
    (whole : ∀ index < b.chunkCount cfg, b.chunkAt cfg index =
      b.chunkAt cfg index / b.blkSize * blockSize) (most : count ≤ b.chunkCount cfg) :
    (((List.range count).map (b.planned cfg)).flatMap StorageCall.blocks).length * blockSize =
      min b.transferLen (count * cfg.mediaPacket) := by
  induction count with
  | zero => simp
  | succ count ih =>
    have size : (b.planned cfg count).blocks.length * blockSize = b.chunkAt cfg count := by
      rw [whole count most, StorageCall.blocks, List.length_range']
      rfl
    rw [List.range_succ, List.map_append, List.flatMap_append, List.length_append, Nat.add_mul,
      ih (by omega), List.map_singleton, List.flatMap_singleton, size, Bot.chunkAt, Nat.succ_mul]
    omega

theorem transferLen_lt (b : Bot) : b.transferLen < 4294967296 := Nat.mod_lt _ (by decide)

theorem transferLen_le (positive : 0 < cfg.mediaPacket) :
    b.transferLen ≤ b.chunkCount cfg * cfg.mediaPacket :=
  (pieces_mul positive _).trans (Nat.mul_le_mul_right _ (Nat.le_max_right _ _))

theorem last_chunk (positive : 0 < cfg.mediaPacket) (some : 0 < b.transferLen) :
    (b.chunkCount cfg - 1) * cfg.mediaPacket < b.transferLen := by
  by_contra short
  have few := pieces_le positive (Nat.le_of_not_lt short)
  have pieces : 0 < pieces cfg.mediaPacket b.transferLen :=
    pieces_of_mul_lt positive (by simpa using some)
  simp only [Bot.chunkCount] at few
  omega

section

variable {blockSize : Nat}

theorem blkSize_of_whole (blocks : b.commandLen ≠ 0) (buffer : 0 < cfg.mediaPacket)
    (positive : 0 < blockSize)
    (first : b.chunkAt cfg 0 = b.chunkAt cfg 0 / b.blkSize * blockSize)
    (total : b.commandLen * blockSize = b.transferLen) : b.blkSize = blockSize := by
  have some : 0 < b.transferLen := by
    rw [← total]
    exact Nat.mul_pos (Nat.pos_of_ne_zero blocks) positive
  have chunk : 0 < b.chunkAt cfg 0 := by
    rw [Bot.chunkAt]
    omega
  have least : 0 < b.chunkAt cfg 0 / b.blkSize := by
    by_contra none
    rw [Nat.eq_zero_of_not_pos none, Nat.zero_mul] at first
    omega
  have narrow : b.blkSize ≤ blockSize := by
    apply Nat.le_of_mul_le_mul_left _ least
    rw [← first]
    exact Nat.div_mul_le_self _ _
  have bytes : b.commandLen * b.blkSize ≤ b.commandLen * blockSize :=
    Nat.mul_le_mul_left _ narrow
  have unwrapped : b.transferLen = b.commandLen * b.blkSize := by
    apply Nat.mod_eq_of_lt
    have bounded := transferLen_lt b
    omega
  apply Nat.eq_of_mul_eq_mul_left (Nat.pos_of_ne_zero blocks)
  rw [total, unwrapped]

/-- A data stage that covers the blocks of its command in whole chunks. -/
theorem addressable_of_covers (buffer : 0 < cfg.mediaPacket) (positive : 0 < blockSize)
    (whole : ∀ index < b.chunkCount cfg, b.chunkAt cfg index =
      b.chunkAt cfg index / b.blkSize * blockSize)
    (unit : ∀ index < b.chunkCount cfg, (b.planned cfg index).lun = b.bLUN)
    (covers : ((List.range (b.chunkCount cfg)).map (b.planned cfg)).flatMap
      StorageCall.blocks = List.range' b.commandAddr b.commandLen) :
    Addressable cfg blockSize b := by
  refine ⟨fun blocks => ?_, fun dirIn index within => ?_⟩
  · have total : b.commandLen * blockSize = b.transferLen := by
      have length := blocks_length whole (Nat.le_refl _)
      rw [covers, List.length_range', Nat.min_eq_left (transferLen_le buffer)] at length
      exact length
    have some : 0 < b.transferLen := by
      rw [← total]
      exact Nat.mul_pos (Nat.pos_of_ne_zero blocks) positive
    have one : 0 < b.chunkCount cfg := Nat.lt_of_lt_of_le Nat.one_pos (Nat.le_max_left _ _)
    have blkSize := blkSize_of_whole blocks buffer positive (whole 0 one) total
    refine ⟨blkSize, by rw [total]; exact transferLen_lt b, ?_⟩
    -- the block after those of all chunks but the last is the first of the last chunk
    have last := last_chunk buffer some
    generalize final : b.chunkCount cfg - 1 = index at last ⊢
    have all : b.chunkCount cfg = index + 1 := by omega
    have before : _ * blockSize = _ := @blocks_length cfg b index blockSize whole (by omega)
    rw [Nat.min_eq_right last.le] at before
    have size := whole index (by omega)
    rw [all, List.range_succ, List.map_append, List.flatMap_append, List.map_singleton,
      List.flatMap_singleton] at covers
    generalize ((List.range index).map (b.planned cfg)).flatMap StorageCall.blocks = earlier
      at before covers
    have next : b.commandAddr + earlier.length = b.addrAt cfg index / b.blkSize := by
      have named : 0 < b.chunkAt cfg index / b.blkSize := by
        by_contra none
        rw [Nat.eq_zero_of_not_pos none, Nat.zero_mul, Bot.chunkAt] at size
        omega
      have length := congrArg List.length covers
      have element := congrArg (fun values => values[earlier.length]?) covers
      simp only [StorageCall.blocks, List.length_append, List.length_range'] at length
      simp only [StorageCall.blocks, List.getElem?_append_right (Nat.le_refl _), Nat.sub_self]
        at element
      have more : 0 < (b.planned cfg index).count := named
      rw [List.getElem?_range' more, List.getElem?_range' (by omega)] at element
      have same := Option.some.inj element
      simp only [Nat.mul_zero, Nat.add_zero, Nat.one_mul] at same
      exact same.symm
    rw [blkSize] at next
    have bytes : (b.commandAddr + earlier.length) * blockSize ≤ b.addrAt cfg index := by
      rw [next]
      exact Nat.div_mul_le_self _ _
    have bounded : b.addrAt cfg index < 4294967296 := Nat.mod_lt _ (by decide)
    rw [Nat.add_mul, before] at bytes
    omega
  · have same := unit index within
    simp only [Bot.planned, dirIn, if_true] at same
    exact same

theorem Issued.chunk_of_whole (issued : Issued cfg b t count) (going : t.Going)
    (few : count < b.chunkCount cfg)
    (whole : t.state = .dataIn ∨ t.state = .dataOut → t.Whole cfg blockSize) :
    b.chunkAt cfg count = b.chunkAt cfg count / b.blkSize * blockSize := by
  cases issued.progress with
  | going state _ _ blkLen blkSize =>
    have stage : t.state = .dataIn ∨ t.state = .dataOut := by
      rw [state]
      split
      · exact .inl rfl
      · exact .inr rfl
    have exactly := whole stage
    rw [Bot.Whole, Bot.chunkLen, blkLen, blkSize] at exactly
    exact exactly
  | halted _ state stopped =>
    rcases going with ⟨_, valid⟩ | ⟨writing, _⟩
    · exact absurd valid stopped
    · cases state.symm.trans writing
  | last _ all => exact absurd few all.not_lt
  | ended state =>
    rcases going with ⟨reading | last, _⟩ | ⟨writing, _⟩
    · cases state.symm.trans reading
    · cases state.symm.trans last
    · cases state.symm.trans writing

/-- What the data stage does when its storage is willing decides whether the command is
addressable. -/
theorem Issued.addressable {start : Bot} (buffer : 0 < cfg.mediaPacket) (positive : 0 < blockSize)
    (storage : Storage) (issued : Issued cfg b start count) (going : start.Going)
    (first : count = 0 ∨ count = 1 ∧ b.chunkAt cfg 0 = b.chunkAt cfg 0 / b.blkSize * blockSize)
    (addresses : Addresses cfg blockSize b start) : Addressable cfg blockSize b := by
  obtain ⟨labels, final, run, complete⟩ := issued.finishes buffer storage going
  obtain ⟨all, issued'⟩ := issued.run buffer run
  have whole : ∀ index < b.chunkCount cfg, b.chunkAt cfg index =
      b.chunkAt cfg index / b.blkSize * blockSize := by
    intro index within
    by_cases later : count ≤ index
    · obtain ⟨before, t, run, going, issued⟩ := issued.reaches buffer storage going later within
      exact issued.chunk_of_whole going within (addresses.whole _ _ run)
    · rcases first with none | ⟨one, whole⟩
      · omega
      · obtain rfl : index = 0 := by omega
        exact whole
  have calls := issued'.calls
  rw [(issued'.complete complete).2] at calls
  apply addressable_of_covers buffer positive whole
  · intro index within
    apply addresses.unit _ _ run
    rw [calls]
    exact List.mem_map_of_mem (List.mem_range.mpr within)
  · rw [← calls]
    exact addresses.complete _ _ run complete

end

end

section

variable {cfg : Config} {s start : Bot} {packet : List Byte} {storage : Storage}

theorem begun_chunk (cfg : Config) (b : Bot) :
    (b.begun cfg).chunkLen cfg = b.chunkAt cfg 0 ∧ (b.begun cfg).blkSize = b.blkSize := by
  unfold Bot.begun
  split
  · refine ⟨?_, rfl⟩
    rw [Bot.chunkLen, (begun_reading cfg b).2]
    rfl
  · refine ⟨?_, rfl⟩
    rw [Bot.chunkAt, Nat.zero_mul, Nat.sub_zero]
    rfl

theorem accepted_issued (buffer : 0 < cfg.mediaPacket) (sound : Sound s)
    (commands : Commands s packet)
    (accepted : Reading (s.stored packet) storage ∨ Writing (s.stored packet) storage)
    (taken : step cfg s (.out packet storage) = some start) :
    ∃ count, Issued cfg (s.stored packet) start count ∧ count ≤ 1 ∧
      (storage.readData = true → start.Going) := by
  have sound' : Sound start := sound.step taken
  have idle : (s.stored packet).state = .idle := commands.idle
  have normal : (s.stored packet).status ≠ .error := by
    exact sound.normal (step_out taken).1.1
  rw [command_decoded commands taken] at sound' ⊢
  rcases accepted with reading | writing
  · refine ⟨1, reading_issued buffer idle commands.valid reading normal sound', Nat.le_refl 1,
      fun read => ?_⟩
    rw [decodeCBW_reading idle commands.valid reading, read]
    apply going_readNext
    rfl
  · rw [decodeCBW_writing idle commands.valid writing] at sound' ⊢
    refine ⟨0, writing_issued writing sound', Nat.zero_le 1, fun _ => ?_⟩
    apply going_rxData
    rfl

end

/-- The data stage of an accepted READ(10) or WRITE(10) asks its unit for the blocks of the
command, each once and in order and in whole blocks, exactly when the command is addressable. -/
theorem addresses_iff_addressable {cfg : Config} {blockSize inMaxPackSize outMaxPackSize : Nat}
    (positive : 0 < blockSize) (divides : blockSize ∣ cfg.mediaPacket)
    (buffer : 0 < cfg.mediaPacket) {labels : List Label} {s : Bot}
    (reached : Run (step cfg) free (botInit (opened inMaxPackSize outMaxPackSize)) labels s)
    {packet : List Byte} {storage : Storage} {start : Bot} (commands : Commands s packet)
    (accepted : Reading (s.stored packet) storage ∨ Writing (s.stored packet) storage)
    (taken : step cfg s (.out packet storage) = some start) :
    (∀ storage start,
      Reading (s.stored packet) storage ∨ Writing (s.stored packet) storage →
      step cfg s (.out packet storage) = some start →
      Addresses cfg blockSize (s.stored packet) start) ↔
    Addressable cfg blockSize (s.stored packet) := by
  have sound : Sound s := (reached_sizes reached).1
  obtain ⟨chunk, blkSize⟩ := begun_chunk cfg (s.stored packet)
  constructor
  · intro addresses
    have willing : Reading (s.stored packet) storage.willing ∨
        Writing (s.stored packet) storage.willing := by
      rcases accepted with ⟨⟨ready, inRange, length⟩, command, direction⟩ |
        ⟨⟨ready, inRange, length⟩, command, direction, writable⟩
      · exact .inl ⟨⟨ready, inRange, length⟩, command, direction⟩
      · exact .inr ⟨⟨ready, inRange, length⟩, command, direction, writable⟩
    have begins : ∃ start, step cfg s (.out packet storage.willing) = some start := by
      simp only [step, Option.ite_none_right_eq_some] at taken ⊢
      exact ⟨_, taken.1, rfl⟩
    obtain ⟨start, taken⟩ := begins
    have addressed := addresses _ _ willing taken
    obtain ⟨count, issued, few, going⟩ := accepted_issued buffer sound commands willing taken
    have first := addressed.first
    rw [Bot.Whole, chunk, blkSize] at first
    apply issued.addressable buffer positive storage (going rfl) _ addressed
    by_cases none : count = 0
    · exact .inl none
    · exact .inr ⟨by omega, first⟩
  · intro fits storage start accepted taken
    obtain ⟨count, issued, _⟩ := accepted_issued buffer sound commands accepted taken
    exact issued.addresses positive divides buffer fits chunk blkSize

/-- READ(10) of the first four blocks, of 128 bytes each. -/
def readBlocks : List Byte := commandBlock [0, 2, 0, 0] 0x80 [0x28, 0, 0, 0, 0, 0, 0, 0, 4]

theorem readBlocks_taken :
    (step mediaConfig sized (.out readBlocks (goodMedium 8 128))).isSome = true := by
  decide +kernel

def readStart : Bot :=
  (step mediaConfig sized (.out readBlocks (goodMedium 8 128))).get readBlocks_taken

theorem readBlocks_commands : Commands sized readBlocks :=
  ⟨by decide +kernel, by decide +kernel, by decide +kernel⟩

theorem readBlocks_reading : Reading (sized.stored readBlocks) (goodMedium 8 128) :=
  ⟨⟨rfl, by decide +kernel, by decide +kernel⟩, by decide +kernel, by decide +kernel⟩

theorem readBlocks_addressed : Addresses mediaConfig 128 (sized.stored readBlocks) readStart := by
  have taken := (Option.some_get readBlocks_taken).symm
  exact (addresses_iff_addressable (by decide) (by decide) (by decide)
    (Run.final _ _ plugged capacityRead capacityRead_accepted) readBlocks_commands
    (.inl readBlocks_reading) taken).mpr (by decide +kernel) _ _ (.inl readBlocks_reading) taken

-- READ(10) of the first block alone: `ReadData` is called for unit 128.
def readBlock : List Byte := commandBlock [128, 0, 0, 0] 0x80 [0x28, 0, 0, 0, 0, 0, 0, 0, 1]

theorem readBlock_taken :
    (step mediaConfig sized (.out readBlock (goodMedium 8 128))).isSome = true := by
  decide +kernel

theorem short_read_misaddressed : ¬ ∀ (packet : List Byte) (storage : Storage) (start : Bot),
    Commands sized packet →
    Reading (sized.stored packet) storage ∨ Writing (sized.stored packet) storage →
    step mediaConfig sized (.out packet storage) = some start →
    Addresses mediaConfig 128 (sized.stored packet) start := by
  intro addresses
  have commands : Commands sized readBlock :=
    ⟨by decide +kernel, by decide +kernel, by decide +kernel⟩
  have reading : Reading (sized.stored readBlock) (goodMedium 8 128) :=
    ⟨⟨rfl, by decide +kernel, by decide +kernel⟩, by decide +kernel, by decide +kernel⟩
  have addressed := addresses _ _ _ commands (.inl reading)
    (Option.some_get readBlock_taken).symm
  have unit := addressed.unit [] _ .nil ⟨128, 0, 1⟩ (by decide +kernel)
  exact absurd unit (by decide +kernel)

end ApmSdk.Msc
