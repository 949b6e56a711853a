import ApmSdk.Msc.Liveness

set_option autoImplicit false

/-!
# What WRITE(10) stores

The bytes that `WriteData` is called with against the packets that the host has sent for the
command.
-/

namespace ApmSdk.Msc

open Usbd Runs

/-- The packet completes a valid CBW. -/
structure Commands (b : Bot) (packet : List Byte) : Prop where
  idle : b.state = .idle
  complete : (b.stored packet).outEp.packNum = 0
  valid : (b.stored packet).valid = true

/-- Every call of `WriteData` gets the bytes received since the one before it; `pending` are
those received so far. -/
def StoresReceived : List Byte → List Event → Prop
  | _, [] => True
  | pending, .received content :: rest => StoresReceived (pending ++ content) rest
  | pending, .writeData _ _ _ content :: rest => content = pending ∧ StoresReceived [] rest
  | pending, _ :: rest => StoresReceived pending rest

instance decidableStoresReceived : (pending : List Byte) → (events : List Event) →
    Decidable (StoresReceived pending events)
  | _, [] => instDecidableTrue
  | pending, .received content :: rest => decidableStoresReceived (pending ++ content) rest
  | pending, .writeData _ _ _ content :: rest =>
      have := decidableStoresReceived [] rest
      inferInstanceAs (Decidable (content = pending ∧ StoresReceived [] rest))
  | pending, .stallIn :: rest => decidableStoresReceived pending rest
  | pending, .stallOut :: rest => decidableStoresReceived pending rest
  | pending, .csw _ _ _ :: rest => decidableStoresReceived pending rest
  | pending, .readData _ _ _ :: rest => decidableStoresReceived pending rest

def pendingAfter : List Byte → List Event → List Byte
  | pending, [] => pending
  | pending, .received content :: rest => pendingAfter (pending ++ content) rest
  | _, .writeData _ _ _ _ :: rest => pendingAfter [] rest
  | pending, _ :: rest => pendingAfter pending rest

-- What has happened since `start`.
def Bot.since (start b : Bot) : List Event := b.log.drop start.log.length

/-- The data stage of WRITE(10), with packets of any length that the host may send. -/
def InWrite : Bot → Label → Prop
  | b, .out packet _ =>
      b.state = .dataOut ∧ 0 < packet.length ∧ packet.length ≤ b.outEp.maxPackSize
  | b, _ => b.state = .dataOut

instance (b : Bot) : (label : Label) → Decidable (InWrite b label)
  | .out _ _ => inferInstanceAs (Decidable (_ ∧ _ ∧ _))
  | .inDone _ => inferInstanceAs (Decidable (b.state = .dataOut))
  | .clearHalt _ => inferInstanceAs (Decidable (b.state = .dataOut))
  | .reset => inferInstanceAs (Decidable (b.state = .dataOut))

-- The bytes stored since `USBD_RxData` has armed the endpoint.
def Bot.gathered (b : Bot) : Nat := (b.outEp.pBuf.map Ptr.offset).getD 0

/-- The packet is one of those counted, and the last of them completes the chunk. -/
def Fills (cfg : Config) : Bot → Label → Prop
  | b, .out packet _ =>
      b.outEp.packNum ≠ 0 ∧
        (b.outEp.packNum = 1 → b.gathered + packet.length = b.chunkLen cfg)
  | _, _ => True

instance (cfg : Config) (b : Bot) : (label : Label) → Decidable (Fills cfg b label)
  | .out _ _ => inferInstanceAs (Decidable (_ ∧ (_ → _)))
  | .inDone _ => instDecidableTrue
  | .clearHalt _ => instDecidableTrue
  | .reset => instDecidableTrue

theorem storesReceived_append (pending : List Byte) (earlier later : List Event) :
    StoresReceived pending (earlier ++ later) ↔
      StoresReceived pending earlier ∧ StoresReceived (pendingAfter pending earlier) later := by
  induction earlier generalizing pending with
  | nil => simp [StoresReceived, pendingAfter]
  | cons event rest ih =>
    cases event <;> simp [StoresReceived, pendingAfter, ih, and_assoc]

theorem pendingAfter_append (pending : List Byte) (earlier later : List Event) :
    pendingAfter pending (earlier ++ later) =
      pendingAfter (pendingAfter pending earlier) later := by
  induction earlier generalizing pending with
  | nil => rfl
  | cons event rest ih => cases event <;> simp [pendingAfter, ih]

section

variable {cfg : Config} {b : Bot} {storage : Storage}

theorem write10_writing (idle : b.state = .idle) (writing : Writing b storage) :
    cmdHandler cfg b storage =
      .ok (b.beginWrite.rxData .data (b.beginWrite.chunkLen cfg)) := by
  obtain ⟨⟨ready, inRange, length⟩, command, direction, writable⟩ := writing
  have within : ¬ outOfRange (addressed b) (addressed b).blkAddr (addressed b).blkLen = true :=
    Bool.eq_false_iff.mp inRange
  have same : (scaled (addressed b)).dDataXferLen = (scaled (addressed b)).blkLen := length
  simp only [cmdHandler, command, write10, idle, if_true, direction, ready, writable,
    Bool.not_true, Bool.false_eq_true, if_false]
  rw [if_neg within, if_neg (not_not_intro same)]
  rfl

theorem decodeCBW_writing (idle : b.state = .idle) (valid : b.valid = true)
    (writing : Writing b storage) : decodeCBW cfg b storage =
      b.started.beginWrite.rxData .data (b.started.beginWrite.chunkLen cfg) := by
  have accepted : b.started.valid = true := valid
  have started : Writing b.started storage :=
    ⟨⟨writing.ready, writing.inRange, writing.length⟩, writing.command, writing.direction,
      writing.writable⟩
  have handled := @write10_writing cfg b.started storage idle started
  unfold decodeCBW
  simp only [accepted, handled, Bool.not_true, Bool.false_eq_true, if_false]
  exact if_neg (by simp [Bot.beginWrite])

theorem command_decoded {packet : List Byte} {start : Bot} (commands : Commands b packet)
    (taken : step cfg b (.out packet storage) = some start) :
    start = decodeCBW cfg (b.stored packet) storage := by
  obtain ⟨_, rfl⟩ := step_out taken
  have idle : (b.stored packet).state = .idle := commands.idle
  simp only [dataOutProcess, commands.complete, if_true, outData, idle]

/-- An accepted WRITE(10) waits for its first chunk. -/
theorem writing_begins {packet : List Byte} {start : Bot} (commands : Commands b packet)
    (writing : Writing (b.stored packet) storage)
    (taken : step cfg b (.out packet storage) = some start) :
    start = (b.stored packet).started.beginWrite.rxData .data
      ((b.stored packet).started.beginWrite.chunkLen cfg) := by
  rw [command_decoded commands taken]
  exact decodeCBW_writing commands.idle commands.valid writing

/-! ## The data stage -/

/-- The bytes that wait in the data buffer for the end of their chunk. -/
structure Collecting (cfg : Config) (pending : List Byte) (b : Bot) : Prop where
  position : ∃ count, b.outEp.pBuf = some ⟨.data, count⟩ ∧
    pending = (List.range count).map b.data
  uncounted : b.outEp.packNum = 0 →
    pending = [] ∧ packetCount (b.chunkLen cfg) b.outEp.maxPackSize = 0

theorem Collecting.armed (t : Bot) : Collecting cfg [] (t.rxData .data (t.chunkLen cfg)) where
  position := ⟨0, rfl, rfl⟩
  uncounted none := ⟨rfl, none⟩

theorem log_stored (state : b.state = .dataOut) (packet : List Byte) :
    (b.stored packet).log = b.log ++ [.received packet] := by
  simp [Bot.stored, state]

theorem map_write (memory : Memory Obj) (obj : Obj) (count : Nat) (packet : List Byte) :
    (List.range count).map (memory obj) ++ packet =
      (List.range (count + packet.length)).map (memory.write ⟨obj, count⟩ packet obj) := by
  rw [List.range_add, List.map_append, List.map_map]
  congr 1
  · apply List.map_congr_left
    intro index member
    have before : ¬ count ≤ index := Nat.not_le_of_lt (List.mem_range.mp member)
    simp [Memory.write, before]
  · apply List.ext_getElem
    · simp
    · intro index short _
      simp [Memory.write, List.getElem?_eq_getElem short]

/-- A counted packet goes behind the bytes that wait. -/
theorem Collecting.stored {pending packet : List Byte} (collecting : Collecting cfg pending b)
    (counted : b.outEp.packNum ≠ 0) (some : 0 < packet.length) :
    ∃ count, b.gathered = count ∧ (b.stored packet).outEp.packNum = b.outEp.packNum - 1 ∧
      (b.stored packet).outEp.pBuf = .some ⟨.data, count + packet.length⟩ ∧
      pending ++ packet = (List.range (count + packet.length)).map (b.stored packet).data := by
  obtain ⟨count, position, bytes⟩ := collecting.position
  obtain ⟨more, expected⟩ := Nat.exists_eq_succ_of_ne_zero counted
  have target : b.outEp.acknowledged.target packet.length = .some ⟨.data, count⟩ :=
    OutEp.target_eq_some.mpr ⟨counted, some.ne', position⟩
  have expected' : b.outEp.acknowledged.packNum = more + 1 := expected
  have position' : b.outEp.acknowledged.pBuf = .some ⟨.data, count⟩ := position
  refine ⟨count, by simp [Bot.gathered, position], ?_, ?_, ?_⟩
  · rw [outEp_stored, OutEp.receive_stored expected' some.ne' position']
    simp [expected]
  · rw [outEp_stored, OutEp.receive_stored expected' some.ne' position']
    rfl
  · have written : (b.stored packet).data = b.memory.write ⟨.data, count⟩ packet .data := by
      simp only [Bot.stored, target]
    rw [bytes, written]
    exact map_write b.memory .data count packet

/-- `SCSI_Write` and what follows it: the chunk is passed on as it lies in the buffer. -/
theorem outData_writes (state : b.state = .dataOut) (write : opcode (b.command 0) = .write10)
    (storage : Storage) : ∃ tail,
      (outData cfg b storage).log = b.log ++ .writeData b.bLUN (b.blkAddr / b.blkSize)
        (b.chunkLen cfg / b.blkSize) ((List.range (b.chunkLen cfg)).map b.data) :: tail ∧
      (∀ pending, StoresReceived pending tail ∧ pendingAfter pending tail = pending) ∧
      ((outData cfg b storage).state = .dataOut → Collecting cfg [] (outData cfg b storage)) := by
  rw [outData_scsiWrite state write]
  unfold scsiWrite
  cases storage.writeData with
  | false =>
    refine ⟨[.csw b.csw.dTag b.csw.dDataResidue .cmdFail], ?_, fun pending => ⟨trivial, rfl⟩, ?_⟩
    · simp [failWith, putSenseCode, Bot.writeCall, Bot.note]
    · intro writing
      cases writing
  | true =>
    simp only [Bool.not_true, Bool.false_eq_true, if_false, Bot.writeNext]
    split
    · refine ⟨[], by simp [Bot.advance, Bot.moved, Bot.writeCall, Bot.note], fun pending =>
        ⟨trivial, rfl⟩, fun _ => Collecting.armed _⟩
    · refine ⟨[.csw b.csw.dTag ((b.moved (b.chunkLen cfg)).csw.dDataResidue) .cmdOk], ?_,
        fun pending => ⟨trivial, rfl⟩, ?_⟩
      · simp [Bot.advance, Bot.moved, Bot.writeCall, Bot.note]
      · intro writing
        cases writing

theorem packetCount_one {len maxPackSize : Nat} (some : 0 < len) (short : len ≤ maxPackSize)
    (narrow : maxPackSize < 65536) : packetCount len maxPackSize = 1 := by
  have unwrapped : (len + (maxPackSize - 1)) % 4294967296 = len - 1 + maxPackSize := by omega
  rw [packetCount, unwrapped, Nat.add_div_right _ (by omega), Nat.div_eq_of_lt (by omega)]

/-- What one step of the data stage adds to the log. -/
structure Stored (cfg : Config) (pending : List Byte) (b : Bot) (label : Label)
    (events : List Event) (after : Bot) : Prop where
  log : after.log = b.log ++ events
  exactly : StoresReceived pending events ↔ Fills cfg b label
  goes : Fills cfg b label → after.state = .dataOut →
    Collecting cfg (pendingAfter pending events) after

theorem out_stored {pending packet : List Byte} {after : Bot} (sound : Sound b)
    (collecting : Collecting cfg pending b) (narrow : b.outEp.maxPackSize < 65536)
    (inWrite : InWrite b (.out packet storage))
    (taken : step cfg b (.out packet storage) = some after) :
    ∃ events, Stored cfg pending b (.out packet storage) events after := by
  obtain ⟨state, some, short⟩ := inWrite
  obtain ⟨⟨valid, _⟩, rfl⟩ := step_out taken
  have received := log_stored state packet
  have write := (sound.stored valid packet).writing state
  unfold dataOutProcess
  by_cases counted : b.outEp.packNum = 0
  · -- nothing is stored and the chunk is passed on at once
    have complete : (b.stored packet).outEp.packNum = 0 := by
      have unexpected : b.outEp.acknowledged.packNum = 0 := counted
      rw [outEp_stored, OutEp.receive_unexpected unexpected]
      exact counted
    obtain ⟨tail, log, quiet, goes⟩ := @outData_writes cfg (b.stored packet) state
      write storage
    rw [if_pos complete]
    rw [received, List.append_assoc, List.singleton_append] at log
    refine ⟨_, log, iff_of_false ?_ fun fills => fills.1 counted, fun fills =>
      absurd counted fills.1⟩
    rintro ⟨same, _⟩
    have length := congrArg List.length same
    obtain ⟨rfl, wrapped⟩ := collecting.uncounted counted
    simp only [List.length_map, List.length_range, List.nil_append] at length
    have chunk : b.chunkLen cfg = packet.length := length
    rw [chunk, packetCount_one some short narrow] at wrapped
    cases wrapped
  · obtain ⟨count, gathered, left, position, bytes⟩ := collecting.stored counted some
    dsimp only
    split
    · next complete =>
      obtain ⟨tail, log, quiet, goes⟩ := @outData_writes cfg (b.stored packet) state
        write storage
      rw [received, List.append_assoc, List.singleton_append] at log
      have last : b.outEp.packNum = 1 := by omega
      refine ⟨_, log, ?_, fun _ state => ?_⟩
      · have exactly : (List.range ((b.stored packet).chunkLen cfg)).map (b.stored packet).data =
            pending ++ packet ↔ count + packet.length = b.chunkLen cfg := by
          rw [bytes]
          constructor
          · intro same
            have length := congrArg List.length same
            simp only [List.length_map, List.length_range] at length
            exact length.symm
          · intro whole
            rw [whole]
            rfl
        simp only [StoresReceived, exactly, (quiet []).1, and_true, Fills, last, gathered, ne_eq,
          one_ne_zero, not_false_eq_true, true_and, forall_const]
      · simp only [pendingAfter, (quiet []).2]
        exact goes state
    · next more =>
      refine ⟨[.received packet], received, ?_, fun _ _ => ⟨⟨_, position, bytes⟩, fun none =>
        absurd none more⟩⟩
      have another : b.outEp.packNum ≠ 1 := by omega
      simp [StoresReceived, Fills, counted, another]

theorem Stored.same {pending : List Byte} {label : Label} {events : List Event} {after : Bot}
    (collecting : Collecting cfg pending b) (fills : Fills cfg b label)
    (log : after.log = b.log ++ events)
    (quiet : StoresReceived pending events ∧ pendingAfter pending events = pending)
    (kept : after.state = .dataOut → after.outEp.pBuf = b.outEp.pBuf ∧ after.data = b.data ∧
      after.outEp.packNum = b.outEp.packNum ∧ after.blkLen = b.blkLen ∧
      after.outEp.maxPackSize = b.outEp.maxPackSize) : Stored cfg pending b label events after := by
  refine ⟨log, iff_of_true quiet.1 fills, fun _ state => ?_⟩
  obtain ⟨pBuf, data, packNum, blkLen, size⟩ := kept state
  rw [quiet.2]
  constructor
  · rw [pBuf, data]
    exact collecting.position
  · rw [packNum, size, Bot.chunkLen, blkLen]
    exact collecting.uncounted

theorem write_step {pending : List Byte} {label : Label} {after : Bot} (sound : Sound b)
    (collecting : Collecting cfg pending b) (narrow : b.outEp.maxPackSize < 65536)
    (inWrite : InWrite b label) (taken : step cfg b label = some after) :
    ∃ events, Stored cfg pending b label events after := by
  cases label with
  | out packet storage => exact out_stored sound collecting narrow inWrite taken
  | inDone storage =>
    have state : b.state = .dataOut := inWrite
    obtain ⟨_, rfl⟩ := step_inDone taken
    refine ⟨[], .same collecting trivial ?_ ⟨trivial, rfl⟩ ?_⟩
    · simp only [dataInProcess, inData, state]
      split <;> simp
    · intro _
      simp only [dataInProcess, inData, state]
      split <;> exact ⟨rfl, rfl, rfl, rfl, rfl⟩
  | clearHalt wIndex0 =>
    have state : b.state = .dataOut := inWrite
    have normal : b.status ≠ .error := by
      intro error
      exact absurd (state.symm.trans (sound.refused error).1) (by decide)
    obtain rfl := Option.some.inj taken
    by_cases inbound : 128 ≤ wIndex0.toNat
    · by_cases recovering : b.status = .recovery
      · have cleared : clearFeatureHandler (clearHalt cfg b wIndex0) = clearHalt cfg b wIndex0 := by
          simp [clearFeatureHandler, clearHalt, inbound, recovering]
        rw [cleared]
        refine ⟨[], .same collecting trivial ?_ ⟨trivial, rfl⟩ ?_⟩
        · simp [clearHalt, inbound]
        · simp [clearHalt, inbound]
      · have cleared : clearFeatureHandler (clearHalt cfg b wIndex0) =
            txCSW (clearHalt cfg b wIndex0) .cmdFail := by
          simp [clearFeatureHandler, clearHalt, inbound, recovering, normal]
        rw [cleared]
        refine ⟨[.csw b.csw.dTag b.csw.dDataResidue .cmdFail],
          .same collecting trivial ?_ ⟨trivial, rfl⟩ (by simp)⟩
        simp [clearHalt, inbound]
    · have cleared : clearFeatureHandler (clearHalt cfg b wIndex0) = clearHalt cfg b wIndex0 := by
        simp [clearFeatureHandler, clearHalt, inbound, normal]
      rw [cleared]
      refine ⟨[], .same collecting trivial ?_ ⟨trivial, rfl⟩ ?_⟩
      · simp [clearHalt, inbound]
      · simp [clearHalt, inbound]
  | reset =>
    obtain rfl := Option.some.inj taken
    refine ⟨[], .same collecting trivial (by simp [botReset]) ⟨trivial, rfl⟩ ?_⟩
    intro writing
    cases writing

/-- What the data stage keeps while every chunk is filled. -/
structure Filling (cfg : Config) (start b : Bot) : Prop where
  sound : Sound b
  narrow : b.outEp.maxPackSize < 65536
  log : b.log = start.log ++ start.since b
  stores : StoresReceived [] (start.since b)
  collecting : b.state = .dataOut → Collecting cfg (pendingAfter [] (start.since b)) b

theorem since_append {start after : Bot} {events : List Event}
    (log : b.log = start.log ++ start.since b) (next : after.log = b.log ++ events) :
    start.since after = start.since b ++ events := by
  rw [log, List.append_assoc] at next
  rw [Bot.since, next, List.drop_left]

theorem InWrite.state {label : Label} (inWrite : InWrite b label) : b.state = .dataOut := by
  cases label with
  | out packet storage => exact inWrite.1
  | inDone storage => exact inWrite
  | clearHalt wIndex0 => exact inWrite
  | reset => exact inWrite

theorem Filling.next {start after : Bot} {label : Label} (filling : Filling cfg start b)
    (inWrite : InWrite b label) (taken : step cfg b label = some after) :
    (StoresReceived [] (start.since after) ↔ Fills cfg b label) ∧
      (Fills cfg b label → Filling cfg start after) := by
  obtain ⟨sound, narrow, log, stores, collecting⟩ := filling
  obtain ⟨events, added, exactly, goes⟩ :=
    write_step sound (collecting inWrite.state) narrow inWrite taken
  have since := since_append log added
  have next : StoresReceived [] (start.since after) ↔ Fills cfg b label := by
    rw [since, storesReceived_append, exactly, and_iff_right stores]
  refine ⟨next, fun fills => ⟨sound.step taken, ?_, ?_, next.mpr fills, fun state => ?_⟩⟩
  · have sizes : after.outEp.maxPackSize = b.outEp.maxPackSize :=
      congrArg Prod.snd (sizes_step sound taken)
    rw [sizes]
    exact narrow
  · rw [since, added, ← List.append_assoc, ← log]
  · rw [since, pendingAfter_append]
    exact goes fills state

end

/-- In the data stage of an accepted WRITE(10) every call of `WriteData` gets exactly the bytes
received since the one before it, as long as every chunk is filled by its packets, and no
longer. -/
theorem writes_received_iff_fills {cfg : Config} {inMaxPackSize outMaxPackSize : Nat}
    (narrow : outMaxPackSize < 65536) {labels : List Label} {s : Bot}
    (reached : Run (step cfg) free (botInit (opened inMaxPackSize outMaxPackSize)) labels s)
    {packet : List Byte} {storage : Storage} {start : Bot} (commands : Commands s packet)
    (writing : Writing (s.stored packet) storage)
    (taken : step cfg s (.out packet storage) = some start) {stage : List Label} {t : Bot}
    (run : Run (step cfg) (fun b label => InWrite b label ∧ Fills cfg b label) start stage t) :
    StoresReceived [] (start.since t) ∧
      ∀ label after, InWrite t label → step cfg t label = some after →
        (StoresReceived [] (start.since after) ↔ Fills cfg t label) := by
  obtain ⟨sound, sizes⟩ := reached_sizes reached
  have size : start.outEp.maxPackSize = outMaxPackSize :=
    (congrArg Prod.snd (sizes_step sound taken)).trans (congrArg Prod.snd sizes)
  have nothing : start.since start = [] := by simp [Bot.since]
  have filling : Filling cfg start t := by
    apply run.invariant (Filling cfg start)
    · refine ⟨sound.step taken, by rw [size]; exact narrow, by simp [nothing], ?_, fun _ => ?_⟩
      · rw [nothing]
        trivial
      · rw [nothing, writing_begins commands writing taken]
        exact Collecting.armed _
    · intro before label after held admitted stepped
      exact (held.next admitted.1 stepped).2 admitted.2
  exact ⟨filling.stores, fun label after inWrite stepped => (filling.next inWrite stepped).1⟩

/-- READ CAPACITY(10) of eight blocks of 128 bytes, its data and its CSW. -/
def capacityRead : List Label :=
  [.out (commandBlock [8, 0, 0, 0] 0x80 [0x25]) (goodMedium 8 128), .inDone (goodMedium 8 128),
    .inDone (goodMedium 8 128)]

theorem capacityRead_accepted :
    (execute (step mediaConfig) free plugged capacityRead).isSome = true := by decide +kernel

def sized : Bot := final (step mediaConfig) free plugged capacityRead capacityRead_accepted

/-- WRITE(10) of the first block. -/
def writeBlock : List Byte := commandBlock [128, 0, 0, 0] 0 [0x2A, 0, 0, 0, 0, 0, 0, 0, 1]

theorem writeBlock_taken :
    (step mediaConfig sized (.out writeBlock (goodMedium 8 128))).isSome = true := by
  decide +kernel

def writeStart : Bot :=
  (step mediaConfig sized (.out writeBlock (goodMedium 8 128))).get writeBlock_taken

theorem writeBlock_commands : Commands sized writeBlock :=
  ⟨by decide +kernel, by decide +kernel, by decide +kernel⟩

theorem writeBlock_writing : Writing (sized.stored writeBlock) (goodMedium 8 128) := by
  decide +kernel

/-- Two full packets. -/
def fullPackets : List Label :=
  [.out (List.replicate 64 7) (goodMedium 8 128), .out (List.replicate 64 9) (goodMedium 8 128)]

theorem fullPackets_accepted : (execute (step mediaConfig)
    (fun b label => InWrite b label ∧ Fills mediaConfig b label) writeStart
    fullPackets).isSome = true := by decide +kernel

theorem fullPackets_stored : StoresReceived [] (writeStart.since
    (final (step mediaConfig) (fun b label => InWrite b label ∧ Fills mediaConfig b label)
      writeStart fullPackets fullPackets_accepted)) :=
  (writes_received_iff_fills (by decide) (Run.final _ _ plugged capacityRead
    capacityRead_accepted) writeBlock_commands writeBlock_writing
    (Option.some_get writeBlock_taken).symm (Run.final _ _ writeStart fullPackets
    fullPackets_accepted)).1

/-- A packet of one byte before a full one. -/
def shortPacket : List Label :=
  [.out [7] (goodMedium 8 128), .out (List.replicate 64 9) (goodMedium 8 128)]

theorem shortPacket_accepted : (execute (step mediaConfig) InWrite writeStart
    shortPacket).isSome = true := by decide +kernel

theorem short_packet_stores_stale : ¬ ∀ (stage : List Label) (t : Bot),
    Run (step mediaConfig) InWrite writeStart stage t →
      StoresReceived [] (writeStart.since t) := by
  intro stores
  have stored := stores _ _ (Run.final _ _ writeStart shortPacket shortPacket_accepted)
  exact absurd stored (by decide +kernel)

end ApmSdk.Msc
