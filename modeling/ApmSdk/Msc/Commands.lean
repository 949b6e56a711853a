import ApmSdk.Msc.Bot

set_option autoImplicit false

/-!
# What a SCSI command can do

`SCSI_CmdHandler` classified once: a command fails, prepares a reply, or accepts the data stage
of READ(10) or WRITE(10), and leaves everything else alone.
-/

namespace ApmSdk.Msc

open Usbd

section

variable (b : Bot) (obj : Obj) (len : Nat) (status : CswStatus)

@[simp] theorem state_txData : (b.txData obj len).state = b.state := rfl

@[simp] theorem status_txData : (b.txData obj len).status = b.status := rfl

@[simp] theorem cbw_txData : (b.txData obj len).cbw = b.cbw := rfl

@[simp] theorem outEp_txData : (b.txData obj len).outEp = b.outEp := rfl

@[simp] theorem log_txData : (b.txData obj len).log = b.log := rfl

@[simp] theorem txStatus_txData : (b.txData obj len).inEp.txStatus = .valid := by
  simp only [Bot.txData, InEp.txData]
  split <;> rfl

@[simp] theorem state_rxData : (b.rxData obj len).state = b.state := rfl

@[simp] theorem status_rxData : (b.rxData obj len).status = b.status := rfl

@[simp] theorem cbw_rxData : (b.rxData obj len).cbw = b.cbw := rfl

@[simp] theorem inEp_rxData : (b.rxData obj len).inEp = b.inEp := rfl

@[simp] theorem log_rxData : (b.rxData obj len).log = b.log := rfl

@[simp] theorem state_txCSW : (txCSW b status).state = .idle := rfl

@[simp] theorem status_txCSW : (txCSW b status).status = b.status := rfl

@[simp] theorem cbw_txCSW : (txCSW b status).cbw = b.cbw := rfl

@[simp] theorem outEp_txCSW :
    (txCSW b status).outEp = b.outEp.rxData (some ⟨.cbw, 0⟩) cbwLength := rfl

@[simp] theorem log_txCSW :
    (txCSW b status).log = b.log ++ [.csw b.csw.dTag b.csw.dDataResidue status] := rfl

@[simp] theorem txStatus_txCSW : (txCSW b status).inEp.txStatus = .valid :=
  txStatus_txData _ _ _

end

/-- Everything but the SCSI statics, the data buffer and the BOT state is unchanged. -/
structure Kept (b t : Bot) : Prop where
  status : t.status = b.status
  cbw : t.cbw = b.cbw
  csw : t.csw = b.csw
  inEp : t.inEp = b.inEp
  outEp : t.outEp = b.outEp
  log : t.log = b.log

theorem Kept.refl (b : Bot) : Kept b b := ⟨rfl, rfl, rfl, rfl, rfl, rfl⟩

/-- READ(10) before its first chunk, and WRITE(10) before it arms the OUT endpoint. -/
def Bot.beginRead (cfg : Config) (b : Bot) : Bot :=
  { scaled { addressed b with state := .dataIn } with dataLen := cfg.mediaPacket % 65536 }

def Bot.beginWrite (b : Bot) : Bot := { scaled (addressed b) with state := .dataOut }

def Bot.transferLen (b : Bot) : Nat := b.commandLen * b.blkSize % 4294967296

/-- The checks READ(10) and WRITE(10) share. -/
structure Accepted (b : Bot) (storage : Storage) : Prop where
  ready : storage.checkReady = true
  inRange : outOfRange b b.commandAddr b.commandLen = false
  length : b.dDataXferLen = b.transferLen

structure Reading (b : Bot) (storage : Storage) : Prop extends Accepted b storage where
  command : opcode (b.command 0) = .read10
  direction : b.dirIn = true

structure Writing (b : Bot) (storage : Storage) : Prop extends Accepted b storage where
  command : opcode (b.command 0) = .write10
  direction : b.dirIn = false
  writable : storage.checkWPR = true

-- What `SCSI_CmdHandler` does to a command block in state IDLE.
inductive Command (cfg : Config) (b : Bot) (storage : Storage) : Outcome → Prop
  | failed {t : Bot} : Kept b t →
      t.state = .idle ∨ t.state = .dataIn ∧ opcode (b.command 0) = .read10 ∧ b.dirIn = true →
      Command cfg b storage (.fail t)
  | replied {t : Bot} : Kept b t → t.state = .idle → Command cfg b storage (.ok t)
  | reading : Reading b storage →
      Command cfg b storage (scsiRead cfg (b.beginRead cfg) storage)
  | writing : Writing b storage →
      Command cfg b storage
        (.ok (b.beginWrite.rxData .data (b.beginWrite.chunkLen cfg)))

section

variable {cfg : Config} {b : Bot} {storage : Storage}

theorem Command.fails (idle : b.state = .idle) {t : Bot} (kept : Kept b t)
    (same : t.state = b.state) {sKey asc : Byte} :
    Command cfg b storage (failWith t sKey asc) :=
  .failed ⟨kept.status, kept.cbw, kept.csw, kept.inEp, kept.outEp, kept.log⟩
    (.inl (same.trans idle))

theorem Command.replies (idle : b.state = .idle) {t : Bot} (kept : Kept b t)
    (same : t.state = b.state) {bytes : List Byte} {dataLen : Nat} :
    Command cfg b storage (reply t bytes dataLen) :=
  .replied ⟨kept.status, kept.cbw, kept.csw, kept.inEp, kept.outEp, kept.log⟩ (same.trans idle)

theorem command_read10 (idle : b.state = .idle) (read : opcode (b.command 0) = .read10) :
    Command cfg b storage (read10 cfg b storage) := by
  simp only [read10, idle, if_true]
  split
  · exact .fails idle (.refl b) rfl
  · next dirIn =>
    split
    · exact .fails idle (.refl b) rfl
    · next ready =>
      split
      · apply Command.fails idle
        · exact ⟨rfl, rfl, rfl, rfl, rfl, rfl⟩
        · rfl
      · next inRange =>
        have direction : b.dirIn = true := by simpa using dirIn
        split
        · exact .failed ⟨rfl, rfl, rfl, rfl, rfl, rfl⟩ (.inr ⟨rfl, read, direction⟩)
        · next length =>
          have within : outOfRange b b.commandAddr b.commandLen = false :=
            Bool.eq_false_iff.mpr inRange
          exact .reading ⟨⟨by simpa using ready, within, not_not.mp length⟩, read, direction⟩

theorem command_write10 (idle : b.state = .idle) (write : opcode (b.command 0) = .write10) :
    Command cfg b storage (write10 cfg b storage) := by
  simp only [write10, idle, if_true]
  split
  · exact .fails idle (.refl b) rfl
  · next dirOut =>
    split
    · exact .fails idle (.refl b) rfl
    · next ready =>
      split
      · exact .fails idle (.refl b) rfl
      · next writable =>
        split
        · apply Command.fails idle
          · exact ⟨rfl, rfl, rfl, rfl, rfl, rfl⟩
          · rfl
        · next inRange =>
          split
          · apply Command.fails idle
            · exact ⟨rfl, rfl, rfl, rfl, rfl, rfl⟩
            · rfl
          · next length =>
            have direction : b.dirIn = false := Bool.eq_false_iff.mpr dirOut
            have within : outOfRange b b.commandAddr b.commandLen = false :=
              Bool.eq_false_iff.mpr inRange
            exact .writing ⟨⟨by simpa using ready, within, not_not.mp length⟩, write, direction,
              by simpa using writable⟩

theorem cmdHandler_idle (idle : b.state = .idle) :
    Command cfg b storage (cmdHandler cfg b storage) := by
  have same : Kept b b := .refl b
  cases command : opcode (b.command 0) with
  | read10 =>
    simp only [cmdHandler, command]
    exact command_read10 idle command
  | write10 =>
    simp only [cmdHandler, command]
    exact command_write10 idle command
  | testUnitReady =>
    simp only [cmdHandler, command, testUnitReady]
    split
    · exact .fails idle same rfl
    · split
      · exact .fails idle same rfl
      · exact .replied ⟨rfl, rfl, rfl, rfl, rfl, rfl⟩ idle
  | inquiry =>
    simp only [cmdHandler, command, inquiry]
    split <;> exact .replies idle same rfl
  | requestSense =>
    simp only [cmdHandler, command, requestSense]
    apply Command.replies idle
    · exact ⟨rfl, rfl, rfl, rfl, rfl, rfl⟩
    · rfl
  | readFormatCapacities =>
    simp only [cmdHandler, command, readFormatCapacity]
    split
    · apply Command.fails idle
      · exact ⟨rfl, rfl, rfl, rfl, rfl, rfl⟩
      · rfl
    · exact .replies idle same rfl
  | readCapacity10 =>
    simp only [cmdHandler, command, readCapacity10]
    split
    · apply Command.fails idle
      · exact ⟨rfl, rfl, rfl, rfl, rfl, rfl⟩
      · rfl
    · apply Command.replies idle
      · exact ⟨rfl, rfl, rfl, rfl, rfl, rfl⟩
      · rfl
  | verify10 =>
    simp only [cmdHandler, command, verify10]
    split
    · exact .fails idle same rfl
    · split
      · apply Command.fails idle
        · exact ⟨rfl, rfl, rfl, rfl, rfl, rfl⟩
        · rfl
      · exact .replied ⟨rfl, rfl, rfl, rfl, rfl, rfl⟩ idle
  | startStopUnit =>
    simp only [cmdHandler, command, startStopUnit]
    exact .replied ⟨rfl, rfl, rfl, rfl, rfl, rfl⟩ idle
  | modeSense6 =>
    simp only [cmdHandler, command, modeSense6]
    exact .replies idle same rfl
  | modeSense10 =>
    simp only [cmdHandler, command, modeSense10]
    exact .replies idle same rfl
  | other =>
    simp only [cmdHandler, command]
    exact .fails idle same rfl

end

variable {cfg : Config} {b : Bot} {storage : Storage}

theorem cmdHandler_dataIn (state : b.state = .dataIn) (read : opcode (b.command 0) = .read10) :
    cmdHandler cfg b storage =
      scsiRead cfg { b with dataLen := cfg.mediaPacket % 65536 } storage := by
  simp [cmdHandler, read, read10, state]

theorem cmdHandler_dataOut (state : b.state = .dataOut)
    (write : opcode (b.command 0) = .write10) :
    cmdHandler cfg b storage = scsiWrite cfg b storage := by
  simp [cmdHandler, write, write10, state]

theorem inData_scsiRead (state : b.state = .dataIn) (read : opcode (b.command 0) = .read10)
    (storage : Storage) : inData cfg b storage =
      match scsiRead cfg { b with dataLen := cfg.mediaPacket % 65536 } storage with
      | .ok b => b
      | .fail b => txCSW b .cmdFail := by
  rw [← cmdHandler_dataIn state read]
  cases handled : cmdHandler cfg b storage with
  | ok _ => simp only [inData, state, handled]
  | fail _ => simp only [inData, state, handled]

theorem outData_scsiWrite (state : b.state = .dataOut) (write : opcode (b.command 0) = .write10)
    (storage : Storage) : outData cfg b storage =
      match scsiWrite cfg b storage with
      | .ok b => b
      | .fail b => txCSW b .cmdFail := by
  rw [← cmdHandler_dataOut state write]
  cases handled : cmdHandler cfg b storage with
  | ok _ => simp only [outData, state, handled]
  | fail _ => simp only [outData, state, handled]

-- What `USBD_MSC_BOT_DecodeCBW` does with the CBW of `b`.
inductive Decoded (cfg : Config) (b : Bot) (storage : Storage) : Bot → Prop
  | refused : b.valid = false →
      Decoded cfg b storage
        { putSenseCode b.started illegalRequest ascInvalidCdb 0 with status := .error }
  | failed {t : Bot} : b.valid = true → Kept b.started t →
      t.state = .idle ∨ t.state = .dataIn ∧ opcode (b.command 0) = .read10 ∧ b.dirIn = true →
      Decoded cfg b storage (stall t)
  | replied {t : Bot} : b.valid = true → Kept b.started t → t.state = .idle →
      Decoded cfg b storage (if t.dataLen ≠ 0 then botTxData t t.dataLen else txCSW t .cmdOk)
  | unread {t : Bot} : b.valid = true → Reading b storage → storage.readData = false →
      t = b.started.beginRead cfg →
      Decoded cfg b storage (stall (putSenseCode (t.readCall storage (t.chunkLen cfg))
        hardwareError ascUnrecoveredReadError 0))
  | reading {t : Bot} : b.valid = true → Reading b storage → storage.readData = true →
      t = b.started.beginRead cfg →
      Decoded cfg b storage ((t.readCall storage (t.chunkLen cfg)).readNext (t.chunkLen cfg))
  | writing {t : Bot} : b.valid = true → Writing b storage → t = b.started.beginWrite →
      Decoded cfg b storage (t.rxData .data (t.chunkLen cfg))

theorem readNext_state (t : Bot) (len : Nat) : (t.readNext len).state =
    if (t.readNext len).blkLen = 0 then .lastDataIn else t.state := rfl

theorem state_readNext (t : Bot) (len : Nat) (state : t.state = .dataIn) :
    (t.readNext len).state = .lastDataIn ∨ (t.readNext len).state = .dataIn := by
  simp only [Bot.readNext]
  split
  · exact .inl rfl
  · exact .inr state

theorem Reading.of_started (reading : Reading b.started storage) : Reading b storage :=
  ⟨⟨reading.ready, reading.inRange, reading.length⟩, reading.command, reading.direction⟩

theorem Writing.of_started (writing : Writing b.started storage) : Writing b storage :=
  ⟨⟨writing.ready, writing.inRange, writing.length⟩, writing.command, writing.direction,
    writing.writable⟩

theorem decodeCBW_cases (idle : b.state = .idle) :
    Decoded cfg b storage (decodeCBW cfg b storage) := by
  unfold decodeCBW
  cases valid : b.valid with
  | false =>
    have refused : b.started.valid = false := valid
    simp only [refused, Bool.not_false, if_true]
    exact .refused valid
  | true =>
    have accepted : b.started.valid = true := valid
    simp only [accepted, Bool.not_true, Bool.false_eq_true, if_false]
    have command : Command cfg b.started storage (cmdHandler cfg b.started storage) :=
      cmdHandler_idle idle
    generalize cmdHandler cfg b.started storage = outcome at command
    cases command with
    | failed kept state => exact .failed valid kept state
    | replied kept state =>
      simp only [state, true_or, if_true]
      exact .replied valid kept state
    | reading reading =>
      unfold scsiRead
      cases answer : storage.readData with
      | false =>
        simp only [Bool.not_false, if_true]
        exact .unread valid reading.of_started answer rfl
      | true =>
        simp only [Bool.not_true, Bool.false_eq_true, if_false]
        rcases state_readNext ((b.started.beginRead cfg).readCall storage
          ((b.started.beginRead cfg).chunkLen cfg)) ((b.started.beginRead cfg).chunkLen cfg) rfl
          with last | more
        · simp only [last, reduceCtorEq, or_self, if_false]
          exact .reading valid reading.of_started answer rfl
        · simp only [more, reduceCtorEq, or_self, if_false]
          exact .reading valid reading.of_started answer rfl
    | writing writing => exact .writing valid writing.of_started rfl

end ApmSdk.Msc
