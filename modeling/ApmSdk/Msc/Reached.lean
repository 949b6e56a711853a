import ApmSdk.Msc.Commands

set_option autoImplicit false

/-!
# What every run of the bulk-only transport keeps

The OUT endpoint expects packets only for the CBW in state IDLE and only for the data buffer in
state DATA_OUT, and a data stage in progress is the one its command block asked for.
-/

namespace ApmSdk.Msc

open Usbd Runs

def Bot.rxObj (b : Bot) : Option Obj := b.outEp.pBuf.map Ptr.obj

structure Sound (b : Bot) : Prop where
  expects : b.outEp.packNum ≠ 0 →
    b.state = .idle ∧ b.rxObj = some .cbw ∨ b.state = .dataOut ∧ b.rxObj = some .data
  writing : b.state = .dataOut → opcode (b.command 0) = .write10
  reading : b.state = .dataIn → opcode (b.command 0) = .read10
  refused : b.status = .error → b.state = .idle ∧ b.outEp.rxStatus = .nak

section

variable {cfg : Config} {b : Bot}

theorem Sound.armed (state : b.state = .idle) (obj : b.rxObj = some .cbw)
    (normal : b.status ≠ .error) : Sound b where
  expects := fun _ => .inl ⟨state, obj⟩
  writing := by simp [state]
  reading := by simp [state]
  refused := fun error => absurd error normal

theorem sound_txCSW (normal : b.status ≠ .error) (status : CswStatus) :
    Sound (txCSW b status) :=
  .armed rfl rfl normal

/-- What a handler leaves behind when the OUT endpoint expects nothing. -/
theorem Sound.unarmed {t : Bot} (none : t.outEp.packNum = 0) (normal : t.status ≠ .error)
    (writing : t.state = .dataOut → opcode (t.command 0) = .write10)
    (reading : t.state = .dataIn → opcode (t.command 0) = .read10) : Sound t where
  expects := fun expected => absurd none expected
  writing := writing
  reading := reading
  refused := fun error => absurd error normal

-- The condition under which `USBD_MSC_BOT_Stall` halts the OUT endpoint as well.
def Bot.HaltsOut (b : Bot) : Prop := b.bmFlags = 0 ∧ b.dDataXferLen ≠ 0 ∧ b.status = .normal

instance (b : Bot) : Decidable b.HaltsOut := by unfold Bot.HaltsOut; infer_instance

theorem stall_eq {t : Bot} (normal : t.status ≠ .error) :
    stall t = { t with
      inEp.txStatus := .stall
      outEp.rxStatus := if t.HaltsOut then .stall else t.outEp.rxStatus
      log := t.log ++ if t.HaltsOut then [.stallOut, .stallIn] else [.stallIn] } := by
  unfold stall
  by_cases out : t.HaltsOut
  · have halted : t.bmFlags = 0 ∧ t.dDataXferLen ≠ 0 ∧ t.status = .normal := out
    simp only [if_pos halted, if_pos out, Bot.note, if_neg normal, List.append_assoc,
      List.cons_append, List.nil_append]
  · have running : ¬ (t.bmFlags = 0 ∧ t.dDataXferLen ≠ 0 ∧ t.status = .normal) := out
    simp only [if_neg running, if_neg out, Bot.note, if_neg normal]

theorem Sound.stalled {t : Bot} (none : t.outEp.packNum = 0) (normal : t.status ≠ .error)
    (state : t.state = .idle ∨ t.state = .dataIn ∧ opcode (t.command 0) = .read10) :
    Sound (stall t) := by
  rw [stall_eq normal]
  refine .unarmed none normal ?_ ?_
  · intro writing
    rcases state with idle | ⟨reading, _⟩
    · exact absurd (idle.symm.trans writing) (by decide)
    · exact absurd (reading.symm.trans writing) (by decide)
  · intro reading
    rcases state with idle | ⟨_, read⟩
    · exact absurd (idle.symm.trans reading) (by decide)
    · exact read

theorem sound_readNext {t : Bot} (none : t.outEp.packNum = 0) (normal : t.status ≠ .error)
    (state : t.state = .dataIn) (read : opcode (t.command 0) = .read10) (len : Nat) :
    Sound (t.readNext len) := by
  refine .unarmed none normal ?_ fun _ => read
  intro writing
  rcases state_readNext t len state with last | more
  · exact absurd (last.symm.trans writing) (by decide)
  · exact absurd (more.symm.trans writing) (by decide)

theorem Sound.receiving {t : Bot} (state : t.state = .dataOut)
    (write : opcode (t.command 0) = .write10) (normal : t.status ≠ .error) (len : Nat) :
    Sound (t.rxData .data len) where
  expects := fun _ => .inr ⟨state, rfl⟩
  writing := fun _ => write
  reading := fun reading => absurd (state.symm.trans reading) (by decide)
  refused := fun error => absurd error normal

theorem sound_writeNext {t : Bot} (normal : t.status ≠ .error) (state : t.state = .dataOut)
    (write : opcode (t.command 0) = .write10) (len : Nat) : Sound (t.writeNext cfg len) := by
  simp only [Bot.writeNext]
  split
  · apply Sound.receiving
    · exact state
    · exact write
    · exact normal
  · apply sound_txCSW
    exact normal

/-- What `USBD_DataOutProcess` hands to `outEpHandler`: a packet was received and no more are
expected. -/
structure Handed (b : Bot) : Prop where
  none : b.outEp.packNum = 0
  nak : b.outEp.rxStatus = .nak
  normal : b.status ≠ .error

theorem sound_decodeCBW (idle : b.state = .idle) (handed : Handed b) (storage : Storage) :
    Sound (decodeCBW cfg b storage) := by
  obtain ⟨none, nak, normal⟩ := handed
  have decoded : Decoded cfg b storage (decodeCBW cfg b storage) := decodeCBW_cases idle
  generalize decodeCBW cfg b storage = after at decoded
  cases decoded with
  | refused =>
    refine ⟨fun expected => absurd none expected, ?_, ?_, fun _ => ⟨idle, nak⟩⟩
    · exact fun writing => absurd (idle.symm.trans writing) (by decide)
    · exact fun reading => absurd (idle.symm.trans reading) (by decide)
  | @failed t _ kept state =>
    have command : opcode (t.command 0) = opcode (b.command 0) := by
      simp only [Bot.command, kept.cbw, Bot.started]
    refine .stalled (by rw [kept.outEp]; exact none) (by rw [kept.status]; exact normal) ?_
    rw [command]
    exact state.imp id fun reading => ⟨reading.1, reading.2.1⟩
  | @replied t _ kept state =>
    have quiet : t.outEp.packNum = 0 := by rw [kept.outEp]; exact none
    have fine : t.status ≠ .error := by rw [kept.status]; exact normal
    split
    · exact .unarmed quiet fine (by simp [botTxData]) (by simp [botTxData])
    · exact sound_txCSW fine _
  | unread _ reading _ begun =>
    subst begun
    exact .stalled none normal (.inr ⟨rfl, reading.command⟩)
  | reading _ reading _ begun =>
    subst begun
    apply sound_readNext
    · exact none
    · exact normal
    · rfl
    · exact reading.command
  | writing _ writing begun =>
    subst begun
    apply Sound.receiving
    · rfl
    · exact writing.command
    · exact normal

theorem sound_outData (sound : Sound b) (handed : Handed b) (storage : Storage) :
    Sound (outData cfg b storage) := by
  unfold outData
  cases state : b.state with
  | idle => exact sound_decodeCBW state handed storage
  | dataOut =>
    have write := sound.writing state
    simp only [cmdHandler_dataOut state write, scsiWrite]
    cases storage.writeData with
    | false =>
      apply sound_txCSW
      exact handed.normal
    | true =>
      apply sound_writeNext
      · exact handed.normal
      · exact state
      · exact write
  | dataIn => exact sound
  | lastDataIn => exact sound
  | sendData => exact sound

@[simp] theorem state_stored (packet : List Byte) : (b.stored packet).state = b.state := rfl

@[simp] theorem inEp_stored (packet : List Byte) : (b.stored packet).inEp = b.inEp := rfl

theorem outEp_stored (packet : List Byte) :
    (b.stored packet).outEp = b.outEp.acknowledged.receive packet.length := rfl

theorem cbw_stored (other : b.outEp.packNum ≠ 0 → b.rxObj ≠ some .cbw) (packet : List Byte) :
    (b.stored packet).cbw = b.cbw := by
  simp only [Bot.stored]
  cases target : b.outEp.acknowledged.target packet.length with
  | none => rfl
  | some pointer =>
    obtain ⟨expected, _, present⟩ := OutEp.target_eq_some.mp target
    have elsewhere : Obj.cbw ≠ pointer.obj := by
      intro same
      have held : b.outEp.pBuf = some pointer := present
      exact other expected (by simp [Bot.rxObj, held, same])
    funext index
    simp [Memory.write, elsewhere, Bot.memory]

theorem handed_stored {packet : List Byte} (normal : b.status ≠ .error)
    (complete : (b.stored packet).outEp.packNum = 0) : Handed (b.stored packet) := by
  refine ⟨complete, ?_, normal⟩
  rw [outEp_stored] at complete ⊢
  rw [OutEp.rxStatus_receive, if_pos complete]

theorem Sound.normal (sound : Sound b) (valid : b.outEp.rxStatus = .valid) :
    b.status ≠ .error := by
  intro error
  exact absurd (valid.symm.trans (sound.refused error).2) (by decide)

theorem Sound.quiet (sound : Sound b) (other : b.state ≠ .idle) (reading : b.state ≠ .dataOut) :
    b.outEp.packNum = 0 := by
  by_contra expected
  rcases sound.expects expected with ⟨idle, _⟩ | ⟨writing, _⟩
  · exact other idle
  · exact reading writing

theorem Sound.stored (sound : Sound b) (valid : b.outEp.rxStatus = .valid)
    (packet : List Byte) : Sound (b.stored packet) := by
  have data : b.state ≠ .idle → (b.stored packet).cbw = b.cbw := by
    intro busy
    apply cbw_stored
    intro expected other
    rcases sound.expects expected with ⟨idle, _⟩ | ⟨_, obj⟩
    · exact busy idle
    · exact absurd (other.symm.trans obj) (by decide)
  constructor
  · intro expected
    rw [Bot.rxObj, outEp_stored, OutEp.obj_receive]
    exact sound.expects (OutEp.expected_receive expected)
  · intro writing
    have same := data (by rw [← state_stored packet, writing]; decide)
    simpa only [Bot.command, same] using sound.writing writing
  · intro reading
    have same := data (by rw [← state_stored packet, reading]; decide)
    simpa only [Bot.command, same] using sound.reading reading
  · exact fun error => absurd error (sound.normal valid)

/-- A packet of data, when some are expected. -/
theorem Sound.counted (sound : Sound b) (state : b.state = .dataOut) {more : Nat}
    (expected : b.outEp.packNum = more + 1) {packet : List Byte} (some : packet ≠ []) :
    (b.stored packet).outEp.packNum = more ∧
      (b.stored packet).outEp.rxCount = b.outEp.rxCount := by
  have counted : b.outEp.packNum ≠ 0 := by simp [expected]
  rcases sound.expects counted with ⟨idle, _⟩ | ⟨_, obj⟩
  · exact absurd (idle.symm.trans state) nofun
  · obtain ⟨pointer, held, _⟩ := Option.map_eq_some_iff.mp obj
    have expected' : b.outEp.acknowledged.packNum = more + 1 := expected
    have present : b.outEp.acknowledged.pBuf = .some pointer := held
    have length : packet.length ≠ 0 := by simpa using some
    rw [outEp_stored, OutEp.receive_stored expected' length present]
    exact ⟨rfl, rfl⟩

theorem sound_dataOutProcess (sound : Sound b) (valid : b.outEp.rxStatus = .valid)
    (packet : List Byte) (storage : Storage) : Sound (dataOutProcess cfg b packet storage) := by
  have stored := sound.stored valid packet
  simp only [dataOutProcess]
  split
  · next complete => exact sound_outData stored (handed_stored (sound.normal valid) complete) _
  · exact stored

theorem sound_inData (sound : Sound b) (storage : Storage) : Sound (inData cfg b storage) := by
  unfold inData
  cases state : b.state with
  | dataIn =>
    have none := sound.quiet (by simp [state]) (by simp [state])
    have read := sound.reading state
    have normal : b.status ≠ .error := by
      intro error
      exact absurd (state.symm.trans (sound.refused error).1) (by decide)
    simp only [cmdHandler_dataIn state read, scsiRead]
    cases storage.readData with
    | false =>
      apply sound_txCSW
      exact normal
    | true =>
      apply sound_readNext
      · exact none
      · exact normal
      · exact state
      · exact read
  | sendData =>
    apply sound_txCSW
    intro error
    exact absurd (state.symm.trans (sound.refused error).1) (by decide)
  | lastDataIn =>
    apply sound_txCSW
    intro error
    exact absurd (state.symm.trans (sound.refused error).1) (by decide)
  | idle => exact sound
  | dataOut => exact sound

/-- Changes of the IN endpoint, the log and `wIndex` do not matter. -/
theorem Sound.of_same {t : Bot} (sound : Sound b) (state : t.state = b.state)
    (status : t.status = b.status) (cbw : t.cbw = b.cbw) (outEp : t.outEp = b.outEp) :
    Sound t where
  expects := by
    rw [Bot.rxObj, state, outEp]
    exact sound.expects
  writing := by
    simp only [Bot.command, state, cbw]
    exact sound.writing
  reading := by
    simp only [Bot.command, state, cbw]
    exact sound.reading
  refused := by
    rw [status, state, outEp]
    exact sound.refused

theorem sound_clearHalt (sound : Sound b) (wIndex0 : Byte) :
    Sound (clearHalt cfg b wIndex0) := by
  unfold clearHalt
  dsimp only
  split
  · exact sound.of_same rfl rfl rfl rfl
  · refine ⟨sound.expects, sound.writing, sound.reading, fun error => ?_⟩
    obtain ⟨idle, nak⟩ := sound.refused error
    exact ⟨idle, by simp [nak]⟩

theorem sound_clearFeatureHandler (sound : Sound b) : Sound (clearFeatureHandler b) := by
  unfold clearFeatureHandler
  split
  · next error =>
    exact ⟨sound.expects, sound.writing, sound.reading, by simp⟩
  · next normal =>
    split
    · exact sound_txCSW normal _
    · exact sound

theorem Sound.step {after : Bot} {label : Label} (sound : Sound b)
    (taken : step cfg b label = some after) : Sound after := by
  cases label with
  | out packet storage =>
    obtain ⟨⟨valid, _⟩, rfl⟩ := step_out taken
    exact sound_dataOutProcess sound valid packet storage
  | inDone storage =>
    obtain ⟨_, rfl⟩ := step_inDone taken
    have waiting : Sound { b with inEp.txStatus := .nak } := sound.of_same rfl rfl rfl rfl
    simp only [dataInProcess]
    split
    · exact waiting.of_same rfl rfl rfl rfl
    · exact sound_inData waiting storage
  | clearHalt wIndex0 =>
    obtain rfl := Option.some.inj taken
    exact sound_clearFeatureHandler (sound_clearHalt sound wIndex0)
  | reset =>
    obtain rfl := Option.some.inj taken
    exact .armed rfl rfl (by simp [botReset])

end

/-! ## The packet sizes -/

/-- The packet sizes, which only opening the endpoints programs. -/
def Bot.sizes (b : Bot) : Nat × Nat := (b.inEp.maxPackSize, b.outEp.maxPackSize)

section

variable {cfg : Config} (b : Bot) (obj : Obj) (len : Nat)

@[simp] theorem sizes_txData : (b.txData obj len).sizes = b.sizes := by
  simp only [Bot.sizes, Bot.txData, InEp.txData]
  split <;> rfl

@[simp] theorem sizes_rxData : (b.rxData obj len).sizes = b.sizes := rfl

@[simp] theorem sizes_advance : (b.advance len).sizes = b.sizes := rfl

@[simp] theorem sizes_txCSW (status : CswStatus) : (txCSW b status).sizes = b.sizes := by
  simp only [txCSW, sizes_rxData, sizes_txData]
  rfl

@[simp] theorem sizes_botTxData : (botTxData b len).sizes = b.sizes := by
  simp only [botTxData, sizes_txData]
  rfl

@[simp] theorem sizes_stall : (stall b).sizes = b.sizes := by
  unfold stall
  dsimp only
  split <;> split <;> rfl

@[simp] theorem sizes_readNext : (b.readNext len).sizes = b.sizes :=
  sizes_txData b .data len

@[simp] theorem sizes_writeNext : (b.writeNext cfg len).sizes = b.sizes := by
  simp only [Bot.writeNext]
  split
  · rfl
  · rw [sizes_txCSW, sizes_advance]

theorem Kept.sizes {b t : Bot} (kept : Kept b t) : t.sizes = b.sizes := by
  simp only [Bot.sizes, kept.inEp, kept.outEp]

end

section

variable {cfg : Config} {b : Bot}

theorem sizes_decodeCBW (idle : b.state = .idle) (storage : Storage) :
    (decodeCBW cfg b storage).sizes = b.sizes := by
  have decoded : Decoded cfg b storage (decodeCBW cfg b storage) := decodeCBW_cases idle
  generalize decodeCBW cfg b storage = after at decoded
  cases decoded with
  | refused => rfl
  | failed _ kept => exact (sizes_stall _).trans kept.sizes
  | replied _ kept =>
    split
    · exact (sizes_botTxData _ _).trans kept.sizes
    · exact (sizes_txCSW _ _).trans kept.sizes
  | unread _ _ _ begun =>
    subst begun
    exact sizes_stall _
  | reading _ _ _ begun =>
    subst begun
    exact sizes_readNext _ _
  | writing _ _ begun =>
    subst begun
    rfl

theorem sizes_outData (sound : Sound b) (storage : Storage) :
    (outData cfg b storage).sizes = b.sizes := by
  unfold outData
  cases state : b.state with
  | idle => exact sizes_decodeCBW state storage
  | dataOut =>
    simp only [cmdHandler_dataOut state (sound.writing state), scsiWrite]
    cases storage.writeData with
    | false => exact sizes_txCSW _ _
    | true => exact sizes_writeNext _ _
  | dataIn => rfl
  | lastDataIn => rfl
  | sendData => rfl

theorem sizes_inData (sound : Sound b) (storage : Storage) :
    (inData cfg b storage).sizes = b.sizes := by
  unfold inData
  cases state : b.state with
  | dataIn =>
    simp only [cmdHandler_dataIn state (sound.reading state), scsiRead]
    cases storage.readData with
    | false => exact sizes_txCSW _ _
    | true => exact sizes_readNext _ _
  | sendData => exact sizes_txCSW _ _
  | lastDataIn => exact sizes_txCSW _ _
  | idle => rfl
  | dataOut => rfl

theorem sizes_stored (packet : List Byte) : (b.stored packet).sizes = b.sizes := by
  simp only [Bot.sizes, inEp_stored, outEp_stored, OutEp.receive_maxPackSize]
  rfl

theorem sizes_step {after : Bot} {label : Label} (sound : Sound b)
    (taken : step cfg b label = some after) : after.sizes = b.sizes := by
  cases label with
  | out packet storage =>
    obtain ⟨⟨valid, _⟩, rfl⟩ := step_out taken
    simp only [dataOutProcess]
    split
    · rw [sizes_outData (sound.stored valid packet), sizes_stored]
    · exact sizes_stored packet
  | inDone storage =>
    obtain ⟨_, rfl⟩ := step_inDone taken
    simp only [dataInProcess]
    split
    · rfl
    · apply sizes_inData
      exact sound.of_same rfl rfl rfl rfl
  | clearHalt wIndex0 =>
    obtain rfl := Option.some.inj taken
    have cleared : (clearHalt cfg b wIndex0).sizes = b.sizes := by
      unfold clearHalt
      dsimp only
      split <;> rfl
    rw [← cleared]
    unfold clearFeatureHandler
    split
    · rfl
    · split
      · exact sizes_txCSW _ _
      · rfl
  | reset =>
    obtain rfl := Option.some.inj taken
    rfl

end

theorem sound_init (inMaxPackSize outMaxPackSize : Nat) :
    Sound (botInit (opened inMaxPackSize outMaxPackSize)) :=
  .armed rfl rfl (by simp [botInit])

theorem reached_sizes {cfg : Config} {guard : Bot → Label → Prop}
    {inMaxPackSize outMaxPackSize : Nat} {labels : List Label} {s : Bot}
    (run : Run (step cfg) guard (botInit (opened inMaxPackSize outMaxPackSize)) labels s) :
    Sound s ∧ s.sizes = (inMaxPackSize, outMaxPackSize) := by
  induction run with
  | nil => exact ⟨sound_init _ _, rfl⟩
  | snoc _ _ taken held =>
    obtain ⟨sound, sizes⟩ := held
    exact ⟨sound.step taken, (sizes_step sound taken).trans sizes⟩

/-- A CBW with tag 1 for unit 0. -/
def commandBlock (dDataXferLen : List Byte) (bmFlags : Byte) (block : List Byte) : List Byte :=
  [0x55, 0x53, 0x42, 0x43, 1, 0, 0, 0] ++ dDataXferLen ++ [bmFlags, 0, 10] ++ block ++
    List.replicate (16 - block.length) 0

/-- A medium that answers every call with success. -/
def goodMedium (blkNbr blkSize : UInt32) : Storage :=
  ⟨true, true, true, blkNbr, blkSize, true, fun _ => 0, true⟩

def mediaConfig : Config := ⟨512, fun _ => 0, .nak⟩

end ApmSdk.Msc
