import ApmSdk.Msc.Reached

set_option autoImplicit false

/-!
# The bulk-only transport never hangs

As long as no CBW is refused, no WRITE(10) asks for nothing and no failed command is cleared in
status RECOVERY, one of the two bulk endpoints can always go on.
-/

namespace ApmSdk.Msc

open Usbd Runs

/-- The interface can go on once no handler is running. -/
inductive Alive (b : Bot) : Prop
  | command : b.outEp.rxStatus = .valid → b.state = .idle → b.outEp.packNum ≠ 0 →
      b.rxObj = some .cbw → Alive b
  | dataOut : b.outEp.rxStatus = .valid → b.state = .dataOut → b.outEp.packNum ≠ 0 → Alive b
  | queued : b.inEp.txStatus = .valid → Alive b
  | halted : b.inEp.txStatus = .stall → Alive b

/-- The OUT endpoint takes packets and expects some. -/
def Bot.Receiving (b : Bot) : Prop := b.outEp.rxStatus = .valid ∧ b.outEp.packNum ≠ 0

instance (b : Bot) : Decidable b.Receiving := by unfold Bot.Receiving; infer_instance

instance (b : Bot) (storage : Storage) : Decidable (Writing b storage) :=
  decidable_of_iff
    ((storage.checkReady = true ∧ outOfRange b b.commandAddr b.commandLen = false ∧
      b.dDataXferLen = b.transferLen) ∧
      opcode (b.command 0) = .write10 ∧ b.dirIn = false ∧ storage.checkWPR = true)
    ⟨fun ⟨⟨ready, inRange, length⟩, command, direction, writable⟩ =>
        ⟨⟨ready, inRange, length⟩, command, direction, writable⟩,
      fun writing => ⟨⟨writing.ready, writing.inRange, writing.length⟩, writing.command,
        writing.direction, writing.writable⟩⟩

/-- The packets `USBD_RxData` expects for the chunk of the media packet size that `left` bytes
begin with. -/
def Bot.expectedFor (cfg : Config) (b : Bot) (left : Nat) : Nat :=
  packetCount (min cfg.mediaPacket left) b.outEp.maxPackSize

/-- The condition on one step: a complete CBW is valid, a data stage to the device that starts
or goes on expects packets, and in status RECOVERY the IN endpoint is only cleared while the
OUT endpoint is armed. -/
def Responsive (cfg : Config) (b : Bot) : Label → Prop
  | .out packet storage =>
      let t := b.stored packet
      t.outEp.packNum = 0 →
        (t.state = .idle → t.valid = true ∧
          (Writing t storage → t.expectedFor cfg t.transferLen ≠ 0)) ∧
        (t.state = .dataOut → storage.writeData = true → t.blkLen - t.chunkLen cfg ≠ 0 →
          t.expectedFor cfg (t.blkLen - t.chunkLen cfg) ≠ 0)
  | .clearHalt wIndex0 =>
      128 ≤ wIndex0.toNat → b.status = .recovery → b.inEp.txStatus = .stall → b.Receiving
  | _ => True

instance (cfg : Config) (b : Bot) (label : Label) : Decidable (Responsive cfg b label) := by
  unfold Responsive
  cases label <;> infer_instance

/-- What keeps the interface going. -/
structure Live (b : Bot) : Prop where
  unbroken : b.status ≠ .error
  goes : b.Receiving ∨ b.inEp.txStatus = .stall ∨
    b.inEp.txStatus = .valid ∧ b.state ≠ .idle ∧ b.state ≠ .dataOut

section

variable {cfg : Config} {b : Bot}

theorem Live.alive (live : Live b) (sound : Sound b) : Alive b := by
  rcases live.goes with ⟨valid, expected⟩ | halted | ⟨queued, _⟩
  · rcases sound.expects expected with ⟨idle, obj⟩ | ⟨writing, _⟩
    · exact .command valid idle expected obj
    · exact .dataOut valid writing expected
  · exact .halted halted
  · exact .queued queued

theorem packetCount_cbw {maxPackSize : Nat} (positive : 0 < maxPackSize)
    (small : maxPackSize < 65536) : packetCount cbwLength maxPackSize ≠ 0 := by
  have unwrapped : (cbwLength + (maxPackSize - 1)) % 4294967296 = maxPackSize + 30 := by
    simp only [cbwLength]
    omega
  have most : (maxPackSize + 30) / maxPackSize ≤ 31 := by
    apply Nat.div_le_of_le_mul
    omega
  have least : 1 ≤ (maxPackSize + 30) / maxPackSize := Nat.div_pos (by omega) positive
  rw [packetCount, unwrapped, Nat.mod_eq_of_lt (by omega)]
  omega

theorem live_txCSW {t : Bot} (normal : t.status ≠ .error) (positive : 0 < t.outEp.maxPackSize)
    (small : t.outEp.maxPackSize < 65536) (status : CswStatus) : Live (txCSW t status) :=
  ⟨normal, .inl ⟨rfl, packetCount_cbw positive small⟩⟩

theorem live_stall {t : Bot} (normal : t.status ≠ .error) : Live (stall t) := by
  rw [stall_eq normal]
  exact ⟨normal, .inr (.inl rfl)⟩

theorem live_readNext {t : Bot} (normal : t.status ≠ .error) (state : t.state = .dataIn)
    (len : Nat) : Live (t.readNext len) := by
  refine ⟨normal, .inr (.inr ⟨txStatus_txData t .data len, ?_⟩)⟩
  rcases state_readNext t len state with last | more
  · simp [last]
  · simp [more]

theorem live_decodeCBW (idle : b.state = .idle) (handed : Handed b)
    (positive : 0 < b.outEp.maxPackSize) (small : b.outEp.maxPackSize < 65536)
    {storage : Storage} (valid : b.valid = true)
    (expected : Writing b storage → b.expectedFor cfg b.transferLen ≠ 0) :
    Live (decodeCBW cfg b storage) := by
  have decoded : Decoded cfg b storage (decodeCBW cfg b storage) := decodeCBW_cases idle
  generalize decodeCBW cfg b storage = after at decoded
  cases decoded with
  | refused invalid => exact absurd (valid.symm.trans invalid) (by decide)
  | failed _ kept =>
    apply live_stall
    rw [kept.status]
    exact handed.normal
  | @replied t _ kept =>
    have normal : t.status ≠ .error := by rw [kept.status]; exact handed.normal
    have same : t.outEp = b.outEp := kept.outEp
    split
    · exact ⟨normal, .inr (.inr ⟨txStatus_txData _ _ _, by simp [botTxData]⟩)⟩
    · apply live_txCSW normal
      · rw [same]; exact positive
      · rw [same]; exact small
  | unread _ _ _ begun =>
    subst begun
    exact live_stall handed.normal
  | reading _ _ _ begun =>
    subst begun
    apply live_readNext
    · exact handed.normal
    · rfl
  | writing _ writing begun =>
    subst begun
    exact ⟨handed.normal, .inl ⟨rfl, expected writing⟩⟩

theorem live_outData (sound : Sound b) (handed : Handed b)
    (positive : 0 < b.outEp.maxPackSize) (small : b.outEp.maxPackSize < 65536)
    {storage : Storage}
    (command : b.state = .idle → b.valid = true ∧
      (Writing b storage → b.expectedFor cfg b.transferLen ≠ 0))
    (chunk : b.state = .dataOut → storage.writeData = true → b.blkLen - b.chunkLen cfg ≠ 0 →
      b.expectedFor cfg (b.blkLen - b.chunkLen cfg) ≠ 0)
    (goes : b.state ≠ .idle → b.state ≠ .dataOut →
      b.inEp.txStatus = .stall ∨ b.inEp.txStatus = .valid) :
    Live (outData cfg b storage) := by
  have otherwise : b.state ≠ .idle → b.state ≠ .dataOut → Live b := fun busy reading =>
    ⟨handed.normal, (goes busy reading).elim (fun halted => .inr (.inl halted))
      fun queued => .inr (.inr ⟨queued, busy, reading⟩)⟩
  unfold outData
  cases state : b.state with
  | idle =>
    obtain ⟨valid, expected⟩ := command state
    exact live_decodeCBW state handed positive small valid expected
  | dataOut =>
    have write := sound.writing state
    simp only [cmdHandler_dataOut state write, scsiWrite]
    cases written : storage.writeData with
    | false =>
      apply live_txCSW
      · exact handed.normal
      · exact positive
      · exact small
    | true =>
      simp only [Bot.writeNext, Bool.not_true, Bool.false_eq_true, if_false]
      split
      · next more => exact ⟨handed.normal, .inl ⟨rfl, chunk state written more⟩⟩
      · apply live_txCSW
        · exact handed.normal
        · exact positive
        · exact small
  | dataIn => exact otherwise (by simp [state]) (by simp [state])
  | lastDataIn => exact otherwise (by simp [state]) (by simp [state])
  | sendData => exact otherwise (by simp [state]) (by simp [state])

theorem live_inData (sound : Sound b) (normal : b.status ≠ .error)
    (positive : 0 < b.outEp.maxPackSize) (small : b.outEp.maxPackSize < 65536)
    (waits : b.state = .idle ∨ b.state = .dataOut → b.Receiving) (storage : Storage) :
    Live (inData cfg b storage) := by
  unfold inData
  cases state : b.state with
  | dataIn =>
    simp only [cmdHandler_dataIn state (sound.reading state), scsiRead]
    cases storage.readData with
    | false =>
      apply live_txCSW
      · exact normal
      · exact positive
      · exact small
    | true =>
      apply live_readNext
      · exact normal
      · exact state
  | sendData => exact live_txCSW normal positive small _
  | lastDataIn => exact live_txCSW normal positive small _
  | idle => exact ⟨normal, .inl (waits (.inl state))⟩
  | dataOut => exact ⟨normal, .inl (waits (.inr state))⟩

theorem live_inDone (live : Live b) (sound : Sound b) (positive : 0 < b.outEp.maxPackSize)
    (small : b.outEp.maxPackSize < 65536) (valid : b.inEp.txStatus = .valid)
    (storage : Storage) :
    Live (dataInProcess cfg { b with inEp.txStatus := .nak } storage) := by
  have normal := live.unbroken
  simp only [dataInProcess]
  split
  · rcases live.goes with receiving | halted | ⟨_, busy⟩
    · exact ⟨normal, .inl receiving⟩
    · exact absurd (valid.symm.trans halted) (by decide)
    · exact ⟨normal, .inr (.inr ⟨rfl, busy⟩)⟩
  · have taken : Sound { b with inEp.txStatus := .nak } := sound.of_same rfl rfl rfl rfl
    apply live_inData taken normal positive small
    -- a CSW or nothing was queued, so the OUT endpoint was armed already
    intro waiting
    rcases live.goes with receiving | halted | ⟨_, busy, reading⟩
    · exact receiving
    · exact absurd (valid.symm.trans halted) (by decide)
    · exact absurd waiting (not_or.mpr ⟨busy, reading⟩)

theorem live_clearHalt (live : Live b) (positive : 0 < b.outEp.maxPackSize)
    (small : b.outEp.maxPackSize < 65536) {wIndex0 : Byte}
    (armed : 128 ≤ wIndex0.toNat → b.status = .recovery → b.inEp.txStatus = .stall →
      b.Receiving) : Live (clearFeatureHandler (clearHalt cfg b wIndex0)) := by
  have normal := live.unbroken
  by_cases inbound : 128 ≤ wIndex0.toNat
  · by_cases recovering : b.status = .recovery
    · simp only [clearHalt, inbound, if_true, clearFeatureHandler, recovering, reduceCtorEq,
        if_false, ne_eq, not_true_eq_false, and_false]
      refine ⟨by simp only [ne_eq, reduceCtorEq, not_false_eq_true], ?_⟩
      by_cases receiving : b.Receiving
      · exact .inl receiving
      · have running : b.inEp.txStatus ≠ .stall := fun halted =>
          receiving (armed inbound recovering halted)
        simp only [if_neg running]
        exact live.goes
    · simp only [clearHalt, inbound, if_true, clearFeatureHandler, normal, if_false, ne_eq,
        recovering, not_false_eq_true, and_self]
      apply live_txCSW
      · exact normal
      · exact positive
      · exact small
  · simp only [clearHalt, inbound, if_false, clearFeatureHandler, normal, false_and]
    refine ⟨normal, ?_⟩
    rcases live.goes with ⟨valid, expected⟩ | later
    · exact .inl ⟨by simp [valid], expected⟩
    · exact .inr later

theorem Live.step {after : Bot} {label : Label} (live : Live b) (sound : Sound b)
    (positive : 0 < b.outEp.maxPackSize) (small : b.outEp.maxPackSize < 65536)
    (responsive : Responsive cfg b label) (taken : step cfg b label = some after) :
    Live after := by
  cases label with
  | out packet storage =>
    obtain ⟨⟨valid, _⟩, rfl⟩ := step_out taken
    have normal := live.unbroken
    have size : (b.stored packet).outEp.maxPackSize = b.outEp.maxPackSize :=
      OutEp.receive_maxPackSize _ _
    simp only [dataOutProcess]
    split
    · next complete =>
      obtain ⟨command, chunk⟩ := responsive complete
      refine live_outData (sound.stored valid packet) (handed_stored normal complete)
        (by rw [size]; exact positive) (by rw [size]; exact small) command chunk ?_
      intro busy reading
      rcases live.goes with ⟨_, expected⟩ | halted | ⟨queued, _⟩
      · exact absurd (sound.quiet busy reading) expected
      · exact .inl halted
      · exact .inr queued
    · next more =>
      refine ⟨normal, .inl ⟨?_, more⟩⟩
      rw [outEp_stored] at more ⊢
      rw [OutEp.rxStatus_receive, if_neg more]
  | inDone storage =>
    obtain ⟨valid, rfl⟩ := step_inDone taken
    exact live_inDone live sound positive small valid storage
  | clearHalt wIndex0 =>
    obtain rfl := Option.some.inj taken
    exact live_clearHalt live positive small responsive
  | reset =>
    obtain rfl := Option.some.inj taken
    exact ⟨by simp [botReset], .inl ⟨rfl, packetCount_cbw positive small⟩⟩

end

/-- In a run whose steps are all responsive the interface can always go on. -/
theorem reached_alive {cfg : Config} {inMaxPackSize outMaxPackSize : Nat} {labels : List Label}
    {s : Bot}
    (run : Run (step cfg) (Responsive cfg) (botInit (opened inMaxPackSize outMaxPackSize))
      labels s)
    (positive : 0 < outMaxPackSize) (small : outMaxPackSize < 65536) : Alive s := by
  have held : Live s := by
    induction run with
    | nil => exact ⟨by simp [botInit], .inl ⟨rfl, packetCount_cbw positive small⟩⟩
    | @snoc earlier before after label shorter responsive taken live =>
      obtain ⟨sound, sizes⟩ := reached_sizes shorter
      have size : before.outEp.maxPackSize = outMaxPackSize := congrArg Prod.snd sizes
      exact live.step sound (by rw [size]; exact positive) (by rw [size]; exact small)
        responsive taken
  exact held.alive (reached_sizes run).1

def plugged : Bot := botInit (opened 64 64)

/-- TEST UNIT READY, and its CSW taken by the host. -/
def unitReady : List Label :=
  [.out (commandBlock [0, 0, 0, 0] 0 [0x00]) (goodMedium 8 512), .inDone (goodMedium 8 512)]

theorem unitReady_accepted :
    (execute (step mediaConfig) (Responsive mediaConfig) plugged unitReady).isSome = true := by
  decide +kernel

theorem alive_unitReady :
    Alive (final (step mediaConfig) (Responsive mediaConfig) plugged unitReady
      unitReady_accepted) :=
  reached_alive (Run.final _ _ plugged unitReady unitReady_accepted) (by decide) (by decide)

/-- A packet of one byte where a CBW is expected. -/
def shortCommand : List Label := [.out [0x55] (goodMedium 8 512)]

theorem shortCommand_accepted :
    (execute (step mediaConfig) free plugged shortCommand).isSome = true := by decide +kernel

theorem short_command_hangs :
    ¬ ∀ (labels : List Label) (s : Bot), Run (step mediaConfig) free plugged labels s →
      Alive s := by
  intro alive
  have goes := alive _ _ (Run.final _ _ plugged shortCommand shortCommand_accepted)
  have deaf : (final (step mediaConfig) free plugged shortCommand
      shortCommand_accepted).outEp.rxStatus = .nak := by decide +kernel
  have mute : (final (step mediaConfig) free plugged shortCommand
      shortCommand_accepted).inEp.txStatus = .nak := by decide +kernel
  cases goes with
  | command valid => exact absurd (deaf.symm.trans valid) (by decide)
  | dataOut valid => exact absurd (deaf.symm.trans valid) (by decide)
  | queued valid => exact absurd (mute.symm.trans valid) (by decide)
  | halted stall => exact absurd (mute.symm.trans stall) (by decide)

end ApmSdk.Msc
