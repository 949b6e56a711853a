import ApmSdk.Msc.Reached

set_option autoImplicit false

/-!
# What is known of the medium

`s_blkSize` and `s_blkNbr` belong to no unit: what the last `ReadCapacity` of a READ CAPACITY(10)
has left in them stays until the next one.
-/

namespace ApmSdk.Msc

open Usbd

def Label.storage : Label → Option Storage
  | .out _ storage => some storage
  | .inDone storage => some storage
  | _ => none

def Bot.geometry (b : Bot) : Nat × Nat := (b.blkSize, b.blkNbr)

def Storage.geometry (storage : Storage) : Nat × Nat :=
  (storage.blkSize.toNat, storage.blkNbr.toNat)

def Outcome.bot : Outcome → Bot
  | .ok b => b
  | .fail b => b

/-- What `ReadCapacity` leaves in them at a READ CAPACITY(10), for whichever unit it is. -/
def learnt (b : Bot) : Label → Option (Nat × Nat)
  | .out packet storage =>
      let t := b.stored packet
      if (b.state = .idle ∧ t.outEp.packNum = 0 ∧ t.valid = true) ∧
          opcode (t.command 0) = .readCapacity10 then
        some storage.geometry
      else none
  | _ => none

section

variable {cfg : Config} {b : Bot} {storage : Storage}

theorem geometry_stall (b : Bot) : (stall b).geometry = b.geometry := by
  unfold stall
  dsimp only
  split <;> split <;> rfl

theorem geometry_writeNext (len : Nat) : (b.writeNext cfg len).geometry = b.geometry := by
  unfold Bot.writeNext
  dsimp only
  split <;> rfl

theorem geometry_readCall (len : Nat) : (b.readCall storage len).geometry = b.geometry := rfl

theorem geometry_readNext (len : Nat) : (b.readNext len).geometry = b.geometry := rfl

theorem geometry_scsiRead : (scsiRead cfg b storage).bot.geometry = b.geometry := by
  have called : (b.readCall storage (b.chunkLen cfg)).geometry = b.geometry := geometry_readCall _
  unfold scsiRead
  dsimp only
  generalize b.readCall storage (b.chunkLen cfg) = t at called ⊢
  split
  next => exact called
  next => exact (geometry_readNext _).trans called

theorem geometry_scsiWrite : (scsiWrite cfg b storage).bot.geometry = b.geometry := by
  unfold scsiWrite
  dsimp only
  split
  next => rfl
  next => exact geometry_writeNext _

theorem geometry_read10 : (read10 cfg b storage).bot.geometry = b.geometry := by
  unfold read10
  dsimp only
  split
  next =>
    split
    next => rfl
    next =>
      split
      next => rfl
      next =>
        split
        next => rfl
        next =>
          split
          next => rfl
          next => exact geometry_scsiRead
  next => exact geometry_scsiRead

theorem geometry_write10 : (write10 cfg b storage).bot.geometry = b.geometry := by
  unfold write10
  dsimp only
  split
  next =>
    split
    next => rfl
    next =>
      split
      next => rfl
      next =>
        split
        next => rfl
        next =>
          split
          next => rfl
          next => split <;> rfl
  next => exact geometry_scsiWrite

theorem geometry_readCapacity10 (capacity : opcode (b.command 0) = .readCapacity10) :
    (cmdHandler cfg b storage).bot.geometry = storage.geometry := by
  simp only [cmdHandler, capacity]
  unfold readCapacity10
  dsimp only
  split <;> rfl

/-- Only READ CAPACITY(10) changes what is known of the medium. -/
theorem geometry_cmdHandler (other : opcode (b.command 0) ≠ .readCapacity10) :
    (cmdHandler cfg b storage).bot.geometry = b.geometry := by
  unfold cmdHandler
  split
  next =>
    unfold testUnitReady
    split
    next => rfl
    next => split <;> rfl
  next =>
    unfold inquiry
    split <;> rfl
  next => rfl
  next =>
    unfold readFormatCapacity
    split <;> rfl
  next capacity => exact absurd capacity other
  next => exact geometry_read10
  next => exact geometry_write10
  next =>
    unfold verify10
    split
    next => rfl
    next =>
      dsimp only
      split <;> rfl
  next => rfl
  next => rfl
  next => rfl
  next => rfl

-- The status and the reply of a command leave it as its handler has.
theorem geometry_decoded (valid : b.valid = true) :
    (decodeCBW cfg b storage).geometry = (cmdHandler cfg b.started storage).bot.geometry := by
  have started : b.started.valid = true := valid
  simp only [decodeCBW, started, Bool.not_true, Bool.false_eq_true, if_false]
  cases cmdHandler cfg b.started storage with
  | fail t => exact geometry_stall t
  | ok t =>
    dsimp only
    split
    next => split <;> rfl
    next => rfl

theorem geometry_refused (invalid : b.valid ≠ true) :
    (decodeCBW cfg b storage).geometry = b.geometry := by
  have refused : b.started.valid = false := Bool.eq_false_of_not_eq_true invalid
  simp only [decodeCBW, refused, Bool.not_false, if_true]
  rfl

theorem geometry_decodeCBW : (decodeCBW cfg b storage).geometry =
    if b.valid = true ∧ opcode (b.command 0) = .readCapacity10 then storage.geometry
    else b.geometry := by
  split
  next capacity =>
    rw [geometry_decoded capacity.1]
    exact geometry_readCapacity10 capacity.2
  next other =>
    by_cases valid : b.valid = true
    next =>
      rw [geometry_decoded valid]
      exact geometry_cmdHandler fun capacity => other ⟨valid, capacity⟩
    next => exact geometry_refused valid

theorem geometry_writing (state : b.state = .dataOut) (write : opcode (b.command 0) = .write10) :
    (outData cfg b storage).geometry = b.geometry := by
  have handled : (cmdHandler cfg b storage).bot.geometry = b.geometry :=
    geometry_cmdHandler (by rw [write]; decide)
  simp only [outData, state]
  generalize cmdHandler cfg b storage = outcome at handled
  cases outcome with
  | ok t => exact handled
  | fail t => exact handled

theorem geometry_inData (reading : b.state = .dataIn → opcode (b.command 0) = .read10) :
    (inData cfg b storage).geometry = b.geometry := by
  unfold inData
  split
  next state =>
    have handled : (cmdHandler cfg b storage).bot.geometry = b.geometry :=
      geometry_cmdHandler (by rw [reading state]; decide)
    generalize cmdHandler cfg b storage = outcome at handled
    cases outcome with
    | ok t => exact handled
    | fail t => exact handled
  next => rfl
  next => rfl
  next => rfl

theorem geometry_outData (sound : Sound b) : (outData cfg b storage).geometry =
    if b.state = .idle ∧ b.valid = true ∧ opcode (b.command 0) = .readCapacity10 then
      storage.geometry
    else b.geometry := by
  cases state : b.state with
  | idle =>
    simp only [outData, state, true_and]
    exact geometry_decodeCBW
  | dataOut =>
    have busy : BotState.dataOut ≠ .idle := by decide
    rw [if_neg fun capacity => busy capacity.1]
    exact geometry_writing state (sound.writing state)
  | dataIn | lastDataIn | sendData =>
    simp only [outData, state]
    rfl

-- Nothing has changed but status bits, and a halted IN endpoint has not been started.
structure Still (b after : Bot) : Prop where
  state : after.state = b.state
  geometry : after.geometry = b.geometry
  blkAddr : after.blkAddr = b.blkAddr
  blkLen : after.blkLen = b.blkLen
  memory : after.memory = b.memory
  log : after.log = b.log
  inEp : { after.inEp with txStatus := b.inEp.txStatus } = b.inEp
  outEp : { after.outEp with rxStatus := b.outEp.rxStatus } = b.outEp
  halted : after.inEp.txStatus = .valid → b.inEp.txStatus = .valid

theorem still_clearHalt (cfg : Config) (b : Bot) (wIndex0 : Byte) :
    Still b (clearHalt cfg b wIndex0) := by
  unfold clearHalt
  dsimp only
  split
  next =>
    refine ⟨rfl, rfl, rfl, rfl, rfl, rfl, rfl, rfl, fun valid => ?_⟩
    dsimp only at valid
    split at valid
    next => cases valid
    next => exact valid
  next => exact ⟨rfl, rfl, rfl, rfl, rfl, rfl, rfl, rfl, id⟩

theorem cleared_cases (cfg : Config) (b : Bot) (wIndex0 : Byte) :
    Still b (clearFeatureHandler (clearHalt cfg b wIndex0)) ∨
      ∃ t, Still b t ∧ clearFeatureHandler (clearHalt cfg b wIndex0) = txCSW t .cmdFail := by
  have still := still_clearHalt cfg b wIndex0
  generalize clearHalt cfg b wIndex0 = t at still
  unfold clearFeatureHandler
  split
  next =>
    left
    obtain ⟨state, geometry, blkAddr, blkLen, memory, log, inEp, outEp, halted⟩ := still
    exact ⟨state, geometry, blkAddr, blkLen, memory, log, inEp, outEp, nofun⟩
  next =>
    split
    next => exact .inr ⟨t, still, rfl⟩
    next => exact .inl still

/-- A step changes what is known of the medium if it is a READ CAPACITY(10), and only then. -/
theorem geometry_step {label : Label} {after : Bot} (sound : Sound b)
    (taken : step cfg b label = some after) :
    after.geometry = (learnt b label).getD b.geometry := by
  cases label with
  | out packet storage =>
    obtain ⟨⟨valid, -⟩, rfl⟩ := step_out taken
    have kept : (b.stored packet).geometry = b.geometry := rfl
    unfold dataOutProcess learnt
    dsimp only
    split
    next complete =>
      rw [geometry_outData (sound.stored valid packet), kept]
      split
      next capacity =>
        obtain ⟨idle, whole, command⟩ := capacity
        rw [if_pos ⟨⟨idle, complete, whole⟩, command⟩, Option.getD_some]
      next other =>
        rw [if_neg fun command => other ⟨command.1.1, command.1.2.2, command.2⟩, Option.getD_none]
    next more =>
      rw [if_neg (fun command => more command.1.2.1)]
      exact kept
  | inDone storage =>
    obtain ⟨-, rfl⟩ := step_inDone taken
    unfold dataInProcess
    split
    next => rfl
    next => exact geometry_inData sound.reading
  | clearHalt wIndex0 =>
    obtain rfl := Option.some.inj taken
    obtain still | ⟨t, still, answered⟩ := cleared_cases cfg b wIndex0
    next => exact still.geometry
    next =>
      rw [answered]
      exact still.geometry
  | reset =>
    obtain rfl := Option.some.inj taken
    rfl

theorem geometry_cases {label : Label} {after : Bot} (sound : Sound b)
    (taken : step cfg b label = some after) : after.geometry = b.geometry ∨
      ∃ storage ∈ label.storage, after.geometry = storage.geometry := by
  rw [geometry_step sound taken]
  cases label with
  | out packet storage =>
    unfold learnt
    dsimp only
    split
    next => exact .inr ⟨storage, rfl, rfl⟩
    next => exact .inl rfl
  | inDone | clearHalt | reset => exact .inl rfl

end

end ApmSdk.Msc
