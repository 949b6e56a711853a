import ApmSdk.Msc.WriteData

set_option autoImplicit false

/-!
# Reset recovery

A machine that has gone through the reset recovery, in status RECOVERY, against the same
machine initialised anew, in status NORMAL.
-/

namespace ApmSdk.Msc

open Usbd Runs

/-- The class reset and two requests that clear halts, in the order in which they come. -/
def recovered (cfg : Config) (s : Bot) (first second : Byte) : Bot :=
  clearFeatureHandler (clearHalt cfg
    (clearFeatureHandler (clearHalt cfg (botReset s) first)) second)

/-- The stalls and CSWs among the events. -/
def observed (events : List Event) : List Event :=
  events.filter fun
    | .stallIn | .stallOut | .csw _ _ _ => true
    | .readData _ _ _ | .writeData _ _ _ _ | .received _ => false

/-- Both machines take the same labels and have then shown the same stalls and CSWs. -/
def Alike (cfg : Config) (b fresh : Bot) (labels : List Label) : Prop :=
  (execute (step cfg) free b labels).map (fun t => observed t.log) =
    (execute (step cfg) free fresh labels).map fun t => observed t.log

/-- The host does not reset the interface again. -/
def Later : Label → Prop
  | .reset => False
  | _ => True

instance (label : Label) : Decidable (Later label) := by
  unfold Later; split <;> infer_instance

def Outcome.failed : Outcome → Bool
  | .ok _ => false
  | .fail _ => true

/-- The condition on one step: in status RECOVERY the IN halt is not cleared and no command
with data from the host fails when it is decoded. -/
def Neutral (cfg : Config) (b : Bot) : Label → Prop
  | .out packet storage =>
      b.status = .recovery → Commands b packet → (b.stored packet).bmFlags = 0 →
        (b.stored packet).dDataXferLen ≠ 0 →
        (cmdHandler cfg (b.stored packet).started storage).failed = false
  | .clearHalt wIndex0 => b.status = .recovery → wIndex0.toNat < 128
  | _ => True

instance (b : Bot) (packet : List Byte) : Decidable (Commands b packet) :=
  decidable_of_iff
    (b.state = .idle ∧ (b.stored packet).outEp.packNum = 0 ∧ (b.stored packet).valid = true)
    ⟨fun ⟨idle, complete, valid⟩ => ⟨idle, complete, valid⟩,
      fun commands => ⟨commands.idle, commands.complete, commands.valid⟩⟩

instance (cfg : Config) (b : Bot) : (label : Label) → Decidable (Neutral cfg b label)
  | .out _ _ => inferInstanceAs (Decidable (_ → _ → _ → _ → _))
  | .inDone _ => instDecidableTrue
  | .clearHalt _ => inferInstanceAs (Decidable (_ → _))
  | .reset => instDecidableTrue

/-- Every step that the machine takes is neutral. -/
def Neutrals (cfg : Config) : Bot → List Label → Prop
  | _, [] => True
  | b, label :: rest =>
      match step cfg b label with
      | some next => Neutral cfg b label ∧ Neutrals cfg next rest
      | none => True

def decidableNeutrals (cfg : Config) : (b : Bot) → (labels : List Label) →
    Decidable (Neutrals cfg b labels)
  | _, [] => instDecidableTrue
  | b, label :: rest => by
      unfold Neutrals
      cases step cfg b label with
      | none => exact instDecidableTrue
      | some next =>
        have := decidableNeutrals cfg next rest
        exact inferInstanceAs (Decidable (Neutral cfg b label ∧ Neutrals cfg next rest))

instance (cfg : Config) (b : Bot) (labels : List Label) : Decidable (Neutrals cfg b labels) :=
  decidableNeutrals cfg b labels

/-! ## What does not depend on the status -/

def Bot.withStatus (b : Bot) (status : BotStatus) : Bot := { b with status := status }

def Outcome.withStatus (status : BotStatus) : Outcome → Outcome
  | .ok b => .ok (b.withStatus status)
  | .fail b => .fail (b.withStatus status)

section

variable {cfg : Config} (b : Bot) (status : BotStatus) (storage : Storage)

theorem scsiRead_withStatus : scsiRead cfg (b.withStatus status) storage =
    (scsiRead cfg b storage).withStatus status := by
  simp only [scsiRead, apply_ite (Outcome.withStatus status)]
  rfl

theorem writeNext_withStatus (len : Nat) :
    (b.withStatus status).writeNext cfg len = (b.writeNext cfg len).withStatus status := by
  simp only [Bot.writeNext, apply_ite (Bot.withStatus · status)]
  rfl

theorem scsiWrite_withStatus : scsiWrite cfg (b.withStatus status) storage =
    (scsiWrite cfg b storage).withStatus status := by
  have next := @writeNext_withStatus cfg (b.writeCall (b.chunkLen cfg)) status (b.chunkLen cfg)
  unfold scsiWrite
  cases storage.writeData with
  | false => rfl
  | true => exact congrArg Outcome.ok next

theorem read10_withStatus : read10 cfg (b.withStatus status) storage =
    (read10 cfg b storage).withStatus status := by
  simp only [read10, apply_ite (Outcome.withStatus status), ← scsiRead_withStatus]
  rfl

theorem write10_withStatus : write10 cfg (b.withStatus status) storage =
    (write10 cfg b storage).withStatus status := by
  simp only [write10, apply_ite (Outcome.withStatus status), ← scsiWrite_withStatus]
  rfl

theorem cmdHandler_withStatus : cmdHandler cfg (b.withStatus status) storage =
    (cmdHandler cfg b storage).withStatus status := by
  have command : (b.withStatus status).command 0 = b.command 0 := rfl
  unfold cmdHandler
  rw [command]
  cases opcode (b.command 0) with
  | read10 => exact read10_withStatus b status storage
  | write10 => exact write10_withStatus b status storage
  | testUnitReady =>
    simp only [testUnitReady, apply_ite (Outcome.withStatus status)]
    rfl
  | inquiry =>
    simp only [inquiry, apply_ite (Outcome.withStatus status)]
    rfl
  | readFormatCapacities =>
    simp only [readFormatCapacity, apply_ite (Outcome.withStatus status)]
    rfl
  | readCapacity10 =>
    simp only [readCapacity10, apply_ite (Outcome.withStatus status)]
    rfl
  | verify10 =>
    simp only [verify10, apply_ite (Outcome.withStatus status)]
    rfl
  | requestSense => rfl
  | startStopUnit => rfl
  | modeSense6 => rfl
  | modeSense10 => rfl
  | other => rfl

theorem inData_withStatus : inData cfg (b.withStatus status) storage =
    (inData cfg b storage).withStatus status := by
  have state : (b.withStatus status).state = b.state := rfl
  unfold inData
  rw [state, cmdHandler_withStatus]
  cases b.state with
  | dataIn => cases cmdHandler cfg b storage <;> rfl
  | idle => rfl
  | dataOut => rfl
  | lastDataIn => rfl
  | sendData => rfl

theorem status_cmdHandler : match cmdHandler cfg b storage with
    | .ok t | .fail t => t.status = b.status := by
  have same : cmdHandler cfg b storage = (cmdHandler cfg b storage).withStatus b.status :=
    cmdHandler_withStatus b b.status storage
  rw [same]
  cases cmdHandler cfg b storage <;> rfl

theorem status_inData : (inData cfg b storage).status = b.status := by
  have same : inData cfg b storage = (inData cfg b storage).withStatus b.status :=
    inData_withStatus b b.status storage
  rw [same]
  rfl

end

/-! ## The two machines step by step -/

/-- One machine is in status RECOVERY where the other is in status NORMAL, or nothing tells
them apart any more. -/
inductive Twins (b fresh : Bot) : Prop
  | recovering (status : b.status = .recovery) (same : fresh = b.withStatus .normal)
  | restored (status : b.status ≠ .recovery) (same : fresh = b)

theorem Twins.log {b fresh : Bot} (twins : Twins b fresh) : fresh.log = b.log := by
  cases twins with
  | recovering _ same => rw [same]; rfl
  | restored _ same => rw [same]

/-- What the two machines do with one label: nothing, something neutral after which they are
still twins, or something that shows. -/
inductive Answer (cfg : Config) (b fresh : Bot) (label : Label) : Prop
  | refused (left : step cfg b label = none) (right : step cfg fresh label = none)
  | neutral {next other : Bot} (left : step cfg b label = some next)
      (right : step cfg fresh label = some other) (neutral : Neutral cfg b label)
      (twins : Twins next other)
  | apart {next other : Bot} (left : step cfg b label = some next)
      (right : step cfg fresh label = some other) (harmful : ¬ Neutral cfg b label)
      (seen : observed next.log ≠ observed other.log)

theorem apart_stalls (earlier : List Event) :
    observed (earlier ++ [.stallIn]) ≠ observed (earlier ++ [.stallOut, .stallIn]) := by
  simp [observed]

section

variable {cfg : Config} {b : Bot} {storage : Storage}

/-- A failed command is stalled alike unless its data came from the host. -/
theorem stall_recovering {t : Bot} (recovering : t.status = .recovery)
    (neutral : t.bmFlags = 0 → t.dDataXferLen = 0) :
    stall (t.withStatus .normal) = (stall t).withStatus .normal := by
  have left : ¬ t.HaltsOut := fun ⟨out, more, _⟩ => more (neutral out)
  have right : ¬ (t.withStatus .normal).HaltsOut := fun ⟨out, more, _⟩ => more (neutral out)
  have broken : t.status ≠ .error := by rw [recovering]; exact nofun
  have fresh : (t.withStatus .normal).status ≠ .error := nofun
  rw [stall_eq broken, stall_eq fresh]
  simp only [if_neg left, if_neg right]
  rfl

theorem stall_apart {t : Bot} (recovering : t.status = .recovery) (out : t.bmFlags = 0)
    (some : t.dDataXferLen ≠ 0) :
    observed (stall t).log ≠ observed (stall (t.withStatus .normal)).log := by
  have left : ¬ t.HaltsOut := fun ⟨_, _, normal⟩ => absurd (recovering.symm.trans normal) nofun
  have right : (t.withStatus .normal).HaltsOut := ⟨out, some, rfl⟩
  have broken : t.status ≠ .error := by rw [recovering]; exact nofun
  have fresh : (t.withStatus .normal).status ≠ .error := nofun
  rw [stall_eq broken, stall_eq fresh]
  simp only [if_neg left, if_pos right]
  exact apart_stalls t.log

theorem status_stall (t : Bot) : (stall t).status = t.status := by
  unfold stall
  dsimp only
  split <;> split <;> rfl

theorem cbw_failed (idle : b.state = .idle) {t : Bot}
    (failed : cmdHandler cfg b storage = .fail t) : t.cbw = b.cbw := by
  have command : Command cfg b storage (cmdHandler cfg b storage) := cmdHandler_idle idle
  generalize cmdHandler cfg b storage = outcome at command failed
  cases command with
  | failed kept =>
    cases failed
    exact kept.cbw
  | replied => cases failed
  | reading =>
    simp only [scsiRead] at failed
    split at failed
    · cases failed
      rfl
    · cases failed
  | writing => cases failed

theorem decodeCBW_twins (idle : b.state = .idle) (recovering : b.status = .recovery) :
    let neutral := b.valid = true → b.bmFlags = 0 → b.dDataXferLen ≠ 0 →
      (cmdHandler cfg b.started storage).failed = false
    (neutral → Twins (decodeCBW cfg b storage) (decodeCBW cfg (b.withStatus .normal) storage)) ∧
    (¬ neutral → observed (decodeCBW cfg b storage).log ≠
      observed (decodeCBW cfg (b.withStatus .normal) storage).log) := by
  have valid : (b.withStatus .normal).started.valid = b.valid := rfl
  have handled : cmdHandler cfg (b.withStatus .normal).started storage =
      (cmdHandler cfg b.started storage).withStatus .normal :=
    cmdHandler_withStatus b.started .normal storage
  have status := @status_cmdHandler cfg b.started storage
  have waiting : b.started.state = .idle := idle
  have accepted : b.started.valid = b.valid := rfl
  unfold decodeCBW
  simp only [valid, accepted, handled]
  cases b.valid with
  | false =>
    simp only [Bool.not_false, if_true]
    have broken : BotStatus.error ≠ .recovery := by decide
    refine ⟨fun _ => .restored broken rfl, fun harmful => absurd ?_ harmful⟩
    intro true
    cases true
  | true =>
    simp only [Bool.not_true, Bool.false_eq_true, if_false, forall_const]
    cases outcome : cmdHandler cfg b.started storage with
    | fail t =>
      rw [outcome] at status
      have recovering' : t.status = .recovery := status.trans recovering
      have cbw : t.cbw = b.cbw := cbw_failed waiting outcome
      have flags : t.bmFlags = b.bmFlags := congrArg (fun cbw : Nat → Byte => cbw 12) cbw
      have length : t.dDataXferLen = b.dDataXferLen := by simp only [Bot.dDataXferLen, cbw]
      simp only [Outcome.failed, Outcome.withStatus, Bool.true_eq_false, imp_false, not_not,
        ← flags, ← length]
      constructor
      · intro neutral
        exact .recovering ((status_stall t).trans recovering')
          (stall_recovering recovering' neutral)
      · intro harmful
        obtain ⟨out, more⟩ := Classical.not_imp.mp harmful
        exact stall_apart recovering' out more
    | ok t =>
      rw [outcome] at status
      have recovering' : t.status = .recovery := status.trans recovering
      simp only [Outcome.failed, implies_true, not_true_eq_false, false_implies, and_true,
        forall_const, Outcome.withStatus]
      have state : (t.withStatus .normal).state = t.state := rfl
      have dataLen : (t.withStatus .normal).dataLen = t.dataLen := rfl
      rw [state, dataLen]
      split
      · split
        · exact .recovering recovering' rfl
        · exact .recovering recovering' rfl
      · exact .recovering recovering' rfl

theorem outData_withStatus (busy : b.state ≠ .idle) (status : BotStatus) :
    outData cfg (b.withStatus status) storage = (outData cfg b storage).withStatus status := by
  have state : (b.withStatus status).state = b.state := rfl
  unfold outData
  rw [state, cmdHandler_withStatus]
  cases waiting : b.state with
  | idle => exact absurd waiting busy
  | dataOut => cases cmdHandler cfg b storage <;> rfl
  | dataIn => rfl
  | lastDataIn => rfl
  | sendData => rfl

theorem status_outData (busy : b.state ≠ .idle) : (outData cfg b storage).status = b.status := by
  have same : outData cfg b storage = (outData cfg b storage).withStatus b.status :=
    outData_withStatus busy b.status
  rw [same]
  rfl

theorem answer_out (recovering : b.status = .recovery) (packet : List Byte) :
    Answer cfg b (b.withStatus .normal) (.out packet storage) := by
  have step_out (t : Bot) (same : t.outEp = b.outEp) : step cfg t (.out packet storage) =
      if b.outEp.rxStatus = .valid ∧ packet.length ≤ rxCapacity b.outEp.rxCount then
        some (dataOutProcess cfg t packet storage) else none := by rw [step, same]
  by_cases armed : b.outEp.rxStatus = .valid ∧ packet.length ≤ rxCapacity b.outEp.rxCount
  · have left := step_out b rfl
    have right := step_out (b.withStatus .normal) rfl
    rw [if_pos armed] at left right
    have packNum : ((b.stored packet).withStatus .normal).outEp.packNum =
        (b.stored packet).outEp.packNum := rfl
    have fresh : (b.withStatus .normal).stored packet = (b.stored packet).withStatus .normal := rfl
    by_cases last : (b.stored packet).outEp.packNum = 0
    · simp only [dataOutProcess, fresh, packNum, if_pos last] at left right
      by_cases idle : (b.stored packet).state = .idle
      · obtain ⟨twins, apart⟩ := @decodeCBW_twins cfg (b.stored packet) storage idle recovering
        have decoded (t : Bot) (state : t.state = .idle) :
            outData cfg t storage = decodeCBW cfg t storage := by simp only [outData, state]
        rw [decoded _ idle] at left
        have idle' : ((b.stored packet).withStatus .normal).state = .idle := idle
        rw [decoded _ idle'] at right
        by_cases neutral : Neutral cfg b (.out packet storage)
        · exact .neutral left right neutral
            (twins fun valid => neutral recovering ⟨idle, last, valid⟩)
        · exact .apart left right neutral
            (apart fun allowed => neutral fun _ commands => allowed commands.valid)
      · rw [outData_withStatus idle] at right
        exact .neutral left right (fun _ commands => absurd commands.idle idle)
          (.recovering ((status_outData idle).trans recovering) rfl)
    · simp only [dataOutProcess, fresh, packNum, if_neg last] at left right
      exact .neutral left right (fun _ commands => absurd commands.complete last)
        (.recovering recovering rfl)
  · have left := step_out b rfl
    have right := step_out (b.withStatus .normal) rfl
    rw [if_neg armed] at left right
    exact .refused left right

theorem answer_inDone (recovering : b.status = .recovery) :
    Answer cfg b (b.withStatus .normal) (.inDone storage) := by
  by_cases valid : b.inEp.txStatus = .valid
  · have left : step cfg b (.inDone storage) =
        some (dataInProcess cfg { b with inEp.txStatus := .nak } storage) := if_pos valid
    have right : step cfg (b.withStatus .normal) (.inDone storage) =
        some (dataInProcess cfg { b.withStatus .normal with inEp.txStatus := .nak } storage) :=
      if_pos valid
    let waiting : Bot := { b with inEp.txStatus := .nak }
    have twins : Twins (dataInProcess cfg waiting storage)
        (dataInProcess cfg (waiting.withStatus .normal) storage) := by
      have packNum : (waiting.withStatus .normal).inEp.packNum = waiting.inEp.packNum := rfl
      simp only [dataInProcess, packNum]
      split
      · exact .recovering recovering rfl
      · exact .recovering ((status_inData _ _).trans recovering) (inData_withStatus _ _ _)
    exact .neutral left right trivial twins
  · have left : step cfg b (.inDone storage) = none := if_neg valid
    have right : step cfg (b.withStatus .normal) (.inDone storage) = none := if_neg valid
    exact .refused left right

theorem answer_clearHalt (recovering : b.status = .recovery) (wIndex0 : Byte) :
    Answer cfg b (b.withStatus .normal) (.clearHalt wIndex0) := by
  by_cases inbound : 128 ≤ wIndex0.toNat
  · have harmful : ¬ Neutral cfg b (.clearHalt wIndex0) := fun neutral =>
      absurd inbound (Nat.not_le_of_lt (neutral recovering))
    refine .apart rfl rfl harmful ?_
    simp [clearFeatureHandler, clearHalt, inbound, recovering, Bot.withStatus, observed]
  · refine .neutral rfl rfl (fun _ => Nat.lt_of_not_le inbound) ?_
    have left : clearFeatureHandler (clearHalt cfg b wIndex0) = clearHalt cfg b wIndex0 := by
      simp [clearFeatureHandler, clearHalt, inbound, recovering]
    have right : clearFeatureHandler (clearHalt cfg (b.withStatus .normal) wIndex0) =
        (clearHalt cfg b wIndex0).withStatus .normal := by
      simp [clearFeatureHandler, clearHalt, inbound, Bot.withStatus]
      rfl
    rw [left, right]
    refine .recovering ?_ rfl
    simp [clearHalt, inbound, recovering]

/-- No command and no clear-halt request leads back to status RECOVERY. -/
theorem status_decodeCBW (idle : b.state = .idle) (normal : b.status ≠ .recovery) :
    (decodeCBW cfg b storage).status ≠ .recovery := by
  have decoded : Decoded cfg b storage (decodeCBW cfg b storage) := decodeCBW_cases idle
  generalize decodeCBW cfg b storage = after at decoded
  cases decoded with
  | refused => exact nofun
  | failed _ kept =>
    rw [status_stall, kept.status]
    exact normal
  | replied _ kept =>
    split
    · exact fun recovering => normal (kept.status.symm.trans recovering)
    · exact fun recovering => normal (kept.status.symm.trans recovering)
  | unread _ _ _ begun =>
    rw [status_stall, begun]
    exact normal
  | reading _ _ _ begun =>
    rw [begun]
    exact normal
  | writing _ _ begun =>
    rw [begun]
    exact normal

theorem status_later {label : Label} {next : Bot} (normal : b.status ≠ .recovery)
    (later : Later label) (taken : step cfg b label = some next) : next.status ≠ .recovery := by
  cases label with
  | out packet storage =>
    obtain ⟨_, rfl⟩ := step_out taken
    simp only [dataOutProcess]
    split
    · by_cases idle : (b.stored packet).state = .idle
      · have decoded := @status_decodeCBW cfg (b.stored packet) storage idle normal
        simp only [outData, idle]
        exact decoded
      · rw [status_outData idle]
        exact normal
    · exact normal
  | inDone storage =>
    obtain ⟨_, rfl⟩ := step_inDone taken
    simp only [dataInProcess]
    split
    · exact normal
    · rw [status_inData]
      exact normal
  | clearHalt wIndex0 =>
    obtain rfl := Option.some.inj taken
    have same : (clearHalt cfg b wIndex0).status = b.status := by
      unfold clearHalt
      dsimp only
      split <;> rfl
    unfold clearFeatureHandler
    split
    · intro recovering
      cases recovering
    · split
      · exact fun recovering => normal (same.symm.trans recovering)
      · rw [same]
        exact normal
  | reset => exact absurd later id

theorem Twins.answer {fresh : Bot} {label : Label} (twins : Twins b fresh)
    (later : Later label) : Answer cfg b fresh label := by
  cases twins with
  | recovering recovering same =>
    rw [same]
    cases label with
    | out packet storage => exact answer_out recovering packet
    | inDone storage => exact answer_inDone recovering
    | clearHalt wIndex0 => exact answer_clearHalt recovering wIndex0
    | reset => exact absurd later id
  | restored normal same =>
    subst same
    cases taken : step cfg fresh label with
    | none => exact .refused taken taken
    | some next =>
      have neutral : Neutral cfg fresh label := by
        cases label with
        | out => exact fun recovering => absurd recovering normal
        | inDone => trivial
        | clearHalt => exact fun recovering => absurd recovering normal
        | reset => exact absurd later id
      exact .neutral taken taken neutral (.restored (status_later normal later taken) rfl)

theorem execute_cons {label : Label} {next : Bot} (taken : step cfg b label = some next)
    (rest : List Label) :
    execute (step cfg) free b (label :: rest) = execute (step cfg) free next rest := by
  have admitted : free b label := trivial
  rw [execute, if_pos admitted, taken]

theorem execute_refused {label : Label} (refused : step cfg b label = none) (rest : List Label) :
    execute (step cfg) free b (label :: rest) = none := by
  have admitted : free b label := trivial
  rw [execute, if_pos admitted, refused]

theorem alike_iff_neutral {fresh : Bot} (twins : Twins b fresh) {labels : List Label}
    (later : ∀ label ∈ labels, Later label) :
    (∀ earlier, earlier <+: labels → Alike cfg b fresh earlier) ↔ Neutrals cfg b labels := by
  induction labels generalizing b fresh with
  | nil =>
    refine iff_of_true (fun earlier early => ?_) trivial
    rw [List.prefix_nil.mp early]
    simp only [Alike, execute, Option.map_some, twins.log]
  | cons label rest ih =>
    have first (earlier : List Label) (early : earlier <+: label :: rest) :
        earlier = [] ∨ ∃ shorter, earlier = label :: shorter ∧ shorter <+: rest := by
      cases earlier with
      | nil => exact .inl rfl
      | cons head shorter =>
        obtain ⟨rfl, sooner⟩ := List.cons_prefix_cons.mp early
        exact .inr ⟨shorter, rfl, sooner⟩
    have initial : Alike cfg b fresh [] := by
      simp only [Alike, execute, Option.map_some, twins.log]
    have answer : Answer cfg b fresh label := twins.answer (later label List.mem_cons_self)
    cases answer with
    | refused left right =>
      simp only [Neutrals, left, iff_true]
      intro earlier early
      rcases first earlier early with rfl | ⟨shorter, rfl, _⟩
      · exact initial
      · rw [Alike, execute_refused left, execute_refused right]
    | @neutral next other left right neutral twins =>
      have same (shorter : List Label) :
          Alike cfg b fresh (label :: shorter) ↔ Alike cfg next other shorter := by
        rw [Alike, Alike, execute_cons left, execute_cons right]
      have rest' := ih twins fun label member => later label (List.mem_cons_of_mem _ member)
      simp only [Neutrals, left, neutral, true_and, ← rest']
      constructor
      · intro alike shorter early
        exact (same shorter).mp (alike _ (List.cons_prefix_cons.mpr ⟨rfl, early⟩))
      · intro alike earlier early
        rcases first earlier early with rfl | ⟨shorter, rfl, sooner⟩
        · exact initial
        · exact (same shorter).mpr (alike shorter sooner)
    | apart left right harmful seen =>
      simp only [Neutrals, left, harmful, false_and, iff_false]
      intro alike
      have one := alike [label] (List.cons_prefix_cons.mpr ⟨rfl, List.nil_prefix⟩)
      rw [Alike, execute_cons left, execute_cons right] at one
      exact seen (Option.some.inj one)

/-- The state BOT_IDLE with the OUT endpoint armed for a CBW, in status RECOVERY. -/
structure Recovering (b : Bot) : Prop where
  state : b.state = .idle
  status : b.status = .recovery
  outEp : b.outEp.rxData (some ⟨.cbw, 0⟩) cbwLength = b.outEp

theorem Recovering.cleared (recovering : Recovering b) (wIndex0 : Byte) :
    Recovering (clearFeatureHandler (clearHalt cfg b wIndex0)) := by
  have armed : b.outEp.rxStatus ≠ .stall := by
    rw [← recovering.outEp]
    exact nofun
  have cleared : Recovering (clearHalt cfg b wIndex0) := by
    unfold clearHalt
    simp only [armed, if_false]
    split
    · exact ⟨recovering.state, recovering.status, recovering.outEp⟩
    · exact ⟨recovering.state, recovering.status, recovering.outEp⟩
  have quiet : clearFeatureHandler (clearHalt cfg b wIndex0) = clearHalt cfg b wIndex0 := by
    simp [clearFeatureHandler, cleared.status]
  rw [quiet]
  exact cleared

theorem Recovering.initialised (recovering : Recovering b) : botInit b = b.withStatus .normal := by
  have armed : botInit b = { b.withStatus .normal with
      state := .idle
      outEp := b.outEp.rxData (some ⟨.cbw, 0⟩) cbwLength } := rfl
  rw [armed, recovering.outEp, ← recovering.state]
  rfl

theorem recovered_recovering (cfg : Config) (s : Bot) (first second : Byte) :
    Recovering (recovered cfg s first second) := by
  have reset : Recovering (botReset s) := ⟨rfl, rfl, rfl⟩
  exact (reset.cleared first).cleared second

end

/-- After the reset recovery, from any state, the machine answers every later sequence of
packets and clear-halt requests as one that was initialised anew exactly when every step it
takes is neutral. -/
theorem recovery_complete_iff_neutral (cfg : Config) (s : Bot) (first second : Byte)
    {labels : List Label} (later : ∀ label ∈ labels, Later label) :
    (∀ earlier, earlier <+: labels → Alike cfg (recovered cfg s first second)
      (botInit (recovered cfg s first second)) earlier) ↔
    Neutrals cfg (recovered cfg s first second) labels := by
  have recovering := recovered_recovering cfg s first second
  exact alike_iff_neutral (.recovering recovering.status recovering.initialised) later

/-- TEST UNIT READY and its CSW after the recovery, a refused CBW, and the halt cleared. -/
def refusedRecovery : List Label :=
  unitReady ++ [.out [0x55] (goodMedium 8 512), .clearHalt 0x81]

theorem refusedRecovery_alike : Alike mediaConfig (recovered mediaConfig plugged 0x81 0x02)
    (botInit (recovered mediaConfig plugged 0x81 0x02)) refusedRecovery :=
  (recovery_complete_iff_neutral mediaConfig plugged 0x81 0x02 (by decide)).mpr
    (by decide +kernel) _ (List.prefix_refl _)

/-- An unknown command that fails after the recovery, and its halt cleared. -/
def failedRecovery : List Label :=
  [.out (commandBlock [0, 0, 0, 0] 0x80 [0xFF]) (goodMedium 8 512), .clearHalt 0x81]

theorem recovery_loses_csw : ¬ ∀ (labels : List Label), (∀ label ∈ labels, Later label) →
    Alike mediaConfig (recovered mediaConfig plugged 0x81 0x02)
      (botInit (recovered mediaConfig plugged 0x81 0x02)) labels := by
  intro alike
  have same := alike failedRecovery (by decide)
  exact absurd same (by unfold Alike; decide +kernel)

end ApmSdk.Msc
