import ApmSdk.Usbh.Channel

set_option autoImplicit false

/-!
# The outcomes of transfers

What the channel handlers report is true of the transfer in progress, and a processed halt is
always reported, in every run whose halts are accounted for.
-/

namespace ApmSdk.Usbh

open Runs FlagRegister

namespace Channel

/-! ## Truthful outcomes -/

def sees (channel : Channel) (flag : ChannelInt) : Bool := channel.seen.getLsbD flag.bit

def seesError (channel : Channel) : Bool :=
  [ChannelInt.ahbErr, .tErr, .babble, .fovr, .dtog].any channel.sees

structure Truthful (channel : Channel) : Prop where
  ok : channel.outcome = some .ok → channel.sees .tsfcmpn = true
  stall : channel.outcome = some .stall → channel.sees .rxStall = true
  error : channel.outcome = some .error → channel.seesError = true
  answered : channel.halted = true → channel.urbStatus ≠ .idle

/-- The handler comes to its test for the halt and finds it. -/
def processesHalt (channel : Channel) : Bool :=
  channel.read .tsfcmpan &&
    (if channel.dirIn then [ChannelInt.ahbErr, .rxTxAck, .rxStall, .dtog, .fovr, .tsfcmpn]
      else [ChannelInt.ahbErr, .fovr, .tsfcmpn, .rxTxAck, .rxStall, .rxNak, .tErr, .rxNyet,
        .dtog]).all fun flag => !channel.read flag

-- The status that the handlers have for a `pipeState`.
def told : Bool → PipeState → Option UrbStatus
  | _, .ok => some .ok
  | _, .stall => some .stall
  | _, .xactErr | true, .dataTglErr => some .error
  | false, .nak | false, .nyet => some .noReady
  | _, _ => none

/-- The flag of the status was seen; where there is none, it was set before. -/
def Believable (channel : Channel) : Prop :=
  match told channel.dirIn channel.pipeState with
  | some .ok => channel.sees .tsfcmpn = true
  | some .stall => channel.sees .rxStall = true
  | some .error => channel.seesError = true
  | some _ => True
  | none => channel.urbStatus ≠ .idle

instance (channel : Channel) : Decidable channel.Believable := by
  unfold Believable
  split <;> infer_instance

/-! ## Accesses -/

@[simp] theorem hchint_clearInt (channel : Channel) (flag : ChannelInt) :
    (channel.clearInt flag).hchint = 0 := by
  have cleared : ∀ register flags : BitVec 32, orAssign register 0 flags = 0 := by
    intro register flags
    apply BitVec.eq_of_getLsbD_eq
    intro bit _
    simp only [orAssign, getLsbD_written, BitVec.getLsbD_or]
    cases register.getLsbD bit <;> simp
  exact cleared _ _

theorem read_clear {channel : Channel} (clear : channel.hchint = 0) (flag : ChannelInt) :
    channel.read flag = false := by
  simp [read, clear]

theorem ChannelInt.within (flag : ChannelInt) : flag.bit < 32 := by
  cases flag <;> decide

theorem bit_inj {first second : ChannelInt} : first.bit = second.bit ↔ first = second := by
  constructor
  · intro same
    cases first <;> cases second <;> first | rfl | exact absurd same (by decide)
  · intro same
    rw [same]

/-- What a step that reports nothing leaves. -/
structure Keeps (before after : Channel) : Prop where
  dirIn : after.dirIn = before.dirIn
  seen : after.seen = before.seen
  outcome : after.outcome = before.outcome
  urbStatus : after.urbStatus = before.urbStatus
  halted : after.halted = true → before.halted = true

theorem Keeps.refl (channel : Channel) : Keeps channel channel :=
  ⟨rfl, rfl, rfl, rfl, id⟩

theorem Keeps.truthful {before after : Channel} (keeps : Keeps before after)
    (truthful : before.Truthful) : after.Truthful := by
  obtain ⟨_, seen, outcome, urbStatus, halted⟩ := keeps
  refine ⟨?_, ?_, ?_, ?_⟩
  · simpa [sees, seen, outcome] using truthful.ok
  · simpa [sees, seen, outcome] using truthful.stall
  · simpa [seesError, sees, seen, outcome] using truthful.error
  · intro processed
    rw [urbStatus]
    exact truthful.answered (halted processed)

/-- What a handler does that reports nothing, one write after the other. -/
inductive Writes (before : Channel) : Channel → Prop
  | none : Writes before before
  | clearInt {after : Channel} (flag : ChannelInt) :
      Writes before after → Writes before (after.clearInt flag)
  | enableInt {after : Channel} (flag : ChannelInt) :
      Writes before after → Writes before (after.enableInt flag)
  | setPipe {after : Channel} (pipeState : PipeState) :
      Writes before after → Writes before (after.setPipe pipeState)
  | haltChannel {after : Channel} : Writes before after → Writes before after.haltChannel
  | enableChannel {after : Channel} : Writes before after → Writes before after.enableChannel
  | toggleDataPid {after : Channel} : Writes before after → Writes before after.toggleDataPid

theorem Writes.keeps {before after : Channel} (writes : Writes before after) :
    Keeps before after := by
  induction writes with
  | none => exact Keeps.refl before
  | enableChannel _ ih =>
    exact ⟨ih.dirIn, ih.seen, ih.outcome, ih.urbStatus, fun halted => (by cases halted)⟩
  | clearInt _ _ ih | enableInt _ _ ih | setPipe _ _ ih | haltChannel _ ih | toggleDataPid _ ih =>
    exact ⟨ih.dirIn, ih.seen, ih.outcome, ih.urbStatus, ih.halted⟩

theorem Writes.outStop {before after : Channel} (writes : Writes before after)
    (flag : ChannelInt) : Writes before (after.outStop flag) :=
  ((writes.clearInt flag).enableInt .tsfcmpan).haltChannel

theorem inResponses_writes (channel : Channel) : Writes channel channel.inResponses.1 := by
  simp only [inResponses]
  split
  · exact (Writes.none.clearInt _).enableInt _
  split
  · exact Writes.none.clearInt _
  split
  · exact ((((Writes.none.enableInt _).setPipe _).clearInt _).clearInt _).haltChannel
  split
  · exact ((((Writes.none.enableInt _).haltChannel).clearInt _).setPipe _).clearInt _
  · exact .none

/-- Either the chain finds nothing, or no flag is left for the one after it. -/
theorem inResponses_cases (channel : Channel) :
    channel.inResponses = (channel, false) ∧
        (∀ flag ∈ [ChannelInt.ahbErr, .rxTxAck, .rxStall, .dtog], channel.read flag = false) ∨
      channel.inResponses.1.hchint = 0 ∧
        ∃ flag ∈ [ChannelInt.ahbErr, .rxTxAck, .rxStall, .dtog], channel.read flag = true := by
  cases ahb : channel.read .ahbErr with
  | true => exact .inr (by simp [inResponses, ahb, enableInt])
  | false =>
    cases ack : channel.read .rxTxAck with
    | true => exact .inr (by simp [inResponses, ahb, ack])
    | false =>
      cases stall : channel.read .rxStall with
      | true => exact .inr (by simp [inResponses, ahb, ack, stall, haltChannel])
      | false =>
        cases dtog : channel.read .dtog with
        | true => exact .inr (by simp [inResponses, ahb, ack, stall, dtog])
        | false => exact .inl (by simp [inResponses, ahb, ack, stall, dtog])

theorem inNak_writes (channel : Channel) : Writes channel channel.inNak := by
  simp only [inNak]
  split
  · exact ((Writes.none.enableInt _).haltChannel.setPipe _).clearInt _
  split
  · exact (Writes.none.enableChannel.setPipe _).clearInt _
  · exact (Writes.none.setPipe _).clearInt _

theorem inComplete_writes (channel : Channel) : Writes channel channel.inComplete ∨
    channel.inComplete = ((channel.setPipe .ok).clearInt .tsfcmpn).report .ok := by
  have done : Writes channel ((channel.setPipe .ok).clearInt .tsfcmpn) :=
    (Writes.none.setPipe _).clearInt _
  simp only [inComplete]
  split
  · exact .inl (((done.enableInt _).haltChannel).clearInt _).toggleDataPid
  split
  · exact .inr rfl
  · exact .inl done

theorem inComplete_truthful {channel : Channel} (truthful : channel.Truthful)
    (complete : channel.sees .tsfcmpn = true) : channel.inComplete.Truthful := by
  rcases channel.inComplete_writes with writes | reported
  · exact writes.keeps.truthful truthful
  · rw [reported]
    refine ⟨fun _ => complete, ?_, ?_, ?_⟩ <;> simp [report]

theorem inEvents_truthful {channel : Channel} {intNak : Bool} (truthful : channel.Truthful)
    (complete : channel.read .tsfcmpn = true → channel.sees .tsfcmpn = true)
    (running : channel.read .tsfcmpan = true →
      channel.read .fovr = true ∨ channel.read .tsfcmpn = true) :
    (channel.inEvents intNak).Truthful := by
  simp only [inEvents]
  split
  · exact ((Writes.none.enableInt _).haltChannel.clearInt _).keeps.truthful truthful
  · split
    · next done => exact inComplete_truthful truthful (complete done)
    · split
      · next frame done halt => simp_all
      · split
        · exact (((Writes.none.enableInt _).setPipe _).haltChannel.clearInt
            _).keeps.truthful truthful
        · split
          · exact (inNak_writes channel).keeps.truthful truthful
          · exact truthful

/-- What a handler that comes to the halt leaves, unless it enables the channel again. -/
structure Tells (before after : Channel) : Prop where
  seen : after.seen = before.seen
  outcome : after.outcome = (told before.dirIn before.pipeState).or before.outcome
  urbStatus : after.urbStatus = (told before.dirIn before.pipeState).getD before.urbStatus
  halted : after.halted = true ∨ told before.dirIn before.pipeState = some .noReady

theorem told_ne_idle (dirIn : Bool) (pipeState : PipeState) :
    told dirIn pipeState ≠ some .idle := by
  cases dirIn <;> cases pipeState <;> decide

/-- A halt is told truthfully exactly if `pipeState` can be believed. -/
theorem Tells.truthful_iff {before after : Channel} (tells : Tells before after)
    (truthful : before.Truthful) : after.Truthful ↔ before.Believable := by
  obtain ⟨seen, outcome, urbStatus, halted⟩ := tells
  have sees : after.sees = before.sees := by
    funext flag
    rw [Channel.sees, Channel.sees, seen]
  have seesError : after.seesError = before.seesError := by
    rw [Channel.seesError, Channel.seesError, sees]
  unfold Believable
  cases status : told before.dirIn before.pipeState with
  | none =>
    simp only [status, Option.none_or, Option.getD_none, reduceCtorEq, or_false]
      at outcome urbStatus halted
    constructor
    · intro after
      rw [← urbStatus]
      exact after.answered halted
    · intro set
      exact ⟨by simpa [outcome, sees] using truthful.ok,
        by simpa [outcome, sees] using truthful.stall,
        by simpa [outcome, seesError] using truthful.error, fun _ => urbStatus ▸ set⟩
  | some reported =>
    simp only [status, Option.some_or, Option.getD_some] at outcome urbStatus
    have answered : reported ≠ .idle := fun idle =>
      told_ne_idle before.dirIn before.pipeState (status.trans (congrArg some idle))
    constructor
    · intro after
      cases reported with
      | ok => exact sees ▸ after.ok outcome
      | stall => exact sees ▸ after.stall outcome
      | error => exact seesError ▸ after.error outcome
      | idle | noReady | ping => trivial
    · intro believed
      refine ⟨?_, ?_, ?_, fun _ => urbStatus ▸ answered⟩
      · intro ok
        obtain rfl := Option.some.inj (outcome.symm.trans ok)
        exact sees ▸ believed
      · intro stall
        obtain rfl := Option.some.inj (outcome.symm.trans stall)
        exact sees ▸ believed
      · intro error
        obtain rfl := Option.some.inj (outcome.symm.trans error)
        exact seesError ▸ believed

theorem inHalted_tells {channel : Channel} (inward : channel.dirIn = true) :
    Tells channel channel.inHalted := by
  have outcome : Tells channel channel.processHalt.inOutcome := by
    have same : channel.processHalt.pipeState = channel.pipeState := rfl
    simp only [inOutcome, same]
    split <;> refine ⟨rfl, ?_, ?_, .inl rfl⟩ <;> simp_all [told, report] <;> rfl
  simp only [inHalted]
  split <;> exact ⟨outcome.seen, outcome.outcome, outcome.urbStatus, outcome.halted⟩

theorem outHalted_tells {channel : Channel} (outward : channel.dirIn = false) :
    Tells channel channel.outHalted := by
  have outcome : Tells channel channel.processHalt.outOutcome := by
    have same : channel.processHalt.pipeState = channel.pipeState := rfl
    simp only [outOutcome, same]
    split
    · split <;> refine ⟨rfl, ?_, ?_, .inl rfl⟩ <;> simp_all [told, report] <;> rfl
    · refine ⟨rfl, ?_, ?_, .inl rfl⟩ <;> simp_all [told, report]
    · split <;> refine ⟨rfl, ?_, ?_, .inr ?_⟩ <;> simp_all [told, report]
    · refine ⟨rfl, ?_, ?_, .inl rfl⟩ <;> simp_all [told, report]
    · refine ⟨rfl, ?_, ?_, .inl rfl⟩ <;> simp_all [told, report]
    · refine ⟨rfl, ?_, ?_, .inl rfl⟩ <;> simp_all [told] <;> rfl
  exact ⟨outcome.seen, outcome.outcome, outcome.urbStatus, outcome.halted⟩

-- The flags that the OUT handler looks at before the halt.
def outEarlier : List ChannelInt :=
  [.ahbErr, .fovr, .tsfcmpn, .rxTxAck, .rxStall, .rxNak, .tErr, .rxNyet, .dtog]

/-- The branches of the OUT handler, the last of them apart. -/
def OutHandled (channel next : Channel) : Prop :=
  (next = channel.outHalted ∧ channel.read .tsfcmpan = true ∧
    ∀ flag ∈ outEarlier, channel.read flag = false) ∨
  (Writes channel next ∧ (channel.read .tsfcmpan = true →
    ∃ flag ∈ outEarlier, channel.read flag = true))

theorem Writes.outHandled {channel next : Channel} (writes : Writes channel next)
    (flag : ChannelInt) (listed : flag ∈ outEarlier) (set : channel.read flag = true) :
    OutHandled channel next :=
  .inr ⟨writes, fun _ => ⟨flag, listed, set⟩⟩

theorem outIsrHandler_cases (channel : Channel) : OutHandled channel channel.outIsrHandler := by
  unfold outIsrHandler
  -- the flags are looked at in order, and each ends the handler
  refine iteInduction (motive := OutHandled channel)
    (((Writes.none.clearInt _).enableInt _).outHandled .ahbErr (by decide)) fun ahbErr => ?_
  refine iteInduction (motive := OutHandled channel)
    ((Writes.none.outStop _).outHandled .fovr (by decide)) fun fovr => ?_
  refine iteInduction (motive := OutHandled channel)
    (((Writes.none.outStop _).setPipe _).outHandled .tsfcmpn (by decide)) fun tsfcmpn => ?_
  refine iteInduction (motive := OutHandled channel)
    ((Writes.none.clearInt _).outHandled .rxTxAck (by decide)) fun rxTxAck => ?_
  iterate 4
    refine iteInduction (motive := OutHandled channel)
      (((Writes.none.outStop _).setPipe _).outHandled _ (by decide)) fun clear => ?_
  refine iteInduction (motive := OutHandled channel)
    (((((Writes.none.enableInt _).haltChannel.clearInt _).clearInt _).setPipe _).outHandled .dtog
      (by decide)) fun dtog => ?_
  refine iteInduction (motive := OutHandled channel) (fun complete => .inl ⟨rfl, complete, ?_⟩)
    fun clear => .inr ⟨.none, fun complete => absurd complete clear⟩
  simp_all [outEarlier]

theorem outIsrHandler_truthful_iff {channel : Channel} (truthful : channel.Truthful)
    (outward : channel.dirIn = false) : channel.outIsrHandler.Truthful ↔
      (channel.processesHalt = true → channel.Believable) := by
  have listed : channel.processesHalt = true ↔ channel.read .tsfcmpan = true ∧
      ∀ flag ∈ [ChannelInt.ahbErr, .fovr, .tsfcmpn, .rxTxAck, .rxStall, .rxNak, .tErr, .rxNyet,
        .dtog], channel.read flag = false := by
    simp [processesHalt, outward, -List.all_cons]
  rcases outIsrHandler_cases channel with ⟨halts, found, others⟩ | ⟨writes, sooner⟩
  · rw [halts, (outHalted_tells outward).truthful_iff truthful]
    exact ⟨fun believed _ => believed, fun believed => believed (listed.mpr ⟨found, others⟩)⟩
  · refine ⟨fun _ halts => ?_, fun _ => writes.keeps.truthful truthful⟩
    obtain ⟨found, others⟩ := listed.mp halts
    obtain ⟨flag, member, set⟩ := sooner found
    exact absurd set (by simp [others flag member])

theorem inIsrHandler_truthful_iff {channel : Channel} (truthful : channel.Truthful)
    (inward : channel.dirIn = true)
    (complete : channel.read .tsfcmpn = true → channel.sees .tsfcmpn = true) :
    channel.inIsrHandler.Truthful ↔ (channel.processesHalt = true → channel.Believable) := by
  have listed : channel.processesHalt = true ↔ channel.read .tsfcmpan = true ∧
      ∀ flag ∈ [ChannelInt.ahbErr, .rxTxAck, .rxStall, .dtog, .fovr, .tsfcmpn],
        channel.read flag = false := by
    simp [processesHalt, inward, -List.all_cons]
  unfold inIsrHandler
  rcases inResponses_cases channel with ⟨none, quiet⟩ | ⟨cleared, flag, member, set⟩
  · rw [none]
    by_cases halts : channel.processesHalt = true
    · obtain ⟨found, others⟩ := listed.mp halts
      have events : channel.inEvents false = channel.inHalted := by
        simp [inEvents, found, others .fovr (by simp), others .tsfcmpn (by simp)]
      simp only [events, (inHalted_tells inward).truthful_iff truthful, halts, true_imp_iff]
    · refine ⟨fun _ found => absurd found halts, fun _ => ?_⟩
      refine inEvents_truthful truthful complete fun found => ?_
      by_contra neither
      rw [not_or, Bool.not_eq_true, Bool.not_eq_true] at neither
      refine halts (listed.mpr ⟨found, ?_⟩)
      simp only [List.mem_cons, List.not_mem_nil, or_false, forall_eq_or_imp, forall_eq] at quiet ⊢
      exact ⟨quiet.1, quiet.2.1, quiet.2.2.1, quiet.2.2.2, neither.1, neither.2⟩
  · have none := read_clear cleared
    refine ⟨fun _ halts => ?_, fun _ => ?_⟩
    · have clear := (listed.mp halts).2 flag
        (List.mem_append_left [ChannelInt.fovr, .tsfcmpn] member)
      exact absurd set (by simp [clear])
    · exact inEvents_truthful ((inResponses_writes channel).keeps.truthful truthful) (by simp [none])
        (by simp [none])

theorem sees_raise (channel : Channel) (raised : BitVec 32) (flag : ChannelInt) :
    (channel.raise raised).sees flag =
      (channel.sees flag || (channel.raise raised).read flag) := by
  simp [sees, raise, read]

theorem raise_truthful {channel : Channel} (truthful : channel.Truthful) (raised : BitVec 32) :
    (channel.raise raised).Truthful := by
  have grows : ∀ flag, channel.sees flag = true → (channel.raise raised).sees flag = true := by
    intro flag seen
    rw [sees_raise, seen, Bool.true_or]
  refine ⟨fun ok => grows _ (truthful.ok ok), fun stall => grows _ (truthful.stall stall), ?_,
    truthful.answered⟩
  intro error
  have seen := truthful.error error
  simp only [seesError, List.any_eq_true] at seen ⊢
  obtain ⟨flag, listed, seen⟩ := seen
  exact ⟨flag, listed, grows flag seen⟩

theorem isrHandler_truthful_iff {channel : Channel} (truthful : channel.Truthful)
    (raised : BitVec 32) : (channel.raise raised).isrHandler.Truthful ↔
      ((channel.raise raised).processesHalt = true → (channel.raise raised).Believable) := by
  have after := raise_truthful truthful raised
  have complete : (channel.raise raised).read .tsfcmpn = true →
      (channel.raise raised).sees .tsfcmpn = true := by
    intro set
    rw [sees_raise, set, Bool.or_true]
  unfold isrHandler
  split
  · next inward => exact inIsrHandler_truthful_iff after inward complete
  · next outward =>
    exact outIsrHandler_truthful_iff after (Bool.not_eq_true _ ▸ outward)

end Channel

/-- A halt is processed only with a `pipeState` to be believed, and not before the function that
started the transfer resets the status. -/
def Accounted (channel : Channel) : ChannelLabel → Prop
  | .start _ => True
  | .settle => channel.epType = .bulk ∧ channel.dirIn = false ∨ channel.halted = false
  | .interrupt raised =>
      (channel.raise raised).processesHalt = true → (channel.raise raised).Believable

theorem channelStep_truthful_iff {before after : Channel} {label : ChannelLabel}
    (truthful : before.Truthful) (taken : channelStep before label = some after) :
    after.Truthful ↔ Accounted before label := by
  cases label with
  | start call =>
    simp only [channelStep] at taken
    split at taken
    · obtain rfl := Option.some.inj taken
      refine iff_of_true ⟨?_, ?_, ?_, ?_⟩ trivial <;> simp [Channel.start]
    · cases taken
  | settle =>
    simp only [channelStep] at taken
    split at taken
    · obtain rfl := Option.some.inj taken
      have kept : before.settle.Truthful ↔
          (before.halted = true → before.settle.urbStatus ≠ .idle) :=
        ⟨fun told => told.answered, fun answered =>
          ⟨truthful.ok, truthful.stall, truthful.error, answered⟩⟩
      rw [kept]
      simp only [Accounted, Channel.settle]
      by_cases early : before.epType = .bulk ∧ before.dirIn = false
      · simpa [early] using truthful.answered
      · have late : (decide (before.epType = .bulk) && !before.dirIn) = false := by
          simpa using early
        simp [late, early]
    · cases taken
  | interrupt raised =>
    obtain rfl := Option.some.inj taken
    exact Channel.isrHandler_truthful_iff truthful raised

/-! ## Calm runs -/

namespace Channel

/-- What no handler changes. -/
structure SameUse (before after : Channel) : Prop where
  epType : after.epType = before.epType
  dirIn : after.dirIn = before.dirIn
  starting : after.starting = before.starting

theorem SameUse.trans {first second third : Channel} (one : SameUse first second)
    (two : SameUse second third) : SameUse first third :=
  ⟨two.epType.trans one.epType, two.dirIn.trans one.dirIn, two.starting.trans one.starting⟩

theorem Writes.use {before after : Channel} (writes : Writes before after) :
    SameUse before after := by
  induction writes with
  | none => exact ⟨rfl, rfl, rfl⟩
  | clearInt _ _ ih | enableInt _ _ ih | setPipe _ _ ih | haltChannel _ ih
  | enableChannel _ ih | toggleDataPid _ ih => exact ⟨ih.epType, ih.dirIn, ih.starting⟩

theorem SameUse.report {before after : Channel} (use : SameUse before after)
    (urbStatus : UrbStatus) : SameUse before (after.report urbStatus) :=
  ⟨use.epType, use.dirIn, use.starting⟩

theorem raise_use (channel : Channel) (raised : BitVec 32) :
    SameUse channel (channel.raise raised) := ⟨rfl, rfl, rfl⟩

theorem processHalt_use (channel : Channel) : SameUse channel channel.processHalt :=
  ⟨rfl, rfl, rfl⟩

theorem inOutcome_use (channel : Channel) : SameUse channel channel.inOutcome := by
  unfold inOutcome
  split <;> exact ⟨rfl, rfl, rfl⟩

theorem inHalted_use (channel : Channel) : SameUse channel channel.inHalted := by
  have reported := (processHalt_use channel).trans (inOutcome_use _)
  simp only [inHalted]
  split <;> exact ⟨reported.epType, reported.dirIn, reported.starting⟩

theorem inComplete_use (channel : Channel) : SameUse channel channel.inComplete := by
  rcases channel.inComplete_writes with writes | reported
  · exact writes.use
  · rw [reported]
    exact ((Writes.none.setPipe _).clearInt _).use.report _

theorem inEvents_use (channel : Channel) (intNak : Bool) :
    SameUse channel (channel.inEvents intNak) := by
  simp only [inEvents]
  split
  · exact ((Writes.none.enableInt _).haltChannel.clearInt _).use
  split
  · exact inComplete_use channel
  split
  · exact inHalted_use channel
  split
  · exact (((Writes.none.enableInt _).setPipe _).haltChannel.clearInt _).use
  split
  · exact (inNak_writes channel).use
  · exact Writes.none.use

theorem outOutcome_use (channel : Channel) : SameUse channel channel.outOutcome := by
  simp only [outOutcome]
  split
  · split <;> exact ⟨rfl, rfl, rfl⟩
  · exact ⟨rfl, rfl, rfl⟩
  · split <;> exact ⟨rfl, rfl, rfl⟩
  all_goals exact ⟨rfl, rfl, rfl⟩

theorem outIsrHandler_use (channel : Channel) : SameUse channel channel.outIsrHandler := by
  rcases outIsrHandler_cases channel with ⟨halts, -⟩ | ⟨writes, -⟩
  · rw [halts, outHalted]
    have halted := (processHalt_use channel).trans (outOutcome_use _)
    exact halted.trans (Writes.none.clearInt _).use
  · exact writes.use

theorem isrHandler_use (channel : Channel) : SameUse channel channel.isrHandler := by
  unfold isrHandler
  split
  · exact (inResponses_writes channel).use.trans (inEvents_use _ _)
  · exact outIsrHandler_use channel

def unmasked (channel : Channel) (flag : ChannelInt) : Bool :=
  channel.hchimask.getLsbD flag.bit

theorem unmasked_enableInt (channel : Channel) (flag other : ChannelInt) :
    (channel.enableInt flag).unmasked other =
      (channel.unmasked other || decide (flag = other)) := by
  simp [unmasked, enableInt, ChannelInt.mask, getLsbD_twoPow_or _ (ChannelInt.within flag), bit_inj]

theorem unmasked_disableInt (channel : Channel) (flag other : ChannelInt) :
    (channel.disableInt flag).unmasked other =
      (channel.unmasked other && !decide (flag = other)) := by
  by_cases same : flag = other
  · subst same
    simp [unmasked, disableInt, ChannelInt.mask, ChannelInt.within flag]
  · have bits : ¬ other.bit = flag.bit := fun equal => same (bit_inj.mp equal.symm)
    simp [unmasked, disableInt, ChannelInt.mask, ChannelInt.within other, bits, same]

theorem read_masked {channel : Channel} {flag : ChannelInt}
    (masked : channel.unmasked flag = false) : channel.read flag = false := by
  rw [unmasked] at masked
  rw [read, BitVec.getLsbD_and, masked, Bool.and_false]

/-- Nothing but a halt that can be believed is waited for. -/
structure Ready (channel : Channel) : Prop where
  ahbErr : channel.unmasked .ahbErr = false
  believable : channel.unmasked .tsfcmpan = true → channel.Believable

/-- No frame overrun, no toggle error, and no NAK of an IN channel that is to be halted. -/
structure Quiet (channel : Channel) : Prop where
  fovr : channel.read .fovr = false
  dtog : channel.read .dtog = false
  nak : channel.dirIn = true → channel.read .rxNak = true →
    channel.epType ≠ .interrupt ∧ channel.unmasked .tsfcmpan = false

theorem Ready.same {before after : Channel} (ready : before.Ready)
    (mask : after.hchimask = before.hchimask) (pipeState : after.pipeState = before.pipeState)
    (dirIn : after.dirIn = before.dirIn) (seen : after.seen = before.seen)
    (urbStatus : after.urbStatus = before.urbStatus) : after.Ready := by
  have unmasked : after.unmasked = before.unmasked := by
    funext flag
    rw [Channel.unmasked, Channel.unmasked, mask]
  have sees : after.sees = before.sees := by
    funext flag
    rw [Channel.sees, Channel.sees, seen]
  refine ⟨unmasked ▸ ready.ahbErr, fun open_ => ?_⟩
  have believed := ready.believable (unmasked ▸ open_)
  simpa [Believable, pipeState, dirIn, sees, seesError, urbStatus] using believed

theorem Ready.masked {channel : Channel} (ahbErr : channel.unmasked .ahbErr = false)
    (masked : channel.unmasked .tsfcmpan = false) : channel.Ready :=
  ⟨ahbErr, fun open_ => absurd open_ (by simp [masked])⟩

theorem enableInt_ahbErr {channel : Channel} (masked : channel.unmasked .ahbErr = false) :
    (channel.enableInt .tsfcmpan).unmasked .ahbErr = false := by
  simp [unmasked_enableInt, masked]

theorem Ready.halted {channel halted : Channel} (ready : channel.Ready)
    (mask : halted.hchimask = channel.processHalt.hchimask) : halted.Ready := by
  have masks : halted.unmasked = (channel.disableInt .tsfcmpan).unmasked := by
    funext flag
    rw [unmasked, mask]
    rfl
  refine Ready.masked ?_ ?_ <;> simp [masks, unmasked_disableInt, ready.ahbErr]

theorem inOutcome_hchimask (channel : Channel) : channel.inOutcome.hchimask = channel.hchimask := by
  unfold inOutcome
  split <;> rfl

theorem outOutcome_hchimask (channel : Channel) :
    channel.outOutcome.hchimask = channel.hchimask := by
  simp only [outOutcome]
  split
  · split <;> rfl
  · rfl
  · split <;> rfl
  all_goals rfl

theorem believable_noReady {channel : Channel}
    (waits : told channel.dirIn channel.pipeState = some .noReady) : channel.Believable := by
  simp [Believable, waits]

/-- A handler that stops the channel and sets a `pipeState` that can be believed. -/
theorem Ready.stopped {channel stopped : Channel} (ready : channel.Ready)
    (mask : stopped.hchimask = (channel.enableInt .tsfcmpan).hchimask)
    (believed : stopped.Believable) : stopped.Ready := by
  refine ⟨?_, fun _ => believed⟩
  rw [unmasked, mask]
  exact enableInt_ahbErr ready.ahbErr

theorem outIsrHandler_ready {channel : Channel} (ready : channel.Ready) (quiet : channel.Quiet)
    (outward : channel.dirIn = false)
    (read_sees : ∀ flag, channel.read flag = true → channel.sees flag = true) :
    channel.outIsrHandler.Ready := by
  unfold outIsrHandler
  rw [read_masked ready.ahbErr, quiet.fovr, quiet.dtog]
  simp only [Bool.false_eq_true, if_false]
  split
  · next complete => exact ready.stopped rfl (read_sees _ complete)
  split
  · exact ready.same rfl rfl rfl rfl rfl
  split
  · next stall => exact ready.stopped rfl (read_sees _ stall)
  split
  · exact ready.stopped rfl (believable_noReady (congrArg (told · .nak) outward))
  split
  · next failed =>
    refine ready.stopped rfl (?_ : channel.seesError = true)
    simp [seesError, read_sees _ failed]
  split
  · exact ready.stopped rfl (believable_noReady (congrArg (told · .nyet) outward))
  split
  · exact ready.halted (outOutcome_hchimask _)
  · exact ready

theorem inComplete_ready {channel : Channel} (ready : channel.Ready)
    (complete : channel.sees .tsfcmpn = true) : channel.inComplete.Ready := by
  simp only [inComplete]
  split
  · exact ready.stopped rfl complete
  · split
    · exact ⟨ready.ahbErr, fun _ => complete⟩
    · exact ⟨ready.ahbErr, fun _ => complete⟩

theorem inHalted_ready {channel : Channel} (ready : channel.Ready) : channel.inHalted.Ready := by
  have mask := inOutcome_hchimask channel.processHalt
  simp only [inHalted]
  split <;> exact ready.halted mask

theorem inNak_ready {channel : Channel} (ready : channel.Ready)
    (running : channel.epType ≠ .interrupt ∧ channel.unmasked .tsfcmpan = false) :
    channel.inNak.Ready := by
  simp only [inNak, if_neg running.1]
  split <;> exact Ready.masked ready.ahbErr running.2

theorem inEvents_ready {channel : Channel} (ready : channel.Ready) (quiet : channel.Quiet)
    (inward : channel.dirIn = true)
    (read_sees : ∀ flag, channel.read flag = true → channel.sees flag = true) :
    (channel.inEvents false).Ready := by
  simp only [inEvents, quiet.fovr, Bool.false_eq_true, if_false, Bool.or_false]
  split
  · next complete => exact inComplete_ready ready (read_sees _ complete)
  split
  · exact inHalted_ready ready
  split
  · next failed =>
    refine ready.stopped rfl (?_ : channel.seesError = true)
    simp [seesError, read_sees _ failed]
  split
  · next nak => exact inNak_ready ready (quiet.nak inward nak)
  · exact ready

theorem inIsrHandler_ready {channel : Channel} (ready : channel.Ready) (quiet : channel.Quiet)
    (inward : channel.dirIn = true)
    (read_sees : ∀ flag, channel.read flag = true → channel.sees flag = true) :
    channel.inIsrHandler.Ready := by
  have idle : ∀ channel : Channel, channel.hchint = 0 → channel.inEvents false = channel := by
    intro channel clear
    simp [inEvents, read_clear clear]
  unfold inIsrHandler inResponses
  rw [read_masked ready.ahbErr, quiet.dtog]
  simp only [Bool.false_eq_true, if_false]
  cases acked : channel.read .rxTxAck with
  | true =>
    simp only [if_true, idle (channel.clearInt .rxTxAck) (hchint_clearInt _ _)]
    exact ready.same rfl rfl rfl rfl rfl
  | false =>
    cases stall : channel.read .rxStall with
    | true =>
      simp only [Bool.false_eq_true, if_false, if_true]
      rw [idle]
      · exact ready.stopped rfl (read_sees _ stall)
      · simp [haltChannel]
    | false => exact inEvents_ready ready quiet inward read_sees

end Channel

/-- A transfer starts with the halt of the last one processed; no interrupt comes before the
status is reset; what is read is quiet. -/
def Calm (channel : Channel) : ChannelLabel → Prop
  | .start _ => channel.unmasked .tsfcmpan = false
  | .settle => True
  | .interrupt raised =>
      (channel.starting = true → channel.epType = .bulk ∧ channel.dirIn = false) ∧
        (channel.raise raised).Quiet

structure Channel.Sound (channel : Channel) : Prop where
  truthful : channel.Truthful
  ready : channel.Ready
  starting : channel.starting = true → ¬ (channel.epType = .bulk ∧ channel.dirIn = false) →
    channel.halted = false ∧ channel.unmasked .tsfcmpan = false

theorem Channel.raise_ready {channel : Channel} (ready : channel.Ready) (raised : BitVec 32) :
    (channel.raise raised).Ready := by
  refine ⟨ready.ahbErr, fun waiting => ?_⟩
  have believed := ready.believable waiting
  have grows : ∀ flag, channel.sees flag = true → (channel.raise raised).sees flag = true := by
    intro flag seen
    rw [sees_raise, seen, Bool.true_or]
  have errors : channel.seesError = true → (channel.raise raised).seesError = true := by
    simp only [seesError, List.any_eq_true]
    intro ⟨flag, listed, seen⟩
    exact ⟨flag, listed, grows flag seen⟩
  unfold Believable at believed ⊢
  rw [show (channel.raise raised).pipeState = channel.pipeState from rfl,
    show (channel.raise raised).dirIn = channel.dirIn from rfl]
  split at believed
  · exact grows _ believed
  · exact grows _ believed
  · exact errors believed
  · trivial
  · exact believed

theorem Channel.processesHalt_unmasked {channel : Channel}
    (halts : channel.processesHalt = true) : channel.unmasked .tsfcmpan = true := by
  rw [processesHalt, Bool.and_eq_true] at halts
  cases masked : channel.unmasked .tsfcmpan with
  | true => rfl
  | false => exact absurd halts.1 (by simp [read_masked masked])

theorem Channel.Sound.accounted {channel : Channel} {label : ChannelLabel}
    (sound : channel.Sound) (taken : (channelStep channel label).isSome = true) :
    Accounted channel label := by
  cases label with
  | start call => trivial
  | settle =>
    by_cases early : channel.epType = .bulk ∧ channel.dirIn = false
    · exact .inl early
    · have starting : channel.starting = true := by
        simp only [channelStep] at taken
        split at taken
        · assumption
        · cases taken
      exact .inr (sound.starting starting early).1
  | interrupt raised =>
    intro halts
    exact (raise_ready sound.ready raised).believable (processesHalt_unmasked halts)

theorem channelStep_sound {before after : Channel} {label : ChannelLabel} (sound : before.Sound)
    (calm : Calm before label) (taken : channelStep before label = some after) : after.Sound := by
  have truthful := (channelStep_truthful_iff sound.truthful taken).mpr
    (sound.accounted (by simp [taken]))
  cases label with
  | start call =>
    simp only [channelStep] at taken
    split at taken
    · obtain rfl := Option.some.inj taken
      have mask : (before.start call).hchimask = before.hchimask := by
        cases call <;> rfl
      have unmasked : (before.start call).unmasked = before.unmasked := by
        funext flag
        rw [Channel.unmasked, Channel.unmasked, mask]
      exact ⟨truthful, Channel.Ready.masked (unmasked ▸ sound.ready.ahbErr) (unmasked ▸ calm),
        fun _ _ => ⟨rfl, unmasked ▸ calm⟩⟩
    · cases taken
  | settle =>
    simp only [channelStep] at taken
    split at taken
    · next starting =>
      obtain rfl := Option.some.inj taken
      refine ⟨truthful, ?_, by simp [Channel.settle]⟩
      by_cases early : before.epType = .bulk ∧ before.dirIn = false
      · exact sound.ready.same rfl rfl rfl rfl (by simp [Channel.settle, early])
      · exact Channel.Ready.masked sound.ready.ahbErr (sound.starting starting early).2
    · cases taken
  | interrupt raised =>
    obtain rfl := Option.some.inj taken
    have ready := Channel.raise_ready sound.ready raised
    have read_sees : ∀ flag, (before.raise raised).read flag = true →
        (before.raise raised).sees flag = true := by
      intro flag set
      rw [Channel.sees_raise, set, Bool.or_true]
    have use := (before.raise raised).isrHandler_use
    refine ⟨truthful, ?_, fun starting late => ?_⟩
    · unfold Channel.isrHandler
      split
      · next inward => exact Channel.inIsrHandler_ready ready calm.2 inward read_sees
      · next outward =>
        exact Channel.outIsrHandler_ready ready calm.2 (Bool.not_eq_true _ ▸ outward) read_sees
    · rw [use.epType, use.dirIn] at late
      exact absurd (calm.1 (use.starting ▸ starting)) late

theorem initMask_masked (epType : EpType) (dirIn ping : Bool) :
    (Channel.initMask epType dirIn ping).getLsbD ChannelInt.ahbErr.bit = false ∧
      (Channel.initMask epType dirIn ping).getLsbD ChannelInt.tsfcmpan.bit = false := by
  cases epType <;> cases dirIn <;> cases ping <;> decide

theorem opened_sound (epType : EpType) (dirIn ping : Bool) (pipeState : PipeState) :
    (Channel.opened epType dirIn ping pipeState).Sound := by
  obtain ⟨ahbErr, tsfcmpan⟩ := initMask_masked epType dirIn ping
  exact ⟨⟨nofun, nofun, nofun, nofun⟩, Channel.Ready.masked ahbErr tsfcmpan, nofun⟩

/-- Calm runs tell the truth; anywhere, a step does so exactly if it is accounted for. -/
theorem outcomes_truthful (epType : EpType) (dirIn ping : Bool) (pipeState : PipeState) :
    (∀ (labels : List ChannelLabel) (channel : Channel),
      Run channelStep Calm (Channel.opened epType dirIn ping pipeState) labels channel →
      channel.Truthful) ∧
    (∀ (labels : List ChannelLabel) (before after : Channel) (label : ChannelLabel),
      Run channelStep Accounted (Channel.opened epType dirIn ping pipeState) labels before →
      channelStep before label = some after →
      before.Truthful ∧ (after.Truthful ↔ Accounted before label)) := by
  have opened := opened_sound epType dirIn ping pipeState
  constructor
  · intro labels channel run
    exact (run.invariant Channel.Sound opened
      fun _ _ _ sound calm taken => channelStep_sound sound calm taken).truthful
  · intro labels before after label run taken
    have truthful := run.invariant Channel.Truthful opened.truthful
      fun _ _ _ held accounted taken => (channelStep_truthful_iff held taken).mpr accounted
    exact ⟨truthful, channelStep_truthful_iff truthful taken⟩

theorem Channel.quiet_iff (channel : Channel) : channel.Quiet ↔
    channel.read .fovr = false ∧ channel.read .dtog = false ∧
      (channel.dirIn = true → channel.read .rxNak = true →
        channel.epType ≠ .interrupt ∧ channel.unmasked .tsfcmpan = false) :=
  ⟨fun quiet => ⟨quiet.fovr, quiet.dtog, quiet.nak⟩, fun all => ⟨all.1, all.2.1, all.2.2⟩⟩

instance (channel : Channel) : Decidable channel.Quiet :=
  decidable_of_iff _ channel.quiet_iff.symm

instance (channel : Channel) (label : ChannelLabel) : Decidable (Calm channel label) := by
  unfold Calm
  split <;> infer_instance

instance (channel : Channel) (label : ChannelLabel) : Decidable (Accounted channel label) := by
  unfold Accounted
  split <;> infer_instance

/-- A bulk IN transfer completes and its halt is processed. -/
def bulkInLabels : List ChannelLabel :=
  [.start .bulkInData, .settle, .interrupt 0x1, .interrupt 0x2]

theorem bulkIn_calm : (execute channelStep Calm (Channel.opened .bulk true false .ok)
    bulkInLabels).isSome = true := by
  decide +kernel

theorem bulkIn_accounted : (execute channelStep Accounted (Channel.opened .bulk true false .ok)
    bulkInLabels).isSome = true := by
  decide +kernel

def bulkInDone : Channel :=
  final channelStep Calm (Channel.opened .bulk true false .ok) bulkInLabels bulkIn_calm

theorem bulkInDone_truthful : bulkInDone.urbStatus = .ok ∧ bulkInDone.Truthful ∧
    ∀ after, channelStep (final channelStep Accounted (Channel.opened .bulk true false .ok)
      bulkInLabels bulkIn_accounted) (.start .bulkInData) = some after → after.Truthful :=
  ⟨by decide +kernel,
    (outcomes_truthful .bulk true false .ok).1 bulkInLabels bulkInDone (Run.final _ _ _ _ _),
    fun after taken => ((outcomes_truthful .bulk true false .ok).2 bulkInLabels _ after
      (.start .bulkInData) (Run.final _ _ _ _ _) taken).2.mpr trivial⟩

/-- An interrupt IN transfer is answered with NAK and its halt is processed. -/
def unansweredLabels : List ChannelLabel :=
  [.start .interruptInData, .settle, .interrupt 0x10, .interrupt 0x2]

theorem unanswered_accepted : (execute channelStep free (Channel.opened .interrupt true false .ok)
    unansweredLabels).isSome = true := by
  decide +kernel

def unanswered : Channel :=
  final channelStep free (Channel.opened .interrupt true false .ok) unansweredLabels
    unanswered_accepted

theorem nak_unanswered : ¬ ∀ (epType : EpType) (dirIn ping : Bool) (pipeState : PipeState)
    (labels : List ChannelLabel) (channel : Channel),
    Run channelStep free (Channel.opened epType dirIn ping pipeState) labels channel →
    channel.Truthful := by
  intro truthful
  have run : Run channelStep free (Channel.opened .interrupt true false .ok) unansweredLabels
      unanswered := Run.final _ _ _ _ _
  have answered := (truthful _ _ _ _ _ _ run).answered (by decide +kernel)
  exact absurd answered (by decide +kernel)

end ApmSdk.Usbh
