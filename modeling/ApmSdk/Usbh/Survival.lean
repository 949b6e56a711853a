import ApmSdk.Usbh.ClassInit

set_option autoImplicit false

/-!
# Which descriptors the host survives

Runs of attachments, enumerations, class initialisations, transfers, errors and detachments, with
any bytes in every descriptor.
-/

namespace ApmSdk.Usbh

open Runs Slots
open Usbd (Byte)

/-- The descriptors are harmless. -/
def Tame (limits : Limits) (driver : Driver) (bus : Bus) : BusLabel → Prop
  | .devDesc bMaxPacketSize => bMaxPacketSize ≠ 0
  | .classInit _ => bus.Suits limits driver
  | _ => True

instance (limits : Limits) (driver : Driver) (bus : Bus) :
    (label : BusLabel) → Decidable (Tame limits driver bus label)
  | .devDesc bMaxPacketSize => inferInstanceAs (Decidable (bMaxPacketSize ≠ 0))
  | .classInit _ => inferInstanceAs (Decidable (bus.Suits limits driver))
  | .connect | .attach | .detach | .error | .control _ _ | .cfgDesc _ | .parse | .configured
  | .data _ _ => instDecidableTrue

def BusLabel.isXfer : BusLabel → Bool
  | .control _ _ | .data _ _ => true
  | _ => false

namespace Bus

variable {limits : Limits} {driver : Driver} {bus : Bus}

/-! ## What holds in every state -/

/-- No channel is used for control transfers, but two can be. -/
structure Rested (bus : Bus) : Prop where
  size : bus.maxPackSize ≠ 0
  numbers : ∀ dirIn, bus.control dirIn < channelMaxNum
  room : 2 ≤ bus.freeChannels

def Standing (driver : Driver) (bus : Bus) : Prop :=
  match bus.phase with
  | .idle | .attached => bus.Rested
  | .enum | .userInput | .parsing _ => bus.Attached
  | .running => bus.Attached ∧ bus.Ready driver

theorem standing_initial : (initial limits).Standing driver := by
  have all : (initial limits).freeChannels = channelMaxNum := freeCount_empty _ fun _ _ => rfl
  refine ⟨limits.ep0PacketSize_pos.ne', fun _ => Nat.zero_lt_succ 7, ?_⟩
  rw [all]
  decide

theorem attached_of_isUp (standing : bus.Standing driver) (up : bus.phase.isUp = true) :
    bus.Attached := by
  unfold Standing at standing
  cases phase : bus.phase <;> simp only [phase, Phase.isUp] at standing up <;>
    first | exact standing | exact standing.1 | cases up

/-! ## One step -/

theorem openControl_attached (size : bus.maxPackSize ≠ 0)
    (holds : ∀ dirIn, bus.Holds (.control dirIn) (bus.control dirIn)) :
    bus.openControl.Attached := by
  refine ⟨by simpa [openControl] using size, fun dirIn => ?_⟩
  have same : bus.openControl.control = bus.control := by simp [openControl]
  rw [same]
  exact (holds_of_owners (by simp [openControl])).mpr (holds dirIn)

theorem devAttachedHandler_attached (rested : bus.Rested) (sound : bus.Sound limits) :
    bus.devAttachedHandler.Attached ∧ bus.devAttachedHandler.Sound limits := by
  have two := rested.room
  have first : 0 < bus.freeChannels := by omega
  have grants := allocControl_grants false first
  have second : 0 < (bus.allocControl false).freeChannels := by
    have := grants.free
    omega
  have opened : ((bus.allocControl false).allocControl true).openControl.Attached := by
    refine openControl_attached (by simpa using rested.size) fun dirIn => ?_
    cases dirIn with
    | true => exact allocControl_holds true second
    | false =>
      rw [allocControl_other (by decide : false ≠ true)]
      exact (allocControl_grants true second).holds (allocControl_holds false first)
  refine ⟨⟨opened.size, opened.holds⟩, ?_⟩
  have log : bus.devAttachedHandler.log = ((bus.allocControl false).allocControl true).log := by
    simp [devAttachedHandler, openControl]
  rw [sound_of_log log, sound_allocControl, sound_allocControl]
  exact ⟨⟨sound, first⟩, second⟩

theorem sound_deInit (numbers : ∀ dirIn, bus.control dirIn < channelMaxNum)
    (sound : bus.Sound limits) : (bus.deInit limits).Sound limits := by
  have inward := numbers true
  have outward := numbers false
  intro access listed
  simp only [deInit, freeChannel, List.append_assoc, List.mem_append, List.mem_singleton] at listed
  rcases listed with earlier | rfl | rfl
  · exact sound access earlier
  · exact Nat.lt_trans inward (by decide)
  · exact Nat.lt_trans outward (by decide)

theorem deInit_rested (held : bus.Attached) : (bus.deInit limits).Rested := by
  have differ : bus.control false ≠ bus.control true := by
    intro same
    have owner := (held.holds false).2
    rw [same, (held.holds true).2] at owner
    cases owner
  refine ⟨limits.ep0PacketSize_pos.ne', fun dirIn => (held.holds dirIn).1, ?_⟩
  have inward := freeCount_release (held.holds true).1 (held.holds true).2
  have kept : Function.update bus.owners (bus.control true) none (bus.control false) =
      some (.control false) := by
    rw [Function.update_of_ne differ, (held.holds false).2]
  have outward := freeCount_release (held.holds false).1 kept
  simp only [freeChannels, deInit, freeChannel]
  omega

theorem devDetachedHandler_rested (numbers : ∀ dirIn, bus.control dirIn < channelMaxNum) :
    (bus.devDetachedHandler limits).Rested := by
  refine ⟨limits.ep0PacketSize_pos.ne', numbers, ?_⟩
  have empty : ∀ chNum < channelMaxNum,
      (bus.devDetachedHandler limits).owners chNum = none := by
    intro chNum below
    have listed : chNum < hostChannelNum := Nat.lt_trans below (by decide)
    simp [devDetachedHandler, deInit, freeChannel, freeAllChannel, Function.update_apply, listed]
  rw [freeChannels, freeCount_empty _ empty]
  decide

theorem numbers_of_standing (standing : bus.Standing driver) (dirIn : Bool) :
    bus.control dirIn < channelMaxNum := by
  unfold Standing at standing
  cases phase : bus.phase <;> simp only [phase] at standing <;>
    first | exact standing.numbers dirIn | exact (standing.holds dirIn).1 |
      exact (standing.1.holds dirIn).1

theorem parseRound_keeps (limits : Limits) (bus : Bus) (parser : Parser) :
    (bus.parseRound limits parser).owners = bus.owners ∧
      (bus.parseRound limits parser).control = bus.control ∧
      (bus.parseRound limits parser).maxPackSize = bus.maxPackSize := by
  unfold parseRound parseInterface parseEndpoint
  dsimp only
  split
  · split <;> exact ⟨rfl, rfl, rfl⟩
  · split
    · split <;> exact ⟨rfl, rfl, rfl⟩
    · exact ⟨rfl, rfl, rfl⟩

/-- The guards of the parser keep its indices inside the arrays, whatever the bytes are. -/
theorem sound_parseRound (parser : Parser) (sound : bus.Sound limits) :
    (bus.parseRound limits parser).Sound limits := by
  unfold parseRound parseInterface parseEndpoint
  dsimp only
  split
  · split
    · next below => exact sound_access.mpr ⟨sound, below⟩
    · exact sound
  · split
    · split
      · next below =>
        have inside : parser.itfIndex - 1 < limits.interfaceDescMaxNum := by omega
        have log : bus.log ++ [.itf (parser.itfIndex - 1), .endpoint parser.epIndex] =
            ((bus.access (.itf (parser.itfIndex - 1))).access (.endpoint parser.epIndex)).log := by
          simp [Bus.access]
        refine (sound_of_log log).mpr ?_
        exact sound_access.mpr ⟨sound_access.mpr ⟨sound, inside⟩, below.2.2⟩
      · exact sound
    · exact sound

theorem standing_parsed {other : Bus} {done : Prop} [Decidable done] {parser : Parser}
    (held : other.Attached) (phase : other.phase = if done then .enum else .parsing parser) :
    other.Standing driver := by
  by_cases ended : done
  · simpa only [Standing, phase, if_pos ended] using held
  · simpa only [Standing, phase, if_neg ended] using held

theorem sound_dataXfer {dirIn : Bool} {len : Nat} (sound : bus.Sound limits) :
    (bus.dataXfer driver dirIn len).Sound limits ↔
      bus.Holds (.data dirIn) (bus.data dirIn).chNum ∧
        (0 < dataLen driver dirIn len (bus.pipes (bus.data dirIn).chNum).maxPackSize →
          (bus.pipes (bus.data dirIn).chNum).maxPackSize ≠ 0) := by
  simp only [dataXfer, sound_enableChannelTransfer, sound_useChannel, sound, true_and]

theorem sound_controlXfer {dirIn : Bool} {len : Nat} (sound : bus.Sound limits)
    (held : bus.Attached) : (bus.controlXfer dirIn len).Sound limits := by
  simp only [controlXfer, sound_enableChannelTransfer, sound_useChannel]
  exact ⟨⟨sound, held.holds dirIn⟩, fun _ => held.size⟩

/-- A driver that is ready moves any amount of data, and one that is not fails at some. -/
theorem ready_iff (sound : bus.Sound limits) :
    bus.Ready driver ↔ ∀ dirIn len, (driver = .hid → dirIn = true) →
      (bus.dataXfer driver dirIn len).Sound limits := by
  constructor
  · intro ready dirIn len inward
    obtain ⟨holds, size⟩ := ready dirIn inward
    refine (sound_dataXfer sound).mpr ⟨holds, fun moves => ?_⟩
    rcases size with rfl | size
    · cases dirIn <;> simp [dataLen] at moves <;> omega
    · exact size
  · intro moves dirIn inward
    obtain ⟨holds, size⟩ := (sound_dataXfer sound).mp (moves dirIn 1 inward)
    refine ⟨holds, ?_⟩
    cases driver with
    | cdc => exact .inl rfl
    | msc => exact .inr (size (by simp [dataLen]))
    | hid => exact .inr (size (by simp [dataLen]))

theorem Standing.with_log (standing : bus.Standing driver) (log : List Access) :
    { bus with log := log }.Standing driver := by
  unfold Standing at standing ⊢
  cases phase : bus.phase <;> simp only [phase] at standing ⊢
  case running => exact ⟨⟨standing.1.size, standing.1.holds⟩, standing.2⟩
  case idle | attached => exact ⟨standing.size, standing.numbers, standing.room⟩
  case enum | parsing | userInput => exact ⟨standing.size, standing.holds⟩

theorem xfer_log (bus : Bus) (holder : Holder) (chNum len maxPackSize : Nat) :
    ∃ log, (bus.useChannel holder chNum).enableChannelTransfer len maxPackSize =
      { bus with log := log } := by
  unfold enableChannelTransfer
  split <;> exact ⟨_, rfl⟩

end Bus

section Steps

variable {limits : Limits} {driver : Driver} {bus next : Bus}

/-- Transfers need nothing but what holds in every state. -/
theorem xfer_keeps {xfer : BusLabel} (sound : bus.Sound limits) (standing : bus.Standing driver)
    (moves : xfer.isXfer = true) (taken : busStep limits driver bus xfer = some next) :
    next.Sound limits ∧ next.Standing driver := by
  cases xfer with
  | control dirIn len =>
    simp only [busStep, Option.ite_none_right_eq_some, Option.some.injEq] at taken
    obtain ⟨up, rfl⟩ := taken
    obtain ⟨log, form⟩ := Bus.xfer_log bus (.control dirIn) (bus.control dirIn) len
      bus.maxPackSize
    refine ⟨Bus.sound_controlXfer sound (Bus.attached_of_isUp standing up), ?_⟩
    rw [Bus.controlXfer, form]
    exact standing.with_log log
  | data dirIn len =>
    cases phase : bus.phase <;> simp only [busStep, phase, reduceCtorEq] at taken
    simp only [Option.ite_none_left_eq_some, Option.some.injEq] at taken
    obtain ⟨inward, rfl⟩ := taken
    have ready : bus.Ready driver := by
      unfold Bus.Standing at standing
      rw [phase] at standing
      exact standing.2
    refine ⟨(Bus.ready_iff sound).mp ready dirIn len (by simpa using inward), ?_⟩
    obtain ⟨log, form⟩ := Bus.xfer_log bus (.data dirIn) (bus.data dirIn).chNum _ _
    rw [Bus.dataXfer, form]
    exact standing.with_log log
  | _ => cases moves

theorem enumerating_step {after : Bus} (standing : bus.Standing driver)
    (taken : (if bus.phase.isEnumerating = true then some after else none) = some next) :
    bus.phase = .enum ∧ bus.Attached ∧ after = next := by
  simp only [Option.ite_none_right_eq_some, Option.some.injEq] at taken
  obtain ⟨enumerating, same⟩ := taken
  unfold Bus.Standing at standing
  cases phase : bus.phase <;> simp only [phase, Phase.isEnumerating] at enumerating standing
  all_goals first | exact ⟨rfl, standing, same⟩ | cases enumerating

theorem step_keeps {label : BusLabel} (sound : bus.Sound limits) (standing : bus.Standing driver)
    (tame : Tame limits driver bus label) (taken : busStep limits driver bus label = some next) :
    next.Sound limits ∧ next.Standing driver := by
  cases label with
  | control dirIn len => exact xfer_keeps sound standing rfl taken
  | data dirIn len => exact xfer_keeps sound standing rfl taken
  | connect =>
    cases phase : bus.phase <;> simp only [busStep, phase, reduceCtorEq, Option.some.injEq] at taken
    subst taken
    have rested : bus.Rested := by simpa only [Bus.Standing, phase] using standing
    exact ⟨sound, rested.size, rested.numbers, rested.room⟩
  | attach =>
    cases phase : bus.phase <;> simp only [busStep, phase, reduceCtorEq, Option.some.injEq] at taken
    subst taken
    have rested : bus.Rested := by simpa only [Bus.Standing, phase] using standing
    exact (Bus.devAttachedHandler_attached rested sound).symm
  | detach =>
    have numbers := Bus.numbers_of_standing standing
    have detached : next = bus.devDetachedHandler limits := by
      cases phase : bus.phase <;>
        simp only [busStep, phase, reduceCtorEq, Option.some.injEq] at taken <;> exact taken.symm
    subst detached
    exact ⟨Bus.sound_deInit numbers sound, Bus.devDetachedHandler_rested numbers⟩
  | error =>
    simp only [busStep, Option.ite_none_right_eq_some, Option.some.injEq] at taken
    obtain ⟨up, rfl⟩ := taken
    have held := Bus.attached_of_isUp standing up
    exact ⟨Bus.sound_deInit (fun dirIn => (held.holds dirIn).1) sound, Bus.deInit_rested held⟩
  | devDesc bMaxPacketSize =>
    obtain ⟨phase, held, rfl⟩ := enumerating_step standing taken
    have size : bMaxPacketSize.toNat ≠ 0 := fun zero => tame (UInt8.toNat_inj.mp zero)
    have opened : (bus.completeDevDesc bMaxPacketSize).Attached :=
      Bus.openControl_attached size held.holds
    have same : (bus.completeDevDesc bMaxPacketSize).phase = bus.phase := by
      simp [Bus.completeDevDesc, Bus.openControl]
    refine ⟨(Bus.sound_of_log ?_).mpr sound, ?_⟩
    · simp [Bus.completeDevDesc, Bus.openControl]
    · simpa only [Bus.Standing, same, phase] using opened
  | cfgDesc parseBuf =>
    obtain ⟨-, held, rfl⟩ := enumerating_step standing taken
    exact ⟨sound, Bus.standing_parsed ⟨held.size, held.holds⟩ (ite_not _ _ _).symm⟩
  | parse =>
    cases phase : bus.phase <;> simp only [busStep, phase, reduceCtorEq, Option.some.injEq] at taken
    next parser =>
    subst taken
    have held : bus.Attached := by simpa only [Bus.Standing, phase] using standing
    obtain ⟨owners, control, size⟩ := Bus.parseRound_keeps limits bus parser
    exact ⟨Bus.sound_parseRound parser sound, Bus.standing_parsed
      (held.of_same size control fun _ _ owned => owners ▸ owned) rfl⟩
  | configured =>
    obtain ⟨-, held, rfl⟩ := enumerating_step standing taken
    exact ⟨sound, held.size, held.holds⟩
  | classInit stray =>
    cases phase : bus.phase <;> simp only [busStep, phase, reduceCtorEq, Option.some.injEq] at taken
    subst taken
    have held : bus.Attached := by simpa only [Bus.Standing, phase] using standing
    obtain ⟨after, ready⟩ := (Bus.classInit_iff driver stray sound).mp tame
    have attached := Bus.classInit_attached driver stray held sound tame
    exact ⟨after, ⟨attached.size, attached.holds⟩, ready⟩

/-! ## Steps that are not tame -/

/-- After an empty packet size the next SETUP is divided by it. -/
theorem devDesc_tame {bMaxPacketSize : Byte}
    (taken : busStep limits driver bus (.devDesc bMaxPacketSize) = some next)
    (later : ∀ xfer after, xfer.isXfer = true → busStep limits driver next xfer = some after →
      after.Sound limits) : bMaxPacketSize ≠ 0 := by
  rintro rfl
  simp only [busStep, Option.ite_none_right_eq_some, Option.some.injEq] at taken
  obtain ⟨enumerating, rfl⟩ := taken
  have up : (bus.completeDevDesc 0).phase.isUp = true := by
    cases phase : bus.phase <;> simp only [phase, Phase.isEnumerating] at enumerating
    · cases enumerating
    · cases enumerating
    · simp [Bus.completeDevDesc, Bus.openControl, phase, Phase.isUp]
    all_goals cases enumerating
  have setup := later (.control false 8) _ rfl (if_pos up)
  rw [Bus.controlXfer, Bus.sound_enableChannelTransfer] at setup
  exact setup.2 (by decide) (by simp [Bus.completeDevDesc, Bus.openControl])

theorem classInit_tame {stray : Nat → Interface} (sound : bus.Sound limits)
    (taken : busStep limits driver bus (.classInit stray) = some next)
    (after : next.Sound limits)
    (later : ∀ xfer last, xfer.isXfer = true → busStep limits driver next xfer = some last →
      last.Sound limits) : bus.Suits limits driver := by
  cases phase : bus.phase <;> simp only [busStep, phase, reduceCtorEq, Option.some.injEq] at taken
  subst taken
  refine (Bus.classInit_iff driver stray sound).mpr ⟨after, ?_⟩
  refine (Bus.ready_iff after).mpr fun dirIn len inward => ?_
  refine later (.data dirIn len) _ rfl (if_neg ?_)
  rintro ⟨hid, out⟩
  simp [inward hid] at out

end Steps

/-- In every run that meets harmless descriptors only, every access so far is in order. A next
step meets them exactly if it stays in order and leaves no transfer that does not. -/
theorem descriptors_survived (limits : Limits) (driver : Driver) {labels : List BusLabel}
    {bus : Bus}
    (run : Run (busStep limits driver) (Tame limits driver) (Bus.initial limits) labels bus) :
    bus.Sound limits ∧ ∀ label next, busStep limits driver bus label = some next →
      (Tame limits driver bus label ↔ next.Sound limits ∧
        ∀ xfer after, xfer.isXfer = true → busStep limits driver next xfer = some after →
          after.Sound limits) := by
  have held : bus.Sound limits ∧ bus.Standing driver :=
    run.invariant (fun bus => bus.Sound limits ∧ bus.Standing driver)
      ⟨by simp [Bus.Sound, Bus.initial], Bus.standing_initial⟩
      fun _ _ _ held tame taken => step_keeps held.1 held.2 tame taken
  refine ⟨held.1, fun label next taken => ⟨fun tame => ?_, fun sound => ?_⟩⟩
  · obtain ⟨sound, standing⟩ := step_keeps held.1 held.2 tame taken
    exact ⟨sound, fun xfer after moves taken => (xfer_keeps sound standing moves taken).1⟩
  · cases label with
    | devDesc bMaxPacketSize => exact devDesc_tame taken sound.2
    | classInit stray => exact classInit_tame held.1 taken sound.1 sound.2
    | _ => trivial

/-- Constants as an application may set them. -/
def usualLimits : Limits := ⟨4, 4, 64, by decide⟩

/-- A configuration with one mass storage interface and its two bulk endpoints. -/
def storageConfiguration : List Byte :=
  [9, 2, 32, 0, 1, 1, 0, 0x80, 50, 9, 4, 0, 0, 2, 8, 6, 0x50, 0,
    7, 5, 0x81, 2, 0x40, 0, 0, 7, 5, 0x02, 2, 0x40, 0, 0]

/-- A flash drive is enumerated, used and pulled. -/
def storageLabels : List BusLabel :=
  [.connect, .attach, .control false 8, .control true 8, .control false 0, .devDesc 64,
    .control false 8, .cfgDesc fun offset => storageConfiguration.getD offset 0,
    .parse, .parse, .parse, .configured, .classInit fun _ => ⟨fun _ => 0, fun _ _ => 0⟩,
    .data false 31, .data true 512, .data true 13, .detach]

theorem storageLabels_accepted :
    (execute (busStep usualLimits .msc) (Tame usualLimits .msc) (Bus.initial usualLimits)
      storageLabels).isSome = true := by
  decide +kernel

def storageHost : Bus :=
  final (busStep usualLimits .msc) (Tame usualLimits .msc) (Bus.initial usualLimits) storageLabels
    storageLabels_accepted

-- Without the device, and with the next one.
theorem storageHost_survives : storageHost.Sound usualLimits ∧ ∀ next,
    busStep usualLimits .msc storageHost .connect = some next → next.Sound usualLimits ∧
      ∀ xfer after, xfer.isXfer = true → busStep usualLimits .msc next xfer = some after →
        after.Sound usualLimits := by
  obtain ⟨sound, survives⟩ :=
    descriptors_survived usualLimits .msc (Run.final _ _ _ _ storageLabels_accepted)
  exact ⟨sound, fun next taken => (survives .connect next taken).mp trivial⟩

-- A device descriptor with `bMaxPacketSize` 0, and the SETUP of SET_ADDRESS after it.
def emptyPacketLabels : List BusLabel := [.connect, .attach, .devDesc 0, .control false 8]

theorem emptyPacketLabels_accepted :
    (execute (busStep usualLimits .msc) free (Bus.initial usualLimits)
      emptyPacketLabels).isSome = true := by
  decide +kernel

def emptyPacketHost : Bus :=
  final (busStep usualLimits .msc) free (Bus.initial usualLimits) emptyPacketLabels
    emptyPacketLabels_accepted

theorem emptyPacket_divides : ¬ ∀ labels bus,
    Run (busStep usualLimits .msc) free (Bus.initial usualLimits) labels bus →
      bus.Sound usualLimits := by
  intro always
  have sound := always _ _ (Run.final _ _ _ _ emptyPacketLabels_accepted)
  have divided : Access.division 0 ∈ emptyPacketHost.log := by decide +kernel
  exact sound _ divided rfl

end ApmSdk.Usbh
