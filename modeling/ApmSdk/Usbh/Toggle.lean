import ApmSdk.Usbh.Outcome

set_option autoImplicit false

/-!
# The data toggles of the host

A channel and the endpoint behind it, packet by packet: the toggle is flipped by some of the
functions that start a transfer and by some branches of the handlers, the endpoint counts the
packets that are acknowledged.
-/

namespace ApmSdk.Usbh

open Runs

/-- The two types of endpoints with a data toggle of their own. -/
inductive DataType where
  | bulk
  | interrupt
  deriving DecidableEq, Repr

def DataType.epType : DataType → EpType
  | .bulk => .bulk
  | .interrupt => .interrupt

namespace Channel

/-- The hardware raises one flag, and the handler runs. -/
def answered (channel : Channel) (flag : ChannelInt) : Channel :=
  (channel.raise flag.mask).isrHandler

/-- A channel of a type and a direction between two interrupts. -/
structure Fits (type : DataType) (dirIn : Bool) (channel : Channel) : Prop where
  epType : channel.epType = type.epType
  dirIn : channel.dirIn = dirIn
  hchint : channel.hchint = 0
  starting : channel.starting = false
  unmasked : ∀ flag ∈ [ChannelInt.tsfcmpn, .rxStall, .tErr, .rxNak],
    channel.unmasked flag = true
  halt : channel.chdis = true → channel.unmasked .tsfcmpan = true

theorem read_single {channel : Channel} {flag : ChannelInt} (none : channel.hchint = 0)
    (unmasked : channel.unmasked flag = true) (other : ChannelInt) :
    (channel.raise flag.mask).read other = decide (other = flag) := by
  have raised : (channel.raise flag.mask).read other =
      (flag.mask.getLsbD other.bit && channel.unmasked other) := by
    simp [read, raise, none, Channel.unmasked]
  rw [raised, ChannelInt.mask, BitVec.getLsbD_twoPow]
  by_cases same : other = flag
  · subst same
    simpa [ChannelInt.within] using unmasked
  · have bits : flag.bit ≠ other.bit := fun equal => same (bit_inj.mp equal).symm
    simp [bits, same]

-- What a pass makes of the toggle, of CHDIS and of `pipeState`.
structure Answer (type : DataType) (dirIn : Bool) (before after : Channel) (flips stops : Bool) :
    Prop where
  fits : Fits type dirIn after
  pidToggle : after.pidToggle = (before.pidToggle ^^ flips)
  chdis : after.chdis = stops

section Single

variable {type : DataType} {dirIn : Bool} {channel : Channel}

theorem Fits.stopped {stopped : Channel} (fits : channel.Fits type dirIn)
    (use : SameUse channel stopped) (hchint : stopped.hchint = 0)
    (mask : stopped.hchimask = (channel.enableInt .tsfcmpan).hchimask) :
    stopped.Fits type dirIn := by
  have masks : stopped.unmasked = (channel.enableInt .tsfcmpan).unmasked := by
    funext flag
    rw [Channel.unmasked, Channel.unmasked, mask]
  refine ⟨use.epType.trans fits.epType, use.dirIn.trans fits.dirIn, hchint,
    use.starting.trans fits.starting, fun flag listed => ?_, fun _ => ?_⟩
  · rw [masks, unmasked_enableInt, fits.unmasked flag listed, Bool.true_or]
  · rw [masks, unmasked_enableInt]
    simp

theorem Fits.kept {kept : Channel} (fits : channel.Fits type dirIn) (use : SameUse channel kept)
    (hchint : kept.hchint = 0) (mask : kept.hchimask = channel.hchimask)
    (running : kept.chdis = false) : kept.Fits type dirIn := by
  have masks : kept.unmasked = channel.unmasked := by
    funext flag
    rw [Channel.unmasked, Channel.unmasked, mask]
  exact ⟨use.epType.trans fits.epType, use.dirIn.trans fits.dirIn, hchint,
    use.starting.trans fits.starting, masks ▸ fits.unmasked, by simp [running]⟩

theorem Fits.halted {halted : Channel} (fits : channel.Fits type dirIn)
    (use : SameUse channel halted) (hchint : halted.hchint = 0)
    (mask : halted.hchimask = (channel.disableInt .tsfcmpan).hchimask)
    (running : halted.chdis = false) : halted.Fits type dirIn := by
  have masks : halted.unmasked = (channel.disableInt .tsfcmpan).unmasked := by
    funext flag
    rw [Channel.unmasked, Channel.unmasked, mask]
  refine ⟨use.epType.trans fits.epType, use.dirIn.trans fits.dirIn, hchint,
    use.starting.trans fits.starting, fun flag listed => ?_, by simp [running]⟩
  rw [masks, unmasked_disableInt, fits.unmasked flag listed]
  rcases List.mem_cons.mp listed with rfl | listed
  · rfl
  · have other : ChannelInt.tsfcmpan ≠ flag := by
      rintro rfl
      simp at listed
    simp [other]

theorem isrHandler_complete (single : ∀ other, channel.read other = decide (other = .tsfcmpn)) :
    channel.isrHandler = if channel.dirIn then channel.inComplete
      else (channel.outStop .tsfcmpn).setPipe .ok := by
  simp [isrHandler, inIsrHandler, inResponses, inEvents, outIsrHandler, single]

theorem isrHandler_halted (single : ∀ other, channel.read other = decide (other = .tsfcmpan)) :
    channel.isrHandler = if channel.dirIn then channel.inHalted else channel.outHalted := by
  simp [isrHandler, inIsrHandler, inResponses, inEvents, outIsrHandler, single]

theorem isrHandler_nak (single : ∀ other, channel.read other = decide (other = .rxNak)) :
    channel.isrHandler = if channel.dirIn then channel.inNak
      else (channel.outStop .rxNak).setPipe .nak := by
  simp [isrHandler, inIsrHandler, inResponses, inEvents, outIsrHandler, single]

theorem isrHandler_failed (single : ∀ other, channel.read other = decide (other = .tErr)) :
    channel.isrHandler = if channel.dirIn then
        (((channel.enableInt .tsfcmpan).setPipe .xactErr).haltChannel).clearInt .tErr
      else (channel.outStop .tErr).setPipe .xactErr := by
  simp [isrHandler, inIsrHandler, inResponses, inEvents, outIsrHandler, single]

theorem isrHandler_stall (single : ∀ other, channel.read other = decide (other = .rxStall)) :
    channel.isrHandler = if channel.dirIn then
        ((((channel.enableInt .tsfcmpan).setPipe .stall).clearInt .rxNak).clearInt
          .rxStall).haltChannel
      else (channel.outStop .rxStall).setPipe .stall := by
  have idle : ∀ channel : Channel, channel.hchint = 0 → channel.inEvents false = channel := by
    intro channel clear
    simp [inEvents, read_clear clear]
  simp only [isrHandler, inIsrHandler, inResponses, outIsrHandler, single]
  cases channel.dirIn with
  | true =>
    simp only [reduceCtorEq, decide_false, Bool.false_eq_true, if_false, decide_true, if_true]
    exact idle _ (hchint_clearInt _ .rxStall)
  | false => simp

theorem inOutcome_frame (channel : Channel) :
    SameUse channel channel.inOutcome ∧ channel.inOutcome.pidToggle = channel.pidToggle ∧
      channel.inOutcome.chdis = channel.chdis := by
  unfold inOutcome
  split <;> exact ⟨⟨rfl, rfl, rfl⟩, rfl, rfl⟩

theorem outOutcome_frame (channel : Channel) :
    SameUse channel channel.outOutcome ∧ channel.outOutcome.pidToggle =
        (channel.pidToggle ^^ (decide (channel.epType = .bulk) &&
          decide (channel.pipeState = .ok))) ∧
      channel.outOutcome.chdis = channel.chdis := by
  simp only [outOutcome]
  split
  · next pipe =>
    split
    · next bulk =>
      have epType : channel.epType = .bulk := bulk
      exact ⟨⟨rfl, rfl, rfl⟩, by simp [toggleDataPid, report, epType, pipe], rfl⟩
    · next other =>
      have epType : ¬ channel.epType = .bulk := other
      exact ⟨⟨rfl, rfl, rfl⟩, by simp [report, epType], rfl⟩
  · next pipe => exact ⟨⟨rfl, rfl, rfl⟩, by simp [report, pipe], rfl⟩
  · next pipe => split <;> exact ⟨⟨rfl, rfl, rfl⟩, by simp [report, enableChannel, pipe], rfl⟩
  · next pipe => exact ⟨⟨rfl, rfl, rfl⟩, by simp [report, pipe], rfl⟩
  · next pipe => exact ⟨⟨rfl, rfl, rfl⟩, by simp [report, pipe], rfl⟩
  · next other _ _ _ _ =>
    exact ⟨⟨rfl, rfl, rfl⟩,
      by rw [decide_eq_false other, Bool.and_false, Bool.xor_false], rfl⟩

variable (fits : channel.Fits type dirIn)

include fits

theorem answered_complete (running : channel.chdis = false) :
    Answer type dirIn channel (channel.answered .tsfcmpn) (decide (type = .bulk) && dirIn)
        (!(decide (type = .interrupt) && dirIn)) ∧
      (channel.answered .tsfcmpn).pipeState = .ok := by
  have single := read_single fits.hchint (fits.unmasked .tsfcmpn (by simp))
  have use := channel.raise_use ChannelInt.tsfcmpn.mask
  rw [answered, isrHandler_complete single, use.dirIn, fits.dirIn]
  cases dirIn with
  | true =>
    have epType : (((channel.raise ChannelInt.tsfcmpn.mask).setPipe .ok).clearInt
        .tsfcmpn).epType = type.epType := fits.epType
    have same := use.trans (inComplete_use _)
    simp only [inComplete, isControlOrBulk, epType, if_true] at same ⊢
    cases type with
    | bulk =>
      exact ⟨⟨fits.stopped same (hchint_clearInt _ .rxNak) rfl,
        (Bool.xor_true _).symm, rfl⟩, rfl⟩
    | interrupt =>
      exact ⟨⟨fits.kept same (hchint_clearInt _ .tsfcmpn) rfl running,
        (Bool.xor_false _).symm, running⟩, rfl⟩
  | false =>
    have same := use.trans ((Writes.none.outStop .tsfcmpn).setPipe .ok).use
    refine ⟨⟨fits.stopped same (hchint_clearInt _ .tsfcmpn) rfl, ?_, ?_⟩, rfl⟩ <;>
      cases type <;> simp [setPipe, outStop, haltChannel, enableInt, clearInt, raise]

theorem answered_stall :
    Answer type dirIn channel (channel.answered .rxStall) false true ∧
      (channel.answered .rxStall).pipeState = .stall := by
  have single := read_single fits.hchint (fits.unmasked .rxStall (by simp))
  have use := channel.raise_use ChannelInt.rxStall.mask
  rw [answered, isrHandler_stall single]
  split
  · have same := use.trans
      ((((Writes.none.enableInt .tsfcmpan).setPipe .stall).clearInt .rxNak).clearInt
        .rxStall).haltChannel.use
    exact ⟨⟨fits.stopped same (hchint_clearInt _ .rxStall) rfl, (Bool.xor_false _).symm, rfl⟩, rfl⟩
  · have same := use.trans ((Writes.none.outStop .rxStall).setPipe .stall).use
    exact ⟨⟨fits.stopped same (hchint_clearInt _ .rxStall) rfl, (Bool.xor_false _).symm, rfl⟩, rfl⟩

theorem answered_failed :
    Answer type dirIn channel (channel.answered .tErr) false true ∧
      (channel.answered .tErr).pipeState = .xactErr := by
  have single := read_single fits.hchint (fits.unmasked .tErr (by simp))
  have use := channel.raise_use ChannelInt.tErr.mask
  rw [answered, isrHandler_failed single]
  split
  · have same := use.trans
      (((Writes.none.enableInt .tsfcmpan).setPipe .xactErr).haltChannel.clearInt .tErr).use
    exact ⟨⟨fits.stopped same (hchint_clearInt _ .tErr) rfl, (Bool.xor_false _).symm, rfl⟩, rfl⟩
  · have same := use.trans ((Writes.none.outStop .tErr).setPipe .xactErr).use
    exact ⟨⟨fits.stopped same (hchint_clearInt _ .tErr) rfl, (Bool.xor_false _).symm, rfl⟩, rfl⟩

/-- A bulk IN channel tries again by itself. -/
theorem answered_nak (running : channel.chdis = false) :
    Answer type dirIn channel (channel.answered .rxNak) false
        (!(decide (type = .bulk) && dirIn)) ∧
      (channel.answered .rxNak).pipeState = .nak := by
  have single := read_single fits.hchint (fits.unmasked .rxNak (by simp))
  have use := channel.raise_use ChannelInt.rxNak.mask
  rw [answered, isrHandler_nak single, use.dirIn, fits.dirIn]
  cases dirIn with
  | true =>
    have epType := use.epType.trans fits.epType
    have same := use.trans (inNak_writes _).use
    simp only [inNak, isControlOrBulk, epType, if_true] at same ⊢
    cases type with
    | bulk =>
      exact ⟨⟨fits.kept same (hchint_clearInt _ .rxNak) rfl running,
        (Bool.xor_false _).symm, running⟩, rfl⟩
    | interrupt =>
      exact ⟨⟨fits.stopped same (hchint_clearInt _ .rxNak) rfl,
        (Bool.xor_false _).symm, rfl⟩, rfl⟩
  | false =>
    have same := use.trans ((Writes.none.outStop .rxNak).setPipe .nak).use
    refine ⟨⟨fits.stopped same (hchint_clearInt _ .rxNak) rfl, ?_, ?_⟩, rfl⟩ <;>
      cases type <;> simp [setPipe, outStop, haltChannel, enableInt, clearInt, raise]

/-- The halt: bulk OUT flips after a completed transfer, interrupt IN after any. -/
theorem answered_halted (halts : channel.chdis = true) :
    Answer type dirIn channel (channel.answered .tsfcmpan)
      (if dirIn then decide (type = .interrupt)
        else decide (type = .bulk) && decide (channel.pipeState = .ok)) false := by
  have single := read_single fits.hchint (fits.halt halts)
  have use := channel.raise_use ChannelInt.tsfcmpan.mask
  rw [answered, isrHandler_halted single, use.dirIn, fits.dirIn]
  generalize pending : channel.raise ChannelInt.tsfcmpan.mask = raised at use
  have same : raised.pidToggle = channel.pidToggle ∧ raised.pipeState = channel.pipeState ∧
      raised.hchimask = channel.hchimask := by
    rw [← pending]
    exact ⟨rfl, rfl, rfl⟩
  have mask : raised.processHalt.hchimask = (channel.disableInt .tsfcmpan).hchimask := by
    rw [processHalt, disableInt, disableInt, same.2.2]
  cases dirIn with
  | true =>
    obtain ⟨reported, toggle, stops⟩ := inOutcome_frame raised.processHalt
    have hchimask := (inOutcome_hchimask raised.processHalt).trans mask
    have epType : raised.processHalt.inOutcome.epType = type.epType :=
      reported.epType.trans (use.epType.trans fits.epType)
    have kept : SameUse channel raised.processHalt.inOutcome :=
      use.trans ((⟨rfl, rfl, rfl⟩ : SameUse raised raised.processHalt).trans reported)
    simp only [inHalted, epType, if_true]
    cases type with
    | bulk =>
      exact ⟨fits.halted ⟨kept.epType, kept.dirIn, kept.starting⟩ (hchint_clearInt _ .tsfcmpan)
        hchimask stops, (toggle.trans same.1).trans (Bool.xor_false _).symm, stops⟩
    | interrupt =>
      refine ⟨fits.halted ⟨kept.epType, kept.dirIn, kept.starting⟩ (hchint_clearInt _ .tsfcmpan)
        hchimask stops, ?_, stops⟩
      have flipped : (!raised.processHalt.inOutcome.pidToggle) = (channel.pidToggle ^^ true) := by
        rw [toggle, Bool.xor_true]
        exact congrArg not same.1
      exact flipped
  | false =>
    obtain ⟨reported, toggle, stops⟩ := outOutcome_frame raised.processHalt
    have hchimask := (outOutcome_hchimask raised.processHalt).trans mask
    have kept : SameUse channel raised.processHalt.outOutcome :=
      use.trans ((⟨rfl, rfl, rfl⟩ : SameUse raised raised.processHalt).trans reported)
    have bulk : decide (raised.processHalt.epType = .bulk) = decide (type = .bulk) := by
      rw [show raised.processHalt.epType = type.epType from use.epType.trans fits.epType]
      cases type <;> rfl
    refine ⟨fits.halted ⟨kept.epType, kept.dirIn, kept.starting⟩ (hchint_clearInt _ .tsfcmpan)
      hchimask stops, ?_, stops⟩
    rw [bulk] at toggle
    have pidToggle : raised.processHalt.outOutcome.pidToggle = (channel.pidToggle ^^
        (decide (type = .bulk) && decide (channel.pipeState = .ok))) := by
      rw [toggle, ← same.1, ← same.2.1]
      rfl
    exact pidToggle

end Single
end Channel

/-! ## Packets -/

/-- A channel and the endpoint behind it: `base` packets were acknowledged before the transfer in
progress and `fresh` in it, counted from the opening or the last CLEAR_FEATURE. -/
structure Link where
  channel : Channel
  maxPackSize : Nat
  remaining : Nat
  base : Nat
  fresh : Nat
  completed : Bool
  active : Bool
  deriving DecidableEq

def Link.acked (link : Link) : Nat := link.base + link.fresh

def odd (count : Nat) : Bool := decide (count % 2 = 1)

theorem odd_add (first second : Nat) : odd (first + second) = (odd first ^^ odd second) := by
  rcases Nat.mod_two_eq_zero_or_one first with one | one <;>
    rcases Nat.mod_two_eq_zero_or_one second with two | two <;>
    simp [odd, Nat.add_mod, one, two]

/-- The PID that the endpoint expects. -/
def Link.expected (link : Link) : DataPid := if odd link.acked then .data1 else .data0

def DataType.startOf : DataType → Bool → Channel.Start
  | .bulk, true => .bulkInData
  | .bulk, false => .bulkOutData
  | .interrupt, true => .interruptInData
  | .interrupt, false => .interruptOutData

inductive LinkLabel where
  | start (wLen : Nat)
  | ack (short : Bool)
  | nak
  | stall
  | fail
  | halted
  | clearFeature
  deriving DecidableEq

/-- The last packet of the transfer, or a short one from the device. -/
def Link.completes (dirIn : Bool) (link : Link) (short : Bool) : Bool :=
  decide (link.remaining = 1) || (dirIn && short)

def Link.acknowledge (dirIn : Bool) (link : Link) (short : Bool) : Link :=
  let counted := { link with remaining := link.remaining - 1, fresh := link.fresh + 1 }
  if link.completes dirIn short then
    let channel := link.channel.answered .tsfcmpn
    { counted with channel := channel, completed := true, active := channel.chdis }
  else counted

def Link.running (link : Link) : Bool := link.active && !link.channel.chdis

-- `USBH_StandardClearFeature` has a channel number and does nothing with it.
def linkStep (type : DataType) (dirIn : Bool) (link : Link) : LinkLabel → Option Link
  | .start wLen =>
      if link.active then none
      else some { link with
        channel := (link.channel.start (type.startOf dirIn)).settle
        remaining := packetNum wLen link.maxPackSize
        base := link.acked
        fresh := 0
        completed := false
        active := true }
  | .ack short =>
      if link.running && decide (0 < link.remaining) then some (link.acknowledge dirIn short)
      else none
  | .nak =>
      if link.running then some { link with channel := link.channel.answered .rxNak } else none
  | .stall =>
      if link.running then some { link with channel := link.channel.answered .rxStall } else none
  | .fail =>
      if link.running then some { link with channel := link.channel.answered .tErr } else none
  | .halted =>
      if link.active && link.channel.chdis then
        some { link with channel := link.channel.answered .tsfcmpan, active := false }
      else none
  | .clearFeature => if link.active then none else some { link with base := 0, fresh := 0 }

def Link.opened (type : DataType) (dirIn ping : Bool) (pipeState : PipeState)
    (maxPackSize : Nat) : Link where
  channel := Channel.opened type.epType dirIn ping pipeState
  maxPackSize := maxPackSize
  remaining := 0
  base := 0
  fresh := 0
  completed := false
  active := false

/-- The transfers that leave the toggle as the endpoint has it: a completed one has acknowledged
an odd number of packets; one that was stopped an even number, or for interrupt OUT an odd one; a
CLEAR_FEATURE finds the toggle at DATA0. -/
def InStep (type : DataType) (dirIn : Bool) (link : Link) : LinkLabel → Prop
  | .ack short =>
      type = .interrupt ∧ dirIn = true ∧ link.completes dirIn short = true →
        odd (link.fresh + 1) = true
  | .halted =>
      odd link.fresh = (match type with
        | .bulk => link.completed
        | .interrupt => !dirIn)
  | .clearFeature => odd link.acked = false
  | _ => True

structure Link.Tracks (type : DataType) (dirIn : Bool) (link : Link) : Prop where
  fits : link.channel.Fits type dirIn
  resting : link.active = false →
    link.channel.chdis = false ∧ link.channel.pidToggle = odd link.acked
  running : link.active = true → link.channel.chdis = false →
    link.completed = false ∧
      link.channel.pidToggle = (odd link.base ^^ decide (type = .interrupt))
  stopping : link.active = true → link.channel.chdis = true →
    decide (link.channel.pipeState = .ok) = link.completed ∧ link.channel.pidToggle =
      (odd link.base ^^ (decide (type = .interrupt) || (dirIn && link.completed)))

section Steps

variable {type : DataType} {dirIn : Bool} {link : Link}

theorem Link.Tracks.stop (tracks : link.Tracks type dirIn) (running : link.running = true)
    {channel : Channel} {stops : Bool}
    (answer : Channel.Answer type dirIn link.channel channel false stops)
    (pipe : channel.pipeState ≠ .ok) :
    Link.Tracks type dirIn { link with channel := channel } := by
  simp only [Link.running, Bool.and_eq_true, Bool.not_eq_true'] at running
  obtain ⟨none, toggle⟩ := tracks.running running.1 running.2
  have same : channel.pidToggle = link.channel.pidToggle :=
    answer.pidToggle.trans (Bool.xor_false _)
  refine ⟨answer.fits, fun rests => absurd (rests : link.active = false) (by simp [running.1]), fun _ _ => ?_,
    fun _ _ => ?_⟩
  · exact ⟨none, same.trans toggle⟩
  · rw [same, toggle, none, decide_eq_false pipe]
    simp

theorem start_fits (fits : link.channel.Fits type dirIn) :
    ((link.channel.start (type.startOf dirIn)).settle).Fits type dirIn := by
  obtain ⟨epType, inward, hchint, starting, unmasked, halt⟩ := fits
  cases type <;> cases dirIn <;> exact ⟨epType, inward, hchint, rfl, unmasked, halt⟩

/-- The PID of the first packet is the toggle, which an interrupt transfer then flips. -/
theorem start_pid (channel : Channel) :
    (channel.start (type.startOf dirIn)).settle.dataPid =
        (if channel.pidToggle then .data1 else .data0) ∧
      (channel.start (type.startOf dirIn)).settle.pidToggle =
        (channel.pidToggle ^^ decide (type = .interrupt)) ∧
      (channel.start (type.startOf dirIn)).settle.chdis = channel.chdis := by
  cases type with
  | bulk => cases dirIn <;> exact ⟨rfl, (Bool.xor_false _).symm, rfl⟩
  | interrupt => cases dirIn <;> exact ⟨rfl, (Bool.xor_true _).symm, rfl⟩

/-- The toggle of a link at rest is what the endpoint expects. -/
def Link.Synced (link : Link) : Prop := link.channel.pidToggle = odd link.acked

/-- The next transfer starts with the PID that the endpoint expects. -/
def Link.NextRight (type : DataType) (dirIn : Bool) (link : Link) : Prop :=
  ∀ wLen next, linkStep type dirIn link (.start wLen) = some next →
    next.channel.dataPid = link.expected

theorem nextRight_iff (rests : link.active = false) :
    link.NextRight type dirIn ↔ link.Synced := by
  have pid := (@start_pid type dirIn link.channel).1
  have started : ∀ wLen, linkStep type dirIn link (.start wLen) = some { link with
      channel := (link.channel.start (type.startOf dirIn)).settle
      remaining := packetNum wLen link.maxPackSize
      base := link.acked
      fresh := 0
      completed := false
      active := true } := by
    intro wLen
    simp [linkStep, rests]
  unfold Link.NextRight Link.Synced Link.expected
  constructor
  · intro right
    have same := right 0 _ (started 0)
    rw [pid] at same
    cases toggle : link.channel.pidToggle <;> cases parity : odd link.acked <;> simp_all
  · intro synced wLen next taken
    obtain rfl := Option.some.inj ((started wLen).symm.trans taken)
    rw [pid, synced]

theorem acked_fresh (link : Link) : odd link.acked = (odd link.base ^^ odd link.fresh) :=
  odd_add link.base link.fresh

theorem start_tracks {wLen : Nat} {after : Link} (tracks : link.Tracks type dirIn)
    (taken : linkStep type dirIn link (.start wLen) = some after) :
    after.Tracks type dirIn ∧ after.active = true := by
  simp only [linkStep] at taken
  split at taken
  · cases taken
  · next rests =>
    obtain rfl := Option.some.inj taken
    obtain ⟨idle, toggle⟩ := tracks.resting (Bool.not_eq_true _ ▸ rests)
    obtain ⟨_, flipped, stops⟩ := @start_pid type dirIn link.channel
    refine ⟨⟨start_fits tracks.fits, nofun, fun _ _ => ⟨rfl, ?_⟩, fun _ halts => ?_⟩, rfl⟩
    · rw [flipped, toggle]
    · exact absurd halts (by simp [stops, idle])

theorem ack_tracks {short : Bool} {after : Link} (tracks : link.Tracks type dirIn)
    (taken : linkStep type dirIn link (.ack short) = some after) :
    (after.active = false → (after.Synced ↔ InStep type dirIn link (.ack short))) ∧
      (InStep type dirIn link (.ack short) → after.Tracks type dirIn) := by
  simp only [linkStep] at taken
  split at taken
  · next admitted =>
    obtain rfl := Option.some.inj taken
    simp only [Link.running, Bool.and_eq_true, Bool.not_eq_true'] at admitted
    obtain ⟨⟨active, runs⟩, _⟩ := admitted
    obtain ⟨none, toggle⟩ := tracks.running active runs
    obtain ⟨answer, pipe⟩ := Channel.answered_complete tracks.fits runs
    cases last : link.completes dirIn short with
    | false =>
      have counted : link.acknowledge dirIn short =
          { link with remaining := link.remaining - 1, fresh := link.fresh + 1 } := by
        simp [Link.acknowledge, last]
      rw [counted]
      refine ⟨fun rests => absurd (rests.symm.trans active) Bool.false_ne_true,
        fun _ => ⟨tracks.fits, ?_, ?_, ?_⟩⟩
      · exact fun rests => absurd (rests.symm.trans active) Bool.false_ne_true
      · exact fun _ _ => ⟨none, toggle⟩
      · exact fun _ halts => absurd (runs.symm.trans halts) Bool.false_ne_true
    | true =>
      have done : link.acknowledge dirIn short = { link with
          remaining := link.remaining - 1
          fresh := link.fresh + 1
          channel := link.channel.answered .tsfcmpn
          completed := true
          active := (link.channel.answered .tsfcmpn).chdis } := by
        simp [Link.acknowledge, last]
      rw [done]
      have flipped := answer.pidToggle
      rw [toggle] at flipped
      have stops := answer.chdis
      by_cases direct : type = .interrupt ∧ dirIn = true
      · obtain ⟨rfl, rfl⟩ := direct
        have finished : (link.channel.answered .tsfcmpn).chdis = false := by simpa using stops
        have synced : (link.channel.answered .tsfcmpn).pidToggle =
              odd (link.base + (link.fresh + 1)) ↔ odd (link.fresh + 1) = true := by
          rw [flipped, odd_add]
          cases odd link.base <;> cases odd (link.fresh + 1) <;> simp
        have inStep : InStep .interrupt true link (.ack short) ↔ odd (link.fresh + 1) = true := by
          simp [InStep, last]
        refine ⟨fun _ => synced.trans inStep.symm, fun step => ⟨answer.fits, fun _ => ?_, ?_, ?_⟩⟩
        · exact ⟨finished, synced.mpr (inStep.mp step)⟩
        · exact fun starts => absurd (finished.symm.trans starts) Bool.false_ne_true
        · exact fun starts => absurd (finished.symm.trans starts) Bool.false_ne_true
      · have waits : (link.channel.answered .tsfcmpn).chdis = true := by
          rw [stops]
          cases type <;> cases dirIn <;> simp_all
        refine ⟨fun rests => absurd (rests.symm.trans waits) Bool.false_ne_true,
          fun _ => ⟨answer.fits, ?_, ?_, fun _ _ => ⟨by simp [pipe], ?_⟩⟩⟩
        · exact fun rests => absurd (rests.symm.trans waits) Bool.false_ne_true
        · exact fun _ runs => absurd (runs.symm.trans waits) Bool.false_ne_true
        · rw [flipped]
          cases type <;> cases dirIn <;> simp_all
  · cases taken

theorem halted_tracks {after : Link} (tracks : link.Tracks type dirIn)
    (taken : linkStep type dirIn link .halted = some after) :
    after.active = false ∧ (after.Synced ↔ InStep type dirIn link .halted) ∧
      (InStep type dirIn link .halted → after.Tracks type dirIn) := by
  simp only [linkStep] at taken
  split at taken
  · next admitted =>
    obtain rfl := Option.some.inj taken
    simp only [Bool.and_eq_true] at admitted
    obtain ⟨active, halts⟩ := admitted
    obtain ⟨pipe, toggle⟩ := tracks.stopping active halts
    have answer := Channel.answered_halted tracks.fits halts
    have flipped := answer.pidToggle
    rw [toggle, pipe] at flipped
    have synced : (link.channel.answered .tsfcmpan).pidToggle = odd link.acked ↔
        InStep type dirIn link .halted := by
      rw [flipped, acked_fresh]
      simp only [InStep]
      cases type <;> cases dirIn <;> cases odd link.base <;> cases link.completed <;>
        cases odd link.fresh <;> simp
    exact ⟨rfl, synced, fun step => ⟨answer.fits, fun _ => ⟨answer.chdis, synced.mpr step⟩,
      nofun, nofun⟩⟩
  · cases taken

theorem clearFeature_tracks {after : Link} (tracks : link.Tracks type dirIn)
    (taken : linkStep type dirIn link .clearFeature = some after) :
    after.active = false ∧ (after.Synced ↔ InStep type dirIn link .clearFeature) ∧
      (InStep type dirIn link .clearFeature → after.Tracks type dirIn) := by
  simp only [linkStep] at taken
  split at taken
  · cases taken
  · next rests =>
    obtain rfl := Option.some.inj taken
    have rests := Bool.not_eq_true _ ▸ rests
    obtain ⟨idle, toggle⟩ := tracks.resting rests
    have synced : link.channel.pidToggle = odd 0 ↔ InStep type dirIn link .clearFeature := by
      rw [toggle, show odd 0 = false from rfl]
      rfl
    refine ⟨rests, synced, fun step => ⟨tracks.fits, fun _ => ⟨idle, synced.mpr step⟩, ?_, ?_⟩⟩
    · exact fun starts => absurd (rests.symm.trans starts) Bool.false_ne_true
    · exact fun starts => absurd (rests.symm.trans starts) Bool.false_ne_true

/-- The answers that stop a transfer, or for a NAK on bulk IN do not. -/
theorem stop_tracks {label : LinkLabel} {after : Link} (tracks : link.Tracks type dirIn)
    (stops : label = .nak ∨ label = .stall ∨ label = .fail)
    (taken : linkStep type dirIn link label = some after) :
    after.Tracks type dirIn ∧ after.active = true := by
  have running : link.running = true := by
    rcases stops with rfl | rfl | rfl <;> simp only [linkStep] at taken <;> split at taken <;>
      first | assumption | cases taken
  have parts := running
  simp only [Link.running, Bool.and_eq_true, Bool.not_eq_true'] at parts
  rcases stops with rfl | rfl | rfl <;> simp only [linkStep, running, if_true] at taken <;>
    obtain rfl := Option.some.inj taken
  · obtain ⟨answer, pipe⟩ := Channel.answered_nak tracks.fits parts.2
    exact ⟨tracks.stop running answer (by simp [pipe]), parts.1⟩
  · obtain ⟨answer, pipe⟩ := Channel.answered_stall tracks.fits
    exact ⟨tracks.stop running answer (by simp [pipe]), parts.1⟩
  · obtain ⟨answer, pipe⟩ := Channel.answered_failed tracks.fits
    exact ⟨tracks.stop running answer (by simp [pipe]), parts.1⟩

theorem linkStep_tracks {label : LinkLabel} {after : Link} (tracks : link.Tracks type dirIn)
    (taken : linkStep type dirIn link label = some after) :
    (after.active = false → (after.Synced ↔ InStep type dirIn link label)) ∧
      (InStep type dirIn link label → after.Tracks type dirIn) := by
  cases label with
  | start wLen =>
    obtain ⟨kept, active⟩ := start_tracks tracks taken
    exact ⟨fun rests => absurd rests (by simp [active]), fun _ => kept⟩
  | ack short => exact ack_tracks tracks taken
  | halted => exact (halted_tracks tracks taken).2.imp (fun same _ => same) id
  | clearFeature => exact (clearFeature_tracks tracks taken).2.imp (fun same _ => same) id
  | nak =>
    obtain ⟨kept, active⟩ := stop_tracks tracks (.inl rfl) taken
    exact ⟨fun rests => absurd rests (by simp [active]), fun _ => kept⟩
  | stall =>
    obtain ⟨kept, active⟩ := stop_tracks tracks (.inr (.inl rfl)) taken
    exact ⟨fun rests => absurd rests (by simp [active]), fun _ => kept⟩
  | fail =>
    obtain ⟨kept, active⟩ := stop_tracks tracks (.inr (.inr rfl)) taken
    exact ⟨fun rests => absurd rests (by simp [active]), fun _ => kept⟩

end Steps

theorem initMask_unmasked (type : DataType) (dirIn ping : Bool) :
    ∀ flag ∈ [ChannelInt.tsfcmpn, .rxStall, .tErr, .rxNak],
      (Channel.initMask type.epType dirIn ping).getLsbD flag.bit = true := by
  cases type <;> cases dirIn <;> cases ping <;> decide

theorem opened_tracks (type : DataType) (dirIn ping : Bool) (pipeState : PipeState)
    (maxPackSize : Nat) :
    (Link.opened type dirIn ping pipeState maxPackSize).Tracks type dirIn :=
  ⟨⟨rfl, rfl, rfl, rfl, initMask_unmasked type dirIn ping, nofun⟩, fun _ => ⟨rfl, rfl⟩, nofun,
    nofun⟩

/-- The first PID of every transfer is the one the endpoint expects, as long as the transfers
before it were in step, and no longer. -/
theorem pids_follow (type : DataType) (dirIn ping : Bool) (pipeState : PipeState)
    (maxPackSize : Nat) :
    (∀ (labels : List LinkLabel) (link : Link), Run (linkStep type dirIn) (InStep type dirIn)
        (Link.opened type dirIn ping pipeState maxPackSize) labels link →
      link.NextRight type dirIn) ∧
    (∀ (labels : List LinkLabel) (before after : Link) (label : LinkLabel),
      Run (linkStep type dirIn) (InStep type dirIn)
        (Link.opened type dirIn ping pipeState maxPackSize) labels before →
      linkStep type dirIn before label = some after → after.active = false →
      (after.NextRight type dirIn ↔ InStep type dirIn before label)) := by
  have tracked : ∀ {labels : List LinkLabel} {link : Link},
      Run (linkStep type dirIn) (InStep type dirIn)
        (Link.opened type dirIn ping pipeState maxPackSize) labels link →
      link.Tracks type dirIn := by
    intro labels link run
    exact run.invariant (Link.Tracks type dirIn)
      (opened_tracks type dirIn ping pipeState maxPackSize)
      fun _ _ _ tracks step taken => (linkStep_tracks tracks taken).2 step
  constructor
  · intro labels link run wLen next taken
    cases active : link.active with
    | false => exact (nextRight_iff active).mpr ((tracked run).resting active).2 wLen next taken
    | true => simp [linkStep, active] at taken
  · intro labels before after label run taken rests
    rw [nextRight_iff rests]
    exact (linkStep_tracks (tracked run) taken).1 rests

instance (type : DataType) (dirIn : Bool) (link : Link) (label : LinkLabel) :
    Decidable (InStep type dirIn link label) := by
  unfold InStep
  split
  · infer_instance
  · infer_instance
  · infer_instance
  · infer_instance

/-- 31 bytes are sent on a bulk endpoint, after a NAK. -/
def onePacketLabels : List LinkLabel := [.start 31, .nak, .halted, .start 31, .ack false]

theorem onePacket_accepted : (execute (linkStep .bulk false) (InStep .bulk false)
    (Link.opened .bulk false false .ok 64) onePacketLabels).isSome = true := by
  decide +kernel

def onePacketLink : Link :=
  final (linkStep .bulk false) (InStep .bulk false) (Link.opened .bulk false false .ok 64)
    onePacketLabels onePacket_accepted

theorem onePacketLink_follows : onePacketLink.NextRight .bulk false ∧
    ∀ after, linkStep .bulk false onePacketLink .halted = some after →
      after.active = false → after.NextRight .bulk false :=
  ⟨(pids_follow .bulk false false .ok 64).1 onePacketLabels onePacketLink
      (Run.final _ _ _ _ _),
    fun after taken rests => ((pids_follow .bulk false false .ok 64).2 onePacketLabels
      onePacketLink after .halted (Run.final _ _ _ _ _) taken rests).mpr (by decide +kernel)⟩

/-- 128 bytes are sent in two packets. -/
def twoPacketLabels : List LinkLabel := [.start 128, .ack false, .ack false, .halted]

theorem twoPacket_accepted : (execute (linkStep .bulk false) free
    (Link.opened .bulk false false .ok 64) twoPacketLabels).isSome = true := by
  decide +kernel

def twoPacketLink : Link :=
  final (linkStep .bulk false) free (Link.opened .bulk false false .ok 64) twoPacketLabels
    twoPacket_accepted

theorem twoPackets_repeat : ¬ ∀ (type : DataType) (dirIn ping : Bool) (pipeState : PipeState)
    (maxPackSize : Nat) (labels : List LinkLabel) (link : Link),
    Run (linkStep type dirIn) free (Link.opened type dirIn ping pipeState maxPackSize)
      labels link → link.NextRight type dirIn := by
  intro right
  have run : Run (linkStep .bulk false) free (Link.opened .bulk false false .ok 64)
      twoPacketLabels twoPacketLink := Run.final _ _ _ _ _
  have rests : twoPacketLink.active = false := by decide +kernel
  have synced := (nextRight_iff rests).mp (right _ _ _ _ _ _ _ run)
  exact absurd synced (by unfold Link.Synced; decide +kernel)

end ApmSdk.Usbh
