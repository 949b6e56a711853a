import ApmSdk.Usbh.Agreement

set_option autoImplicit false

/-!
# When an enumeration completes

On a bus that loses nothing the host gets through its enumeration in a bounded number of polls,
provided the device grants every request; on any bus it gets through only then.
-/

namespace ApmSdk.Usbh

open Runs
open Otg (Device Ep0Action Ep0Object)

variable {room : Room} (config : Config) (firmware : Firmware room)

/-- The device grants every request of the enumeration. -/
structure Answerable : Prop where
  address : config.configuredAddress < 127
  manufacturer : (firmware.descriptors.stringDesc firmware.iManufacturer).isSome
  product : (firmware.descriptors.stringDesc firmware.iProduct).isSome
  serialNumber : firmware.iSerialNumber ≠ 0 →
    (firmware.descriptors.stringDesc firmware.iSerialNumber).isSome

/-- A poll, and the stage that it has started if it has. -/
def Session.exchange (session : Session) : Session :=
  ((session.poll config).step config firmware .deliver).getD (session.poll config)

-- The polls that the stage in progress and those after it take.
def Control.remaining (control : Control) : Nat :=
  match control.curXferState, control.preXferState with
  | .setup, _ => 6
  | .waitUrb, .setup => 5
  | .dataIn, _ => 4
  | .waitUrb, .dataIn => 3
  | .statusOut, _ => 2
  | .statusIn, _ => 2
  | _, _ => 1

def EnumState.remaining (state : EnumState) : Nat := 10 - state.passed.length

def Session.remaining (session : Session) : Nat :=
  if session.enum.enumState = .configuredOk then 0
  else 7 * (session.enum.enumState.remaining - 1) +
    if session.enum.xferState = .waiting then session.control.remaining else 7

theorem answerable_iff : Answerable config firmware ↔ ∀ state, Granted config firmware state := by
  constructor
  · rintro ⟨address, manufacturer, product, serialNumber⟩ state
    cases state <;> trivial
  · intro granted
    exact ⟨granted .setAddr, granted .getMfcStringDesc, granted .getProductStringDesc,
      granted .getSerialNumStringDesc⟩

/-- Between two exchanges of a run that loses nothing. -/
structure Session.Smooth (session : Session) : Prop where
  inv : session.Inv config firmware
  free : session.pending = none
  level : session.control.curXferState = .setup →
    Settled config firmware session.enum.enumState session.dev
  goes : session.enum.xferState = .waiting → ∃ stage,
    session.control.curXferState = stage.xferState ∧ session.Reached config firmware stage ∨
    session.control.Begun stage ∧ session.control.urbStatus = .ok ∧
      session.Passed config firmware stage

section Exchange

variable {config : Config} {firmware : Firmware room} {session : Session}

theorem Took.accepted {state : EnumState} {dev : Device}
    (took : Took config firmware state dev) (answerable : Answerable config firmware) :
    Accepted config firmware state dev :=
  took.resolve_right fun refused =>
    refused.1 ((answerable_iff config firmware).mp answerable state)

/-- A SETUP of a host that the device is level with reaches the device. -/
theorem Session.reaches (inv : session.Inv config firmware)
    (default : config.defaultAddress &&& 0x7F = 0)
    (level : Settled config firmware session.enum.enumState session.dev) :
    session.enum.outAddress = session.dev.address := by
  have addresses := inv.addresses
  cases state : session.enum.enumState with
  | idle =>
    rw [state] at addresses level
    exact addresses.1.trans level.2.symm
  | getDevDesc =>
    rw [state] at addresses level
    exact addresses.1.trans level.2.symm
  | setAddr =>
    rw [state] at addresses level
    exact (addresses.1.trans default).trans level.2.symm
  | configuredOk =>
    rw [state] at addresses level
    exact addresses.1.trans level.2.1.symm
  | _ =>
    rw [state] at addresses level
    exact addresses.1.trans level.2.symm

/-- A stage that the device has a part in is answered. -/
theorem Session.answered {stage : Stage} (answerable : Answerable config firmware)
    (later : stage ≠ .setup) (reached : session.Reached config firmware stage) :
    ∃ answer, session.answer firmware stage = some answer ∧ answer.status = .ok := by
  have serves : ∀ {action : Ep0Action} {bytes : List Usbd.Byte}, session.dev.ep0 = [action] →
      action ≠ .stall → firmware.serves stage action = some bytes →
      ∃ answer, session.answer firmware stage = some answer ∧ answer.status = .ok := by
    intro action bytes alone served serves
    refine ⟨⟨.ok, bytes, session.dev⟩, ?_, rfl⟩
    cases stage with
    | setup => exact absurd rfl later
    | _ => simp [Session.answer, alone, served.symm, serves]
  cases stage with
  | setup => exact absurd rfl later
  | dataOut => exact reached.elim
  | dataIn =>
    obtain ⟨obj, count, action, _⟩ := firmware.action_reads reached.1
    exact serves (reached.2.accepted answerable).ep0 (by simp [action])
      (by rw [action, Firmware.serves])
  | statusIn =>
    have action := firmware.action_silent reached.1
    exact serves (reached.2.accepted answerable).ep0 (by simp [action])
      (by rw [action, Firmware.serves])
  | statusOut =>
    obtain ⟨obj, count, action, _⟩ := firmware.action_reads reached.1
    exact serves reached.2.1.ep0 (by simp [action]) (by rw [action, Firmware.serves])

theorem Session.exchange_quiet (free : (session.poll config).pending = none) :
    session.exchange config firmware = session.poll config := by
  simp [Session.exchange, Session.step, free]

theorem Session.exchange_delivers {stage : Stage} {answer : Session.Answer}
    (busy : (session.poll config).pending = some stage)
    (answered : (session.poll config).answer firmware stage = some answer) :
    session.exchange config firmware =
      { (session.poll config).hear stage answer with pending := none } := by
  simp [Session.exchange, Session.step, busy, answered]

/-! ## One exchange -/

-- The polls left, and how many fewer they are after an exchange.
theorem EnumState.remaining_next {state : EnumState} (unfinished : state ≠ .configuredOk) :
    state.remaining = state.next.remaining + 1 := by
  cases state with
  | configuredOk => exact absurd rfl unfinished
  | _ => rfl

theorem Control.remaining_pos (control : Control) :
    0 < control.remaining ∧ control.remaining < 7 := by
  unfold Control.remaining
  split <;> decide

/-- The state is left for the next one. -/
theorem Session.remaining_advance {after : Session}
    (unfinished : session.enum.enumState ≠ .configuredOk)
    (advanced : after.enum.enumState = session.enum.enumState.next)
    (start : after.enum.xferState = .start) : after.remaining < session.remaining := by
  have one := EnumState.remaining_next unfinished
  have few := session.control.remaining_pos
  have before : 7 * session.enum.enumState.next.remaining + 1 ≤ session.remaining := by
    simp only [Session.remaining, if_neg unfinished]
    split <;> omega
  have later : after.remaining ≤ 7 * session.enum.enumState.next.remaining := by
    rw [Session.remaining, advanced, start]
    split
    next => omega
    next more =>
      have next := EnumState.remaining_next more
      rw [if_neg nofun]
      omega
  omega

theorem Session.remaining_within {after : Session}
    (unfinished : session.enum.enumState ≠ .configuredOk)
    (same : after.enum.enumState = session.enum.enumState)
    (waiting : after.enum.xferState = .waiting)
    (fewer : session.enum.xferState = .waiting →
      after.control.remaining < session.control.remaining) :
    after.remaining < session.remaining := by
  have few := after.control.remaining_pos
  simp only [Session.remaining, same, if_neg unfinished, waiting, if_true]
  split
  next busy =>
    have less := fewer busy
    omega
  next => omega

theorem Session.Smooth.silent (smooth : session.Smooth config firmware)
    (unfinished : session.enum.enumState ≠ .configuredOk)
    (none : session.enum.enumState.request config session.enum.memory = .none) :
    (session.exchange config firmware).Smooth config firmware ∧
      (session.exchange config firmware).remaining < session.remaining := by
  have start := smooth.inv.start_of_silent none
  have inv := smooth.inv.silent none
  have polled := Session.poll_silent none start
  have free : (session.poll config).pending = .none := by
    rw [polled]
    exact smooth.free
  rw [Session.exchange_quiet free]
  rw [polled] at inv ⊢
  refine ⟨⟨inv, smooth.free, fun _ => ?_, fun waiting => ?_⟩, ?_⟩
  · have level := smooth.level (smooth.inv.quiet start).1
    cases state : session.enum.enumState with
    | idle => exact (state ▸ level : Settled config firmware .idle session.dev)
    | getSerialNumStringDesc =>
      exact (state ▸ level : Settled config firmware .getSerialNumStringDesc session.dev)
    | configuredOk => exact absurd state unfinished
    | _ =>
      rw [state] at none
      cases none
  · exact absurd (start.symm.trans waiting) nofun
  · exact Session.remaining_advance unfinished rfl start

theorem Session.Smooth.start {reqData : HostReqData} (smooth : session.Smooth config firmware)
    (unfinished : session.enum.enumState ≠ .configuredOk)
    (requests : session.enum.enumState.request config session.enum.memory = some reqData)
    (start : session.enum.xferState = .start) :
    (session.exchange config firmware).Smooth config firmware ∧
      (session.exchange config firmware).remaining < session.remaining := by
  have inv := smooth.inv.start requests start
  have polled := Session.poll_start requests start
  have free : (session.poll config).pending = .none := by
    rw [polled]
    exact smooth.free
  obtain ⟨current, _⟩ := smooth.inv.quiet start
  rw [Session.exchange_quiet free]
  rw [polled] at inv ⊢
  refine ⟨⟨inv, smooth.free, fun _ => smooth.level current, fun _ => ?_⟩, ?_⟩
  · exact ⟨.setup, .inl ⟨current, trivial⟩⟩
  · exact Session.remaining_within unfinished rfl rfl
      fun waiting => absurd (start.symm.trans waiting) nofun

-- The polls left when a stage is due.
def Stage.left : Stage → Nat
  | .setup => 6
  | .dataIn => 4
  | _ => 2

theorem Control.remaining_due {control : Control} {stage : Stage}
    (current : control.curXferState = stage.xferState) (other : stage ≠ .dataOut) :
    control.remaining = stage.left := by
  cases stage <;> first
    | exact absurd rfl other
    | simp [Control.remaining, Stage.left, current, Stage.xferState]

theorem Control.remaining_begun {control : Control} {stage : Stage} (begun : control.Begun stage)
    (other : stage ≠ .dataOut) : control.remaining + 1 = stage.left := by
  cases stage <;> first
    | exact absurd rfl other
    | simp [Control.remaining, Stage.left, begun.waits, begun.previous, Stage.xferState]

theorem Session.Reached.ne_dataOut {stage : Stage}
    (reached : session.Reached config firmware stage) : stage ≠ .dataOut := by
  rintro rfl
  exact reached

theorem Session.Passed.ne_dataOut {stage : Stage}
    (passed : session.Passed config firmware stage) : stage ≠ .dataOut := by
  rintro rfl
  exact passed

theorem Stage.next_ne_setup {stage next : Stage} {reqData : HostReqData}
    (follows : stage.next reqData = some next) : next ≠ .setup := by
  rintro rfl
  cases stage <;> simp only [Stage.next, reduceCtorEq, Option.some.injEq] at follows
  split at follows
  next => cases follows
  next => split at follows <;> cases follows

theorem Stage.left_next {stage next : Stage} {reqData : HostReqData}
    (follows : stage.next reqData = some next) (other : stage ≠ .dataOut) :
    next.left + 1 < stage.left := by
  have later := Stage.next_ne_setup follows
  cases stage with
  | setup => cases next <;> first | exact absurd rfl later | decide
  | dataOut => exact absurd rfl other
  | dataIn =>
    obtain rfl := Option.some.inj follows
    decide
  | statusIn => cases follows
  | statusOut => cases follows

/-- A stage that is due is started and takes place. -/
theorem Session.Smooth.due {stage : Stage} (smooth : session.Smooth config firmware)
    (default : config.defaultAddress &&& 0x7F = 0) (answerable : Answerable config firmware)
    (waiting : session.enum.xferState = .waiting)
    (current : session.control.curXferState = stage.xferState)
    (reached : session.Reached config firmware stage) :
    (session.exchange config firmware).Smooth config firmware ∧
      (session.exchange config firmware).remaining < session.remaining := by
  have inv := smooth.inv.due waiting current reached
  obtain ⟨control, begun, _, polled⟩ := smooth.inv.poll_due waiting current
  have busy : (session.poll config).pending = some stage := by rw [polled]
  have still : (session.poll config).Reached config firmware stage := by
    rw [polled]
    exact reached
  obtain ⟨answer, answered, ok⟩ : ∃ answer,
      (session.poll config).answer firmware stage = some answer ∧ answer.status = .ok := by
    by_cases first : stage = .setup
    next =>
      subst first
      have reaches := Session.reaches smooth.inv default (smooth.level current)
      rw [polled]
      exact ⟨_, if_pos reaches, rfl⟩
    next => exact Session.answered answerable first still
  have waits : (session.poll config).enum.xferState = .waiting := by
    rw [polled]
    exact waiting
  have going : (session.poll config).control.Begun stage := by
    rw [polled]
    exact begun
  have heard := going.hear answer
  rw [Session.exchange_delivers busy answered]
  refine ⟨⟨inv.deliver busy answered, rfl, fun setup => ?_, fun _ => ?_⟩, ?_⟩
  · exact absurd (heard.waits.symm.trans setup) nofun
  · obtain stall | ⟨_, passed⟩ := inv.heard waits still answered
    · exact absurd (ok.symm.trans stall) nofun
    · exact ⟨stage, .inr ⟨heard, (Session.hear_urbStatus going answer).trans ok, passed⟩⟩
  · have other := reached.ne_dataOut
    have unfinished := smooth.inv.unfinished waiting
    refine Session.remaining_within unfinished ?_ waits fun _ => ?_
    · rw [polled]
      rfl
    · have before := Control.remaining_due current other
      have later := Control.remaining_begun heard other
      simp only [before]
      exact Nat.lt_of_succ_le later.le

theorem Session.Smooth.passed {stage : Stage} (smooth : session.Smooth config firmware)
    (waiting : session.enum.xferState = .waiting) (begun : session.control.Begun stage)
    (ok : session.control.urbStatus = .ok) (passed : session.Passed config firmware stage) :
    (session.exchange config firmware).Smooth config firmware ∧
      (session.exchange config firmware).remaining < session.remaining := by
  have inv := smooth.inv.passed waiting begun smooth.free ok passed
  have unfinished := smooth.inv.unfinished waiting
  obtain ⟨next, control, follows, current, polled⟩ | ⟨control, last, current, polled⟩ :=
    smooth.inv.poll_passed waiting begun ok
  · have reached := passed.reached smooth.inv waiting follows
    have free : (session.poll config).pending = .none := by
      rw [polled]
      exact smooth.free
    rw [Session.exchange_quiet free]
    rw [polled] at inv ⊢
    refine ⟨⟨inv, smooth.free, fun setup => ?_, fun _ => ⟨next, .inl ⟨current, reached⟩⟩⟩, ?_⟩
    · have first : next = .setup := by
        have same := current.symm.trans setup
        cases next <;> first | rfl | cases same
      exact absurd first (Stage.next_ne_setup follows)
    · refine Session.remaining_within unfinished rfl waiting fun _ => ?_
      have before := Control.remaining_begun begun passed.ne_dataOut
      have later := Control.remaining_due current reached.ne_dataOut
      have fewer := Stage.left_next follows passed.ne_dataOut
      simp only [later]
      omega
  · obtain ⟨accepted, got⟩ := passed.accepted last
    have free : (session.poll config).pending = .none := by
      rw [polled]
      exact smooth.free
    obtain ⟨state, xfer⟩ :=
      complete_enumState (smooth.inv.busy waiting).1 { session.enum with xferState := .start }
    rw [Session.exchange_quiet free]
    rw [polled] at inv ⊢
    refine ⟨⟨inv, smooth.free, fun _ => ?_, fun again => ?_⟩, ?_⟩
    · simp only [state]
      exact accepted.settled
    · exact absurd (xfer.symm.trans again) nofun
    · exact Session.remaining_advance unfinished state xfer

/-- Every exchange of an unfinished enumeration brings it nearer to its end. -/
theorem Session.Smooth.exchange (smooth : session.Smooth config firmware)
    (default : config.defaultAddress &&& 0x7F = 0) (answerable : Answerable config firmware)
    (unfinished : session.enum.enumState ≠ .configuredOk) :
    (session.exchange config firmware).Smooth config firmware ∧
      (session.exchange config firmware).remaining < session.remaining := by
  cases requests : session.enum.enumState.request config session.enum.memory with
  | none => exact smooth.silent unfinished requests
  | some reqData =>
    cases xfer : session.enum.xferState with
    | start => exact smooth.start unfinished requests xfer
    | ok => exact absurd xfer smooth.inv.inProgress
    | waiting =>
      obtain ⟨stage, ⟨current, reached⟩ | ⟨begun, ok, passed⟩⟩ := smooth.goes xfer
      · exact smooth.due default answerable xfer current reached
      · exact smooth.passed xfer begun ok passed

theorem Session.Smooth.rests (smooth : session.Smooth config firmware)
    (finished : session.enum.enumState = .configuredOk) :
    session.exchange config firmware = session := by
  have none : session.enum.enumState.request config session.enum.memory = .none := by
    rw [finished]
    rfl
  have start := smooth.inv.start_of_silent none
  have polled : session.poll config = session := by
    rw [Session.poll_silent none start, finished]
    obtain ⟨⟨⟩⟩ := session
    simp_all [EnumState.next]
  have free : (session.poll config).pending = .none := by
    rw [polled]
    exact smooth.free
  rw [Session.exchange_quiet free, polled]

theorem Session.Attached.smooth (attached : session.Attached config firmware) :
    session.Smooth config firmware where
  inv := attached.inv
  free := attached.pending
  level _ := by
    obtain ⟨earlier, reset⟩ := attached.reset
    rw [attached.enumState, reset]
    exact ⟨rfl, rfl⟩
  goes waiting := absurd (attached.xferState.symm.trans waiting) nofun

end Exchange

/-! ## The descriptor set -/

section Walk

variable {config : Config} {firmware : Firmware room} {session : Session}

/-- The set ends where its own length says, and behind it nothing is read. -/
theorem Holds.linked {memory : Usbd.Memory Buffer}
    (holds : Holds memory .cfgDescBuf (firmware.content .configurationDesc)) :
    Chain.Linked (memory .cfgDescBuf) room.tables room.buffers.cfgDescMaxLen := by
  refine firmware.linked.congr fun at_ below => ?_
  have total : Chain.totalLen (fun at_ => (firmware.content .configurationDesc).getD at_ 0) =
      (firmware.content .configurationDesc).length := by
    rw [Chain.totalLen_eq, List.getD_eq_getElem?_getD, List.getD_eq_getElem?_getD]
    exact firmware.totalLength
  rw [total] at below
  rw [List.getD_eq_getElem?_getD, List.getElem?_eq_getElem below, Option.getD_some]
  exact holds at_ _ (List.getElem?_eq_getElem below)

/-- Nor is it by a string, whatever its arrays held before. -/
theorem Firmware.string_reported (firmware : Firmware room) {index : Usbd.Byte}
    (present : (firmware.descriptors.stringDesc index).isSome) (kind : StringKind)
    (host : StringHost) :
    let sent := (firmware.content (.stringDesc index)).take 0xFF
    ∃ report, stringComplete kind host sent = some report ∧ report.Faithful host sent := by
  have legible := firmware.strings index present
  have short : (firmware.content (.stringDesc index)).length ≤ 128 := legible.small
  rw [List.take_of_length_le (by omega)]
  exact legible.faithful kind host

end Walk

/-! ## The enumeration -/

end ApmSdk.Usbh
