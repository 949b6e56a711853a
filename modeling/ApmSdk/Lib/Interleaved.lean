import ApmSdk.Lib.Runs
import Mathlib.Data.List.Infix

set_option autoImplicit false

/-!
# Programs against a device

A program accesses the registers of a device one at a time, and the device moves by events of its
own between any two accesses.
-/

namespace ApmSdk.Interleaved

open Runs

variable {Register State Event Result Value : Type} {width : Nat}

/-- A program of register accesses; `await` reads a register until it finds the bit set. -/
inductive Program (Register : Type) (width : Nat) (Result : Type) where
  | done (result : Result)
  | read (register : Register) (next : BitVec width → Program Register width Result)
  | write (register : Register) (value : BitVec width) (next : Program Register width Result)
  | await (register : Register) (bit : Nat) (next : Program Register width Result)

namespace Program

def bind {Other : Type} (program : Program Register width Result)
    (rest : Result → Program Register width Other) : Program Register width Other :=
  match program with
  | done result => rest result
  | read register next => .read register fun value => (next value).bind rest
  | write register value next => .write register value (next.bind rest)
  | await register bit next => .await register bit (next.bind rest)

instance : Monad (Program Register width) where
  pure := done
  bind := bind

def get (register : Register) : Program Register width (BitVec width) := .read register .done

def put (register : Register) (value : BitVec width) : Program Register width Unit :=
  .write register value (.done ())

def wait (register : Register) (bit : Nat) : Program Register width Unit :=
  .await register bit (.done ())

end Program

/-- How a device answers accesses and how it moves. -/
structure Device (Register : Type) (width : Nat) (State Event : Type) where
  fetch : State → Register → BitVec width
  store : State → Register → BitVec width → State
  move : State → Event → State

inductive Label (Event : Type) where
  | device (event : Event)
  | cpu
  deriving DecidableEq, Repr

-- The device beside what is left of the program.
structure Machine (Register : Type) (width : Nat) (State Result : Type) where
  state : State
  program : Program Register width Result

variable (device : Device Register width State Event)

/-- One event of the device or one access of the program. -/
def step (machine : Machine Register width State Result) :
    Label Event → Machine Register width State Result
  | .device event => { machine with state := device.move machine.state event }
  | .cpu => match machine.program with
    | .done _ => machine
    | .read register next => { machine with program := next (device.fetch machine.state register) }
    | .write register value next => ⟨device.store machine.state register value, next⟩
    | .await register bit next =>
        if (device.fetch machine.state register).getLsbD bit then
          { machine with program := next }
        else machine

def after (machine : Machine Register width State Result) (labels : List (Label Event)) :
    Machine Register width State Result := labels.foldl (step device) machine

theorem after_append (machine : Machine Register width State Result)
    (first second : List (Label Event)) :
    after device machine (first ++ second) = after device (after device machine first) second :=
  List.foldl_append

/-! ## The events of a run -/

def events : List (Label Event) → List Event
  | [] => []
  | .device event :: rest => event :: events rest
  | .cpu :: rest => events rest

theorem events_append (first second : List (Label Event)) :
    events (first ++ second) = events first ++ events second := by
  induction first with
  | nil => rfl
  | cons label rest ih =>
    cases label with
    | device event => simp [events, ih]
    | cpu => exact ih

theorem events_map_device (moves : List Event) : events (moves.map Label.device) = moves := by
  induction moves with
  | nil => rfl
  | cons event rest ih => simp [events, ih]

theorem events_prefix {first second : List (Label Event)} (within : first <+: second) :
    events first <+: events second := by
  obtain ⟨rest, rfl⟩ := within
  exact ⟨events rest, (events_append first rest).symm⟩

/-- Every beginning of the events is that of a beginning of the run. -/
theorem exists_prefix_events {labels : List (Label Event)} {moves : List Event}
    (within : moves <+: events labels) : ∃ earlier, earlier <+: labels ∧ events earlier = moves := by
  induction labels generalizing moves with
  | nil => exact ⟨[], List.prefix_rfl, (List.prefix_nil.mp within).symm⟩
  | cons label rest ih =>
    cases label with
    | cpu =>
      obtain ⟨earlier, shorter, same⟩ := ih within
      exact ⟨.cpu :: earlier, List.prefix_cons_inj .cpu |>.mpr shorter, same⟩
    | device event =>
      cases moves with
      | nil => exact ⟨[], List.nil_prefix, rfl⟩
      | cons head tail =>
        obtain ⟨rfl, further⟩ := List.cons_prefix_cons.mp within
        obtain ⟨earlier, shorter, same⟩ := ih further
        exact ⟨.device head :: earlier, List.prefix_cons_inj _ |>.mpr shorter, by simp [events, same]⟩

/-- The beginnings of the events come to every count up to that of the whole. -/
theorem exists_prefix_count_iff [DecidableEq Event] (counted : Event) (moves : List Event)
    (property : Nat → Prop) :
    (∃ earlier, earlier <+: moves ∧ property (earlier.count counted)) ↔
      ∃ number, number ≤ moves.count counted ∧ property number := by
  constructor
  · rintro ⟨earlier, within, held⟩
    exact ⟨_, within.sublist.count_le counted, held⟩
  · rintro ⟨number, bound, held⟩
    induction moves generalizing number property with
    | nil =>
      obtain rfl : number = 0 := by simpa using bound
      exact ⟨[], List.prefix_rfl, held⟩
    | cons event rest ih =>
      cases number with
      | zero => exact ⟨[], List.nil_prefix, held⟩
      | succ number =>
        by_cases same : event = counted
        · subst same
          obtain ⟨earlier, within, later⟩ := ih (fun more => property (more + 1)) number
            (by simpa using bound) held
          exact ⟨event :: earlier, List.prefix_cons_inj event |>.mpr within, by simpa using later⟩
        · obtain ⟨earlier, within, later⟩ := ih property (number + 1)
            (by simpa [List.count_cons, same] using bound) held
          refine ⟨event :: earlier, List.prefix_cons_inj event |>.mpr within, ?_⟩
          simpa [List.count_cons, same] using later

/-- A run is events only, or it has a first access. -/
theorem events_or_access (labels : List (Label Event)) :
    labels = (events labels).map .device ∨
      ∃ (moves : List Event) (later : List (Label Event)),
        labels = moves.map .device ++ .cpu :: later := by
  induction labels with
  | nil => exact .inl rfl
  | cons label rest ih =>
    cases label with
    | cpu => exact .inr ⟨[], rest, rfl⟩
    | device event =>
      obtain all | ⟨moves, later, rfl⟩ := ih
      · exact .inl (by rw [events, List.map_cons, ← all])
      · exact .inr ⟨event :: moves, later, rfl⟩

theorem after_events (machine : Machine Register width State Result) (moves : List Event) :
    after device machine (moves.map .device) =
      { machine with state := moves.foldl device.move machine.state } := by
  induction moves generalizing machine with
  | nil => rfl
  | cons event rest ih => exact ih _

theorem after_read (state : State) (register : Register)
    (next : BitVec width → Program Register width Result) (moves : List Event)
    (later : List (Label Event)) :
    after device ⟨state, .read register next⟩ (moves.map .device ++ .cpu :: later) =
      after device ⟨moves.foldl device.move state,
        next (device.fetch (moves.foldl device.move state) register)⟩ later := by
  rw [after_append, after_events]
  rfl

theorem after_done (state : State) (result : Result) (labels : List (Label Event)) :
    after device ⟨state, .done result⟩ labels =
      ⟨(events labels).foldl device.move state, .done result⟩ := by
  induction labels generalizing state with
  | nil => rfl
  | cons label rest ih =>
    cases label with
    | device event => exact ih _
    | cpu => exact ih _

/-! ## Results that were held -/

/-- The access that finishes the program gives a value that the device had by then. -/
def Held (observe : State → Result) (machine : Machine Register width State Result)
    (labels : List (Label Event)) : Prop :=
  ∀ earlier result, earlier ++ [.cpu] <+: labels →
    (∀ early, (after device machine earlier).program ≠ .done early) →
    (after device machine (earlier ++ [.cpu])).program = .done result →
    ∃ moment, moment <+: earlier ∧ observe (after device machine moment).state = result

section TwoReads

variable (combine : BitVec width → BitVec width → Result) (first second : Register)

def twoReads : Program Register width Result :=
  .read first fun high => .read second fun low => .done (combine high low)

theorem after_twoReads_state (state : State) (labels : List (Label Event)) :
    (after device ⟨state, twoReads combine first second⟩ labels).state =
      (events labels).foldl device.move state := by
  obtain all | ⟨before, rest, rfl⟩ := events_or_access labels
  · rw [all, after_events, events_map_device]
  · rw [twoReads, after_read, events_append, events_map_device, List.foldl_append]
    obtain all | ⟨between, later, rfl⟩ := events_or_access rest
    · rw [all, after_events]
      simp [events, events_map_device]
    · rw [after_read, after_done]
      simp [events, events_append, events_map_device]

/-- Two reads give a value that was held when the two halves, from before and after the events
between them, are those of a state come to by then. -/
theorem held_twoReads_iff (observe : State → Result) (state : State)
    (labels : List (Label Event)) :
    Held device observe ⟨state, twoReads combine first second⟩ labels ↔
      ∀ (before between : List Event) (later : List (Label Event)),
        labels = before.map .device ++ .cpu :: (between.map .device ++ .cpu :: later) →
        ∃ moves, moves <+: before ++ between ∧ observe (moves.foldl device.move state) =
          combine (device.fetch (before.foldl device.move state) first)
            (device.fetch ((before ++ between).foldl device.move state) second) := by
  constructor
  · intro held before between later split
    have unfinished : after device ⟨state, twoReads combine first second⟩
        (before.map .device ++ .cpu :: between.map .device) =
          ⟨(before ++ between).foldl device.move state,
            .read second fun low => .done
              (combine (device.fetch (before.foldl device.move state) first) low)⟩ := by
      rw [twoReads, after_read, after_events, List.foldl_append]
    obtain ⟨moment, within, same⟩ := held (before.map .device ++ .cpu :: between.map .device) _
      ⟨later, by simp [split]⟩ (fun early => by simp [unfinished])
      (by rw [after_append, unfinished]; rfl)
    refine ⟨events moment, ?_, ?_⟩
    · have shorter := events_prefix within
      simpa [events, events_append, events_map_device] using shorter
    · rw [← same, after_twoReads_state]
  · intro every earlier result within unfinished finished
    obtain ⟨later, split⟩ := within
    obtain all | ⟨before, rest, rfl⟩ := events_or_access earlier
    · rw [all, after_append, after_events] at finished
      cases finished
    · obtain all | ⟨between, more, rfl⟩ := events_or_access rest
      · generalize events rest = between at all
        subst all
        obtain ⟨moves, shorter, same⟩ := every before between later (by simp [← split])
        have inside : moves <+: events (before.map Label.device ++ .cpu :: between.map .device) := by
          simpa [events, events_append, events_map_device] using shorter
        obtain ⟨moment, prior, rfl⟩ := exists_prefix_events inside
        refine ⟨moment, prior, ?_⟩
        rw [after_twoReads_state, same]
        rw [after_append, twoReads, after_read, after_events] at finished
        have value := Program.done.inj finished
        rw [← value, List.foldl_append]
      · obtain ⟨early, ended⟩ : ∃ early, (after device ⟨state, twoReads combine first second⟩
            (before.map .device ++ .cpu :: (between.map .device ++ .cpu :: more))).program =
              .done early := by
          rw [twoReads, after_read, after_read, after_done]
          exact ⟨_, rfl⟩
        exact absurd ended (unfinished early)

end TwoReads

/-! ## Flags that are cleared by zeros -/

/-- A register with flags that zeros clear and ones leave, and that events set. -/
structure Status (device : Device Register width State Event) (Flag : Type) where
  register : Register
  bit : Flag → Nat
  raise : Flag → Event
  stored : ∀ state value flag,
    (device.fetch (device.store state register value) register).getLsbD (bit flag) =
      ((device.fetch state register).getLsbD (bit flag) && value.getLsbD (bit flag))
  apart : ∀ state other value flag, other ≠ register →
    (device.fetch (device.store state other value) register).getLsbD (bit flag) =
      (device.fetch state register).getLsbD (bit flag)
  moved : ∀ state event flag,
    (device.fetch (device.move state event) register).getLsbD (bit flag) = true ↔
      (device.fetch state register).getLsbD (bit flag) = true ∨ event = raise flag

section Flags

variable {device} {Flag : Type} (status : Status device Flag) (asked : Flag → Prop)

def Status.On (state : State) (flag : Flag) : Prop :=
  (device.fetch state status.register).getLsbD (status.bit flag) = true

/-- No access clears a flag that the program was not asked to clear. -/
def Status.Keeps : Machine Register width State Result → List (Label Event) → Prop :=
  Each (step device) fun machine label => label = .cpu → ∀ flag, ¬asked flag →
    status.On machine.state flag → status.On (step device machine .cpu).state flag

def Program.Writes (register : Register) : Program Register width Result → Prop
  | .write other _ _ => other = register
  | _ => False

/-- No flag is set between the read of the register and the write that follows in the run. -/
def Status.Unraced : Machine Register width State Result → List (Label Event) → Prop
  | _, [] => True
  | machine, label :: rest =>
      (∀ flag, label = .device (status.raise flag) → ¬asked flag →
        machine.program.Writes status.register → .cpu ∈ rest → status.On machine.state flag) ∧
      Unraced (step device machine label) rest

variable [DecidableEq Register]

/-- Every write of the register comes straight after a read, with the flags that are not asked
for as they were read. -/
def Status.Modifies : Option (BitVec width) → Program Register width Result → Prop
  | _, .done _ => True
  | _, .read register next => ∀ value,
      Modifies (if register = status.register then some value else none) (next value)
  | seen, .write register value next =>
      (register = status.register → ∃ old, seen = some old ∧ ∀ flag, ¬asked flag →
        value.getLsbD (status.bit flag) = old.getLsbD (status.bit flag)) ∧
      Modifies none next
  | _, .await _ _ next => Modifies none next

-- The value to be written has ones for the flags that are set and not asked for.
def Status.Clean (machine : Machine Register width State Result) : Prop :=
  ∀ register value next, machine.program = .write register value next →
    register = status.register → ∀ flag, ¬asked flag → status.On machine.state flag →
      value.getLsbD (status.bit flag) = true

-- The flags that were read as set are still set.
def Status.Follows (machine : Machine Register width State Result) : Prop :=
  ∃ seen, status.Modifies asked seen machine.program ∧ ∀ old, seen = some old →
    ∀ flag, old.getLsbD (status.bit flag) = true → status.On machine.state flag

variable {status} {asked}

theorem Status.Modifies.of_none {seen : Option (BitVec width)}
    {program : Program Register width Result} (modifies : status.Modifies asked none program) :
    status.Modifies asked seen program := by
  cases program with
  | done result => trivial
  | read register next => exact modifies
  | write register value next =>
    refine ⟨fun same => ?_, modifies.2⟩
    obtain ⟨old, unseen, _⟩ := modifies.1 same
    cases unseen
  | await register bit next => exact modifies

theorem Status.Modifies.bind {Other : Type} {seen : Option (BitVec width)}
    {program : Program Register width Result} (modifies : status.Modifies asked seen program)
    {rest : Result → Program Register width Other}
    (later : ∀ result, status.Modifies asked none (rest result)) :
    status.Modifies asked seen (program >>= rest) := by
  induction program generalizing seen with
  | done result => exact (later result).of_none
  | read register next ih => exact fun value => ih value (modifies value)
  | write register value next ih => exact ⟨modifies.1, ih modifies.2⟩
  | await register bit next ih => exact ih modifies

theorem Status.clean_of_modifies {seen : Option (BitVec width)} {state : State}
    {program : Program Register width Result} (modifies : status.Modifies asked seen program)
    (fresh : ∀ old, seen = some old → ∀ flag, status.On state flag →
      old.getLsbD (status.bit flag) = true) : status.Clean asked ⟨state, program⟩ := by
  rintro register value next rfl same flag unasked on
  obtain ⟨old, seenOld, kept⟩ := modifies.1 same
  rw [kept flag unasked]
  exact fresh old seenOld flag on

theorem Status.Follows.step {machine : Machine Register width State Result}
    (follows : status.Follows asked machine) (label : Label Event) :
    status.Follows asked (step device machine label) := by
  obtain ⟨state, program⟩ := machine
  obtain ⟨seen, modifies, still⟩ := follows
  cases label with
  | device event =>
    exact ⟨seen, modifies, fun old same flag set =>
      (status.moved _ _ _).mpr (.inl (still old same flag set))⟩
  | cpu =>
    cases program with
    | done result => exact ⟨seen, modifies, still⟩
    | read register next =>
      refine ⟨_, modifies (device.fetch state register), fun old same flag set => ?_⟩
      split at same
      · next here =>
        obtain rfl := Option.some.inj same
        rwa [here] at set
      · cases same
    | write register value next =>
      exact ⟨none, modifies.2, fun old same => by cases same⟩
    | await register bit next =>
      by_cases ready : (device.fetch state register).getLsbD bit = true
      · refine ⟨none, ?_, fun old same => by cases same⟩
        simpa [Interleaved.step, ready, Status.Modifies] using modifies
      · refine ⟨seen, ?_, fun old same => ?_⟩
        · simpa [Interleaved.step, ready] using modifies
        · simpa [Interleaved.step, ready] using still old same

/-- An access comes straight after what it has read, or has not read the register. -/
theorem Status.Follows.clean_cpu {machine : Machine Register width State Result}
    (follows : status.Follows asked machine) :
    status.Clean asked (Interleaved.step device machine .cpu) := by
  obtain ⟨state, program⟩ := machine
  obtain ⟨seen, modifies, still⟩ := follows
  cases program with
  | done result =>
    intro _ _ _ same
    cases same
  | read register next =>
    refine status.clean_of_modifies (modifies (device.fetch state register)) ?_
    intro old same flag on
    split at same
    · next here =>
      obtain rfl := Option.some.inj same
      rw [here]
      exact on
    · cases same
  | write register value next =>
    exact status.clean_of_modifies modifies.2 fun old same => by cases same
  | await register bit next =>
    by_cases ready : (device.fetch state register).getLsbD bit = true
    · have moved : Interleaved.step device ⟨state, .await register bit next⟩ .cpu =
          ⟨state, next⟩ := by simp [Interleaved.step, ready]
      rw [moved]
      exact status.clean_of_modifies modifies fun old same => by cases same
    · intro _ _ _ same
      simp [Interleaved.step, ready] at same

/-- The access clears no flag that is not asked for when the value has ones for those set. -/
theorem Status.kept_iff_clean (machine : Machine Register width State Result) :
    (∀ flag, ¬asked flag → status.On machine.state flag →
      status.On (Interleaved.step device machine .cpu).state flag) ↔
      status.Clean asked machine := by
  obtain ⟨state, program⟩ := machine
  cases program with
  | done result => simp [Interleaved.step, Status.Clean]
  | read register next => simp [Interleaved.step, Status.Clean]
  | await register bit next =>
    by_cases ready : (device.fetch state register).getLsbD bit = true <;>
      simp [Interleaved.step, Status.Clean, ready]
  | write register value next =>
    constructor
    · rintro kept other written rest ⟨⟩ same flag unasked on
      have after := kept flag unasked on
      rw [same, Status.On, Interleaved.step, status.stored] at after
      exact (Bool.and_eq_true_iff.mp after).2
    · intro clean flag unasked on
      by_cases same : register = status.register
      · have one := clean register value next rfl same flag unasked on
        rw [Status.On, Interleaved.step, same, status.stored]
        exact Bool.and_eq_true_iff.mpr ⟨on, one⟩
      · rw [Status.On, Interleaved.step, status.apart _ _ _ _ same]
        exact on

/-- An event spoils the value to be written when it sets a flag that was clear. -/
theorem Status.Follows.clean_device_iff {machine : Machine Register width State Result}
    (follows : status.Follows asked machine) (event : Event) :
    status.Clean asked (Interleaved.step device machine (.device event)) ↔
      status.Clean asked machine ∧ ∀ flag, event = status.raise flag → ¬asked flag →
        machine.program.Writes status.register → status.On machine.state flag := by
  obtain ⟨state, program⟩ := machine
  obtain ⟨seen, modifies, still⟩ := follows
  cases program with
  | write register value next =>
    constructor
    · intro clean
      refine ⟨?_, ?_⟩
      · rintro other written rest ⟨⟩ same flag unasked on
        exact clean register value next rfl same flag unasked
          ((status.moved _ _ _).mpr (.inl on))
      · intro flag raised unasked same
        obtain ⟨old, seenOld, kept⟩ := modifies.1 same
        have one := clean register value next rfl same flag unasked
          ((status.moved _ _ _).mpr (.inr raised))
        rw [kept flag unasked] at one
        exact still old seenOld flag one
    · rintro ⟨clean, before⟩ other written rest ⟨⟩ same flag unasked on
      obtain earlier | raised := (status.moved _ _ _).mp on
      · exact clean register value next rfl same flag unasked earlier
      · exact clean register value next rfl same flag unasked (before flag raised unasked same)
  | _ => simp [Interleaved.step, Status.Clean, Program.Writes]

theorem Status.keeps_iff {machine : Machine Register width State Result}
    (follows : status.Follows asked machine) (labels : List (Label Event)) :
    status.Keeps asked machine labels ↔
      (status.Clean asked machine ∨ .cpu ∉ labels) ∧ status.Unraced asked machine labels := by
  induction labels generalizing machine with
  | nil => simp [Status.Keeps, Each, Status.Unraced]
  | cons label rest ih =>
    have later := ih (follows.step label)
    cases label with
    | device event =>
      have kept : status.Keeps asked machine (.device event :: rest) ↔
          status.Keeps asked (Interleaved.step device machine (.device event)) rest := by
        simp [Status.Keeps, Each]
      rw [kept, later, follows.clean_device_iff]
      by_cases more : Label.cpu ∈ rest
      · simp [Status.Unraced, more, and_assoc]
      · simp [Status.Unraced, more]
    | cpu =>
      have kept : status.Keeps asked machine (.cpu :: rest) ↔
          status.Clean asked machine ∧
            status.Keeps asked (Interleaved.step device machine .cpu) rest := by
        rw [← status.kept_iff_clean]
        simp [Status.Keeps, Each]
      rw [kept, later]
      simp [Status.Unraced, follows.clean_cpu]

/-- A program that modifies the register by reads and writes clears no flag that it was not asked
to clear exactly in the runs that set none between the two. -/
theorem Status.keeps_iff_unraced {state : State} {program : Program Register width Result}
    (modifies : status.Modifies asked none program) (labels : List (Label Event)) :
    status.Keeps asked ⟨state, program⟩ labels ↔ status.Unraced asked ⟨state, program⟩ labels := by
  have follows : status.Follows asked ⟨state, program⟩ :=
    ⟨none, modifies, fun old same => by cases same⟩
  have clean : status.Clean asked ⟨state, program⟩ :=
    status.clean_of_modifies modifies fun old same => by cases same
  rw [status.keeps_iff follows, and_iff_right (.inl clean)]

end Flags

end ApmSdk.Interleaved
