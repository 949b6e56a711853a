import ApmSdk.Lib.Interleaved

set_option autoImplicit false

/-!
# Programs that poll a device

A program accesses registers one at a time and may poll one of them until its value is found good.
The device moves in between by events that the environment allows. What a program assures at every
moment and what it leaves behind is computed from the program, access by access.
-/

namespace ApmSdk.Polling

open Interleaved (Device Label events)

variable {Register State Event Result Other : Type} {width : Nat}

inductive Program (Register : Type) (width : Nat) (Result : Type) where
  | done (result : Result)
  | read (register : Register) (next : BitVec width → Program Register width Result)
  | write (register : Register) (value : BitVec width) (next : Program Register width Result)
  | poll (register : Register) (found : BitVec width → Bool) (next : Program Register width Result)

namespace Program

def bind (program : Program Register width Result)
    (rest : Result → Program Register width Other) : Program Register width Other :=
  match program with
  | done result => rest result
  | read register next => .read register fun value => (next value).bind rest
  | write register value next => .write register value (next.bind rest)
  | poll register found next => .poll register found (next.bind rest)

instance : Monad (Program Register width) where
  pure := done
  bind := bind

def get (register : Register) : Program Register width (BitVec width) := .read register .done

def put (register : Register) (value : BitVec width) : Program Register width Unit :=
  .write register value (.done ())

-- `for (i = 0; i < count; i++) { if (found(register)) { break; } }`
def attempt (register : Register) (found : BitVec width → Bool) :
    Nat → Program Register width Unit
  | 0 => .done ()
  | count + 1 => .read register fun value =>
      if found value then .done () else attempt register found count

-- `while (!found(register));`
def wait (register : Register) (found : BitVec width → Bool) : Program Register width Unit :=
  .poll register found (.done ())

-- A compound assignment reads the register and writes it back.
def modify (register : Register) (change : BitVec width → BitVec width) :
    Program Register width Unit :=
  .read register fun old => .write register (change old) (.done ())

end Program

structure Machine (Register : Type) (width : Nat) (State Result : Type) where
  state : State
  program : Program Register width Result

variable (device : Device Register width State Event)

/-- One event of the device or one access of the program. -/
def step (machine : Machine Register width State Result) :
    Label Event → Machine Register width State Result
  | .device event => { machine with state := device.move machine.state event }
  | .cpu => match machine.program with
    | .done _ => machine
    | .read register next => { machine with program := next (device.fetch machine.state register) }
    | .write register value next => ⟨device.store machine.state register value, next⟩
    | .poll register found next =>
        if found (device.fetch machine.state register) then { machine with program := next }
        else machine

def after (machine : Machine Register width State Result) (labels : List (Label Event)) :
    Machine Register width State Result := labels.foldl (step device) machine

def accesses : List (Label Event) → Nat
  | [] => 0
  | .device _ :: rest => accesses rest
  | .cpu :: rest => accesses rest + 1

theorem accesses_replicate (count : Nat) :
    accesses (List.replicate count (.cpu : Label Event)) = count := by
  induction count with
  | zero => rfl
  | succ count ih => rw [List.replicate_succ, accesses, ih]

theorem events_replicate (count : Nat) :
    events (List.replicate count (.cpu : Label Event)) = [] := by
  induction count with
  | zero => rfl
  | succ count ih => exact ih

section Assurance

variable (allowed : Event → Prop)

/-- The device comes to `later` by events that are allowed. -/
def Comes (state later : State) : Prop :=
  ∃ moves : List Event, (∀ event, event ∈ moves → allowed event) ∧
    moves.foldl device.move state = later

theorem Comes.refl (state : State) : Comes device allowed state state :=
  ⟨[], by simp, rfl⟩

variable {device allowed} in
theorem Comes.after {state later : State} {event : Event} (admitted : allowed event)
    (comes : Comes device allowed (device.move state event) later) :
    Comes device allowed state later := by
  obtain ⟨moves, all, rfl⟩ := comes
  exact ⟨event :: moves, by simpa [admitted] using all, rfl⟩

variable {device allowed} in
theorem Comes.keeps {property : State → Prop}
    (kept : ∀ state event, property state → allowed event → property (device.move state event))
    {state later : State} (comes : Comes device allowed state later) (held : property state) :
    property later := by
  obtain ⟨moves, all, rfl⟩ := comes
  induction moves generalizing state with
  | nil => exact held
  | cons event rest ih =>
    exact ih (kept state event held (all event (by simp))) fun other among => all other (by simp [among])

variable (safe : State → Prop)

/-- Whatever the device does meanwhile, every moment of the program is safe and its end meets
`post`. -/
def Assured (post : Result → State → Prop) : Program Register width Result → State → Prop
  | .done result, state => ∀ later, Comes device allowed state later → safe later ∧ post result later
  | .read register next, state => ∀ later, Comes device allowed state later →
      safe later ∧ Assured post (next (device.fetch later register)) later
  | .write register value next, state => ∀ later, Comes device allowed state later →
      safe later ∧ Assured post next (device.store later register value)
  | .poll register found next, state => ∀ later, Comes device allowed state later →
      safe later ∧ (found (device.fetch later register) = true → Assured post next later)

variable {device allowed safe} {post : Result → State → Prop}

theorem Assured.now {program : Program Register width Result} {state : State}
    (assured : Assured device allowed safe post program state) : safe state := by
  cases program with
  | done => exact (assured state (.refl device allowed state)).1
  | read => exact (assured state (.refl device allowed state)).1
  | write => exact (assured state (.refl device allowed state)).1
  | poll => exact (assured state (.refl device allowed state)).1

theorem Assured.moved {program : Program Register width Result} {state : State} {event : Event}
    (assured : Assured device allowed safe post program state) (admitted : allowed event) :
    Assured device allowed safe post program (device.move state event) := by
  cases program with
  | done => exact fun later comes => assured later (comes.after admitted)
  | read => exact fun later comes => assured later (comes.after admitted)
  | write => exact fun later comes => assured later (comes.after admitted)
  | poll => exact fun later comes => assured later (comes.after admitted)

theorem Assured.accessed {machine : Machine Register width State Result}
    (assured : Assured device allowed safe post machine.program machine.state) :
    Assured device allowed safe post (step device machine .cpu).program
      (step device machine .cpu).state := by
  obtain ⟨state, program⟩ := machine
  cases program with
  | done => exact assured
  | read => exact (assured state (.refl device allowed state)).2
  | write => exact (assured state (.refl device allowed state)).2
  | poll register found next =>
    simp only [step]
    split
    next good => exact (assured state (.refl device allowed state)).2 good
    next => exact assured

theorem Assured.after {machine : Machine Register width State Result}
    (assured : Assured device allowed safe post machine.program machine.state)
    {labels : List (Label Event)} (admitted : ∀ event, event ∈ events labels → allowed event) :
    Assured device allowed safe post (after device machine labels).program
      (Polling.after device machine labels).state := by
  induction labels generalizing machine with
  | nil => exact assured
  | cons label rest ih =>
    cases label with
    | device event =>
      have moved := assured.moved (admitted event (by simp [events]))
      exact @ih (step device machine (.device event)) moved
        fun other among => admitted other (by simp [events, among])
    | cpu => exact @ih (step device machine .cpu) assured.accessed admitted

/-- What is assured holds at every moment of every schedule, and the end meets `post`. -/
theorem Assured.every_moment {state : State} {program : Program Register width Result}
    (assured : Assured device allowed safe post program state) {labels : List (Label Event)}
    (admitted : ∀ event, event ∈ events labels → allowed event) :
    safe (Polling.after device ⟨state, program⟩ labels).state ∧
      ∀ result, (Polling.after device ⟨state, program⟩ labels).program = .done result →
        post result (Polling.after device ⟨state, program⟩ labels).state := by
  have late : Assured device allowed safe post (Polling.after device ⟨state, program⟩ labels).program
      (Polling.after device ⟨state, program⟩ labels).state := Assured.after assured admitted
  refine ⟨late.now, fun result finished => ?_⟩
  rw [finished] at late
  exact (late _ (.refl device allowed _)).2

/-! ## Rules -/

theorem Assured.mono {weaker : Result → State → Prop}
    (implied : ∀ result state, post result state → weaker result state)
    {program : Program Register width Result} {state : State}
    (assured : Assured device allowed safe post program state) :
    Assured device allowed safe weaker program state := by
  induction program generalizing state with
  | done result =>
    exact fun later comes => ⟨(assured later comes).1, implied _ _ (assured later comes).2⟩
  | read register next ih => exact fun later comes => ⟨(assured later comes).1, ih _ (assured later comes).2⟩
  | write register value next ih =>
    exact fun later comes => ⟨(assured later comes).1, ih (assured later comes).2⟩
  | poll register found next ih =>
    exact fun later comes => ⟨(assured later comes).1, fun good => ih ((assured later comes).2 good)⟩

theorem Assured.bind {post : Other → State → Prop}
    {rest : Result → Program Register width Other} {program : Program Register width Result}
    {state : State}
    (assured : Assured device allowed safe
      (fun result => Assured device allowed safe post (rest result)) program state) :
    Assured device allowed safe post (program.bind rest) state := by
  induction program generalizing state with
  | done result => exact (assured state (.refl device allowed state)).2
  | read register next ih => exact fun later comes => ⟨(assured later comes).1, ih _ (assured later comes).2⟩
  | write register value next ih =>
    exact fun later comes => ⟨(assured later comes).1, ih (assured later comes).2⟩
  | poll register found next ih =>
    exact fun later comes => ⟨(assured later comes).1, fun good => ih ((assured later comes).2 good)⟩

theorem Assured.then {middle : Result → State → Prop} {post : Other → State → Prop}
    {rest : Result → Program Register width Other} {program : Program Register width Result}
    {state : State} (first : Assured device allowed safe middle program state)
    (second : ∀ result state, middle result state →
      Assured device allowed safe post (rest result) state) :
    Assured device allowed safe post (program.bind rest) state := (first.mono second).bind

/-- What holds whatever the device does next, and is safe. -/
structure Stable (device : Device Register width State Event) (allowed : Event → Prop)
    (safe property : State → Prop) : Prop where
  kept : ∀ state event, property state → allowed event → property (device.move state event)
  safe : ∀ state, property state → safe state

variable {property other : State → Prop}

theorem Stable.done (stable : Stable device allowed safe property) (result : Result) {state : State}
    (held : property state) :
    Assured device allowed safe (fun _ => property) (.done result) state := by
  intro later comes
  have still := comes.keeps stable.kept held
  exact ⟨stable.safe later still, still⟩

theorem Stable.get (stable : Stable device allowed safe property) (register : Register)
    {state : State} (held : property state) :
    Assured device allowed safe
      (fun value now => property now ∧ ∃ earlier, property earlier ∧
        Comes device allowed earlier now ∧ device.fetch earlier register = value)
      (Program.get register) state := by
  intro read before
  have first := before.keeps stable.kept held
  refine ⟨stable.safe read first, fun now comes => ?_⟩
  have still := comes.keeps stable.kept first
  exact ⟨stable.safe now still, still, read, first, comes, rfl⟩

theorem Stable.put (stable : Stable device allowed safe property)
    (next : Stable device allowed safe other) {register : Register} {value : BitVec width}
    (stored : ∀ state, property state → other (device.store state register value))
    {state : State} (held : property state) :
    Assured device allowed safe (fun _ => other) (Program.put register value) state := by
  intro later comes
  have still := comes.keeps stable.kept held
  exact ⟨stable.safe later still, next.done () (stored later still)⟩

/-- The register may have moved between the read and the write of a compound assignment. -/
theorem Stable.modify (stable : Stable device allowed safe property)
    (next : Stable device allowed safe other) {register : Register}
    {change : BitVec width → BitVec width}
    (stored : ∀ state later, property state → Comes device allowed state later → property later →
      other (device.store later register (change (device.fetch state register))))
    {state : State} (held : property state) :
    Assured device allowed safe (fun _ => other) (Program.modify register change) state := by
  intro read before
  have first := before.keeps stable.kept held
  refine ⟨stable.safe read first, fun later comes => ?_⟩
  have still := comes.keeps stable.kept first
  exact ⟨stable.safe later still, next.done () (stored read later first comes still)⟩

theorem Stable.wait (stable : Stable device allowed safe property)
    (next : Stable device allowed safe other) {register : Register} {found : BitVec width → Bool}
    (good : ∀ state, property state → found (device.fetch state register) = true → other state)
    {state : State} (held : property state) :
    Assured device allowed safe (fun _ => other) (Program.wait register found) state := by
  intro later comes
  have still := comes.keeps stable.kept held
  exact ⟨stable.safe later still, fun seen => next.done () (good later still seen)⟩

theorem Stable.attempt (stable : Stable device allowed safe property) (register : Register)
    (found : BitVec width → Bool) (count : Nat) {state : State} (held : property state) :
    Assured device allowed safe (fun _ => property) (Program.attempt register found count) state := by
  induction count generalizing state with
  | zero => exact stable.done () held
  | succ count ih =>
    intro later comes
    have still := comes.keeps stable.kept held
    refine ⟨stable.safe later still, ?_⟩
    dsimp only
    split
    next => exact stable.done () still
    next => exact ih still

/-! ## Ends within a number of accesses -/

/-- Whatever the device does meanwhile, the program ends before it has made more than `budget`
accesses, and `post` holds with what is left of them. -/
def Prompt (device : Device Register width State Event) (allowed : Event → Prop)
    (post : Result → State → Nat → Prop) : Program Register width Result → State → Nat → Prop
  | .done result, state, budget => ∀ later, Comes device allowed state later → post result later budget
  | .read register next, state, budget => ∃ left, budget = left + 1 ∧
      ∀ later, Comes device allowed state later →
        Prompt device allowed post (next (device.fetch later register)) later left
  | .write register value next, state, budget => ∃ left, budget = left + 1 ∧
      ∀ later, Comes device allowed state later →
        Prompt device allowed post next (device.store later register value) left
  | .poll register found next, state, budget => ∃ left, budget = left + 1 ∧
      ∀ later, Comes device allowed state later →
        found (device.fetch later register) = true ∧ Prompt device allowed post next later left

section Promptness

variable {post : Result → State → Nat → Prop}

theorem Prompt.moved {program : Program Register width Result} {state : State} {event : Event}
    {budget : Nat} (prompt : Prompt device allowed post program state budget)
    (admitted : allowed event) :
    Prompt device allowed post program (device.move state event) budget := by
  cases program with
  | done => exact fun later comes => prompt later (comes.after admitted)
  | read =>
    obtain ⟨left, same, rest⟩ := prompt
    exact ⟨left, same, fun later comes => rest later (comes.after admitted)⟩
  | write =>
    obtain ⟨left, same, rest⟩ := prompt
    exact ⟨left, same, fun later comes => rest later (comes.after admitted)⟩
  | poll =>
    obtain ⟨left, same, rest⟩ := prompt
    exact ⟨left, same, fun later comes => rest later (comes.after admitted)⟩

theorem Prompt.accessed {machine : Machine Register width State Result} {budget : Nat}
    (prompt : Prompt device allowed post machine.program machine.state budget) :
    ∃ left, Prompt device allowed post (step device machine .cpu).program
        (step device machine .cpu).state left ∧
      (budget = left + 1 ∨ ∃ result, (step device machine .cpu).program = .done result) := by
  obtain ⟨state, program⟩ := machine
  cases program with
  | done result => exact ⟨budget, prompt, .inr ⟨result, rfl⟩⟩
  | read =>
    obtain ⟨left, same, rest⟩ := prompt
    exact ⟨left, rest state (.refl device allowed state), .inl same⟩
  | write =>
    obtain ⟨left, same, rest⟩ := prompt
    exact ⟨left, rest state (.refl device allowed state), .inl same⟩
  | poll =>
    obtain ⟨left, same, rest⟩ := prompt
    obtain ⟨good, next⟩ := rest state (.refl device allowed state)
    refine ⟨left, ?_, .inl same⟩
    simp only [step, good, if_true]
    exact next

/-- A schedule that gives the program its accesses finds it finished. -/
theorem Prompt.finished {machine : Machine Register width State Result} {budget : Nat}
    (prompt : Prompt device allowed post machine.program machine.state budget)
    {labels : List (Label Event)} (admitted : ∀ event, event ∈ events labels → allowed event)
    (enough : budget ≤ accesses labels ∨ ∃ result, machine.program = .done result) :
    ∃ result left, (after device machine labels).program = .done result ∧
      post result (after device machine labels).state left := by
  induction labels generalizing machine budget with
  | nil =>
    obtain ⟨state, program⟩ := machine
    cases program with
    | done result => exact ⟨result, budget, rfl, prompt state (.refl device allowed state)⟩
    | read =>
      obtain ⟨left, rfl, _⟩ := prompt
      simp [accesses] at enough
    | write =>
      obtain ⟨left, rfl, _⟩ := prompt
      simp [accesses] at enough
    | poll =>
      obtain ⟨left, rfl, _⟩ := prompt
      simp [accesses] at enough
  | cons label rest ih =>
    cases label with
    | device event =>
      have moved := prompt.moved (admitted event (by simp [events]))
      exact @ih (step device machine (.device event)) _ moved
        (fun other among => admitted other (by simp [events, among])) enough
    | cpu =>
      obtain ⟨left, next, fewer | ended⟩ := prompt.accessed
      next =>
        refine ih next admitted ?_
        obtain enough | ⟨result, finished⟩ := enough
        next => exact .inl (by simpa [accesses, fewer] using enough)
        next => exact .inr ⟨result, by simp only [step, finished]⟩
      next => exact ih next admitted (.inr ended)

theorem Prompt.bind {post : Other → State → Nat → Prop}
    {rest : Result → Program Register width Other} {program : Program Register width Result}
    {state : State} {budget : Nat}
    (prompt : Prompt device allowed
      (fun result => Prompt device allowed post (rest result)) program state budget) :
    Prompt device allowed post (program.bind rest) state budget := by
  induction program generalizing state budget with
  | done result => exact prompt state (.refl device allowed state)
  | read register next ih =>
    obtain ⟨left, same, later⟩ := prompt
    exact ⟨left, same, fun now comes => ih _ (later now comes)⟩
  | write register value next ih =>
    obtain ⟨left, same, later⟩ := prompt
    exact ⟨left, same, fun now comes => ih (later now comes)⟩
  | poll register found next ih =>
    obtain ⟨left, same, later⟩ := prompt
    exact ⟨left, same, fun now comes => ⟨(later now comes).1, ih (later now comes).2⟩⟩

theorem Prompt.mono {weaker : Result → State → Nat → Prop}
    (implied : ∀ result state left, post result state left → weaker result state left)
    {program : Program Register width Result} {state : State} {budget : Nat}
    (prompt : Prompt device allowed post program state budget) :
    Prompt device allowed weaker program state budget := by
  induction program generalizing state budget with
  | done result => exact fun later comes => implied _ _ _ (prompt later comes)
  | read register next ih =>
    obtain ⟨left, same, rest⟩ := prompt
    exact ⟨left, same, fun later comes => ih _ (rest later comes)⟩
  | write register value next ih =>
    obtain ⟨left, same, rest⟩ := prompt
    exact ⟨left, same, fun later comes => ih (rest later comes)⟩
  | poll register found next ih =>
    obtain ⟨left, same, rest⟩ := prompt
    exact ⟨left, same, fun later comes => ⟨(rest later comes).1, ih (rest later comes).2⟩⟩

theorem Prompt.then {middle : Result → State → Nat → Prop} {post : Other → State → Nat → Prop}
    {rest : Result → Program Register width Other} {program : Program Register width Result}
    {state : State} {budget : Nat} (first : Prompt device allowed middle program state budget)
    (second : ∀ result state left, middle result state left →
      Prompt device allowed post (rest result) state left) :
    Prompt device allowed post (program.bind rest) state budget := (first.mono second).bind

/-- What the device keeps and what every write keeps. -/
structure Lasting (device : Device Register width State Event) (allowed : Event → Prop)
    (property : State → Prop) : Prop where
  moved : ∀ state event, property state → allowed event → property (device.move state event)
  stored : ∀ state register value, property state → property (device.store state register value)

variable (lasting : Lasting device allowed property) (budget : Nat) {state : State}

include lasting

theorem Lasting.after {machine : Machine Register width State Result} (held : property machine.state)
    {labels : List (Label Event)} (admitted : ∀ event, event ∈ events labels → allowed event) :
    property (Polling.after device machine labels).state := by
  induction labels generalizing machine with
  | nil => exact held
  | cons label rest ih =>
    cases label with
    | device event =>
      have moved := lasting.moved _ _ held (admitted event (by simp [events]))
      exact @ih (step device machine (.device event)) moved
        fun other among => admitted other (by simp [events, among])
    | cpu =>
      have next : property (step device machine .cpu).state := by
        obtain ⟨state, program⟩ := machine
        cases program with
        | done => exact held
        | read => exact held
        | write => exact lasting.stored _ _ _ held
        | poll =>
          simp only [step]
          split <;> exact held
      exact ih next admitted

theorem Lasting.done (result : Result) (held : property state) :
    Prompt device allowed (fun _ now left => property now ∧ left = budget) (.done result) state
      budget :=
  fun _ comes => ⟨comes.keeps lasting.moved held, rfl⟩

theorem Lasting.put (register : Register) (value : BitVec width) (held : property state) :
    Prompt device allowed (fun _ now left => property now ∧ left = budget)
      (Program.put register value) state (budget + 1) := by
  refine ⟨budget, rfl, fun later comes => lasting.done budget () ?_⟩
  exact lasting.stored later register value (comes.keeps lasting.moved held)

theorem Lasting.get (register : Register) (held : property state) :
    Prompt device allowed
      (fun value now left => property now ∧ left = budget ∧
        ∃ earlier, property earlier ∧ device.fetch earlier register = value)
      (Program.get register) state (budget + 1) := by
  refine ⟨budget, rfl, fun later before now comes => ?_⟩
  have still := before.keeps lasting.moved held
  exact ⟨comes.keeps lasting.moved still, rfl, later, still, rfl⟩

theorem Lasting.modify (register : Register) (change : BitVec width → BitVec width)
    (held : property state) :
    Prompt device allowed (fun _ now left => property now ∧ left = budget)
      (Program.modify register change) state (budget + 2) := by
  refine ⟨budget + 1, rfl, fun read before => ⟨budget, rfl, fun later comes => ?_⟩⟩
  refine lasting.done budget () (lasting.stored later register _ ?_)
  exact comes.keeps lasting.moved (before.keeps lasting.moved held)

/-- Attempts that all fail are made, and then given up. -/
theorem Lasting.attempt {register : Register} {found : BitVec width → Bool}
    (never : ∀ state, property state → found (device.fetch state register) = false) (count : Nat)
    (held : property state) :
    Prompt device allowed (fun _ now left => property now ∧ left = budget)
      (Program.attempt register found count) state (budget + count) := by
  induction count generalizing state with
  | zero => exact lasting.done budget () held
  | succ count ih =>
    refine ⟨budget + count, rfl, fun later comes => ?_⟩
    have still := comes.keeps lasting.moved held
    simp only [never later still]
    exact ih still

end Promptness

end Assurance

end ApmSdk.Polling
