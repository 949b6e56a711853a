import Mathlib.Data.List.Induction
import Mathlib.Logic.Function.Basic

set_option autoImplicit false

/-!
# Broadcast between nodes

Nodes put messages into slots; what is transmitted from a slot is stored in a queue of every node
that asks for it, as long as there is room. Which messages a node asks for, and where it wants them,
is its policy, which may change.
-/

namespace ApmSdk.Broadcast

inductive Place (Message : Type) where
  | idle
  | pending (message : Message)
  | sent (message : Message)
  | aborted (message : Message)
  deriving DecidableEq, Repr

def Place.held {Message : Type} : Place Message → List Message
  | pending message => [message]
  | _ => []

section Held

variable {Message : Type} (message : Message)

@[simp] theorem Place.held_idle : (idle : Place Message).held = [] := rfl
@[simp] theorem Place.held_pending : (pending message).held = [message] := rfl
@[simp] theorem Place.held_sent : (sent message).held = [] := rfl
@[simp] theorem Place.held_aborted : (aborted message).held = [] := rfl

end Held

inductive Event (Node Slot Queue Message Change : Type) where
  | accept (node : Node) (slot : Slot) (message : Message)
  | refuse (node : Node) (message : Message)
  | transmit (node : Node) (slot : Slot) (message : Message) (route : Node → Option Queue)
  | abort (node : Node) (slot : Slot) (message : Message)
  | take (node : Node) (queue : Queue) (message : Message)
  | configure (node : Node) (change : Change)

structure State (Node Slot Queue Message Policy : Type) where
  place : Node → Slot → Place Message
  queue : Node → Queue → List Message
  policy : Node → Policy

-- What the network is made of.
structure Rules (Node Queue Message Policy Change : Type) where
  capacity : Nat
  room : 0 < capacity
  -- A full queue keeps what it has, or gives up the last of it.
  locked : Node → Bool
  hears : Node → Node → Bool
  routes : Policy → Message → Option Queue → Prop
  change : Policy → Change → Policy

section Definitions

variable {Node Slot Queue Message Policy Change : Type}

def push (capacity : Nat) (locked : Bool) (queue : List Message) (message : Message) :
    List Message :=
  if queue.length < capacity then queue ++ [message]
  else if locked then queue
  else queue.dropLast ++ [message]

variable [DecidableEq Node] [DecidableEq Slot] [DecidableEq Queue]

def State.put (state : State Node Slot Queue Message Policy) (node : Node) (slot : Slot)
    (place : Place Message) : State Node Slot Queue Message Policy :=
  { state with
    place := Function.update state.place node (Function.update (state.place node) slot place) }

def State.setQueue (state : State Node Slot Queue Message Policy) (node : Node) (queue : Queue)
    (messages : List Message) : State Node Slot Queue Message Policy :=
  { state with
    queue := Function.update state.queue node
      (Function.update (state.queue node) queue messages) }

def State.deliver (rules : Rules Node Queue Message Policy Change)
    (state : State Node Slot Queue Message Policy) (message : Message)
    (route : Node → Option Queue) : State Node Slot Queue Message Policy :=
  { state with
    queue := fun node queue =>
      if route node = some queue then
        push rules.capacity (rules.locked node) (state.queue node queue) message
      else state.queue node queue }

/-- The route is what the policies of the nodes that hear the sender ask for. -/
def Rules.Routed (rules : Rules Node Queue Message Policy Change) (policy : Node → Policy)
    (sender : Node) (message : Message) (route : Node → Option Queue) : Prop :=
  ∀ node, if rules.hears node sender then rules.routes (policy node) message (route node)
    else route node = none

inductive Step (rules : Rules Node Queue Message Policy Change)
    (state : State Node Slot Queue Message Policy) :
    Event Node Slot Queue Message Change → State Node Slot Queue Message Policy → Prop
  | accept {node : Node} {slot : Slot} (message : Message) :
      (state.place node slot).held = [] →
      Step rules state (.accept node slot message) (state.put node slot (.pending message))
  | refuse {node : Node} (message : Message) :
      (∀ slot, (state.place node slot).held ≠ []) → Step rules state (.refuse node message) state
  | transmit {node : Node} {slot : Slot} {message : Message} {route : Node → Option Queue} :
      state.place node slot = .pending message → rules.Routed state.policy node message route →
      Step rules state (.transmit node slot message route)
        ((state.put node slot (.sent message)).deliver rules message route)
  | abort {node : Node} {slot : Slot} {message : Message} :
      state.place node slot = .pending message →
      Step rules state (.abort node slot message) (state.put node slot (.aborted message))
  | take {node : Node} {queue : Queue} {message : Message} {rest : List Message} :
      state.queue node queue = message :: rest →
      Step rules state (.take node queue message) (state.setQueue node queue rest)
  | configure {node : Node} (change : Change) :
      Step rules state (.configure node change)
        { state with
          policy := Function.update state.policy node (rules.change (state.policy node) change) }

inductive Run (rules : Rules Node Queue Message Policy Change)
    (start : State Node Slot Queue Message Policy) :
    List (Event Node Slot Queue Message Change) → State Node Slot Queue Message Policy → Prop
  | nil : Run rules start [] start
  | snoc {events : List (Event Node Slot Queue Message Change)}
      {event : Event Node Slot Queue Message Change}
      {state next : State Node Slot Queue Message Policy} :
      Run rules start events state → Step rules state event next →
      Run rules start (events ++ [event]) next

/-! ## What a list of events says -/

namespace Event

def accepts (node : Node) (slot : Slot) : Event Node Slot Queue Message Change → Option Message
  | accept other place message => if other = node ∧ place = slot then some message else none
  | _ => none

-- A message that leaves its slot, and whether it has been transmitted.
def finishes (node : Node) (slot : Slot) :
    Event Node Slot Queue Message Change → Option (Message × Bool)
  | transmit other place message _ =>
      if other = node ∧ place = slot then some (message, true) else none
  | abort other place message =>
      if other = node ∧ place = slot then some (message, false) else none
  | _ => none

def arrives (node : Node) (queue : Queue) :
    Event Node Slot Queue Message Change → Option Message
  | transmit _ _ message route => if route node = some queue then some message else none
  | _ => none

def takes (node : Node) (queue : Queue) : Event Node Slot Queue Message Change → Option Message
  | take other place message => if other = node ∧ place = queue then some message else none
  | _ => none

def changes (node : Node) : Event Node Slot Queue Message Change → Option Change
  | configure other change => if other = node then some change else none
  | _ => none

end Event

/-- No queue is ever asked for more than it has room for. -/
def Spare (capacity : Nat) (node : Node) (queue : Queue)
    (events : List (Event Node Slot Queue Message Change)) : Prop :=
  ∀ earlier, earlier <+: events → (earlier.filterMap (Event.arrives node queue)).length ≤
    (earlier.filterMap (Event.takes node queue)).length + capacity

end Definitions

theorem filterMap_last {Seen Value : Type} (read : Seen → Option Value) (earlier : List Seen)
    (last : Seen) :
    (earlier ++ [last]).filterMap read = earlier.filterMap read ++ (read last).toList := by
  cases value : read last <;> simp [value]

section Rules

variable {Node Slot Queue Message Policy Change : Type}
variable [DecidableEq Node] [DecidableEq Slot] [DecidableEq Queue]
variable {rules : Rules Node Queue Message Policy Change}
variable {start state next : State Node Slot Queue Message Policy}
variable {event : Event Node Slot Queue Message Change}
variable {events : List (Event Node Slot Queue Message Change)}

/-! ## Slots -/

omit [DecidableEq Queue] in
theorem place_put (node other : Node) (slot asked : Slot) (place : Place Message) :
    (state.put node slot place).place other asked =
      if node = other ∧ slot = asked then place else state.place other asked := by
  by_cases same : node = other
  next =>
    subst same
    by_cases there : slot = asked
    next =>
      subst there
      simp [State.put]
    next => simp [State.put, there, Function.update_of_ne (Ne.symm there)]
  next => simp [State.put, same, Function.update_of_ne (Ne.symm same)]

theorem Step.accounted (taken : Step rules state event next) (node : Node) (slot : Slot) :
    (state.place node slot).held ++ (event.accepts node slot).toList =
      (event.finishes node slot).toList.map Prod.fst ++ (next.place node slot).held := by
  cases taken with
  | @accept other place message empty =>
    by_cases same : other = node ∧ place = slot
    next =>
      obtain ⟨rfl, rfl⟩ := same
      simp [Event.accepts, Event.finishes, place_put, empty]
    next => simp [Event.accepts, Event.finishes, place_put, same]
  | refuse message _ => simp [Event.accepts, Event.finishes]
  | @transmit other place message route there _ =>
    by_cases same : other = node ∧ place = slot
    next =>
      obtain ⟨rfl, rfl⟩ := same
      simp [Event.accepts, Event.finishes, State.deliver, place_put, there]
    next => simp [Event.accepts, Event.finishes, State.deliver, place_put, same]
  | @abort other place message there =>
    by_cases same : other = node ∧ place = slot
    next =>
      obtain ⟨rfl, rfl⟩ := same
      simp [Event.accepts, Event.finishes, place_put, there]
    next => simp [Event.accepts, Event.finishes, place_put, same]
  | take _ => simp [Event.accepts, Event.finishes, State.setQueue]
  | configure _ => simp [Event.accepts, Event.finishes]

/-- What a slot has been given is what has left it, in the same order, and what it still holds. -/
theorem Run.slots (run : Run rules start events state) {node : Node} {slot : Slot}
    (empty : (start.place node slot).held = []) :
    events.filterMap (Event.accepts node slot) =
      (events.filterMap (Event.finishes node slot)).map Prod.fst ++ (state.place node slot).held := by
  induction run with
  | nil => simp [empty]
  | @snoc events event state next _ taken ih =>
    have step := taken.accounted node slot
    rw [filterMap_last, filterMap_last, ih, List.map_append, List.append_assoc, step,
      List.append_assoc]

theorem Step.sent (taken : Step rules state event next) {node : Node} {slot : Slot}
    {message : Message} (there : next.place node slot = .sent message) :
    event.finishes node slot = some (message, true) ∨
      event.finishes node slot = none ∧ state.place node slot = .sent message := by
  cases taken with
  | @accept other place value _ =>
    rw [place_put] at there
    split at there
    next => cases there
    next => exact .inr ⟨rfl, there⟩
  | refuse | take _ | configure => exact .inr ⟨rfl, there⟩
  | @transmit other place value route _ _ =>
    simp only [State.deliver] at there
    rw [place_put] at there
    split at there
    next same =>
      cases there
      exact .inl (if_pos same)
    next apart => exact .inr ⟨if_neg apart, there⟩
  | @abort other place value _ =>
    rw [place_put] at there
    split at there
    next => cases there
    next apart => exact .inr ⟨if_neg apart, there⟩

/-- A slot says that it has sent a message only where this was the last to leave it. -/
theorem Run.sent (run : Run rules start events state) {node : Node} {slot : Slot}
    (idle : start.place node slot = .idle) {message : Message}
    (there : state.place node slot = .sent message) :
    (events.filterMap (Event.finishes node slot)).getLast? = some (message, true) := by
  induction run with
  | nil =>
    rw [idle] at there
    cases there
  | @snoc events event state next _ taken ih =>
    rw [filterMap_last]
    obtain finished | ⟨none, before⟩ := taken.sent there
    next => simp [finished]
    next => simpa [none] using ih before

/-! ## Queues -/

theorem push_sublist (capacity : Nat) (locked : Bool) (queue : List Message) (message : Message) :
    (push capacity locked queue message).Sublist (queue ++ [message]) := by
  unfold push
  split
  next => exact List.Sublist.refl _
  next =>
    split
    next => exact List.sublist_append_left _ _
    next => exact (List.dropLast_sublist queue).append (List.Sublist.refl _)

theorem length_push {capacity : Nat} (room : 0 < capacity) (locked : Bool) {queue : List Message}
    (message : Message) (within : queue.length ≤ capacity) :
    (push capacity locked queue message).length ≤ capacity := by
  unfold push
  split
  next space =>
    rw [List.length_append, List.length_singleton]
    omega
  next =>
    split
    next => exact within
    next =>
      rw [List.length_append, List.length_dropLast, List.length_singleton]
      omega

omit [DecidableEq Slot] in
theorem queue_setQueue (node other : Node) (queue asked : Queue) (messages : List Message) :
    (state.setQueue node queue messages).queue other asked =
      if node = other ∧ queue = asked then messages else state.queue other asked := by
  by_cases same : node = other
  next =>
    subst same
    by_cases there : queue = asked
    next =>
      subst there
      simp [State.setQueue]
    next => simp [State.setQueue, there, Function.update_of_ne (Ne.symm there)]
  next => simp [State.setQueue, same, Function.update_of_ne (Ne.symm same)]

/-- A step takes from the head of a queue, or stores at its end. -/
theorem Step.stored (taken : Step rules state event next) (node : Node) (queue : Queue) :
    state.queue node queue = (event.takes node queue).toList ++ next.queue node queue ∧
        event.arrives node queue = none ∨
      event.takes node queue = none ∧ ∃ message, event.arrives node queue = some message ∧
        next.queue node queue =
          push rules.capacity (rules.locked node) (state.queue node queue) message := by
  cases taken with
  | accept message _ => simp [Event.takes, Event.arrives, State.put]
  | refuse message _ => simp [Event.takes, Event.arrives]
  | @transmit other place message route _ _ =>
    by_cases wanted : route node = some queue
    next => simp [Event.takes, Event.arrives, State.deliver, State.put, wanted]
    next => simp [Event.takes, Event.arrives, State.deliver, State.put, wanted]
  | abort _ => simp [Event.takes, Event.arrives, State.put]
  | @take other asked message rest first =>
    by_cases same : other = node ∧ asked = queue
    next =>
      obtain ⟨rfl, rfl⟩ := same
      simp [Event.takes, Event.arrives, queue_setQueue, first]
    next => simp [Event.takes, Event.arrives, queue_setQueue, same]
  | configure _ => simp [Event.takes, Event.arrives]

/-- What a node has taken and what waits for it are, in the order of their transmission, among the
messages that it has asked for. -/
theorem Run.queues (run : Run rules start events state) {node : Node} {queue : Queue}
    (empty : start.queue node queue = []) :
    (events.filterMap (Event.takes node queue) ++ state.queue node queue).Sublist
        (events.filterMap (Event.arrives node queue)) ∧
      (state.queue node queue).length ≤ rules.capacity := by
  induction run with
  | nil => simp [empty]
  | @snoc events event state next _ taken ih =>
    obtain ⟨among, within⟩ := ih
    obtain ⟨first, none⟩ | ⟨none, message, arrived, stored⟩ := taken.stored node queue
    next =>
      rw [filterMap_last, filterMap_last, none, List.append_assoc, ← first]
      have shorter : (next.queue node queue).length ≤ (state.queue node queue).length := by
        rw [first, List.length_append]
        omega
      exact ⟨among.trans (List.sublist_append_left _ _), Nat.le_trans shorter within⟩
    next =>
      rw [filterMap_last, filterMap_last, none, arrived, stored]
      refine ⟨?_, length_push rules.room _ _ within⟩
      have last := push_sublist rules.capacity (rules.locked node) (state.queue node queue) message
      have longer := (List.Sublist.refl (events.filterMap (Event.takes node queue))).append last
      rw [← List.append_assoc] at longer
      simpa using longer.trans (among.append (List.Sublist.refl [message]))

omit [DecidableEq Slot] in
theorem Spare.shorter {node : Node} {queue : Queue}
    (spare : Spare rules.capacity node queue (events ++ [event])) :
    Spare rules.capacity node queue events :=
  fun earlier within => spare earlier (within.trans (List.prefix_append _ _))

/-- Nothing is lost where there is always room. -/
theorem Run.lossless (run : Run rules start events state) {node : Node} {queue : Queue}
    (empty : start.queue node queue = []) (spare : Spare rules.capacity node queue events) :
    events.filterMap (Event.arrives node queue) =
      events.filterMap (Event.takes node queue) ++ state.queue node queue := by
  induction run with
  | nil => simp [empty]
  | @snoc events event state next _ taken ih =>
    have before := ih spare.shorter
    obtain ⟨first, none⟩ | ⟨none, message, arrived, stored⟩ := taken.stored node queue
    next =>
      rw [filterMap_last, filterMap_last, none, before, first]
      simp
    next =>
      have fits := spare _ (List.prefix_refl _)
      rw [filterMap_last, filterMap_last, none, arrived, before] at fits
      have space : (state.queue node queue).length < rules.capacity := by
        simp only [List.length_append, Option.toList_some, Option.toList_none,
          List.length_singleton, List.length_nil] at fits
        omega
      rw [filterMap_last, filterMap_last, none, arrived, before, stored, push, if_pos space]
      simp

/-! ## Policies -/

theorem Step.policy (taken : Step rules state event next) (node : Node) :
    next.policy node = (event.changes node).toList.foldl rules.change (state.policy node) := by
  cases taken with
  | @configure other change =>
    by_cases same : other = node
    next =>
      subst same
      simp [Event.changes]
    next => simp [Event.changes, same, Function.update_of_ne (Ne.symm same)]
  | accept message _ | refuse message _ | transmit _ _ | abort _ | take _ => rfl

theorem Run.policies (run : Run rules start events state) (node : Node) :
    state.policy node =
      (events.filterMap (Event.changes node)).foldl rules.change (start.policy node) := by
  induction run with
  | nil => rfl
  | snoc _ taken ih => rw [filterMap_last, List.foldl_append, ← ih, taken.policy node]

theorem Run.before {earlier later : List (Event Node Slot Queue Message Change)}
    (run : Run rules start (earlier ++ event :: later) next) :
    ∃ before after, Run rules start earlier before ∧ Step rules before event after := by
  generalize whole : earlier ++ event :: later = events at run
  induction run generalizing later with
  | nil => simp at whole
  | @snoc events last state next shorter taken ih =>
    cases later using List.reverseRecOn with
    | nil =>
      obtain ⟨rfl, same⟩ := List.append_inj' whole rfl
      obtain rfl := List.singleton_inj.mp same
      exact ⟨state, next, shorter, taken⟩
    | append_singleton rest other =>
      have inside : (earlier ++ event :: rest) ++ [other] = events ++ [last] := by
        simpa using whole
      obtain ⟨same, _⟩ := List.append_inj' inside rfl
      exact ih same

/-- A message is refused only where every slot of the node has one that has not left it. -/
theorem Run.refused {earlier later : List (Event Node Slot Queue Message Change)} {node : Node}
    {message : Message}
    (run : Run rules start (earlier ++ .refuse node message :: later) next) (slot : Slot)
    (empty : (start.place node slot).held = []) :
    (earlier.filterMap (Event.finishes node slot)).length <
      (earlier.filterMap (Event.accepts node slot)).length := by
  obtain ⟨before, after, shorter, taken⟩ := run.before
  cases taken with
  | refuse _ full =>
    rw [shorter.slots empty, List.length_append, List.length_map]
    have held := List.length_pos_iff.mpr (full slot)
    omega

/-- A message goes where the policies that are in force ask for it. -/
theorem Run.routed {earlier later : List (Event Node Slot Queue Message Change)} {sender : Node}
    {slot : Slot} {message : Message} {route : Node → Option Queue}
    (run : Run rules start (earlier ++ .transmit sender slot message route :: later) next)
    (node : Node) :
    if rules.hears node sender then
      rules.routes ((earlier.filterMap (Event.changes node)).foldl rules.change
        (start.policy node)) message (route node)
    else route node = none := by
  obtain ⟨before, after, shorter, taken⟩ := run.before
  cases taken with
  | transmit _ routed =>
    rw [← shorter.policies node]
    exact routed node

end Rules

end ApmSdk.Broadcast
