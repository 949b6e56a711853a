import ApmSdk.Lib.Runs
import ApmSdk.StdPeriph.CanNode

set_option autoImplicit false

/-!
# A network of CAN controllers

Nodes that transmit and receive with the functions of the driver, over a bus that hands every frame
to the nodes whose filters let it in. The network refines the broadcast of messages between nodes.
-/

namespace ApmSdk.StdPeriph

open Broadcast Runs

/-! ## The network -/

/-- What callers and the bus have seen. -/
inductive CanEvent (Node : Type) where
  | accepted (node : Node) (message : CanTxMessage) (mailbox : Nat)
  | refused (node : Node) (message : CanTxMessage)
  | transmitted (node : Node) (mailbox : Fin 3) (frame : CanTxMailBox)
      (route : Node → Option CanFifo)
  | aborted (node : Node) (mailbox : Fin 3)
  | received (node : Node) (fifo : CanFifo) (message : CanRxMessage)
  | released (node : Node) (fifo : CanFifo)
  | configured (node : Node) (config : CanFilterConfig)

structure CanNetwork (Node : Type) where
  node : Node → CanNode
  log : List (CanEvent Node)

/-- How the controllers are set up: whether a full FIFO is locked, whether a frame is sent only
once (`nonAutoRetran`), and who hears whom. A controller in loop-back mode hears itself. -/
structure CanSetup (Node : Type) where
  locked : Node → Bool
  once : Node → Bool
  hears : Node → Node → Bool

inductive CanLabel (Node : Type) where
  -- calls of the driver
  | txMessage (node : Node) (message : CanTxMessage)
  | configFilter (node : Node) (config : CanFilterConfig)
  | perform (node : Node) (op : CanOp)
  -- steps of the hardware
  | transmit (node : Node) (mailbox : Fin 3) (route : Node → Option CanFifo)
      (rest : Node → CanRxMailBox)
  | abort (node : Node) (mailbox : Fin 3)

namespace CanNetwork

variable {Node : Type} [DecidableEq Node]

def set (network : CanNetwork Node) (node : Node) (state : CanNode)
    (shown : List (CanEvent Node)) : CanNetwork Node :=
  { node := Function.update network.node node state, log := network.log ++ shown }

@[simp] theorem node_set_self (network : CanNetwork Node) (node : Node) (state : CanNode)
    (shown : List (CanEvent Node)) : (network.set node state shown).node node = state :=
  Function.update_self ..

theorem node_set_other (network : CanNetwork Node) {node other : Node} (apart : other ≠ node)
    (state : CanNode) (shown : List (CanEvent Node)) :
    (network.set node state shown).node other = network.node other :=
  Function.update_of_ne apart ..

-- The identifier word of a frame.
def word (frame : CanTxMailBox) : BitVec 32 := frame.txmid &&& ~~~0x00000001

def hand (setup : CanSetup Node) (network : CanNetwork Node) (frame : CanTxMailBox)
    (route : Node → Option CanFifo) (rest : Node → CanRxMailBox) : CanNetwork Node :=
  { network with
    node := fun node =>
      match route node with
      | some fifo => (network.node node).store (setup.locked node) fifo (received frame (rest node))
      | none => network.node node }

/-- What a call shows: a FIFO that is released without `CAN_RxMessage` loses what is in it. An empty
one has no message to give, whatever `CAN_RxMessage` then reads from its mailbox. -/
def shown (node : Node) (can : Can) : CanOp → List (CanEvent Node)
  | .rxMessage fifo message => if can.pendingMessage fifo = 0 then []
      else [.received node fifo (can.rxMessage fifo message).2]
  | .releaseFIFO fifo => if can.pendingMessage fifo = 0 then [] else [.released node fifo]
  | _ => []

def step (setup : CanSetup Node) (network : CanNetwork Node) :
    CanLabel Node → Option (CanNetwork Node)
  | .txMessage node message =>
      let state := network.node node
      let (can, _, number) := state.can.txMessage message
      some (network.set node { state with can := can }.settle
        [if number = 3 then .refused node message else .accepted node message number])
  | .configFilter node config =>
      let state := network.node node
      some (network.set node { state with filters := state.filters.configFilter config }
        [.configured node config])
  | .perform node op =>
      let state := network.node node
      some (network.set node { state with can := op.perform state.can }.settle
        (shown node state.can op))
  | .transmit node box route rest =>
      let state := network.node node
      if state.can.requested box then
        let frame := state.can.txMailBox box
        some ((network.set node { state with can := state.can.finish box true }
          [.transmitted node box frame route]).hand setup frame route rest)
      else none
  | .abort node box =>
      let state := network.node node
      -- ABREQ, or a frame that has failed and is not sent again.
      if state.can.requested box && (state.can.aborting box || setup.once node) then
        some (network.set node { state with can := state.can.finish box false }
          [.aborted node box])
      else none

/-- The documented ranges, and routes that are those of the filters. -/
def Fine (setup : CanSetup Node) (network : CanNetwork Node) : CanLabel Node → Prop
  | .txMessage _ message => message.Valid
  | .configFilter _ config => config.Valid
  | .transmit node box route _ => ∀ other, if setup.hears other node then
      (network.node other).filters.Selects (word ((network.node node).can.txMailBox box))
        (route other)
      else route other = none
  | _ => True

/-! ## What the network stands for -/

abbrev Mail (Node : Type) := Broadcast.State Node (Fin 3) CanFifo CanTxMessage CanPolicy

abbrev MailEvent (Node : Type) := Broadcast.Event Node (Fin 3) CanFifo CanTxMessage CanFilterConfig

def rules (setup : CanSetup Node) :
    Broadcast.Rules Node CanFifo CanTxMessage CanPolicy CanFilterConfig where
  capacity := 3
  room := by decide
  locked := setup.locked
  hears := setup.hears
  routes policy message := policy.Routes message.idWord
  change := CanPolicy.change

/-- The controller holds these messages, and has been asked for these filters. -/
structure Shows (state : CanNode) (place : Fin 3 → Place CanTxMessage)
    (queue : CanFifo → List CanTxMessage) (policy : CanPolicy) : Prop where
  mailed : ∀ box, state.can.Mailed box (place box)
  queued : ∀ fifo, state.Queued fifo (queue fifo)
  follows : state.filters.Follows policy

def Represents (network : CanNetwork Node) (mail : Mail Node) : Prop :=
  ∀ node, Shows (network.node node) (mail.place node) (mail.queue node) (mail.policy node)

/-- What is seen of the controllers, and what happens to the messages. -/
inductive Matches : CanEvent Node → MailEvent Node → Prop
  | accepted (node : Node) (message : CanTxMessage) (box : Fin 3) :
      Matches (.accepted node message box.val) (.accept node box message)
  | refused (node : Node) (message : CanTxMessage) :
      Matches (.refused node message) (.refuse node message)
  | transmitted (node : Node) (box : Fin 3) {frame : CanTxMailBox} {message : CanTxMessage}
      (route : Node → Option CanFifo) :
      Carries frame message →
      Matches (.transmitted node box frame route) (.transmit node box message route)
  | aborted (node : Node) (box : Fin 3) (message : CanTxMessage) :
      Matches (.aborted node box) (.abort node box message)
  | received (node : Node) (fifo : CanFifo) {message : CanTxMessage} {received : CanRxMessage} :
      Reads message received → Matches (.received node fifo received) (.take node fifo message)
  | released (node : Node) (fifo : CanFifo) (message : CanTxMessage) :
      Matches (.released node fifo) (.take node fifo message)
  | configured (node : Node) (config : CanFilterConfig) :
      Matches (.configured node config) (.configure node config)

/-- The step shows nothing and means nothing, or shows one event that is one of the messages. -/
def Follows (setup : CanSetup Node) (network : CanNetwork Node) (mail : Mail Node)
    (next : CanNetwork Node) : Prop :=
  (next.log = network.log ∧ Represents next mail) ∨
    ∃ shown event mail', next.log = network.log ++ [shown] ∧ Matches shown event ∧
      Broadcast.Step (rules setup) mail event mail' ∧ Represents next mail'

section Steps

variable {setup : CanSetup Node} {network next : CanNetwork Node} {mail : Mail Node}
variable {node : Node} {state : CanNode}

theorem Represents.set (represents : Represents network mail) (shown : List (CanEvent Node))
    {mail' : Mail Node}
    (here : Shows state (mail'.place node) (mail'.queue node) (mail'.policy node))
    (elsewhere : ∀ other ≠ node, mail'.place other = mail.place other ∧
      mail'.queue other = mail.queue other ∧ mail'.policy other = mail.policy other) :
    Represents (network.set node state shown) mail' := by
  intro other
  by_cases same : other = node
  next =>
    subst same
    rw [node_set_self]
    exact here
  next =>
    obtain ⟨place, queue, policy⟩ := elsewhere other same
    rw [node_set_other _ same, place, queue, policy]
    exact represents other

variable {place place' : Fin 3 → Place CanTxMessage} {queue : CanFifo → List CanTxMessage}
variable {policy : CanPolicy}

omit [DecidableEq Node] in
theorem Shows.settle (shows : Shows state place queue policy) {after : Can}
    (mailed : ∀ box, after.settleTx.Mailed box (place' box)) (count : CanFifo → Nat)
    (rfom : ∀ fifo, (after.rxf fifo).getLsbD 5 = (state.can.rxf fifo).getLsbD 5)
    (released : ∀ fifo, after.released fifo = state.can.released fifo + count fifo) :
    Shows ({ state with can := after } : CanNode).settle place'
      (fun fifo => (queue fifo).drop (count fifo)) policy where
  mailed box := (mailed box).of_same rfl rfl
  queued fifo := (shows.queued fifo).settle (rfom fifo) (released fifo)
  follows := shows.follows

theorem txMessage_follows (represents : Represents network mail) {message : CanTxMessage}
    (valid : message.Valid) :
    Follows setup network mail (network.set node
      ({ network.node node with
          can := ((network.node node).can.txMessage message).1 } : CanNode).settle
      [if ((network.node node).can.txMessage message).2.2 = 3 then .refused node message
        else .accepted node message ((network.node node).can.txMessage message).2.2]) := by
  have shows := represents node
  cases empty : (network.node node).can.emptyMailBox with
  | none =>
    have full := (Can.emptyMailBox_none _).mp empty
    have same : Shows ({ network.node node with can := (network.node node).can } : CanNode).settle
        (mail.place node) (mail.queue node) (mail.policy node) :=
      shows.settle (fun box => (shows.mailed box).settle) (fun _ => 0) (fun _ => rfl) (fun _ => rfl)
    rw [Can.txMessage_full empty]
    refine .inr ⟨.refused node message, .refuse node message, mail, ?_, .refused node message,
      .refuse message fun slot vacant => ?_, ?_⟩
    · simp [CanNetwork.set]
    · have requested := (shows.mailed slot).vacant vacant
      have isEmpty := (shows.mailed slot).isEmpty
      rw [requested, full slot] at isEmpty
      cases isEmpty
    · exact represents.set _ same fun _ _ => ⟨rfl, rfl, rfl⟩
  | some box =>
    have number : ((network.node node).can.txMessage message).2.2 = box.val :=
      (Can.txMessage_empty empty).1
    have other : ¬ ((network.node node).can.txMessage message).2.2 = 3 := by
      rw [number]
      omega
    have vacant : (mail.place node box).held = [] := by
      cases place : mail.place node box with
      | idle | sent _ | aborted _ => rfl
      | pending held =>
        have requested := ((shows.mailed box).pending held place).1
        have isEmpty := (shows.mailed box).isEmpty
        rw [requested, Can.isEmpty_of_emptyMailBox empty] at isEmpty
        cases isEmpty
    rw [if_neg other, number]
    refine .inr ⟨.accepted node message box.val, .accept node box message,
      mail.put node box (.pending message), ?_, .accepted node message box,
      .accept message vacant, ?_⟩
    · simp [CanNetwork.set]
    · refine represents.set _ ?_ fun other apart => ?_
      · have mailed : ∀ other, ((network.node node).can.txMessage message).1.settleTx.Mailed other
            ((mail.put node box (.pending message)).place node other) := by
          intro other
          by_cases same : other = box
          next =>
            subst same
            simpa [State.put] using Can.Mailed.txMessage_self valid empty
          next =>
            simpa [State.put, same] using (shows.mailed other).txMessage_other empty same
        exact shows.settle mailed (fun _ => 0)
          (fun fifo => by rw [(Can.txMessage_empty empty).2])
          (fun fifo => by rw [(Can.txMessage_empty empty).2]; rfl)
      · simp [State.put, apart]

omit [DecidableEq Node] in
theorem Shows.perform (shows : Shows state place queue policy) (op : CanOp) :
    Shows ({ state with can := op.perform state.can } : CanNode).settle place
      (fun fifo => (queue fifo).drop (if op.taken = some fifo then 1 else 0)) policy := by
  have quiet := state.can.perform_quiet op
  have rfom : ∀ fifo, (state.can.rxf fifo).getLsbD 5 = false := fun fifo =>
    (shows.queued fifo).rfom
  exact shows.settle (fun box => ((shows.mailed box).quiet quiet).settle) _ quiet.rfom
    (state.can.released_perform op rfom)

omit [DecidableEq Node] in
theorem Shows.pendingMessage (shows : Shows state place queue policy) (fifo : CanFifo) :
    state.can.pendingMessage fifo = 0 ↔ queue fifo = [] := by
  have queued := shows.queued fifo
  rw [queued.count]
  constructor
  next =>
    intro zero
    have length := congrArg BitVec.toNat zero
    rw [BitVec.toNat_ofNat, Nat.mod_eq_of_lt (by have := queued.within; omega)] at length
    exact List.length_eq_zero_iff.mp length
  next =>
    intro empty
    rw [empty]
    rfl

omit [DecidableEq Node] in
theorem Shows.pending (shows : Shows state place queue policy) {fifo : CanFifo}
    {message : CanTxMessage} {rest : List CanTxMessage} (first : queue fifo = message :: rest) :
    ¬ state.can.pendingMessage fifo = 0 := by
  rw [shows.pendingMessage fifo, first]
  exact List.cons_ne_nil message rest

/-- A call that takes the first message of a FIFO. -/
theorem take_follows (represents : Represents network mail) {op : CanOp} {fifo : CanFifo}
    (taken : op.taken = some fifo) {message : CanTxMessage} {rest : List CanTxMessage}
    (first : mail.queue node fifo = message :: rest) {shown : CanEvent Node}
    (matched : Matches shown (.take node fifo message)) :
    Follows setup network mail (network.set node
      ({ network.node node with can := op.perform (network.node node).can } : CanNode).settle
      [shown]) := by
  refine .inr ⟨shown, _, mail.setQueue node fifo rest, rfl, matched, .take first, ?_⟩
  refine represents.set _ ?_ fun other apart => by simp [State.setQueue, apart]
  have performed := (represents node).perform op
  have queues : (fun other => (mail.queue node other).drop
      (if op.taken = some other then 1 else 0)) = (mail.setQueue node fifo rest).queue node := by
    funext other
    by_cases same : other = fifo
    next =>
      subst same
      simp [State.setQueue, taken, first]
    next => simp [State.setQueue, taken, same, Ne.symm same]
  rw [queues] at performed
  exact performed

/-- A call that takes nothing. -/
theorem still_follows (represents : Represents network mail) {op : CanOp}
    (none : ∀ fifo, op.taken = some fifo → mail.queue node fifo = []) :
    Follows setup network mail (network.set node
      ({ network.node node with can := op.perform (network.node node).can } : CanNode).settle
      []) := by
  refine .inl ⟨List.append_nil _, represents.set _ ?_ fun _ _ => ⟨rfl, rfl, rfl⟩⟩
  have performed := (represents node).perform op
  have queues : (fun other => (mail.queue node other).drop
      (if op.taken = some other then 1 else 0)) = mail.queue node := by
    funext other
    split
    next taken => rw [none other taken, List.drop_nil]
    next => rfl
  rw [queues] at performed
  exact performed

theorem perform_follows (represents : Represents network mail) {op : CanOp} :
    Follows setup network mail (network.set node
      ({ network.node node with can := op.perform (network.node node).can } : CanNode).settle
      (shown node (network.node node).can op)) := by
  have shows := represents node
  cases op with
  | rxMessage fifo into =>
    cases first : mail.queue node fifo with
    | nil =>
      rw [shown, if_pos ((shows.pendingMessage fifo).mpr first)]
      refine still_follows represents fun other taken => ?_
      obtain rfl := Option.some.inj taken
      exact first
    | cons message rest =>
      rw [shown, if_neg (shows.pending first)]
      have queued := shows.queued fifo
      have stored := queued.stored
      rw [first] at stored
      cases waiting : (network.node node).waiting fifo with
      | nil =>
        rw [waiting] at stored
        cases stored
      | cons entry later =>
        rw [waiting] at stored
        have stores := (List.forall₂_cons.mp stored).1
        have mailbox := queued.first entry (by rw [waiting]; rfl)
        rw [← mailbox] at stores
        exact take_follows represents rfl first (.received node fifo (stores.reads into))
  | releaseFIFO fifo =>
    cases first : mail.queue node fifo with
    | nil =>
      rw [shown, if_pos ((shows.pendingMessage fifo).mpr first)]
      refine still_follows represents fun other taken => ?_
      obtain rfl := Option.some.inj taken
      exact first
    | cons message rest =>
      rw [shown, if_neg (shows.pending first)]
      exact take_follows represents rfl first (.released node fifo message)
  | cancelTxMailbox _ | clearIntFlag _ | clearStatusFlag _ =>
    exact still_follows represents fun _ taken => by cases taken

theorem configFilter_follows (represents : Represents network mail) {config : CanFilterConfig}
    (valid : config.Valid) :
    Follows setup network mail (network.set node
      { network.node node with filters := (network.node node).filters.configFilter config }
      [.configured node config]) := by
  refine .inr ⟨_, .configure node config, _, rfl, .configured node config, .configure config, ?_⟩
  obtain ⟨mailed, queued, follows⟩ := represents node
  refine represents.set _ ⟨mailed, fun fifo => ?_, ?_⟩ fun other apart => ?_
  · obtain ⟨stored, within, rfom, performed, count, first⟩ := queued fifo
    exact ⟨stored, within, rfom, performed, count, first⟩
  · have last : Function.update mail.policy node (CanPolicy.change (mail.policy node) config) node =
        CanPolicy.change (mail.policy node) config := Function.update_self ..
    have configured := follows.configFilter valid
    rw [← last] at configured
    exact configured
  · exact ⟨rfl, rfl, Function.update_of_ne apart _ _⟩

theorem Shows.finish (shows : Shows state place queue policy) (box : Fin 3)
    (message : CanTxMessage) (success : Bool) :
    Shows { state with can := state.can.finish box success }
      (Function.update place box (if success then .sent message else .aborted message)) queue
      policy := by
  refine ⟨fun other => ?_, fun fifo => ?_, shows.follows⟩
  · by_cases same : other = box
    next =>
      subst same
      rw [Function.update_self]
      exact .finish_self state.can other message success
    next =>
      rw [Function.update_of_ne same]
      exact (shows.mailed other).finish_other success same
  · obtain ⟨stored, within, rfom, performed, count, first⟩ := shows.queued fifo
    exact ⟨stored, within, rfom, performed, count, first⟩

theorem finish_represents (represents : Represents network mail) {box : Fin 3}
    (message : CanTxMessage) (success : Bool) (shown : List (CanEvent Node)) :
    Represents (network.set node
        { network.node node with can := (network.node node).can.finish box success } shown)
      (mail.put node box (if success then .sent message else .aborted message)) := by
  refine represents.set _ ?_ fun other apart => by simp [State.put, apart]
  have finished := (represents node).finish box message success
  have places : (mail.put node box (if success then .sent message else .aborted message)).place
      node = Function.update (mail.place node) box
        (if success then .sent message else .aborted message) := by
    simp [State.put]
  rw [← places] at finished
  exact finished

omit [DecidableEq Node] in
theorem Shows.store (shows : Shows state place queue policy) (locked : Bool) (fifo : CanFifo)
    {entry : CanRxMailBox} {message : CanTxMessage} (stores : Stores entry message) :
    Shows (state.store locked fifo entry) place
      (fun other => if some fifo = some other then push 3 locked (queue other) message
        else queue other) policy := by
  refine ⟨fun box => (shows.mailed box).of_same rfl rfl, fun other => ?_, shows.follows⟩
  by_cases same : other = fifo
  next =>
    subst same
    rw [if_pos rfl]
    exact (shows.queued other).store_self locked stores
  next =>
    rw [if_neg fun equal => same (Option.some.inj equal).symm]
    exact (shows.queued other).store_other same locked entry

omit [DecidableEq Node] in
theorem hand_represents (represents : Represents network mail) {frame : CanTxMailBox}
    {message : CanTxMessage} (carries : Carries frame message) (valid : message.Valid)
    (route : Node → Option CanFifo) (rest : Node → CanRxMailBox) :
    Represents (network.hand setup frame route rest)
      (mail.deliver (rules setup) message route) := by
  intro other
  have shows := represents other
  cases into : route other with
  | none =>
    have queues : (mail.deliver (rules setup) message route).queue other = mail.queue other := by
      funext fifo
      simp [State.deliver, into]
    have unchanged : (network.hand setup frame route rest).node other = network.node other := by
      simp [hand, into]
    rw [unchanged, queues]
    exact shows
  | some fifo =>
    have stored := shows.store (setup.locked other) fifo (carries.stores valid (rest other))
    have queues : (mail.deliver (rules setup) message route).queue other = fun asked =>
        if some fifo = some asked then push 3 (setup.locked other) (mail.queue other asked) message
        else mail.queue other asked := by
      funext asked
      simp [State.deliver, into, rules]
    have changed : (network.hand setup frame route rest).node other =
        (network.node other).store (setup.locked other) fifo (received frame (rest other)) := by
      simp [hand, into]
    rw [changed, queues]
    exact stored

theorem word_eq {frame : CanTxMailBox} {message : CanTxMessage}
    (frames : Can.Frames message frame) : word frame = message.idWord := by
  obtain ⟨old, rfl⟩ := frames
  have mask : ∀ bit < 32, (~~~(0x00000001 : BitVec 32)).getLsbD bit = decide (1 ≤ bit) := by
    decide
  apply BitVec.eq_of_getLsbD_eq
  intro bit within
  rw [word, BitVec.getLsbD_and, mask bit within]
  by_cases positive : 1 ≤ bit
  next => rw [Can.getLsbD_sentMid old message positive, decide_eq_true positive, Bool.and_true]
  next =>
    obtain rfl : bit = 0 := by omega
    rw [Can.idWord_low, decide_eq_false positive, Bool.and_false]

omit [DecidableEq Node] in
theorem Shows.requested (shows : Shows state place queue policy) {box : Fin 3}
    (requested : state.can.requested box = true) : ∃ message, place box = .pending message ∧
      message.Valid ∧ Can.Frames message (state.can.txMailBox box) := by
  cases there : place box with
  | pending message =>
    obtain ⟨_, _, _, valid, frames⟩ := (shows.mailed box).pending message there
    exact ⟨message, rfl, valid, frames⟩
  | idle | sent _ | aborted _ =>
    have vacant := (shows.mailed box).vacant (by rw [there]; rfl)
    rw [requested] at vacant
    cases vacant

/-- One step of the controllers is at most one step of the messages. -/
theorem step_follows (represents : Represents network mail) {label : CanLabel Node}
    (fine : Fine setup network label) (taken : step setup network label = some next) :
    Follows setup network mail next := by
  cases label with
  | txMessage node message =>
    obtain rfl := Option.some.inj taken
    exact txMessage_follows represents fine
  | configFilter node config =>
    obtain rfl := Option.some.inj taken
    exact configFilter_follows represents fine
  | perform node op =>
    obtain rfl := Option.some.inj taken
    exact perform_follows represents
  | transmit node box route rest =>
    rw [step] at taken
    split at taken
    next requested =>
      obtain rfl := Option.some.inj taken
      obtain ⟨message, pending, valid, frames⟩ := (represents node).requested requested
      have routed : (rules setup).Routed mail.policy node message route := by
        intro other
        have selected := fine other
        rw [word_eq frames, (represents other).follows.selects_iff] at selected
        exact selected
      have carries := frames.carries valid
      refine .inr ⟨_, _, _, rfl, .transmitted node box route carries, .transmit pending routed, ?_⟩
      exact hand_represents (finish_represents represents message true _) carries valid route rest
    next => cases taken
  | abort node box =>
    rw [step] at taken
    split at taken
    next requested =>
      obtain rfl := Option.some.inj taken
      rw [Bool.and_eq_true] at requested
      obtain ⟨message, pending, _, _⟩ := (represents node).requested requested.1
      refine .inr ⟨_, _, _, rfl, .aborted node box message, .abort pending, ?_⟩
      exact finish_represents represents message false _
    next => cases taken

end Steps

/-! ## Runs -/

/-- The registers after a reset, with the mailboxes as they may be but for TXMREQ. -/
structure Fresh (network : CanNetwork Node) : Prop where
  log : network.log = []
  txsts : ∀ node, (network.node node).can.txsts = 0x1C000000
  requested : ∀ node box, (network.node node).can.requested box = false
  rxf : ∀ node fifo, (network.node node).can.rxf fifo = 0
  waiting : ∀ node fifo, (network.node node).waiting fifo = []
  performed : ∀ node, (network.node node).performed = (network.node node).can.released
  filters : ∀ node, ∃ sFilterRegister,
    (network.node node).filters = CanFilters.reset sFilterRegister

def noMail : Mail Node := ⟨fun _ _ => .idle, fun _ _ => [], fun _ _ => none⟩

variable {setup : CanSetup Node} {start network : CanNetwork Node}
variable {labels : List (CanLabel Node)}

omit [DecidableEq Node] in
theorem Fresh.represents (fresh : Fresh start) : Represents start noMail := by
  intro node
  refine ⟨fun box => ?_, fun fifo => ?_, ?_⟩
  · have txsts := fresh.txsts node
    have requested := fresh.requested node box
    have flags : ∀ box : Fin 3, (0x1C000000 : BitVec 32).getLsbD (26 + box.val) = true ∧
        (0x1C000000 : BitVec 32).getLsbD (8 * box.val + 1) = false := by decide
    refine ⟨?_, fun _ => requested, fun _ there => (by cases there), fun set => ?_⟩
    · rw [requested, Can.isEmpty, txsts]
      exact (flags box).1
    · rw [Can.txsus, txsts, (flags box).2] at set
      cases set
  · refine ⟨?_, Nat.zero_le 3, ?_, congrFun (fresh.performed node) fifo, ?_, ?_⟩
    · rw [fresh.waiting node fifo]
      exact .nil
    · rw [fresh.rxf node fifo]
      rfl
    · rw [Can.pendingMessage, fresh.rxf node fifo]
      exact (by decide : (0 : BitVec 32) &&& 0x03 = BitVec.ofNat 32 0)
    · rw [fresh.waiting node fifo]
      exact fun _ none => by cases none
  · obtain ⟨sFilterRegister, reset⟩ := fresh.filters node
    rw [reset]
    exact CanFilters.reset_follows sFilterRegister

/-- Whatever the controllers do in a run is what a broadcast of messages can do. -/
theorem run_refines (fresh : Fresh start)
    (run : Runs.Run (step setup) (Fine setup) start labels network) :
    ∃ events mail, List.Forall₂ Matches network.log events ∧
      Broadcast.Run (rules setup) noMail events mail ∧ Represents network mail := by
  induction run with
  | nil =>
    refine ⟨[], noMail, ?_, .nil, fresh.represents⟩
    rw [fresh.log]
    exact .nil
  | snoc _ fine taken ih =>
    obtain ⟨events, mail, matched, broadcast, represents⟩ := ih
    obtain ⟨same, represents'⟩ | ⟨shown, event, mail', longer, one, step, represents'⟩ :=
      step_follows represents fine taken
    next => exact ⟨events, mail, same ▸ matched, broadcast, represents'⟩
    next =>
      refine ⟨events ++ [event], mail', ?_, broadcast.snoc step, represents'⟩
      rw [longer]
      exact List.rel_append matched (.cons one .nil)

/-! ## What arrives -/

/-- The messages behind what has been seen of a network. -/
structure Delivered (setup : CanSetup Node) (network : CanNetwork Node)
    (events : List (MailEvent Node)) : Prop where
  -- What a mailbox has been given has been transmitted or aborted once, in the same order, or is
  -- still there.
  mailboxes : ∀ node box, ∃ held, events.filterMap (Event.accepts node box) =
      (events.filterMap (Event.finishes node box)).map Prod.fst ++ held ∧
    ((network.node node).can.txMessageStatus box = 2 ↔ held ≠ []) ∧
    ((network.node node).can.txMessageStatus box = 1 →
      ∃ message, (events.filterMap (Event.finishes node box)).getLast? = some (message, true))
  refusals : ∀ earlier node message later, events = earlier ++ .refuse node message :: later →
    ∀ box, (earlier.filterMap (Event.finishes node box)).length <
      (earlier.filterMap (Event.accepts node box)).length
  -- A message goes to the nodes that hear it as their filters asked for by then.
  routes : ∀ earlier sender box message route later,
    events = earlier ++ .transmit sender box message route :: later →
    ∀ node, if setup.hears node sender then
      CanPolicy.Routes ((earlier.filterMap (Event.changes node)).foldl CanPolicy.change
        fun _ => none) message.idWord (route node)
    else route node = none
  -- What a node has taken and what waits for it has been transmitted in this order, and is all of
  -- it where there always was room.
  fifos : ∀ node fifo, ∃ waiting : List CanTxMessage,
    (events.filterMap (Event.takes node fifo) ++ waiting).Sublist
      (events.filterMap (Event.arrives node fifo)) ∧
    (network.node node).can.pendingMessage fifo = BitVec.ofNat 32 waiting.length ∧
    (Spare 3 node fifo events → events.filterMap (Event.arrives node fifo) =
      events.filterMap (Event.takes node fifo) ++ waiting)

/-- No message is lost in a mailbox, duplicated, overtaken by another of its mailbox or FIFO, or
changed on its way; a FIFO loses messages only where too many wait for it. -/
theorem messages_delivered (fresh : Fresh start)
    (run : Runs.Run (step setup) (Fine setup) start labels network) :
    ∃ events, List.Forall₂ Matches network.log events ∧ Delivered setup network events := by
  obtain ⟨events, mail, matched, broadcast, represents⟩ := run_refines fresh run
  refine ⟨events, matched, fun node box => ?_, fun earlier node message later whole box => ?_,
    fun earlier sender box message route later whole => ?_, fun node fifo => ?_⟩
  · obtain ⟨pending, success⟩ := ((represents node).mailed box).status
    refine ⟨(mail.place node box).held, broadcast.slots rfl, pending, fun one => ?_⟩
    obtain ⟨message, sent⟩ := success one
    exact ⟨message, broadcast.sent rfl sent⟩
  · rw [whole] at broadcast
    exact broadcast.refused box rfl
  · rw [whole] at broadcast
    exact broadcast.routed
  · have queued := (represents node).queued fifo
    have among : (events.filterMap (Event.takes node fifo) ++ mail.queue node fifo).Sublist
        (events.filterMap (Event.arrives node fifo)) := (broadcast.queues rfl).1
    exact ⟨mail.queue node fifo, among, queued.count, fun spare => broadcast.lossless rfl spare⟩

/-! ## Where it arrives -/

def accepts (node : Node) (box : Fin 3) : CanEvent Node → Option CanTxMessage
  | .accepted other message mailbox =>
      if other = node ∧ mailbox = box.val then some message else none
  | _ => none

def changes (node : Node) : CanEvent Node → Option CanFilterConfig
  | .configured other config => if other = node then some config else none
  | _ => none

theorem Matches.accepts_eq {seen : CanEvent Node} {event : MailEvent Node}
    (matched : Matches seen event) (node : Node) (box : Fin 3) :
    accepts node box seen = event.accepts node box := by
  cases matched with
  | accepted other message mailbox => simp [accepts, Event.accepts, Fin.ext_iff]
  | refused | transmitted | aborted | received _ _ _ | released | configured => rfl

theorem Matches.changes_eq {seen : CanEvent Node} {event : MailEvent Node}
    (matched : Matches seen event) (node : Node) : changes node seen = event.changes node := by
  cases matched <;> rfl

theorem filterMap_same {Seen Meant Value : Type} {related : Seen → Meant → Prop}
    {read : Seen → Option Value} {mean : Meant → Option Value}
    (same : ∀ seen meant, related seen meant → read seen = mean meant) {first : List Seen}
    {second : List Meant} (all : List.Forall₂ related first second) :
    first.filterMap read = second.filterMap mean := by
  induction all with
  | nil => rfl
  | cons one _ ih => rw [List.filterMap_cons, List.filterMap_cons, same _ _ one, ih]

/-- A frame on the bus is the last message that `CAN_TxMessage` has accepted for its mailbox, and
each node that hears it lets it in, and to which FIFO, as its last calls of `CAN_ConfigFilter` ask
for. -/
theorem routed_as_asked (fresh : Fresh start)
    (run : Runs.Run (step setup) (Fine setup) start labels network)
    {earlier later : List (CanEvent Node)} {sender : Node} {box : Fin 3} {frame : CanTxMailBox}
    {route : Node → Option CanFifo}
    (log : network.log = earlier ++ .transmitted sender box frame route :: later) :
    ∃ message, (earlier.filterMap (accepts sender box)).getLast? = some message ∧
      Carries frame message ∧
      ∀ node, if setup.hears node sender then
        CanPolicy.Routes ((earlier.filterMap (changes node)).foldl CanPolicy.change fun _ => none)
          message.idWord (route node)
      else route node = none := by
  obtain ⟨events, mail, matched, broadcast, _⟩ := run_refines fresh run
  rw [log] at matched
  have before := (List.forall₂_take_append _ _ _ matched.flip).flip
  have after := (List.forall₂_drop_append _ _ _ matched.flip).flip
  rw [← List.take_append_drop earlier.length events] at broadcast
  generalize events.take earlier.length = first at before broadcast
  generalize events.drop earlier.length = rest at after broadcast
  cases after with
  | cons one _ =>
    cases one with
    | @transmitted _ _ _ message _ carries =>
      have asked : ∀ node, earlier.filterMap (changes node) =
          first.filterMap (Event.changes node) :=
        fun node => filterMap_same (fun _ _ matched => matched.changes_eq node) before
      have given : earlier.filterMap (accepts sender box) =
          first.filterMap (Event.accepts sender box) :=
        filterMap_same (fun _ _ matched => matched.accepts_eq sender box) before
      refine ⟨message, ?_, carries, fun node => ?_⟩
      · obtain ⟨state, _, shorter, taken⟩ := broadcast.before
        rw [given, shorter.slots rfl]
        cases taken with
        | transmit pending _ => simp [pending]
      · rw [asked]
        exact broadcast.routed node

/-! ## A message from one node to another -/

def resetNode : CanNode where
  can := ⟨0, 0x1C000000, fun _ => 0, 0, fun _ => ⟨0, 0, 0, 0⟩, fun _ => ⟨0, 0, 0, 0⟩, [],
    fun _ => 0⟩
  filters := CanFilters.reset fun _ => ⟨0, 0⟩
  waiting _ := []
  performed _ := 0

def twoNodes : CanNetwork Bool := ⟨fun _ => resetNode, []⟩

theorem twoNodes_fresh : Fresh twoNodes where
  log := rfl
  txsts _ := rfl
  requested _ _ := BitVec.getLsbD_zero
  rxf _ _ := rfl
  waiting _ _ := rfl
  performed _ := rfl
  filters _ := ⟨_, rfl⟩

def wired : CanSetup Bool := ⟨fun _ => false, fun _ => false, fun node other => node != other⟩

-- Everything goes into FIFO 1.
def everything : CanFilterConfig := ⟨0, 0, 0, 0, 0, 1, .fifo1, .idMask, .scale32⟩

-- The third of three messages is the first on the bus.
def exchange : List (CanLabel Bool) :=
  [.configFilter true everything, .txMessage false (Can.frame .remote),
    .txMessage false (Can.frame .remote), .txMessage false (Can.frame .data),
    .transmit false (Fin.last 2) (fun node => if node then some .fifo1 else none)
      fun _ => ⟨0, 0, 0, 0⟩,
    .perform true (.rxMessage .fifo1 ⟨0, 0, 0, 0, 0, fun _ => 0, 0⟩)]

instance (filters : CanFilters) (word : BitVec 32) : ∀ route, Decidable (filters.Selects word route)
  | some _ => inferInstanceAs (Decidable (_ ∧ ∃ number < filterBanks, _))
  | none => inferInstanceAs (Decidable (_ ∨ ∀ number < filterBanks, _))

instance (message : CanTxMessage) : Decidable message.Valid :=
  decidable_of_iff ((message.typeID = .std → message.stdID.toNat ≤ 0x7FF) ∧
      (message.typeID = .ext → message.extID.toNat ≤ 0x1FFFFFFF) ∧
      message.dataLengthCode.toNat ≤ 8)
    ⟨fun ranges => ⟨ranges.1, ranges.2.1, ranges.2.2⟩,
      fun valid => ⟨valid.stdID, valid.extID, valid.dataLengthCode⟩⟩

instance (setup : CanSetup Bool) (network : CanNetwork Bool) :
    ∀ label, Decidable (Fine setup network label)
  | .txMessage _ message => inferInstanceAs (Decidable message.Valid)
  | .configFilter _ config => inferInstanceAs (Decidable config.Valid)
  | .transmit node box route _ => inferInstanceAs (Decidable (∀ other, if setup.hears other node then
      (network.node other).filters.Selects (word ((network.node node).can.txMailBox box))
        (route other)
      else route other = none))
  | .perform _ _ | .abort _ _ => instDecidableTrue

theorem exchange_accepted : (execute (step wired) (Fine wired) twoNodes exchange).isSome = true := by
  decide

def exchanged : CanNetwork Bool := final (step wired) (Fine wired) twoNodes exchange exchange_accepted

theorem exchange_runs : Runs.Run (step wired) (Fine wired) twoNodes exchange exchanged :=
  Run.final (step wired) (Fine wired) twoNodes exchange exchange_accepted

theorem exchange_delivered : ∃ events, List.Forall₂ Matches exchanged.log events ∧
    Delivered wired exchanged events :=
  messages_delivered twoNodes_fresh exchange_runs

def dataFrame : CanTxMailBox :=
  ⟨Can.sentMid ⟨0, 0, 0, 0⟩ (Can.frame .data), Can.sentDlen ⟨0, 0, 0, 0⟩ (Can.frame .data),
    Can.sentMdl (Can.frame .data), Can.sentMdh (Can.frame .data)⟩

theorem exchanged_log : exchanged.log = exchanged.log.take 4 ++
    .transmitted false (Fin.last 2) dataFrame (fun node => if node then some .fifo1 else none) ::
      exchanged.log.drop 5 := rfl

theorem exchange_routed :
    ∃ message, ((exchanged.log.take 4).filterMap (accepts false (Fin.last 2))).getLast? =
        some message ∧
      Carries dataFrame message ∧
      ∀ node, if wired.hears node false then
        CanPolicy.Routes (((exchanged.log.take 4).filterMap (changes node)).foldl CanPolicy.change
          fun _ => none) message.idWord (if node then some .fifo1 else none)
      else (if node then some CanFifo.fifo1 else none) = none :=
  routed_as_asked twoNodes_fresh exchange_runs exchanged_log

end CanNetwork

end ApmSdk.StdPeriph
