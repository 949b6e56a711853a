import ApmSdk.Lib.RingBuffer
import ApmSdk.Msc.Liveness

set_option autoImplicit false

/-!
# The ring of sense codes

`SCSI_PutSenseCode` and `SCSI_RequestSense` in any order, against a queue of the codes that have
not been reported.
-/

namespace ApmSdk.Msc

open Usbd RingBuffer

-- Neither function looks at its unit number. `elsewhere` is any other code: it leaves the ring
-- alone.
inductive SenseLabel where
  | putSenseCode (sKey asc ascq : Byte)
  | requestSense
  | elsewhere (b : Bot)

inductive SenseEvent where
  | recorded (sense : Sense)
  | reported (sense : Sense)

def Bot.sense (b : Bot) (label : SenseLabel) : Bot :=
  match label with
  | .putSenseCode sKey asc ascq => Msc.putSenseCode b sKey asc ascq
  | .requestSense =>
      match Msc.requestSense b with
      | .ok after | .fail after => after
  | .elsewhere other =>
      { other with
        senseCode := b.senseCode, senseTxCnt := b.senseTxCnt, sensePutCnt := b.sensePutCnt }

-- A report is what REQUEST SENSE has put into the data buffer.
def Bot.senseEvent (b : Bot) : SenseLabel → List SenseEvent
  | .putSenseCode sKey asc ascq => [.recorded ⟨sKey, asc, ascq⟩]
  | .requestSense =>
      let data := (b.sense .requestSense).data
      [.reported ⟨data 2, data 12, data 13⟩]
  | .elsewhere _ => []

def senseEvents : Bot → List SenseLabel → List SenseEvent
  | _, [] => []
  | b, label :: rest => b.senseEvent label ++ senseEvents (b.sense label) rest

/-! ## The queue that the ring stands for -/

def senseListNumber : Nat := 4

def noSense : Sense := ⟨0, 0, 0⟩

-- What may be reported when `outstanding` codes wait: the oldest, unless there are more than the
-- ring has slots, and then some of the oldest may be missing.
inductive Fifo : List Sense → List SenseEvent → Prop
  | nil (outstanding : List Sense) : Fifo outstanding []
  | recorded {outstanding : List Sense} {rest : List SenseEvent} (sense : Sense) :
      Fifo (outstanding ++ [sense]) rest → Fifo outstanding (.recorded sense :: rest)
  | reported {outstanding dropped kept : List Sense} {rest : List SenseEvent} (sense : Sense) :
      outstanding = dropped ++ sense :: kept →
      (dropped = [] ∨ senseListNumber < outstanding.length) →
      Fifo kept rest → Fifo outstanding (.reported sense :: rest)
  | noSense {rest : List SenseEvent} : Fifo [] rest → Fifo [] (.reported noSense :: rest)

-- The codes outstanding after each call stay below three where another is recorded.
def Room : Nat → List SenseLabel → Prop
  | _, [] => True
  | count, .putSenseCode _ _ _ :: rest => count + 1 < senseListNumber ∧ Room (count + 1) rest
  | count, .requestSense :: rest => Room (count - 1) rest
  | count, .elsewhere _ :: rest => Room count rest

def SenseLabel.Failure : SenseLabel → Prop
  | .putSenseCode sKey _ _ => sKey ≠ 0
  | _ => True

section

variable {b : Bot} {queue : List Sense}

def Bot.Queues (b : Bot) (queue : List Sense) : Prop :=
  Holds senseListNumber b.senseCode b.senseTxCnt b.sensePutCnt queue

theorem Bot.Queues.put (queues : b.Queues queue) (spare : queue.length + 1 < senseListNumber)
    (sKey asc ascq : Byte) :
    (b.sense (.putSenseCode sKey asc ascq)).Queues (queue ++ [⟨sKey, asc, ascq⟩]) :=
  queues.push ⟨sKey, asc, ascq⟩ spare

theorem Bot.Queues.request {sense : Sense} (queues : b.Queues (sense :: queue)) :
    b.senseEvent .requestSense = [.reported sense] ∧ (b.sense .requestSense).Queues queue := by
  obtain ⟨first, rest⟩ := queues.pop
  have some : b.senseTxCnt ≠ b.sensePutCnt := fun same => by cases queues.same_iff.mp same
  constructor
  · simp [Bot.senseEvent, Bot.sense, Msc.requestSense, reply, overwrite, some, first]
  · simpa [Bot.Queues, Bot.sense, Msc.requestSense, reply, some, next, senseListNumber] using rest

theorem senseEvent_same (same : b.senseTxCnt = b.sensePutCnt) :
    b.senseEvent .requestSense = [.reported noSense] := by
  simp [Bot.senseEvent, Bot.sense, Msc.requestSense, reply, overwrite, same, noSense]

theorem Bot.Queues.request_empty (queues : b.Queues []) :
    b.senseEvent .requestSense = [.reported noSense] ∧ (b.sense .requestSense).Queues [] := by
  have same : b.senseTxCnt = b.sensePutCnt := queues.same_iff.mpr rfl
  refine ⟨senseEvent_same same, ?_⟩
  simpa [Bot.Queues, Bot.sense, Msc.requestSense, reply, same] using queues

-- With a fourth code the indices meet, and the ring looks empty.
theorem Bot.Queues.overrun (queues : b.Queues queue) (full : queue.length + 1 = senseListNumber)
    (sKey asc ascq : Byte) :
    (b.sense (.putSenseCode sKey asc ascq)).senseEvent .requestSense = [.reported noSense] :=
  senseEvent_same (Holds.overrun queues full).symm

theorem fifo_reported {sense : Sense} {rest : List SenseEvent}
    (few : (sense :: queue).length ≤ senseListNumber) :
    Fifo (sense :: queue) (.reported sense :: rest) ↔ Fifo queue rest := by
  constructor
  · intro fifo
    cases fifo with
    | reported _ split oldest tail =>
      obtain rfl | many := oldest
      · obtain ⟨-, rfl⟩ := List.cons.inj split
        exact tail
      · omega
  · intro tail
    exact .reported sense rfl (.inl rfl) tail

theorem fifo_noSense {rest : List SenseEvent} :
    Fifo [] (.reported noSense :: rest) ↔ Fifo [] rest := by
  constructor
  · intro fifo
    cases fifo with
    | reported _ split => simp at split
    | noSense tail => exact tail
  · exact .noSense

theorem fifo_recorded {sense : Sense} {rest : List SenseEvent} :
    Fifo queue (.recorded sense :: rest) ↔ Fifo (queue ++ [sense]) rest := by
  constructor
  · intro fifo
    cases fifo with
    | recorded _ tail => exact tail
  · exact .recorded sense

/-! ## Runs -/

def senseRun : Bot → List SenseLabel → Bot
  | b, [] => b
  | b, label :: rest => senseRun (b.sense label) rest

theorem senseEvents_append (earlier later : List SenseLabel) : senseEvents b (earlier ++ later) =
    senseEvents b earlier ++ senseEvents (senseRun b earlier) later := by
  induction earlier generalizing b with
  | nil => rfl
  | cons label rest ih => simp [senseEvents, senseRun, ih]

-- The invariant of a run with room: the ring holds a queue, and what may be reported next is what
-- that queue allows.
theorem run_queues (queues : b.Queues queue) {labels : List SenseLabel}
    (room : Room queue.length labels) :
    ∃ last, (senseRun b labels).Queues last ∧
      ∀ events, Fifo queue (senseEvents b labels ++ events) ↔ Fifo last events := by
  induction labels generalizing b queue with
  | nil => exact ⟨queue, queues, fun _ => Iff.rfl⟩
  | cons label rest ih =>
    cases label with
    | putSenseCode sKey asc ascq =>
      obtain ⟨spare, room⟩ := room
      have grown : (queue ++ [(⟨sKey, asc, ascq⟩ : Sense)]).length = queue.length + 1 := by simp
      obtain ⟨last, held, events⟩ := ih (queues.put spare sKey asc ascq) (by rwa [grown])
      exact ⟨last, held, fun tail => fifo_recorded.trans (events tail)⟩
    | requestSense =>
      cases queue with
      | nil =>
        obtain ⟨shown, kept⟩ := queues.request_empty
        obtain ⟨last, held, events⟩ := ih kept room
        refine ⟨last, held, fun tail => ?_⟩
        rw [senseEvents, shown]
        exact fifo_noSense.trans (events tail)
      | cons sense queue =>
        obtain ⟨shown, kept⟩ := queues.request
        obtain ⟨last, held, events⟩ := ih kept room
        refine ⟨last, held, fun tail => ?_⟩
        rw [senseEvents, shown]
        exact (fifo_reported (Nat.le_of_lt queues.room)).trans (events tail)
    | elsewhere other => exact ih queues room

theorem fifo_overrun {sense : Sense} (failed : ∀ waiting ∈ queue, waiting.sensekey ≠ 0)
    (failure : sense.sensekey ≠ 0) :
    ¬ Fifo queue [.recorded sense, .reported noSense] := by
  intro fifo
  have last := fifo_recorded.mp fifo
  generalize whole : queue ++ [sense] = outstanding at last
  cases last with
  | reported _ split =>
    have member : noSense ∈ queue ++ [sense] := by simp [whole, split]
    obtain waiting | rfl : noSense ∈ queue ∨ noSense = sense := by simpa using member
    · exact failed _ waiting rfl
    · exact failure rfl
  | noSense => simp at whole

end

/-- After every call of the sequence a REQUEST SENSE would report what it should. -/
def Reports (b : Bot) (labels : List SenseLabel) : Prop :=
  ∀ earlier later, earlier ++ later = labels →
    Fifo [] (senseEvents b (earlier ++ [.requestSense]))

theorem room_append {count : Nat} {earlier later : List SenseLabel}
    (room : Room count (earlier ++ later)) :
    Room count earlier := by
  induction earlier generalizing count with
  | nil => trivial
  | cons label rest ih =>
    cases label with
    | putSenseCode => exact ⟨room.1, ih room.2⟩
    | requestSense | elsewhere => exact ih room

theorem reports_of_room {b : Bot} (empty : b.Queues []) {labels : List SenseLabel}
    (room : Room 0 labels) : Reports b labels := by
  rintro earlier later rfl
  obtain ⟨last, held, events⟩ := run_queues empty (room_append room)
  rw [senseEvents_append, events]
  cases last with
  | nil =>
    rw [senseEvents, held.request_empty.1]
    exact .noSense (.nil _)
  | cons sense queue =>
    rw [senseEvents, held.request.1]
    exact .reported sense rfl (.inl rfl) (.nil _)

/-- The first code without room is followed by a report of NO SENSE, with failures outstanding. -/
theorem room_of_reports {b : Bot} {queue : List Sense} (queues : b.Queues queue)
    {labels : List SenseLabel} (failed : ∀ waiting ∈ queue, waiting.sensekey ≠ 0)
    (failures : ∀ label ∈ labels, label.Failure)
    (reports : ∀ earlier later, earlier ++ later = labels →
      Fifo queue (senseEvents b (earlier ++ [.requestSense]))) : Room queue.length labels := by
  induction labels generalizing b queue with
  | nil => trivial
  | cons label rest ih =>
    have later : ∀ label ∈ rest, label.Failure := fun label member =>
      failures label (List.mem_cons_of_mem _ member)
    cases label with
    | putSenseCode sKey asc ascq =>
      have failure : sKey ≠ 0 := failures _ (List.mem_cons_self ..)
      have grown : (queue ++ [(⟨sKey, asc, ascq⟩ : Sense)]).length = queue.length + 1 := by simp
      have spare : queue.length + 1 < senseListNumber := by
        by_contra full
        have exactly : queue.length + 1 = senseListNumber := by
          have := queues.room
          omega
        have report := reports [.putSenseCode sKey asc ascq] rest rfl
        simp only [List.singleton_append, senseEvents, queues.overrun exactly] at report
        exact fifo_overrun failed failure report
      refine ⟨spare, ?_⟩
      rw [← grown]
      refine ih (queues.put spare sKey asc ascq) ?_ later fun earlier tail split => ?_
      · intro waiting member
        obtain older | rfl : waiting ∈ queue ∨ waiting = ⟨sKey, asc, ascq⟩ := by simpa using member
        · exact failed _ older
        · exact failure
      · have report := reports (.putSenseCode sKey asc ascq :: earlier) tail (by rw [← split]; rfl)
        rw [List.cons_append, senseEvents] at report
        exact fifo_recorded.mp report
    | requestSense =>
      cases queue with
      | nil =>
        obtain ⟨shown, kept⟩ := queues.request_empty
        refine ih kept failed later fun earlier tail split => ?_
        have report := reports (.requestSense :: earlier) tail (by rw [← split]; rfl)
        rw [List.cons_append, senseEvents, shown] at report
        exact fifo_noSense.mp report
      | cons sense queue =>
        obtain ⟨shown, kept⟩ := queues.request
        refine ih kept (fun waiting member => failed _ (List.mem_cons_of_mem _ member)) later
          fun earlier tail split => ?_
        have report := reports (.requestSense :: earlier) tail (by rw [← split]; rfl)
        rw [List.cons_append, senseEvents, shown] at report
        exact (fifo_reported (Nat.le_of_lt queues.room)).mp report
    | elsewhere other =>
      have kept : (b.sense (.elsewhere other)).Queues queue := queues
      refine ih kept failed later fun earlier tail split => ?_
      have report := reports (.elsewhere other :: earlier) tail (by rw [← split]; rfl)
      rw [List.cons_append, senseEvents] at report
      exact report

/-- Reports follow the records as long as no code is recorded while three are outstanding; where
the codes are those of failures, only as long. -/
theorem reports_iff_room (b : Bot) (empty : b.senseTxCnt = 0 ∧ b.sensePutCnt = 0)
    (labels : List SenseLabel) :
    (Room 0 labels → Reports b labels) ∧
      ((∀ label ∈ labels, label.Failure) → (Reports b labels ↔ Room 0 labels)) := by
  have queues : b.Queues [] := by
    rw [Bot.Queues, empty.1, empty.2]
    exact .empty (by decide)
  refine ⟨reports_of_room queues, fun failures => ⟨fun reports => ?_, reports_of_room queues⟩⟩
  exact room_of_reports queues (fun _ member => nomatch member) failures reports

-- Two failed commands, and the host asks for both.
def twoFailures : List SenseLabel :=
  [.putSenseCode illegalRequest ascInvalidCdb 0, .putSenseCode notReady ascMediumNotPresent 0,
    .requestSense, .requestSense]

theorem twoFailures_reported : Reports plugged twoFailures := by
  refine ((reports_iff_room plugged ⟨rfl, rfl⟩ twoFailures).2 ?_).mpr ?_
  · simp [twoFailures, SenseLabel.Failure, illegalRequest, notReady]
  · simp [twoFailures, Room, senseListNumber]

def fourFailures : List SenseLabel :=
  List.replicate 4 (.putSenseCode notReady ascMediumNotPresent 0)

theorem fourth_failure_lost :
    ¬ ∀ (b : Bot), b.senseTxCnt = 0 ∧ b.sensePutCnt = 0 → ∀ labels, Reports b labels := by
  intro reports
  have failures : ∀ label ∈ fourFailures, label.Failure := by
    intro label member
    rw [List.eq_of_mem_replicate member]
    exact (by decide : notReady ≠ 0)
  have room := room_of_reports (Holds.empty (by decide) : plugged.Queues [])
    (fun _ member => nomatch member) failures (reports plugged ⟨rfl, rfl⟩ fourFailures)
  exact absurd room.2.2.2.1 (by decide)

end ApmSdk.Msc
