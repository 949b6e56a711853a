import ApmSdk.Usbd.Control
import Mathlib.Data.List.TakeDrop

set_option autoImplicit false

/-!
# The data stage of a control IN transfer

The packets that endpoint 0 queues for a request answered by `USBD_CtrlInData`, against the
packets the request asks for.
-/

namespace ApmSdk.Usbd

open Runs Chunks

variable {Obj : Type}

theorem Memory.read_take (memory : Memory Obj) (buf : Option (Ptr Obj)) (len count : Nat) :
    (memory.read buf len).take count = memory.read buf (min len count) := by
  cases buf with
  | none => simp [Memory.read, Nat.min_comm]
  | some pointer =>
    simp only [Memory.read, ← List.map_take, List.take_range, Nat.min_comm]

theorem Memory.read_drop (memory : Memory Obj) (buf : Option (Ptr Obj)) (len count : Nat) :
    (memory.read buf len).drop count = memory.read (buf.map (Ptr.add · count)) (len - count) := by
  cases buf with
  | none => simp [Memory.read]
  | some pointer =>
    apply List.ext_getElem
    · simp [Memory.read]
    · intro index _ _
      simp [Memory.read, Ptr.add, Nat.add_assoc]

-- The packets `USBD_CtrlInProcess` still queues before it arms the status stage.
def InEp.rest (ep : InEp Obj) (memory : Memory Obj) : List (List Byte) :=
  chunksOf ep.maxPackSize ep.packNum (memory.read ep.pBuf ep.bufLen) ++
    (if ep.zeroPackFill then [[]] else [])

theorem InEp.chunks_nextPacket {ep : InEp Obj} {memory : Memory Obj} {more : Nat}
    (some : ep.packNum = more + 1) :
    chunksOf ep.maxPackSize ep.packNum (memory.read ep.pBuf ep.bufLen) =
      memory.read ep.pBuf (min ep.bufLen ep.maxPackSize) ::
        chunksOf ep.maxPackSize more
          (memory.read (ep.nextPacket memory).pBuf (ep.nextPacket memory).bufLen) := by
  have left : ep.bufLen - min ep.bufLen ep.maxPackSize = ep.bufLen - ep.maxPackSize := by omega
  have moved : memory.read (ep.pBuf.map (Ptr.add · (min ep.bufLen ep.maxPackSize)))
      (ep.bufLen - min ep.bufLen ep.maxPackSize) =
      (memory.read ep.pBuf ep.bufLen).drop ep.maxPackSize := by
    rw [← Memory.read_drop]
    by_cases short : ep.bufLen ≤ ep.maxPackSize
    · rw [List.drop_eq_nil_of_le (by simpa using short), List.drop_eq_nil_of_le (by simp [short])]
    · rw [Nat.min_eq_right (by omega)]
  simp only [InEp.nextPacket, InEp.queue, some, chunksOf, Memory.read_take, moved]

theorem InEp.rest_nextPacket {ep : InEp Obj} {memory : Memory Obj} (some : ep.packNum ≠ 0) :
    ep.rest memory = memory.read ep.pBuf (min ep.bufLen ep.maxPackSize) ::
      (ep.nextPacket memory).rest memory := by
  obtain ⟨count, more⟩ := Nat.exists_eq_succ_of_ne_zero some
  rw [InEp.rest, InEp.chunks_nextPacket more]
  simp only [InEp.rest, InEp.nextPacket, InEp.queue, more, Nat.succ_eq_add_one,
    List.cons_append, Nat.add_sub_cancel]

-- A transfer whose last queued packet is still to be taken and which then queues `rest`.
structure InFlight (dev : Dev Obj) (rest : List (List Byte)) : Prop where
  state : dev.ctrlState = .dataIn
  valid : dev.in0.txStatus = .valid
  rest : dev.in0.rest dev.memory = rest

section

variable [DecidableEq Obj]

theorem InFlight.next {dev : Dev Obj} {packet : List Byte} {rest : List (List Byte)}
    (flight : InFlight dev (packet :: rest)) :
    ∃ next, controlStep dev .inDone = some next ∧ InFlight next rest ∧
      next.in0.packets = dev.in0.packets ++ [packet] ∧
      next.rxStatusRuns = dev.rxStatusRuns := by
  obtain ⟨state, valid, same⟩ := flight
  by_cases some : dev.in0.packNum = 0
  · by_cases filled : dev.in0.zeroPackFill = true
    · simp only [InEp.rest, some, chunksOf, filled, if_true, List.nil_append, List.cons.injEq]
        at same
      obtain ⟨rfl, rfl⟩ := same
      refine ⟨{ dev with
        in0 := { dev.in0.queue dev.memory none 0 with zeroPackFill := false }
        out0.rxStatus := .nak }, ?_, ⟨state, rfl, ?_⟩, rfl, rfl⟩
      · simp [controlStep, valid, ctrlInProcess, Dev.setTxRxStatus, state, some, filled,
          InEp.queue]
      · simp [InEp.rest, InEp.queue, some, chunksOf]
    · simp [InEp.rest, some, chunksOf, filled] at same
  · rw [InEp.rest_nextPacket some, List.cons.injEq] at same
    obtain ⟨rfl, rfl⟩ := same
    refine ⟨{ dev with in0 := dev.in0.nextPacket dev.memory, out0.rxStatus := .nak }, ?_,
      ⟨state, rfl, rfl⟩, rfl, rfl⟩
    simp [controlStep, valid, ctrlInProcess, Dev.setTxRxStatus, state, some, InEp.nextPacket,
      InEp.queue]

theorem InFlight.status {dev : Dev Obj} (flight : InFlight dev []) :
    ∃ next, controlStep dev .inDone = some next ∧ next.ctrlState = .waitStatusOut ∧
      next.out0.rxStatus = .valid ∧ next.in0.txStatus = .nak ∧
      next.in0.packets = dev.in0.packets ∧ next.rxStatusRuns = dev.rxStatusRuns + 1 := by
  obtain ⟨state, valid, same⟩ := flight
  simp only [InEp.rest, List.append_eq_nil_iff] at same
  have none : dev.in0.packNum = 0 := by
    simpa [chunksOf_length] using congrArg List.length same.1
  have unfilled : dev.in0.zeroPackFill = false := by
    by_contra filled
    simp [filled] at same
  refine ⟨{ dev.setTxRxStatus .nak .valid with
    rxStatusRuns := dev.rxStatusRuns + 1, ctrlState := .waitStatusOut }, ?_, rfl, rfl, rfl, rfl, rfl⟩
  simp [controlStep, valid, ctrlInProcess, Dev.setTxRxStatus, state, none, unfilled]

-- After `count` completed IN transactions of a transfer that had `rest` still to queue.
structure Progressed (dev : Dev Obj) (rest : List (List Byte)) (count : Nat) (t : Dev Obj) :
    Prop where
  bounded : count ≤ rest.length + 1
  packets : t.in0.packets = dev.in0.packets ++ rest.take count
  flight : count ≤ rest.length →
    InFlight t (rest.drop count) ∧ t.rxStatusRuns = dev.rxStatusRuns
  status : count = rest.length + 1 → t.ctrlState = .waitStatusOut ∧ t.out0.rxStatus = .valid ∧
    t.in0.txStatus = .nak ∧ t.rxStatusRuns = dev.rxStatusRuns + 1

theorem Progressed.step {dev t next : Dev Obj} {rest : List (List Byte)} {count : Nat}
    (progressed : Progressed dev rest count t) (taken : controlStep t .inDone = some next) :
    Progressed dev rest (count + 1) next := by
  obtain ⟨bounded, packets, flight, status⟩ := progressed
  by_cases done : count = rest.length + 1
  · -- nothing is queued any more, so no transaction can complete
    simp [controlStep, (status done).2.2.1] at taken
  · have within : count ≤ rest.length := by omega
    obtain ⟨flying, runs⟩ := flight within
    by_cases last : count = rest.length
    · rw [List.drop_eq_nil_of_le (by omega)] at flying
      obtain ⟨after, step, state, armed, idle, kept, ran⟩ := flying.status
      obtain rfl := Option.some.inj (step.symm.trans taken)
      refine ⟨by omega, ?_, by omega, fun _ => ⟨state, armed, idle, by rw [ran, runs]⟩⟩
      rw [kept, packets, List.take_of_length_le (by omega), List.take_of_length_le (by omega)]
    · have more : count < rest.length := by omega
      rw [List.drop_eq_getElem_cons more] at flying
      obtain ⟨after, step, flying, queued, ran⟩ := flying.next
      obtain rfl := Option.some.inj (step.symm.trans taken)
      refine ⟨by omega, ?_, fun _ => ⟨flying, by rw [ran, runs]⟩, by omega⟩
      rw [queued, packets, List.append_assoc, ← List.take_succ_eq_append_getElem more]

theorem InFlight.run {dev t : Dev Obj} {rest : List (List Byte)} (flight : InFlight dev rest)
    {count : Nat}
    (run : Run controlStep free dev (List.replicate count ControlLabel.inDone) t) :
    Progressed dev rest count t := by
  induction count generalizing t with
  | zero =>
    obtain rfl := run.unique .nil
    exact ⟨by omega, by simp, fun _ => ⟨by simpa using flight, rfl⟩, by omega⟩
  | succ count ih =>
    rw [List.replicate_succ'] at run
    obtain ⟨before, shorter, _, taken⟩ := run.unsnoc
    exact (ih shorter).step taken

theorem InFlight.reaches {dev : Dev Obj} {rest : List (List Byte)} (flight : InFlight dev rest)
    {count : Nat} (within : count ≤ rest.length + 1) :
    ∃ t, Run controlStep free dev (List.replicate count ControlLabel.inDone) t := by
  induction count generalizing dev rest with
  | zero => exact ⟨dev, .nil⟩
  | succ count ih =>
    cases rest with
    | nil =>
      obtain ⟨next, taken, _⟩ := flight.status
      obtain rfl : count = 0 := by simpa using within
      exact ⟨next, .cons trivial taken .nil⟩
    | cons packet rest =>
      obtain ⟨next, taken, flying, _⟩ := flight.next
      obtain ⟨t, run⟩ := ih flying (by simpa using within)
      exact ⟨t, .cons trivial taken run⟩

end

-- The packets the code queues for `USBD_CtrlInData(buf, len)`.
def InEp.answer (ep : InEp Obj) (memory : Memory Obj) (wLength : Nat) (buf : Option (Ptr Obj))
    (len : Nat) : List (List Byte) :=
  if ep.maxPackSize ≤ len then
    chunksOf ep.maxPackSize (packetCount (len - ep.maxPackSize) ep.maxPackSize + 1)
        (memory.read buf len) ++
      (if decide (len < wLength ∧ len % ep.maxPackSize = 0) || ep.zeroPackFill then [[]] else [])
  else memory.read buf len :: ep.rest memory

/-- The packets the request asks for. -/
def requested (maxPackSize wLength : Nat) (content : List Byte) : List (List Byte) :=
  chunks maxPackSize (content.take wLength) ++
    (if decide (content.length < wLength ∧ content.length % maxPackSize = 0) then [[]] else [])

def DevReqData.ofPacket (packet : Nat → Byte) : DevReqData :=
  ⟨packet 0, packet 1, packet 2, packet 3, packet 4, packet 5, packet 6, packet 7⟩

theorem ctrlInData_inFlight {dev : Dev Obj} (dirIn : dev.reqData.dirIn = true)
    (positive : 0 < dev.in0.maxPackSize) (buf : Option (Ptr Obj)) (len : Nat) :
    ∃ first more, dev.in0.answer dev.memory dev.reqData.wLength buf len = first :: more ∧
      InFlight (ctrlInData dev buf len) more ∧
      (ctrlInData dev buf len).in0.packets = dev.in0.packets ++ [first] ∧
      (ctrlInData dev buf len).rxStatusRuns = dev.rxStatusRuns := by
  by_cases long : dev.in0.maxPackSize ≤ len
  · have some : len ≠ 0 := by omega
    simp only [InEp.answer, long, if_true, chunksOf, List.cons_append]
    refine ⟨_, _, rfl, ⟨?_, ?_, ?_⟩, ?_, ?_⟩
    · simp [ctrlInData, some, long]
    · simp [ctrlInData, some, long, InEp.queue]
    · simp [ctrlInData, some, long, InEp.queue, InEp.rest, Memory.read_drop]
    · simp [ctrlInData, some, long, InEp.queue, Memory.read_take]
    · simp [ctrlInData, some, long]
  · by_cases none : len = 0
    · subst none
      have empty : dev.memory.read buf 0 = dev.memory.read Option.none 0 := by
        cases buf <;> simp [Memory.read]
      simp only [InEp.answer, long, if_false, empty]
      refine ⟨_, _, rfl, ⟨?_, ?_, ?_⟩, ?_, ?_⟩ <;>
        simp [ctrlInData, dirIn, InEp.queue, InEp.rest]
    · have whole : len % dev.in0.maxPackSize ≠ 0 := by
        rw [Nat.mod_eq_of_lt (by omega)]
        exact none
      simp only [InEp.answer, long, if_false]
      refine ⟨_, _, rfl, ⟨?_, ?_, ?_⟩, ?_, ?_⟩ <;>
        simp [ctrlInData, none, long, dirIn, whole, InEp.queue, InEp.rest]

theorem DevReqData.type_lt (request : DevReqData) : request.type < 4 := by
  unfold DevReqData.type
  omega

/-- A request for IN data with a handler, as the host sends it. -/
structure InRequest (s : Dev Obj) (packet : List Byte) (request : DevReqData) : Prop where
  length : packet.length = 8
  fits : packet.length ≤ rxCapacity s.out0.rxCount
  fields : ∀ stack, DevReqData.ofPacket (received packet stack) = request
  dirIn : request.dirIn = true
  handled : request.type ≠ 3

section

variable [DecidableEq Obj]

theorem setup_answers {s : Dev Obj} {packet : List Byte} {request : DevReqData}
    (asked : InRequest s packet request) (positive : 0 < s.in0.maxPackSize)
    (stack : Nat → Byte) (buf : Option (Ptr Obj)) (len : Nat) :
    ∃ first more next,
      s.in0.answer s.memory request.wLength buf len = first :: more ∧
      controlStep s (.setup packet stack [.inData buf len]) = some next ∧ InFlight next more ∧
      next.in0.packets = s.in0.packets ++ [first] ∧ next.rxStatusRuns = s.rxStatusRuns := by
  let started : Dev Obj :=
    { s with
      rxBuffer := received packet s.rxBuffer
      in0.txStatus := .nak
      out0.rxStatus := .nak
      reqData := request
      reads := s.reads ++ [⟨packet.length, 8, none⟩] }
  obtain ⟨first, more, answer, flight, packets, runs⟩ :=
    ctrlInData_inFlight (show started.reqData.dirIn = true from asked.dirIn) positive buf len
  refine ⟨first, more, ctrlInData started buf len, answer, ?_, flight, packets, runs⟩
  have whole : packet.length ≠ 0 := by simp [asked.length]
  have type := asked.handled
  have small := request.type_lt
  have fields := asked.fields stack
  simp only [DevReqData.ofPacket] at fields
  simp only [controlStep, asked.fits, if_true, setupProcess, whole, if_false, fields,
    Dev.setTxRxStatus]
  -- every kind of request but the reserved one is answered
  obtain standard | class_ | vendor :
      request.type = 0 ∨ request.type = 1 ∨ request.type = 2 := by omega
  · simp [standard, Requests.answering, Call.run, started]
  · simp [class_, Requests.answering, Call.run, started]
  · simp [vendor, Requests.answering, Call.run, started]

/-- After the request and `count` completed IN transactions endpoint 0 has queued exactly the
packets the request asks for, as far as they go, and armed the status stage once after them. -/
def Serves (s : Dev Obj) (packet : List Byte) (request : DevReqData) (buf : Option (Ptr Obj))
    (len : Nat) : Prop :=
  ∀ stack count t,
    Run controlStep free s
      (.setup packet stack [.inData buf len] :: List.replicate count .inDone) t →
    let packets := requested s.in0.maxPackSize request.wLength (s.memory.read buf len)
    t.in0.packets = s.in0.packets ++ packets.take (count + 1) ∧
      t.rxStatusRuns = s.rxStatusRuns + (if packets.length ≤ count then 1 else 0) ∧
      (packets.length ≤ count → t.ctrlState = .waitStatusOut ∧ t.out0.rxStatus = .valid)

theorem serves_iff_answer {s : Dev Obj} {packet : List Byte} {request : DevReqData}
    (asked : InRequest s packet request) (positive : 0 < s.in0.maxPackSize)
    (buf : Option (Ptr Obj)) (len : Nat) :
    Serves s packet request buf len ↔
      s.in0.answer s.memory request.wLength buf len =
        requested s.in0.maxPackSize request.wLength (s.memory.read buf len) := by
  constructor
  · intro serves
    obtain ⟨first, more, next, answer, taken, flight, packets, _⟩ :=
      setup_answers asked positive (fun _ => 0) buf len
    obtain ⟨t, run⟩ := flight.reaches (Nat.le_refl (more.length + 1))
    have queued := (serves _ _ t (.cons trivial taken run)).1
    rw [(flight.run run).packets, packets, List.append_assoc, List.append_cancel_left_eq,
      List.take_of_length_le (Nat.le_succ _)] at queued
    simp only [List.singleton_append, ← answer] at queued
    -- a longer list would have made the status stage wait for one more packet
    have lengths := congrArg List.length queued
    have size : (s.in0.answer s.memory request.wLength buf len).length = more.length + 1 := by
      simp [answer]
    rw [List.length_take, size] at lengths
    rw [queued, List.take_of_length_le (by omega)]
  · intro same stack count t run
    obtain ⟨first, more, next, answer, taken, flight, packets, runs⟩ :=
      setup_answers asked positive stack buf len
    obtain ⟨after, _, taken', rest⟩ := run.uncons
    obtain rfl := Option.some.inj (taken.symm.trans taken')
    obtain ⟨bounded, queued, flying, status⟩ := flight.run rest
    simp only [← same, answer, List.length_cons, List.take_succ_cons]
    refine ⟨by rw [queued, packets]; simp, ?_, fun done => ?_⟩
    · split
      · next done => rw [(status (by omega)).2.2.2, runs]
      · next going => rw [(flying (by omega)).2, runs, Nat.add_zero]
    · obtain ⟨state, armed, _⟩ := status (by omega)
      exact ⟨state, armed⟩

end

/-- What the state before the SETUP packet and the answer have to satisfy. -/
def Clean (s : Dev Obj) (wLength len : Nat) : Prop :=
  if s.in0.maxPackSize ≤ len then
    ((len ≤ wLength ∧ len ≤ 256 * s.in0.maxPackSize) ∨ (wLength < len ∧
      wLength = s.in0.maxPackSize * ((len - 1) / s.in0.maxPackSize % 256 + 1))) ∧
    (s.in0.zeroPackFill = true → len < wLength ∧ len % s.in0.maxPackSize = 0)
  else 0 < wLength ∧ len ≤ wLength ∧ s.in0.packNum = 0 ∧ s.in0.zeroPackFill = false

instance (s : Dev Obj) (wLength len : Nat) : Decidable (Clean s wLength len) := by
  unfold Clean; infer_instance

theorem packetCount_rest {maxPackSize len : Nat} (long : maxPackSize ≤ len)
    (positive : 0 < maxPackSize) (small : len < 4294967296) :
    packetCount (len - maxPackSize) maxPackSize = (len - 1) / maxPackSize % 256 := by
  have whole : len - maxPackSize + (maxPackSize - 1) = len - 1 := by omega
  have unwrapped : (len - 1) % 4294967296 = len - 1 := Nat.mod_eq_of_lt (by omega)
  rw [packetCount, whole, unwrapped]

theorem answer_long_iff {s : Dev Obj} (positive : 0 < s.in0.maxPackSize) {wLength len : Nat}
    (small : len < 4294967296) (long : s.in0.maxPackSize ≤ len) (buf : Option (Ptr Obj)) :
    s.in0.answer s.memory wLength buf len =
      requested s.in0.maxPackSize wLength (s.memory.read buf len) ↔ Clean s wLength len := by
  generalize size : s.in0.maxPackSize = maxPackSize at positive long
  have few : (len - 1) / maxPackSize % 256 + 1 ≤
      pieces maxPackSize (s.memory.read buf len).length := by
    rw [Memory.read_length, pieces_of_pos positive (by omega)]
    exact Nat.succ_le_succ (Nat.mod_le _ _)
  simp only [InEp.answer, requested, Clean, size, long, if_true,
    packetCount_rest long positive small, chunksOf_eq_chunks positive few,
    chunks_append_injective positive, List.take_eq_take_iff, Memory.read_length]
  refine and_congr ?_ ?_
  · -- the packet count wraps in its byte exactly when `len` needs more than 256 packets
    have reach := Nat.div_mul_le_self (len - 1) maxPackSize
    have beyond := Nat.lt_div_mul_add positive (a := len - 1)
    generalize (len - 1) / maxPackSize = more at reach beyond
    rw [Nat.mul_comm maxPackSize (more % 256 + 1), Nat.succ_mul]
    by_cases wraps : more < 256
    · have atMost := Nat.mul_le_mul_right maxPackSize (Nat.succ_le_of_lt wraps)
      rw [Nat.succ_mul] at atMost
      rw [Nat.mod_eq_of_lt wraps]
      omega
    · have lower := Nat.mul_le_mul_right maxPackSize (Nat.le_of_not_lt wraps)
      have fewer : more % 256 + 1 ≤ more := by omega
      have sent := Nat.mul_le_mul_right maxPackSize fewer
      rw [Nat.succ_mul] at sent
      omega
  · cases s.in0.zeroPackFill <;> simp

theorem requested_short {maxPackSize wLength : Nat} {content : List Byte}
    (short : content.length < maxPackSize) :
    requested maxPackSize wLength content =
      if wLength = 0 then [] else [content.take wLength] := by
  have positive : 0 < maxPackSize := by omega
  have whole : content.length % maxPackSize = content.length := Nat.mod_eq_of_lt short
  simp only [requested, whole]
  by_cases empty : content = []
  · subst empty
    by_cases none : wLength = 0 <;> simp [none, chunks_nil positive, Nat.pos_iff_ne_zero]
  · have some : content.length ≠ 0 := by simpa using empty
    by_cases none : wLength = 0
    · simp [none, chunks_nil positive, some]
    · have taken : content.take wLength ≠ [] := by simp [none, empty]
      have fits : (content.take wLength).length ≤ maxPackSize := by
        rw [List.length_take]
        omega
      simp [chunks_of_length_le taken fits, some, none]

theorem answer_short_iff {s : Dev Obj} {wLength len : Nat}
    (short : ¬ s.in0.maxPackSize ≤ len) (buf : Option (Ptr Obj)) :
    s.in0.answer s.memory wLength buf len =
      requested s.in0.maxPackSize wLength (s.memory.read buf len) ↔ Clean s wLength len := by
  rw [requested_short (by rw [Memory.read_length]; omega)]
  simp only [InEp.answer, Clean, short, if_false]
  by_cases none : wLength = 0
  · simp [none]
  · have size := chunksOf_length s.in0.maxPackSize s.in0.packNum
      (s.memory.read s.in0.pBuf s.in0.bufLen)
    have first : s.memory.read buf len = (s.memory.read buf len).take wLength ↔
        len ≤ wLength := by
      rw [eq_comm, List.take_eq_self_iff, Memory.read_length]
    have nothing : s.in0.rest s.memory = [] ↔
        s.in0.packNum = 0 ∧ s.in0.zeroPackFill = false := by
      rw [InEp.rest, List.append_eq_nil_iff, ← List.length_eq_zero_iff, size]
      cases s.in0.zeroPackFill <;> simp
    simp only [none, if_false, List.cons.injEq, first, nothing, Nat.pos_iff_ne_zero, ne_eq,
      not_false_eq_true, true_and]

section

variable [DecidableEq Obj]

/-- A request for IN data is served exactly when the answer fits `wLength` and the counter of
packets, and the request before it has left nothing behind. -/
theorem serves_iff_clean {ep0PacketSize : Nat} {memory : Memory Obj}
    {labels : List (ControlLabel Obj)} {s : Dev Obj} {packet : List Byte} {request : DevReqData}
    (run : Run controlStep free (Dev.reset ep0PacketSize memory) labels s)
    (positive : 0 < ep0PacketSize) (asked : InRequest s packet request)
    (buf : Option (Ptr Obj)) {len : Nat} (small : len < 4294967296) :
    Serves s packet request buf len ↔ Clean s request.wLength len := by
  rw [← reached_maxPackSize run] at positive
  rw [serves_iff_answer asked positive]
  by_cases long : s.in0.maxPackSize ≤ len
  · exact answer_long_iff positive small long buf
  · exact answer_short_iff long buf

end

-- `GET_DESCRIPTOR` with a given `wLength` below 256.
def getDescriptor (wLength : Byte) : List Byte := [0x80, 6, 0, 1, 0, 0, wLength, 0]

theorem getDescriptor_asked (wLength : Byte) {s : Dev Obj} (fits : 8 ≤ rxCapacity s.out0.rxCount) :
    InRequest s (getDescriptor wLength) ⟨0x80, 6, 0, 1, 0, 0, wLength, 0⟩ :=
  ⟨rfl, fits, fun _ => rfl, rfl, by simp [DevReqData.type]⟩

def deviceDescriptor : Option (Ptr Unit) := some ⟨(), 0⟩

def plugged : Dev Unit := Dev.reset 8 fun _ _ => 0

theorem serves_first_descriptor :
    Serves plugged (getDescriptor 18) ⟨0x80, 6, 0, 1, 0, 0, 18, 0⟩ deviceDescriptor 18 :=
  (serves_iff_clean .nil (by decide) (getDescriptor_asked 18 (by decide)) _ (by decide)).mpr
    (by decide)

/-- The host asks for a descriptor of three packets and gives up after the first. -/
def abandoned : List (ControlLabel Unit) :=
  [.setup (getDescriptor 18) (fun _ => 0) [.inData deviceDescriptor 18]]

theorem abandoned_accepted :
    (execute controlStep free plugged abandoned).isSome = true := by decide

/-- It then asks for one byte, and takes it. -/
def oneByte : List (ControlLabel Unit) :=
  .setup (getDescriptor 1) (fun _ => 0) [.inData deviceDescriptor 1] ::
    List.replicate 1 .inDone

theorem oneByte_accepted :
    (execute controlStep free (final controlStep free plugged abandoned abandoned_accepted)
      oneByte).isSome = true := by decide

theorem abandoned_packets_queued :
    ¬ ∀ (labels : List (ControlLabel Unit)) (s : Dev Unit) (packet : List Byte)
        (request : DevReqData) (buf : Option (Ptr Unit)) (len : Nat),
      Run controlStep free plugged labels s → InRequest s packet request → len < 4294967296 →
      Serves s packet request buf len := by
  intro serves
  have run := Run.final controlStep free plugged abandoned abandoned_accepted
  have served := serves _ _ (getDescriptor 1) _ deviceDescriptor 1 run
    (getDescriptor_asked 1 (by decide)) (by decide)
  have queued := (served _ 1 _ (Run.final controlStep free _ oneByte oneByte_accepted)).1
  exact absurd queued (by decide)

end ApmSdk.Usbd
