import ApmSdk.Usbd.ControlIn

set_option autoImplicit false

/-!
# Transfers on the endpoints 1 to 7

`USBD_TxData` and `USBD_RxData` with the packets that complete them, until the handler of the
endpoint runs.
-/

namespace ApmSdk.Usbd

open Runs Chunks

/-- Both halves of an endpoint; the last two fields count the runs of its handlers. -/
structure Pipe (Obj : Type) where
  inEp : InEp Obj
  outEp : OutEp Obj
  memory : Memory Obj
  inRuns : Nat
  outRuns : Nat

inductive PipeLabel where
  | inDone
  | out (packet : List Byte)
  deriving DecidableEq

section

variable {Obj : Type}

def Pipe.txData (pipe : Pipe Obj) (buf : Option (Ptr Obj)) (len : Nat) : Pipe Obj :=
  { pipe with inEp := pipe.inEp.txData pipe.memory buf len }

def Pipe.rxData (pipe : Pipe Obj) (buf : Option (Ptr Obj)) (len : Nat) : Pipe Obj :=
  { pipe with outEp := pipe.outEp.rxData buf len }

def Pipe.dataInProcess (pipe : Pipe Obj) : Pipe Obj :=
  if pipe.inEp.packNum ≠ 0 then { pipe with inEp := pipe.inEp.nextPacket pipe.memory }
  else { pipe with inRuns := pipe.inRuns + 1 }

def Pipe.dataOutProcess [DecidableEq Obj] (pipe : Pipe Obj) (packet : List Byte) : Pipe Obj :=
  { pipe with
    outEp := pipe.outEp.receive packet.length
    memory := match pipe.outEp.target packet.length with
      | some pointer => pipe.memory.write pointer packet
      | none => pipe.memory
    outRuns := if (pipe.outEp.receive packet.length).packNum = 0 then pipe.outRuns + 1
      else pipe.outRuns }

-- The peripheral leaves the half that has finished a packet at NAK.
def pipeStep [DecidableEq Obj] (pipe : Pipe Obj) : PipeLabel → Option (Pipe Obj)
  | .inDone =>
      if pipe.inEp.txStatus = .valid then
        some (Pipe.dataInProcess { pipe with inEp.txStatus := .nak })
      else none
  | .out packet =>
      if pipe.outEp.rxStatus = .valid ∧ packet.length ≤ rxCapacity pipe.outEp.rxCount then
        some (Pipe.dataOutProcess { pipe with outEp := pipe.outEp.acknowledged } packet)
      else none

end

/-- The packets of a transfer; nothing is sent as one empty packet. -/
def transferPackets (maxPackSize : Nat) (bytes : List Byte) : List (List Byte) :=
  if bytes = [] then [[]] else chunks maxPackSize bytes

theorem transferPackets_length {maxPackSize : Nat} (positive : 0 < maxPackSize)
    (bytes : List Byte) :
    (transferPackets maxPackSize bytes).length = max 1 (pieces maxPackSize bytes.length) := by
  unfold transferPackets
  split
  · next empty => simp [empty, pieces_zero positive]
  · next some =>
    have one : 0 < pieces maxPackSize bytes.length := pieces_of_mul_lt positive
      (by simpa using List.length_pos_iff.mpr some)
    simp only [chunks, chunksOf_length]
    omega

section

variable {Obj : Type} [DecidableEq Obj]

/-! ## Sending -/

/-- After `count` completed packets the transfer has queued the packets of the buffer as far
as they go, and `inEpHandler` has run once they are all done; each of them can complete. -/
def Transmits (pipe : Pipe Obj) (buf : Option (Ptr Obj)) (len : Nat) : Prop :=
  let packets := transferPackets pipe.inEp.maxPackSize (pipe.memory.read buf len)
  (∀ count t, Run pipeStep free (pipe.txData buf len) (List.replicate count .inDone) t →
    t.inEp.packets = pipe.inEp.packets ++ packets.take (count + 1) ∧
      t.inRuns = pipe.inRuns + (if packets.length ≤ count then 1 else 0)) ∧
  ∃ t, Run pipeStep free (pipe.txData buf len) (List.replicate packets.length .inDone) t

-- A packet is queued and `rest` is still to come.
structure Sending (pipe : Pipe Obj) (rest : List (List Byte)) : Prop where
  valid : pipe.inEp.txStatus = .valid
  rest : chunksOf pipe.inEp.maxPackSize pipe.inEp.packNum
    (pipe.memory.read pipe.inEp.pBuf pipe.inEp.bufLen) = rest

theorem Sending.next {pipe : Pipe Obj} {packet : List Byte} {rest : List (List Byte)}
    (sending : Sending pipe (packet :: rest)) :
    ∃ next, pipeStep pipe .inDone = some next ∧ Sending next rest ∧
      next.inEp.packets = pipe.inEp.packets ++ [packet] ∧ next.inRuns = pipe.inRuns := by
  have same := sending.rest
  cases more : pipe.inEp.packNum with
  | zero => simp [more, chunksOf] at same
  | succ count =>
    rw [InEp.chunks_nextPacket more, List.cons.injEq] at same
    rcases same with ⟨rfl, rfl⟩
    exists { pipe with inEp := pipe.inEp.nextPacket pipe.memory }
    constructor
    · simp [pipeStep, sending.valid, Pipe.dataInProcess, more, InEp.nextPacket, InEp.queue]
    · constructor
      · constructor
        · rfl
        · simp [InEp.nextPacket, InEp.queue, more]
      · constructor <;> rfl

theorem Sending.last {pipe : Pipe Obj} (sending : Sending pipe []) :
    ∃ next, pipeStep pipe .inDone = some next ∧ next.inEp.txStatus = .nak ∧
      next.inEp.packets = pipe.inEp.packets ∧ next.inRuns = pipe.inRuns + 1 := by
  have none : pipe.inEp.packNum = 0 := by
    simpa [chunksOf_length] using congrArg List.length sending.rest
  exists { pipe with inEp.txStatus := .nak, inRuns := pipe.inRuns + 1 }
  simp [pipeStep, sending.valid, Pipe.dataInProcess, none]

-- What `count` completed packets leave of a transfer that had `rest` to come.
structure Sent (pipe : Pipe Obj) (rest : List (List Byte)) (count : Nat) (t : Pipe Obj) :
    Prop where
  packets : t.inEp.packets = pipe.inEp.packets ++ rest.take count
  inRuns : t.inRuns = pipe.inRuns + (if rest.length < count then 1 else 0)
  bounded : count ≤ rest.length + 1

theorem Sending.sent {pipe t : Pipe Obj} {rest : List (List Byte)} {count : Nat}
    (sending : Sending pipe rest)
    (run : Run pipeStep free pipe (List.replicate count .inDone) t) : Sent pipe rest count t := by
  induction count generalizing pipe rest with
  | zero =>
    obtain rfl := run.unique .nil
    exact ⟨by simp, by simp, by omega⟩
  | succ count ih =>
    obtain ⟨next, _, taken, later⟩ := run.uncons
    cases rest with
    | cons packet rest =>
      obtain ⟨after, step, sending, packets, inRuns⟩ := sending.next
      obtain rfl := Option.some.inj (step.symm.trans taken)
      have sent := ih sending later
      constructor
      · rw [sent.packets, packets, List.append_assoc, List.take_succ_cons, List.singleton_append]
      · simpa [inRuns] using sent.inRuns
      · simpa using sent.bounded
    | nil =>
      -- the handler has run and nothing is queued, so no packet completes any more
      obtain ⟨after, step, idle, packets, inRuns⟩ := sending.last
      obtain rfl := Option.some.inj (step.symm.trans taken)
      cases count with
      | zero =>
        obtain rfl := later.unique .nil
        exact ⟨by simpa using packets, by simpa using inRuns, by simp⟩
      | succ count =>
        obtain ⟨_, _, taken, _⟩ := later.uncons
        simp [pipeStep, idle] at taken

theorem Sending.reaches {pipe : Pipe Obj} {rest : List (List Byte)}
    (sending : Sending pipe rest) :
    ∃ t, Run pipeStep free pipe (List.replicate (rest.length + 1) .inDone) t := by
  induction rest generalizing pipe with
  | nil =>
    obtain ⟨next, taken, _⟩ := sending.last
    exact ⟨next, .cons trivial taken .nil⟩
  | cons packet rest ih =>
    obtain ⟨next, taken, sending, _⟩ := sending.next
    obtain ⟨t, run⟩ := ih sending
    exact ⟨t, .cons trivial taken run⟩

-- The packets the code queues for `USBD_TxData(buf, len)`.
def InEp.sends (ep : InEp Obj) (memory : Memory Obj) (buf : Option (Ptr Obj)) (len : Nat) :
    List (List Byte) :=
  if ep.maxPackSize ≤ len then
    chunksOf ep.maxPackSize (packetCount (len - ep.maxPackSize) ep.maxPackSize + 1)
      (memory.read buf len)
  else [memory.read buf len]

omit [DecidableEq Obj] in
theorem sending_txData (pipe : Pipe Obj) (buf : Option (Ptr Obj)) (len : Nat) :
    ∃ first rest, pipe.inEp.sends pipe.memory buf len = first :: rest ∧
      Sending (pipe.txData buf len) rest ∧
      (pipe.txData buf len).inEp.packets = pipe.inEp.packets ++ [first] ∧
      (pipe.txData buf len).inRuns = pipe.inRuns := by
  by_cases long : pipe.inEp.maxPackSize ≤ len
  · simp only [InEp.sends, long, if_true, chunksOf]
    refine ⟨_, _, rfl, ⟨?_, ?_⟩, ?_, rfl⟩
    · simp [Pipe.txData, InEp.txData, long, InEp.queue]
    · simp [Pipe.txData, InEp.txData, long, InEp.queue, Memory.read_drop]
    · simp [Pipe.txData, InEp.txData, long, InEp.queue, Memory.read_take]
  · simp only [InEp.sends, long, if_false]
    refine ⟨_, _, rfl, ⟨?_, ?_⟩, ?_, rfl⟩ <;>
      simp [Pipe.txData, InEp.txData, long, InEp.queue, chunksOf]

theorem transmits_iff_sends (pipe : Pipe Obj) (buf : Option (Ptr Obj)) (len : Nat) :
    Transmits pipe buf len ↔ pipe.inEp.sends pipe.memory buf len =
      transferPackets pipe.inEp.maxPackSize (pipe.memory.read buf len) := by
  obtain ⟨first, rest, sends, sending, packets, inRuns⟩ := sending_txData pipe buf len
  constructor
  · rintro ⟨each, ⟨t, run⟩⟩
    -- the run through all packets of the buffer queues what the code queues, and no more
    have bounded := (sending.sent run).bounded
    obtain ⟨last, ended⟩ := sending.reaches
    have queued := (each _ _ ended).1
    have runs := (each _ _ ended).2
    have sent := sending.sent ended
    rw [sent.packets, packets, List.take_of_length_le (by omega), List.append_assoc,
      List.append_cancel_left_eq, List.singleton_append, ← sends] at queued
    rw [sent.inRuns, inRuns] at runs
    rw [queued, List.take_of_length_le]
    by_contra longer
    rw [if_pos (by omega), if_neg (by omega)] at runs
    omega
  · intro same
    rw [sends] at same
    simp only [Transmits, ← same, List.length_cons, List.take_succ_cons]
    constructor
    · intro count t run
      have sent := sending.sent run
      constructor
      · rw [sent.packets, packets, List.append_assoc, List.singleton_append]
      · rw [sent.inRuns, inRuns]
        rfl
    · exact sending.reaches

omit [DecidableEq Obj] in
theorem sends_iff {ep : InEp Obj} (positive : 0 < ep.maxPackSize) (memory : Memory Obj)
    (buf : Option (Ptr Obj)) {len : Nat} (small : len < 4294967296) :
    ep.sends memory buf len = transferPackets ep.maxPackSize (memory.read buf len) ↔
      len ≤ 256 * ep.maxPackSize := by
  have size := Memory.read_length memory buf len
  by_cases long : ep.maxPackSize ≤ len
  · have some : memory.read buf len ≠ [] := by
      rw [← List.length_pos_iff]
      omega
    simp only [InEp.sends, transferPackets, long, some, if_true, if_false, chunks, size,
      packetCount_rest long positive small, pieces_of_pos positive (show 0 < len by omega)]
    -- the counter has eight bits, so it is right for 255 packets after the first
    have narrow : (len - 1) / ep.maxPackSize < 256 ↔ len ≤ 256 * ep.maxPackSize := by
      rw [Nat.div_lt_iff_lt_mul positive]
      omega
    rw [← narrow]
    constructor
    · intro same
      have counts := congrArg List.length same
      rw [chunksOf_length, chunksOf_length] at counts
      omega
    · intro few
      rw [Nat.mod_eq_of_lt few]
  · have within : len ≤ 256 * ep.maxPackSize := by omega
    simp only [InEp.sends, transferPackets, long, if_false, within, iff_true]
    split
    · next empty => rw [empty]
    · next some => exact (chunks_of_length_le some (by omega)).symm

/-! ## Receiving -/

theorem Memory.write_nil (memory : Memory Obj) (pointer : Ptr Obj) :
    memory.write pointer [] = memory := by
  funext obj index
  simp [Memory.write]

theorem Memory.write_append (memory : Memory Obj) (pointer : Ptr Obj) (first second : List Byte) :
    (memory.write pointer first).write (pointer.add first.length) second =
      memory.write pointer (first ++ second) := by
  funext obj index
  by_cases same : obj = pointer.obj
  · simp only [Memory.write, Ptr.add, same, true_and]
    by_cases beyond : pointer.offset + first.length ≤ index
    · have past : first[index - pointer.offset]? = none := by
        apply List.getElem?_eq_none
        omega
      have within : pointer.offset ≤ index := by omega
      have moved : index - (pointer.offset + first.length) =
          index - pointer.offset - first.length := by omega
      rw [if_pos beyond, if_pos within, if_pos within, past, List.getElem?_append_right (by omega),
        moved]
      rfl
    · rw [if_neg beyond]
      by_cases within : pointer.offset ≤ index
      · rw [if_pos within, if_pos within, List.getElem?_append_left (by omega)]
      · rw [if_neg within, if_neg within]
  · simp [Memory.write, Ptr.add, same]

/-- However far the packets of `bytes` have come, they are stored in `pointer`, and
`outEpHandler` has run once when they have all come. -/
def Receives (pipe : Pipe Obj) (pointer : Ptr Obj) (len : Nat) : Prop :=
  ∀ bytes : List Byte, bytes.length = len →
    ∀ earlier later, earlier ++ later = transferPackets pipe.outEp.maxPackSize bytes →
      ∃ t, Run pipeStep free (pipe.rxData (some pointer) len) (earlier.map .out) t ∧
        t.memory = pipe.memory.write pointer earlier.flatten ∧
        t.outRuns = pipe.outRuns + (if later = [] then 1 else 0)

-- The endpoint waits for `packets` and stores them from `pointer` on.
structure Awaiting (pipe : Pipe Obj) (pointer : Ptr Obj) (packets : List (List Byte)) : Prop where
  present : pipe.outEp.pBuf = some pointer
  packNum : pipe.outEp.packNum = packets.length
  valid : packets ≠ [] → pipe.outEp.rxStatus = .valid
  accepted : ∀ packet ∈ packets, packet ≠ [] ∧ packet.length ≤ rxCapacity pipe.outEp.rxCount

theorem Awaiting.next {pipe : Pipe Obj} {pointer : Ptr Obj} {packet : List Byte}
    {packets : List (List Byte)} (awaiting : Awaiting pipe pointer (packet :: packets)) :
    ∃ next, pipeStep pipe (.out packet) = some next ∧
      Awaiting next (pointer.add packet.length) packets ∧
      next.memory = pipe.memory.write pointer packet ∧
      next.outRuns = pipe.outRuns + (if packets = [] then 1 else 0) := by
  have ⟨sized, within⟩ := awaiting.accepted packet (by simp)
  have nonempty : packet.length ≠ 0 := by simpa using sized
  have present : pipe.outEp.acknowledged.pBuf = .some pointer := awaiting.present
  have expected : pipe.outEp.acknowledged.packNum = packets.length + 1 := awaiting.packNum
  have stores := OutEp.receive_stored expected nonempty present
  have target : pipe.outEp.acknowledged.target packet.length = .some pointer :=
    OutEp.target_eq_some.mpr ⟨by omega, nonempty, present⟩
  exists Pipe.dataOutProcess { pipe with outEp := pipe.outEp.acknowledged } packet
  constructor
  · simp [pipeStep, awaiting.valid (by simp), within]
  · constructor
    · constructor
      · simp [Pipe.dataOutProcess, stores]
      · simp [Pipe.dataOutProcess, stores]
      · intro more
        simp [Pipe.dataOutProcess, stores, more]
      · intro later member
        simp only [Pipe.dataOutProcess, stores]
        exact awaiting.accepted later (List.mem_cons_of_mem _ member)
    · constructor
      · simp [Pipe.dataOutProcess, target]
      · by_cases done : packets = [] <;> simp [Pipe.dataOutProcess, stores, done]

theorem Awaiting.stores {pipe : Pipe Obj} {pointer : Ptr Obj} {earlier later : List (List Byte)}
    (awaiting : Awaiting pipe pointer (earlier ++ later)) (some : earlier ≠ []) :
    ∃ t, Run pipeStep free pipe (earlier.map .out) t ∧
      t.memory = pipe.memory.write pointer earlier.flatten ∧
      t.outRuns = pipe.outRuns + (if later = [] then 1 else 0) := by
  induction earlier generalizing pipe pointer with
  | nil => contradiction
  | cons packet rest ih =>
    obtain ⟨next, taken, awaiting, memory, outRuns⟩ := awaiting.next
    by_cases last : rest = []
    · subst last
      exists next
      constructor
      · exact .cons trivial taken .nil
      · simpa using ⟨memory, outRuns⟩
    · obtain ⟨t, run, stored, handled⟩ := ih awaiting last
      exists t
      constructor
      · exact .cons trivial taken run
      · constructor
        · rw [stored, memory, Memory.write_append, List.flatten_cons]
        · simpa [outRuns, last] using handled

theorem silent_run {pipe t : Pipe Obj} {packets : List (List Byte)}
    (idle : pipe.outEp.rxStatus ≠ .valid) (run : Run pipeStep free pipe (packets.map .out) t) :
    packets = [] := by
  cases packets with
  | nil => rfl
  | cons packet rest =>
    obtain ⟨_, _, taken, _⟩ := run.uncons
    simp [pipeStep, idle] at taken

/-- An endpoint takes no more packets than it has counted, and never fewer than one. -/
theorem received_le {pipe t : Pipe Obj} {packets : List (List Byte)}
    (some : ∀ packet ∈ packets, packet ≠ []) (present : pipe.outEp.pBuf ≠ none)
    (run : Run pipeStep free pipe (packets.map .out) t) :
    packets.length ≤ max 1 pipe.outEp.packNum := by
  induction packets generalizing pipe with
  | nil => simp
  | cons packet rest ih =>
    obtain ⟨next, _, taken, later⟩ := run.uncons
    simp only [pipeStep, Option.ite_none_right_eq_some, Option.some.injEq] at taken
    have outEp : next.outEp = pipe.outEp.acknowledged.receive packet.length := by
      rw [← taken.2]
      rfl
    have status := OutEp.rxStatus_receive pipe.outEp packet.length
    by_cases done : (pipe.outEp.acknowledged.receive packet.length).packNum = 0
    · rw [if_pos done] at status
      have silent := silent_run (by rw [outEp, status]; decide) later
      simp [silent]
    · obtain ⟨pointer, held⟩ := Option.ne_none_iff_exists'.mp present
      obtain ⟨more, expected⟩ :=
        Nat.exists_eq_succ_of_ne_zero (OutEp.expected_receive done)
      have nonempty : packet.length ≠ 0 := by simpa using some packet (by simp)
      have counted : pipe.outEp.acknowledged.packNum = more + 1 := expected
      have stores := OutEp.receive_stored counted nonempty held
      rw [stores] at done outEp
      have fewer := ih (fun packet member => some packet (by simp [member])) (by simp [outEp])
        later
      simp only [outEp] at fewer done
      rw [List.length_cons, expected]
      omega

theorem rxCapacity_le (register : BitVec 16) : rxCapacity register ≤ 1023 :=
  Nat.min_le_left _ _

theorem chunk_bounds {size : Nat} (positive : 0 < size) {count : Nat} {values chunk : List Byte}
    (few : count ≤ pieces size values.length) (member : chunk ∈ chunksOf size count values) :
    chunk ≠ [] ∧ chunk.length ≤ min values.length size := by
  induction count generalizing values with
  | zero => simp [chunksOf] at member
  | succ count ih =>
    have some : 0 < values.length := by
      by_contra none
      rw [Nat.eq_zero_of_not_pos none, pieces_zero positive] at few
      omega
    rcases List.mem_cons.mp member with first | later
    · rw [first]
      constructor
      · rw [← List.length_pos_iff, List.length_take]
        omega
      · rw [List.length_take]
        omega
    · have fewer : count ≤ pieces size (values.drop size).length := by
        rw [List.length_drop]
        by_contra more
        have rest := pieces_mul positive (values.length - size)
        have atMost : pieces size values.length ≤ pieces size (values.length - size) + 1 :=
          pieces_le positive (by rw [Nat.succ_mul]; omega)
        omega
      have bounds := ih fewer later
      rw [List.length_drop] at bounds
      constructor
      · exact bounds.1
      · omega

theorem packetCount_eq {maxPackSize len : Nat} (positive : 0 < maxPackSize)
    (narrow : maxPackSize < 65536) (few : len ≤ 255 * maxPackSize) :
    packetCount len maxPackSize = pieces maxPackSize len := by
  have unwrapped : (len + (maxPackSize - 1)) % 4294967296 = len + (maxPackSize - 1) :=
    Nat.mod_eq_of_lt (by omega)
  have count := pieces_le positive few
  rw [packetCount, unwrapped]
  exact Nat.mod_eq_of_lt (Nat.lt_succ_of_le count)

theorem receives_nothing (pipe : Pipe Obj) (positive : 0 < pipe.outEp.maxPackSize)
    (narrow : pipe.outEp.maxPackSize < 65536) (pointer : Ptr Obj) :
    ∃ t, Run pipeStep free (pipe.rxData (some pointer) 0) [.out []] t ∧
      t.memory = pipe.memory ∧ t.outRuns = pipe.outRuns + 1 := by
  have none : packetCount 0 pipe.outEp.maxPackSize = 0 := by
    rw [packetCount_eq positive narrow (Nat.zero_le _), pieces_zero positive]
  have step : pipeStep (pipe.rxData (some pointer) 0) (.out []) = some { pipe with
      outEp := (pipe.outEp.rxData (some pointer) 0).acknowledged, outRuns := pipe.outRuns + 1 } := by
    simp [pipeStep, Pipe.rxData, OutEp.rxData, Pipe.dataOutProcess, OutEp.acknowledged,
      OutEp.receive, OutEp.target, none]
  exact ⟨_, .cons trivial step .nil, rfl, rfl⟩

/-- The length is within the counter of packets, and the packets within the count register. -/
theorem receives_iff {pipe : Pipe Obj} (positive : 0 < pipe.outEp.maxPackSize)
    (narrow : pipe.outEp.maxPackSize < 65536) (pointer : Ptr Obj) {len : Nat} :
    Receives pipe pointer len ↔
      len ≤ 255 * pipe.outEp.maxPackSize ∧ min len pipe.outEp.maxPackSize ≤ 1023 := by
  constructor
  · intro receives
    have size : (List.replicate len (0 : Byte)).length = len := List.length_replicate
    obtain ⟨t, run, _⟩ := receives _ size _ [] (List.append_nil _)
    by_cases empty : len = 0
    · simp [empty]
    · have some : List.replicate len (0 : Byte) ≠ [] := by simpa using empty
      rw [transferPackets, if_neg some] at run
      constructor
      · have counted := received_le (fun packet member =>
          (chunk_bounds positive (Nat.le_refl _) member).1) (by simp [Pipe.rxData, OutEp.rxData]) run
        rw [chunksOf_length, size] at counted
        by_contra longer
        have many := pieces_of_mul_lt positive (Nat.lt_of_not_le longer)
        have byte : (pipe.rxData (.some pointer) len).outEp.packNum < 256 :=
          Nat.mod_lt _ (by decide)
        omega
      · have one : 0 < pieces pipe.outEp.maxPackSize len := pieces_of_mul_lt positive (by omega)
        obtain ⟨more, count⟩ := Nat.exists_eq_succ_of_ne_zero (Nat.ne_of_gt one)
        simp only [chunks, size, count, chunksOf, List.map_cons] at run
        obtain ⟨_, _, taken, _⟩ := run.uncons
        simp only [pipeStep, Option.ite_none_right_eq_some] at taken
        have fits := Nat.le_trans taken.1.2 (rxCapacity_le _)
        rw [List.length_take, size] at fits
        omega
  · rintro ⟨few, small⟩ bytes size earlier later split
    by_cases none : earlier = []
    · subst none
      have more : later ≠ [] := by
        have total := transferPackets_length positive bytes
        rw [← split, List.nil_append] at total
        rw [← List.length_pos_iff]
        omega
      exact ⟨_, .nil, by rw [List.flatten_nil, Memory.write_nil]; rfl, by rw [if_neg more]; rfl⟩
    · by_cases empty : bytes = []
      · rw [transferPackets, if_pos empty] at split
        obtain ⟨rfl, rfl⟩ : earlier = [[]] ∧ later = [] := by
          cases earlier with
          | nil => contradiction
          | cons first rest => simpa [and_assoc] using split
        obtain rfl : len = 0 := by rw [← size, empty, List.length_nil]
        obtain ⟨t, run, memory, outRuns⟩ := receives_nothing pipe positive narrow pointer
        exact ⟨t, run, by rw [memory]; exact (Memory.write_nil _ _).symm, outRuns⟩
      · rw [transferPackets, if_neg empty] at split
        have packets : Awaiting (pipe.rxData (.some pointer) len) pointer (earlier ++ later) := by
          rw [split]
          constructor
          · rfl
          · rw [chunks, chunksOf_length, size]
            exact packetCount_eq positive narrow few
          · intro _
            rfl
          · intro packet member
            have bounds := chunk_bounds positive (Nat.le_refl _) member
            rw [size] at bounds
            constructor
            · exact bounds.1
            · exact Nat.le_trans bounds.2 (le_armed small)
        exact packets.stores none

/-! ## Both -/

/-- A transfer is carried out exactly when its packets after the first are at most 255 (IN) or
its packets are (OUT), and none is longer than a packet can be. -/
theorem packetised_iff {pipe : Pipe Obj} (inPositive : 0 < pipe.inEp.maxPackSize)
    (outPositive : 0 < pipe.outEp.maxPackSize) (outNarrow : pipe.outEp.maxPackSize < 65536)
    {len : Nat} (small : len < 4294967296) :
    (∀ buf, Transmits pipe buf len ↔ len ≤ 256 * pipe.inEp.maxPackSize) ∧
      ∀ pointer, Receives pipe pointer len ↔
        len ≤ 255 * pipe.outEp.maxPackSize ∧ min len pipe.outEp.maxPackSize ≤ 1023 := by
  constructor
  · intro buf
    rw [transmits_iff_sends, sends_iff inPositive pipe.memory buf small]
  · intro pointer
    exact receives_iff outPositive outNarrow pointer

def bulkPipe : Pipe Unit where
  inEp := { CtrlBuf.reset 64 with txStatus := .nak, packets := [] }
  outEp := { CtrlBuf.reset 64 with rxStatus := .nak, rxCount := setEPRxCnt 64 }
  memory := fun _ _ => 0
  inRuns := 0
  outRuns := 0

theorem packetised_bulk : (∀ buf, Transmits bulkPipe buf 512) ∧
    ∀ pointer, Receives bulkPipe pointer 512 := by
  obtain ⟨sent, received⟩ := @packetised_iff Unit _ bulkPipe (by decide) (by decide) (by decide)
    512 (by decide)
  exact ⟨fun buf => (sent buf).mpr (by decide), fun pointer => (received pointer).mpr (by decide)⟩

/-- 257 packets of 64 bytes: the counter of the 256 after the first one is 0. -/
theorem long_transfer_dropped :
    ¬ ∀ (pipe : Pipe Unit) (len : Nat), 0 < pipe.inEp.maxPackSize → 0 < pipe.outEp.maxPackSize →
      pipe.inEp.maxPackSize < 65536 → pipe.outEp.maxPackSize < 65536 → len < 4294967296 →
      (∀ buf, Transmits pipe buf len) ∧ ∀ pointer, Receives pipe pointer len := by
  intro packetised
  have transmits := (packetised bulkPipe 16448 (by decide) (by decide) (by decide) (by decide)
    (by decide)).1 none
  rw [transmits_iff_sends, sends_iff (by decide) _ _ (by decide)] at transmits
  exact absurd transmits (by decide)

end

end ApmSdk.Usbd
