import ApmSdk.Usbd.Control

set_option autoImplicit false

/-!
# Copies out of packet memory

Every `USBD_ReadDataFromEP` of the core against the room its destination has: the SETUP buffer,
the control OUT buffer and the buffers armed by `USBD_RxData`.
-/

namespace ApmSdk.Usbd

open Runs

variable {Obj : Type}

-- A call of `USBD_RxData`; `len` is a `uint32_t`.
structure RxCall (Obj : Type) where
  ep : Nat
  buf : Option (Ptr Obj)
  len : Nat
  bounded : len < 4294967296

/-- Endpoint 0 and the OUT halves of the other endpoints. -/
structure Device (Obj : Type) where
  ctrl : Dev Obj
  out : Nat → OutEp Obj

def Device.rxData (dev : Device Obj) (call : RxCall Obj) : Device Obj :=
  { dev with out := Function.update dev.out call.ep ((dev.out call.ep).rxData call.buf call.len) }

-- `calls` are the calls of `USBD_RxData` that `outEpHandler` makes.
def dataOutProcess [DecidableEq Obj] (dev : Device Obj) (ep : Nat) (packet : List Byte)
    (calls : List (RxCall Obj)) : Device Obj :=
  let before := (dev.out ep).acknowledged
  let after := before.receive packet.length
  let stored : Device Obj :=
    match before.target packet.length with
    | some pointer =>
        { ctrl := { dev.ctrl with
            memory := dev.ctrl.memory.write pointer packet
            reads := dev.ctrl.reads ++ [⟨packet.length, before.bufLen, some before.packNum⟩] }
          out := Function.update dev.out ep after }
    | none => { dev with out := Function.update dev.out ep after }
  if after.packNum = 0 then calls.foldl Device.rxData stored else stored

inductive DeviceLabel (Obj : Type) where
  | control (label : ControlLabel Obj)
  | dataOut (ep : Nat) (packet : List Byte) (calls : List (RxCall Obj))
  | rxData (call : RxCall Obj)

def deviceStep [DecidableEq Obj] (dev : Device Obj) : DeviceLabel Obj → Option (Device Obj)
  | .control label => (controlStep dev.ctrl label).map fun ctrl => { dev with ctrl := ctrl }
  | .dataOut ep packet calls =>
      if (dev.out ep).rxStatus = .valid ∧ packet.length ≤ rxCapacity (dev.out ep).rxCount then
        some (dataOutProcess dev ep packet calls)
      else none
  | .rxData call => some (dev.rxData call)

def Device.reset (ep0PacketSize : Nat) (maxPackSize : Nat → Nat) (memory : Memory Obj) :
    Device Obj where
  ctrl := .reset ep0PacketSize memory
  out := fun ep => { CtrlBuf.reset (maxPackSize ep) with rxStatus := .nak, rxCount := 0 }

/-- The copy stays inside its destination, and no counter goes below zero. -/
def Read.Fits (read : Read) : Prop := read.count ≤ read.room ∧ read.packNum ≠ some 0

instance (read : Read) : Decidable read.Fits := by unfold Read.Fits; infer_instance

/-- The packets that the call arms the endpoint for fit its buffer when each is as long as the
peripheral accepts. -/
def RxCall.Sized (call : RxCall Obj) (maxPackSize : Nat) : Prop :=
  call.buf = none ∨
    packetCount call.len maxPackSize * armed (min call.len maxPackSize) ≤ call.len

def Sized (dev : Device Obj) : DeviceLabel Obj → Prop
  | .control (.setup packet _ _) => packet.length ≤ 8
  | .control _ => True
  | .dataOut _ _ calls => ∀ call ∈ calls, call.Sized (dev.out call.ep).maxPackSize
  | .rxData call => call.Sized (dev.out call.ep).maxPackSize

/-- Whatever the peripheral accepts on an armed endpoint fits. -/
structure OutEp.Roomy (ep : OutEp Obj) : Prop where
  bounded : ep.bufLen < 4294967296
  room : ep.pBuf ≠ none → ep.packNum * rxCapacity ep.rxCount ≤ ep.bufLen

theorem OutEp.Roomy.rxData {ep : OutEp Obj} {call : RxCall Obj}
    (sized : call.Sized ep.maxPackSize) : (ep.rxData call.buf call.len).Roomy := by
  refine ⟨call.bounded, fun present => ?_⟩
  rcases sized with none | fits
  · exact absurd none present
  · exact fits

theorem OutEp.Roomy.receive {ep : OutEp Obj} (roomy : ep.Roomy) {count : Nat}
    (fits : count ≤ rxCapacity ep.rxCount) : (ep.receive count).Roomy := by
  obtain ⟨bounded, room⟩ := roomy
  cases expected : ep.packNum with
  | zero =>
    rw [OutEp.receive_unexpected expected]
    exact ⟨bounded, room⟩
  | succ more =>
    by_cases some : count = 0
    · rw [OutEp.receive_dropped (by omega) (.inl some)]
      exact ⟨bounded, room⟩
    · cases present : ep.pBuf with
      | none =>
        rw [OutEp.receive_dropped (by omega) (.inr present)]
        exact ⟨bounded, room⟩
      | some pointer =>
        have enough := room (by simp [present])
        rw [expected, Nat.succ_mul] at enough
        rw [OutEp.receive_stored expected some present]
        constructor
        · dsimp only
          omega
        · intro _
          dsimp only
          omega

theorem OutEp.Roomy.fits {ep : OutEp Obj} (roomy : ep.Roomy) {count : Nat}
    (within : count ≤ rxCapacity ep.rxCount) {pointer : Ptr Obj}
    (target : ep.target count = some pointer) :
    Read.Fits ⟨count, ep.bufLen, some ep.packNum⟩ := by
  obtain ⟨expected, _, present⟩ := OutEp.target_eq_some.mp target
  have enough := roomy.room (by simp [present])
  obtain ⟨more, eq⟩ := Nat.exists_eq_succ_of_ne_zero expected
  rw [eq, Nat.succ_mul] at enough
  exact ⟨by dsimp only; omega, by simpa using expected⟩

/-- Every copy so far has fitted, and whatever comes next will. -/
structure Device.Roomy (dev : Device Obj) : Prop where
  out : ∀ ep, (dev.out ep).Roomy
  reads : ∀ read ∈ dev.ctrl.reads, read.Fits

theorem Device.Roomy.rxData {dev : Device Obj} (roomy : dev.Roomy) {call : RxCall Obj}
    (sized : call.Sized (dev.out call.ep).maxPackSize) : (dev.rxData call).Roomy := by
  refine ⟨fun ep => ?_, roomy.reads⟩
  by_cases same : ep = call.ep
  · subst same
    simpa [Device.rxData] using OutEp.Roomy.rxData sized
  · simpa [Device.rxData, Function.update_of_ne same] using roomy.out ep

theorem maxPackSize_rxData (dev : Device Obj) (call : RxCall Obj) (ep : Nat) :
    ((dev.rxData call).out ep).maxPackSize = (dev.out ep).maxPackSize := by
  by_cases same : ep = call.ep
  · subst same
    simp [Device.rxData, OutEp.rxData]
  · simp [Device.rxData, Function.update_of_ne same]

theorem Device.Roomy.calls {dev : Device Obj} (roomy : dev.Roomy) {calls : List (RxCall Obj)}
    (sized : ∀ call ∈ calls, call.Sized (dev.out call.ep).maxPackSize) :
    (calls.foldl Device.rxData dev).Roomy := by
  induction calls generalizing dev with
  | nil => exact roomy
  | cons call rest ih =>
    refine ih (roomy.rxData (sized call (by simp))) fun later member => ?_
    rw [maxPackSize_rxData]
    exact sized later (by simp [member])

theorem reads_ctrlInData (dev : Dev Obj) (buf : Option (Ptr Obj)) (len : Nat) :
    (ctrlInData dev buf len).reads = dev.reads := by
  unfold ctrlInData
  dsimp only
  split
  · rfl
  · split <;> rfl

theorem reads_ctrlOutData (dev : Dev Obj) (buf : Option (Ptr Obj)) (len : Nat) :
    (ctrlOutData dev buf len).reads = dev.reads := by
  unfold ctrlOutData
  split <;> rfl

theorem reads_calls (calls : List (Call Obj)) (dev : Dev Obj) :
    (calls.foldl Call.run dev).reads = dev.reads := by
  induction calls generalizing dev with
  | nil => rfl
  | cons call rest ih =>
    rw [List.foldl_cons, ih]
    cases call with
    | inData buf len => exact reads_ctrlInData dev buf len
    | outData buf len => exact reads_ctrlOutData dev buf len
    | stall => rfl

theorem reads_setup (dev : Dev Obj) (xferLen : Nat) (calls : List (Call Obj))
    (dataBuf : Nat → Byte) :
    (setupProcess (.answering calls) dev xferLen dataBuf).reads =
      dev.reads ++ (if xferLen = 0 then [] else [⟨xferLen, 8, none⟩]) := by
  unfold setupProcess
  by_cases empty : xferLen = 0
  · simp [empty]
  · simp only [empty, if_false, Requests.answering, Option.getD_some]
    split
    · exact reads_calls calls _
    · exact reads_calls calls _
    · exact reads_calls calls _
    · rfl

theorem reads_ctrlInProcess (dev : Dev Obj) : (ctrlInProcess dev).reads = dev.reads := by
  unfold ctrlInProcess
  split
  · split
    · rfl
    · split <;> rfl
  · rfl
  · rfl

/-- The control OUT copy takes the length it stores from the room it has. -/
theorem fits_ctrlOutProcess [DecidableEq Obj] {dev : Dev Obj}
    (fits : ∀ read ∈ dev.reads, read.Fits) : ∀ read ∈ (ctrlOutProcess dev).reads, read.Fits := by
  unfold ctrlOutProcess
  split
  · split
    · next expected =>
      have copied : ∀ read ∈ dev.reads ++ [Read.mk (min dev.out0.bufLen dev.out0.maxPackSize)
          dev.out0.bufLen (some dev.out0.packNum)], read.Fits := by
        intro read member
        rcases List.mem_append.mp member with earlier | last
        · exact fits read earlier
        · rw [List.mem_singleton.mp last]
          exact ⟨Nat.min_le_left _ _, by simpa using expected⟩
      dsimp only
      split
      · rw [reads_ctrlOutData]
        exact copied
      · rw [ctrlTxStatus, reads_ctrlInData]
        exact copied
    · rw [ctrlTxStatus, reads_ctrlInData]
      exact fits
  · exact fits

section

variable [DecidableEq Obj] {ep0PacketSize : Nat}

theorem fits_setup {before after : Dev Obj} {packet : List Byte} {stack : Nat → Byte}
    {answer : List (Call Obj)} (fits : ∀ read ∈ before.reads, read.Fits)
    (taken : controlStep before (.setup packet stack answer) = some after) :
    (∀ read ∈ after.reads, read.Fits) ↔ packet.length ≤ 8 := by
  obtain ⟨_, rfl⟩ := controlStep_setup taken
  rw [reads_setup]
  by_cases empty : packet.length = 0
  · simp only [empty, if_true, List.append_nil, Nat.zero_le, iff_true]
    exact fits
  · constructor
    · intro all
      exact (all ⟨packet.length, 8, none⟩ (by simp [empty])).1
    · intro short read member
      rcases List.mem_append.mp member with earlier | last
      · exact fits read earlier
      · rw [if_neg empty] at last
        rw [List.mem_singleton.mp last]
        exact ⟨short, by simp⟩

theorem fits_controlStep {before after : Dev Obj} {label : ControlLabel Obj}
    (fits : ∀ read ∈ before.reads, read.Fits)
    (small : ∀ packet stack answer, label = .setup packet stack answer → packet.length ≤ 8)
    (taken : controlStep before label = some after) : ∀ read ∈ after.reads, read.Fits := by
  cases label with
  | setup packet stack answer =>
    exact (fits_setup fits taken).mpr (small packet stack answer rfl)
  | inDone =>
    obtain ⟨_, rfl⟩ := controlStep_inDone taken
    rw [reads_ctrlInProcess]
    exact fits
  | out packet =>
    obtain ⟨_, rfl⟩ := controlStep_out taken
    exact fits_ctrlOutProcess fits

-- The device after the copy of `USBD_DataOutProcess` and before its call of `outEpHandler`.
def Device.stored (dev : Device Obj) (ep : Nat) (packet : List Byte) : Device Obj :=
  dataOutProcess dev ep packet []

theorem dataOutProcess_eq (dev : Device Obj) (ep : Nat) (packet : List Byte)
    (calls : List (RxCall Obj)) : dataOutProcess dev ep packet calls =
      if ((dev.out ep).acknowledged.receive packet.length).packNum = 0 then
        calls.foldl Device.rxData (dev.stored ep packet)
      else dev.stored ep packet := by
  simp only [Device.stored, dataOutProcess, List.foldl_nil, ite_self]

theorem out_stored (dev : Device Obj) (ep : Nat) (packet : List Byte) :
    (dev.stored ep packet).out = Function.update dev.out ep
      ((dev.out ep).acknowledged.receive packet.length) := by
  simp only [Device.stored, dataOutProcess, List.foldl_nil, ite_self]
  split <;> rfl

theorem Device.Roomy.stored {dev : Device Obj} (roomy : dev.Roomy) {ep : Nat}
    {packet : List Byte} (within : packet.length ≤ rxCapacity (dev.out ep).rxCount) :
    (dev.stored ep packet).Roomy := by
  have before : (dev.out ep).acknowledged.Roomy :=
    ⟨(roomy.out ep).bounded, (roomy.out ep).room⟩
  constructor
  · intro other
    rw [out_stored]
    by_cases same : other = ep
    · subst same
      simpa using before.receive within
    · simpa [Function.update_of_ne same] using roomy.out other
  · simp only [Device.stored, dataOutProcess, List.foldl_nil, ite_self]
    split
    · next pointer target =>
      intro read member
      rcases List.mem_append.mp member with earlier | last
      · exact roomy.reads read earlier
      · rw [List.mem_singleton.mp last]
        exact before.fits within target
    · exact roomy.reads

theorem Device.Roomy.dataOut {dev : Device Obj} (roomy : dev.Roomy) {ep : Nat}
    {packet : List Byte} {calls : List (RxCall Obj)}
    (within : packet.length ≤ rxCapacity (dev.out ep).rxCount)
    (sized : ∀ call ∈ calls, call.Sized (dev.out call.ep).maxPackSize) :
    (dataOutProcess dev ep packet calls).Roomy := by
  have stored := roomy.stored within
  rw [dataOutProcess_eq]
  split
  · refine stored.calls fun call member => ?_
    rw [out_stored]
    by_cases same : call.ep = ep
    · subst same
      rw [Function.update_self, OutEp.receive_maxPackSize]
      exact sized call member
    · rw [Function.update_of_ne same]
      exact sized call member
  · exact stored

/-- The invariant of runs that size their receive buffers. -/
theorem Device.Roomy.step {before after : Device Obj} {label : DeviceLabel Obj}
    (roomy : before.Roomy) (sized : Sized before label)
    (taken : deviceStep before label = some after) : after.Roomy := by
  cases label with
  | control label =>
    simp only [deviceStep, Option.map_eq_some_iff] at taken
    obtain ⟨ctrl, moved, rfl⟩ := taken
    refine ⟨roomy.out, fits_controlStep roomy.reads ?_ moved⟩
    rintro packet stack answer rfl
    exact sized
  | dataOut ep packet calls =>
    simp only [deviceStep, Option.ite_none_right_eq_some, Option.some.injEq] at taken
    obtain ⟨⟨_, within⟩, rfl⟩ := taken
    exact roomy.dataOut within sized
  | rxData call =>
    obtain rfl := Option.some.inj taken
    exact roomy.rxData sized

theorem reached_roomy {maxPackSize : Nat → Nat} {memory : Memory Obj}
    {labels : List (DeviceLabel Obj)} {s : Device Obj}
    (run : Run deviceStep Sized (Device.reset ep0PacketSize maxPackSize memory) labels s) :
    s.Roomy := by
  refine run.invariant Device.Roomy ⟨fun ep => ?_, ?_⟩ fun _ _ _ roomy => roomy.step
  · refine ⟨by simp [Device.reset, CtrlBuf.reset], fun present => ?_⟩
    exact absurd rfl present
  · intro read member
    cases member

-- The host sends `packets` on an endpoint that is armed by `call` and not armed again.
def RxCall.transfer (call : RxCall Obj) (packets : List (List Byte)) : List (DeviceLabel Obj) :=
  .rxData call :: packets.map fun packet => .dataOut call.ep packet []

-- The endpoint of `call` after `count` packets of `size` bytes.
structure Filling (call : RxCall Obj) (size expected count : Nat) (dev : Device Obj) : Prop where
  packNum : (dev.out call.ep).packNum + count = expected
  present : (dev.out call.ep).pBuf ≠ none
  capacity : rxCapacity (dev.out call.ep).rxCount = size
  filled : (dev.out call.ep).bufLen + count * size = call.len
  valid : count < expected → (dev.out call.ep).rxStatus = .valid

theorem Filling.accepts {call : RxCall Obj} {size expected count : Nat} {dev : Device Obj}
    (filling : Filling call size expected count dev) (more : count < expected) :
    deviceStep dev (.dataOut call.ep (List.replicate size 0) []) =
      some (dataOutProcess dev call.ep (List.replicate size 0) []) := by
  simp [deviceStep, filling.valid more, filling.capacity]

theorem Filling.step {call : RxCall Obj} {size expected count : Nat} {dev : Device Obj}
    (filling : Filling call size expected count dev) (more : count < expected) (some : 0 < size)
    (fits : ∀ read ∈ (dataOutProcess dev call.ep (List.replicate size 0) []).ctrl.reads,
      read.Fits) :
    Filling call size expected (count + 1)
      (dataOutProcess dev call.ep (List.replicate size 0) []) := by
  obtain ⟨packNum, present, capacity, filled, _⟩ := filling
  obtain ⟨pointer, present⟩ := Option.ne_none_iff_exists'.mp present
  obtain ⟨left, expects⟩ : ∃ left, (dev.out call.ep).packNum = left + 1 :=
    ⟨expected - count - 1, by omega⟩
  have holds : (dev.out call.ep).acknowledged.pBuf = .some pointer := present
  have stores : (dev.out call.ep).acknowledged.receive size = _ :=
    OutEp.receive_stored expects (by omega) holds
  have target : (dev.out call.ep).acknowledged.target size = .some pointer :=
    OutEp.target_eq_some.mpr ⟨by simp [OutEp.acknowledged, expects], by omega, present⟩
  have read : Read.mk size (dev.out call.ep).bufLen (.some (left + 1)) ∈
      (dataOutProcess dev call.ep (List.replicate size 0) []).ctrl.reads := by
    simp only [dataOutProcess, List.length_replicate, target]
    simp [OutEp.acknowledged, expects]
  have room := (fits _ read).1
  dsimp only at room
  have small := call.bounded
  have out : (dataOutProcess dev call.ep (List.replicate size 0) []).out call.ep =
      (dev.out call.ep).acknowledged.receive size := by
    have stored := out_stored dev call.ep (List.replicate size 0)
    rw [Device.stored] at stored
    rw [stored, Function.update_self, List.length_replicate]
  constructor
  · rw [out, stores]
    dsimp only
    omega
  · rw [out, stores]
    simp
  · rw [out, stores]
    exact capacity
  · rw [out, stores, Nat.succ_mul]
    simp only [OutEp.acknowledged]
    omega
  · intro again
    rw [out, stores]
    have going : left ≠ 0 := by omega
    simp [going]

theorem sized_of_fits {dev : Device Obj} {call : RxCall Obj}
    (fits : ∀ packets t, Run deviceStep free dev (call.transfer packets) t →
      ∀ read ∈ t.ctrl.reads, read.Fits) : call.Sized (dev.out call.ep).maxPackSize := by
  by_cases none : call.buf = none
  · exact .inl none
  · right
    generalize expected : packetCount call.len (dev.out call.ep).maxPackSize = count
    generalize capacity : armed (min call.len (dev.out call.ep).maxPackSize) = size
    rcases Nat.eq_zero_or_pos size with empty | some
    · simp [empty]
    · have fill (sent : Nat) (within : sent ≤ count) : ∃ t, Run deviceStep free dev
          (call.transfer (List.replicate sent (List.replicate size 0))) t ∧
          Filling call size count sent t := by
        induction sent with
        | zero =>
          refine ⟨dev.rxData call, .cons trivial rfl .nil, ?_⟩
          constructor <;> simp [Device.rxData, OutEp.rxData, expected, none]
          exact capacity
        | succ sent ih =>
          obtain ⟨t, run, filling⟩ := ih (by omega)
          have again : call.transfer (List.replicate (sent + 1) (List.replicate size 0)) =
              call.transfer (List.replicate sent (List.replicate size 0)) ++
                [.dataOut call.ep (List.replicate size 0) []] := by
            simp [RxCall.transfer, List.replicate_succ', List.map_append]
          have next := run.snoc trivial (filling.accepts (by omega))
          rw [← again] at next
          exact ⟨_, next, filling.step (by omega) some (fits _ _ next)⟩
      obtain ⟨t, _, filling⟩ := fill count (Nat.le_refl _)
      have filled := filling.filled
      omega

theorem Device.Roomy.packets {dev t : Device Obj} (roomy : dev.Roomy) {ep : Nat}
    {packets : List (List Byte)}
    (run : Run deviceStep free dev (packets.map fun packet => .dataOut ep packet []) t) :
    t.Roomy := by
  induction packets generalizing dev with
  | nil =>
    obtain rfl := run.unique .nil
    exact roomy
  | cons packet rest ih =>
    obtain ⟨next, _, taken, later⟩ := run.uncons
    exact ih (roomy.step (by simp [Sized]) taken) later

theorem fits_of_sized {dev t : Device Obj} (roomy : dev.Roomy) {call : RxCall Obj}
    (sized : call.Sized (dev.out call.ep).maxPackSize) {packets : List (List Byte)}
    (run : Run deviceStep free dev (call.transfer packets) t) :
    ∀ read ∈ t.ctrl.reads, read.Fits := by
  obtain ⟨next, _, taken, later⟩ := run.uncons
  obtain rfl := Option.some.inj taken
  exact ((roomy.rxData sized).packets later).reads

/-- In a run that sizes its buffers every copy fits. A further SETUP packet keeps it so exactly
when it has no more than 8 bytes, and a further call keeps it so for every sequence of packets
exactly when it is sized as well. -/
theorem reads_fit {maxPackSize : Nat → Nat} {memory : Memory Obj}
    {labels : List (DeviceLabel Obj)} {s : Device Obj}
    (run : Run deviceStep Sized (Device.reset ep0PacketSize maxPackSize memory) labels s) :
    (∀ read ∈ s.ctrl.reads, read.Fits) ∧
      (∀ packet stack answer t,
        deviceStep s (.control (.setup packet stack answer)) = some t →
          ((∀ read ∈ t.ctrl.reads, read.Fits) ↔ packet.length ≤ 8)) ∧
      ∀ call : RxCall Obj, (∀ packets t, Run deviceStep free s (call.transfer packets) t →
        ∀ read ∈ t.ctrl.reads, read.Fits) ↔ call.Sized (s.out call.ep).maxPackSize := by
  have roomy := reached_roomy run
  refine ⟨roomy.reads, fun packet stack answer t taken => ?_, fun call => ?_⟩
  · simp only [deviceStep, Option.map_eq_some_iff] at taken
    obtain ⟨ctrl, moved, rfl⟩ := taken
    exact fits_setup roomy.reads moved
  · exact ⟨sized_of_fits, fun sized packets t transfer => fits_of_sized roomy sized transfer⟩

/-- An endpoint armed for a command block of 31 bytes, and a packet of 32. -/
def cbwCall : RxCall Unit := ⟨1, some ⟨(), 0⟩, 31, by decide⟩

def blankDevice : Device Unit := Device.reset 8 (fun _ => 64) fun _ _ => 0

/-- An endpoint armed for two full packets, and both of them. -/
def twoPackets : List (DeviceLabel Unit) :=
  [.rxData ⟨1, some ⟨(), 0⟩, 128, by decide⟩, .dataOut 1 (List.replicate 64 1) [],
    .dataOut 1 (List.replicate 64 2) []]

instance (call : RxCall Obj) (maxPackSize : Nat) : Decidable (call.Sized maxPackSize) := by
  unfold RxCall.Sized; infer_instance

instance (dev : Device Obj) (label : DeviceLabel Obj) : Decidable (Sized dev label) := by
  unfold Sized; split <;> infer_instance

theorem twoPackets_accepted :
    (execute deviceStep Sized blankDevice twoPackets).isSome = true := by decide

theorem reads_fit_twoPackets :
    (final deviceStep Sized blankDevice twoPackets twoPackets_accepted).ctrl.reads.length = 2 ∧
      ∀ read ∈ (final deviceStep Sized blankDevice twoPackets twoPackets_accepted).ctrl.reads,
        read.Fits :=
  ⟨by decide, (reads_fit (Run.final deviceStep Sized blankDevice twoPackets twoPackets_accepted)).1⟩

def longCommand : List (DeviceLabel Unit) := cbwCall.transfer [List.replicate 32 0]

theorem longCommand_accepted :
    (execute deviceStep free blankDevice longCommand).isSome = true := by decide

theorem longCommand_overflows :
    ¬ ∀ (labels : List (DeviceLabel Unit)) (s : Device Unit),
      Run deviceStep free blankDevice labels s → ∀ read ∈ s.ctrl.reads, read.Fits := by
  intro fits
  have reads := fits _ _ (Run.final deviceStep free blankDevice longCommand longCommand_accepted)
  exact absurd reads (by decide)

end

end ApmSdk.Usbd
