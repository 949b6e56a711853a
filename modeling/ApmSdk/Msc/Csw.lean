import ApmSdk.Msc.WriteData

set_option autoImplicit false

/-!
# One CSW for every command

A command from its CBW to its CSW, with a host that takes and sends the data and clears the
halts: how many CSWs it gets, and the residue that they report.
-/

namespace ApmSdk.Msc

open Usbd Runs Chunks

/-- The tags and the residues of the CSWs. -/
def csws : List Event → List (Nat × Nat)
  | [] => []
  | .csw dTag dDataResidue _ :: rest => (dTag, dDataResidue) :: csws rest
  | _ :: rest => csws rest

def receivedBytes : List Event → Nat
  | [] => 0
  | .received content :: rest => content.length + receivedBytes rest
  | _ :: rest => receivedBytes rest

-- The bytes queued on the IN endpoint since the state `b`.
def Bot.sentSince (b t : Bot) : Nat :=
  ((t.inEp.packets.drop b.inEp.packets.length).map List.length).sum

/-- A host that goes through the command in `b`: it sends the data that the CBW has announced in
packets of the full size, takes what is queued for it and clears what is halted. -/
def Host (b t : Bot) : Label → Prop
  | .out packet _ =>
      t.state = .dataOut ∧ 0 < packet.length ∧
        packet.length = min t.outEp.maxPackSize (b.dDataXferLen - receivedBytes (b.since t))
  | .inDone _ => True
  | .clearHalt wIndex0 =>
      if 128 ≤ wIndex0.toNat then t.inEp.txStatus = .stall else t.outEp.rxStatus = .stall
  | .reset => False

instance (b t : Bot) : (label : Label) → Decidable (Host b t label)
  | .out _ _ => inferInstanceAs (Decidable (_ ∧ _ ∧ _))
  | .inDone _ => instDecidableTrue
  | .clearHalt _ => inferInstanceAs (Decidable (ite _ _ _))
  | .reset => instDecidableFalse

-- No call of `WriteData` fails.
def Written : Label → Prop
  | .out _ storage => storage.writeData = true
  | _ => True

instance : (label : Label) → Decidable (Written label)
  | .out _ storage => inferInstanceAs (Decidable (storage.writeData = true))
  | .inDone _ => instDecidableTrue
  | .clearHalt _ => instDecidableTrue
  | .reset => instDecidableTrue

/-- The steps that bring a command on: everything but clearing the OUT halt. -/
def Onward : Label → Prop
  | .clearHalt wIndex0 => 128 ≤ wIndex0.toNat
  | _ => True

-- What the device owes the host for the command in `b`, begun in `start`.
structure Answers (cfg : Config) (b start : Bot) : Prop where
  once : ∀ labels t, Run (step cfg) (fun t label => Host b t label ∧ Written label) start labels t →
    (csws (b.since t)).length ≤ 1
  direct : ∀ csw ∈ csws (b.since start), csw = (b.dTag, b.dDataXferLen)
  exactly : ∀ labels t,
    Run (step cfg) (fun t label => Host b t label ∧ Written label) start labels t →
    csws (b.since t) = [] → ∀ label after, Host b t label → Written label →
    step cfg t label = some after → ∀ csw ∈ csws (b.since after), csw.1 = b.dTag ∧
      csw.2 + (b.sentSince t + receivedBytes (b.since after)) = b.dDataXferLen
  first : b.dDataXferLen = 0 → ∀ labels t,
    Run (step cfg) (fun t label => Host b t label ∧ Written label) start labels t →
    csws (b.since t) = [] → t.inEp.packets = b.inEp.packets
  ends : ∀ labels t,
    Run (step cfg) (fun t label => Host b t label ∧ Written label) start labels t →
    Inevitable (step cfg) (fun t label => Host b t label ∧ Written label ∧ Onward label)
      (fun t => csws (b.since t) ≠ []) t

/-- The condition on the command in `b`: one that fails does so in status NORMAL, a reply has a
host that expects data, no transfer has more packets than an eight-bit counter takes, and the
chunks of a data stage from the host are whole packets. -/
def Counted (cfg : Config) (b : Bot) (storage : Storage) : Prop :=
  match cmdHandler cfg b.started storage with
  | .fail _ => b.status = .normal
  | .ok t =>
      match t.state with
      | .dataOut =>
          b.dDataXferLen ≠ 0 ∧ min cfg.mediaPacket b.dDataXferLen ≤ 255 * b.outEp.maxPackSize ∧
            (b.dDataXferLen ≤ cfg.mediaPacket ∨ b.outEp.maxPackSize ∣ cfg.mediaPacket) ∧
            b.inEp.txStatus ≠ .valid ∧ b.inEp.txStatus ≠ .stall
      | .dataIn | .lastDataIn =>
          b.dDataXferLen ≠ 0 ∧ min cfg.mediaPacket b.dDataXferLen ≤ 256 * b.inEp.maxPackSize
      | _ => t.dataLen ≠ 0 →
          b.dDataXferLen ≠ 0 ∧ min t.dataLen b.dDataXferLen ≤ 256 * b.inEp.maxPackSize

instance (cfg : Config) (b : Bot) (storage : Storage) : Decidable (Counted cfg b storage) := by
  unfold Counted
  split
  · infer_instance
  · split <;> infer_instance

/-! ## Counting -/

theorem csws_append (earlier later : List Event) :
    csws (earlier ++ later) = csws earlier ++ csws later := by
  induction earlier with
  | nil => rfl
  | cons event rest ih => cases event <;> simp [csws, ih]

theorem receivedBytes_append (earlier later : List Event) :
    receivedBytes (earlier ++ later) = receivedBytes earlier + receivedBytes later := by
  induction earlier with
  | nil => simp [receivedBytes]
  | cons event rest ih => cases event <;> simp [receivedBytes, ih, Nat.add_assoc]

theorem le32_lt (b0 b1 b2 b3 : Byte) : le32 b0 b1 b2 b3 < 4294967296 := by
  have h0 := b0.toNat_lt
  have h1 := b1.toNat_lt
  have h2 := b2.toNat_lt
  have h3 := b3.toNat_lt
  simp only [le32]
  omega

theorem packetCount_exact {len maxPackSize : Nat} (narrow : maxPackSize < 1024)
    (fits : len ≤ 255 * maxPackSize) : packetCount len maxPackSize = pieces maxPackSize len := by
  by_cases unsized : maxPackSize = 0
  · simp [packetCount, pieces, unsized]
  · have few : (len + (maxPackSize - 1)) / maxPackSize < 256 := by
      apply Nat.div_lt_of_lt_mul
      omega
    rw [packetCount, pieces, Nat.mod_eq_of_lt (by omega : len + (maxPackSize - 1) < 4294967296),
      Nat.mod_eq_of_lt few]

/-- A transfer to the host that the packet counter can count, once its first packet is queued. -/
theorem txData_counted {ep : InEp Obj} {memory : Memory Obj} {buf : Option (Ptr Obj)} {len : Nat}
    (narrow : ep.maxPackSize < 1024) (fits : len ≤ 256 * ep.maxPackSize) :
    ∃ packet, (ep.txData memory buf len).packets = ep.packets ++ [packet] ∧
      packet.length + (ep.txData memory buf len).bufLen = len ∧
      (ep.txData memory buf len).packNum =
        pieces ep.maxPackSize (ep.txData memory buf len).bufLen := by
  unfold InEp.txData
  split
  · refine ⟨memory.read buf ep.maxPackSize, rfl, ?_, ?_⟩
    · rw [Memory.read_length]
      dsimp only
      omega
    · exact packetCount_exact narrow (by omega)
  · next short =>
    refine ⟨memory.read buf len, rfl, ?_, (pieces_zero (by omega)).symm⟩
    rw [Memory.read_length]
    exact Nat.add_zero len

theorem nextPacket_counted {ep : InEp Obj} {memory : Memory Obj} (more : ep.packNum ≠ 0)
    (positive : 0 < ep.maxPackSize) (count : ep.packNum = pieces ep.maxPackSize ep.bufLen) :
    ∃ packet, (ep.nextPacket memory).packets = ep.packets ++ [packet] ∧
      packet.length + (ep.nextPacket memory).bufLen = ep.bufLen ∧
      (ep.nextPacket memory).packNum = pieces ep.maxPackSize (ep.nextPacket memory).bufLen := by
  have some : 0 < ep.bufLen := (pieces_ne_zero positive).mp (count ▸ more)
  have next := pieces_next positive some
  refine ⟨memory.read ep.pBuf (min ep.bufLen ep.maxPackSize), rfl, ?_, ?_⟩
  · rw [Memory.read_length]
    simp only [InEp.nextPacket, InEp.queue]
    omega
  · simp only [InEp.nextPacket, InEp.queue]
    omega

/-! ## From the CBW to the CSW -/

/-- Where a command stands. -/
inductive Phase (cfg : Config) (b t : Bot) : Prop
  | done (one : (csws (b.since t)).length = 1) (state : t.state = .idle)
      (running : t.inEp.txStatus ≠ .stall)
  | halted (none : csws (b.since t) = []) (received : receivedBytes (b.since t) = 0)
      (tag : t.csw.dTag = b.dTag) (residue : t.csw.dDataResidue = b.dDataXferLen)
      (packets : t.inEp.packets = b.inEp.packets) (stopped : t.inEp.txStatus = .stall)
      (state : t.state ≠ .dataOut) (normal : t.status = .normal)
  | sending (none : csws (b.since t) = []) (received : receivedBytes (b.since t) = 0)
      (tag : t.csw.dTag = b.dTag)
      (state : t.state = .sendData ∨ t.state = .dataIn ∨ t.state = .lastDataIn)
      (running : t.inEp.txStatus = .valid) (some : b.dDataXferLen ≠ 0)
      (count : t.inEp.packNum = pieces b.inEp.maxPackSize t.inEp.bufLen)
      (queued : ∃ data, t.inEp.packets = b.inEp.packets ++ data ∧
        t.csw.dDataResidue + ((data.map List.length).sum + t.inEp.bufLen) = b.dDataXferLen)
      (left : t.state = .dataIn → t.blkLen = t.csw.dDataResidue ∧ 0 < t.blkLen ∧
        min cfg.mediaPacket b.dDataXferLen ≤ 256 * b.inEp.maxPackSize)
  | writing (none : csws (b.since t) = []) (tag : t.csw.dTag = b.dTag)
      (state : t.state = .dataOut)
      (quiet : t.inEp.txStatus ≠ .valid ∧ t.inEp.txStatus ≠ .stall)
      (packets : t.inEp.packets = b.inEp.packets) (armed : t.outEp.rxStatus = .valid)
      (residue : t.csw.dDataResidue = t.blkLen)
      (room : min (t.chunkLen cfg) b.outEp.maxPackSize ≤ rxCapacity t.outEp.rxCount)
      (fits : min cfg.mediaPacket b.dDataXferLen ≤ 255 * b.outEp.maxPackSize)
      (whole : b.dDataXferLen ≤ cfg.mediaPacket ∨ b.outEp.maxPackSize ∣ cfg.mediaPacket)
      (left : t.blkLen ≤ b.dDataXferLen)
      (gathered : ∃ count, receivedBytes (b.since t) + t.blkLen = b.dDataXferLen + count ∧
        count < t.chunkLen cfg ∧ b.outEp.maxPackSize ∣ count ∧
        t.outEp.packNum = pieces b.outEp.maxPackSize (t.chunkLen cfg - count))

/-- What bounds the steps to the CSW. -/
def Bot.toGo (t : Bot) : Nat :=
  match t.state with
  | .dataIn => t.blkLen * 256 + t.inEp.packNum
  | .dataOut => t.blkLen * 256 + t.outEp.packNum
  | _ => t.inEp.packNum

/-- What one step adds to a command. -/
structure Adds (cfg : Config) (b t : Bot) (label : Label) (after : Bot) : Prop where
  log : after.log = b.log ++ b.since after
  phase : Phase cfg b after
  exactly : csws (b.since t) = [] → ∀ csw ∈ csws (b.since after), csw.1 = b.dTag ∧
    csw.2 + (b.sentSince t + receivedBytes (b.since after)) = b.dDataXferLen
  sooner : csws (b.since t) = [] → Onward label → csws (b.since after) = [] →
    after.toGo < t.toGo

section

variable {cfg : Config} {b t after : Bot} {storage : Storage}

theorem since_same (log : after.log = t.log) : b.since after = b.since t := by
  rw [Bot.since, log]
  rfl

theorem clearOut_eq {wIndex0 : Byte} (outbound : ¬ 128 ≤ wIndex0.toNat)
    (normal : t.status ≠ .error) : clearFeatureHandler (clearHalt cfg t wIndex0) =
      { t with
        wIndex0 := wIndex0
        outEp.rxStatus :=
          if t.outEp.rxStatus = .stall then cfg.clearedOut else t.outEp.rxStatus } := by
  have status : (clearHalt cfg t wIndex0).status = t.status := by
    simp [clearHalt, outbound]
  have index : (clearHalt cfg t wIndex0).wIndex0 = wIndex0 := by
    simp [clearHalt, outbound]
  unfold clearFeatureHandler
  rw [if_neg (by rw [status]; exact normal), if_neg (by rw [index]; exact fun both => outbound both.1)]
  simp only [clearHalt, outbound, if_false]

theorem Phase.quiet (phase : Phase cfg b t) (writing : t.state ≠ .dataOut)
    (state : after.state = t.state) (status : after.status = t.status) (csw : after.csw = t.csw)
    (inEp : after.inEp = t.inEp) (blkLen : after.blkLen = t.blkLen) (log : after.log = t.log) :
    Phase cfg b after := by
  have since := since_same (b := b) log
  cases phase with
  | done one idle running =>
    refine .done ?_ (state.trans idle) ?_
    · rw [since]
      exact one
    · rw [inEp]
      exact running
  | halted none received tag residue packets stopped other normal =>
    refine .halted ?_ ?_ ?_ ?_ ?_ ?_ ?_ (status.trans normal)
    · rw [since]
      exact none
    · rw [since]
      exact received
    · rw [csw]
      exact tag
    · rw [csw]
      exact residue
    · rw [inEp]
      exact packets
    · rw [inEp]
      exact stopped
    · rw [state]
      exact other
  | sending none received tag stage running some count queued left =>
    refine .sending ?_ ?_ ?_ ?_ ?_ some ?_ ?_ ?_
    · rw [since]
      exact none
    · rw [since]
      exact received
    · rw [csw]
      exact tag
    · rw [state]
      exact stage
    · rw [inEp]
      exact running
    · rw [inEp]
      exact count
    · rw [inEp, csw]
      exact queued
    · rw [state, blkLen, csw]
      exact left
  | writing _ _ out => exact absurd out writing

theorem sentSince_eq {data : List (List Byte)}
    (packets : t.inEp.packets = b.inEp.packets ++ data) :
    b.sentSince t = (data.map List.length).sum := by
  rw [Bot.sentSince, packets, List.drop_left]

theorem adds_csw {label : Label} {events : List Event} {t' : Bot} {status : CswStatus}
    (log : t.log = b.log ++ b.since t) (none : csws (b.since t) = [])
    (added : t'.log = t.log ++ events) (quiet : csws events = [])
    (tag : t'.csw.dTag = b.dTag)
    (residue : t'.csw.dDataResidue + (b.sentSince t + receivedBytes (b.since t ++ events)) =
      b.dDataXferLen) : Adds cfg b t label (txCSW t' status) := by
  have whole : (txCSW t' status).log = t.log ++
      (events ++ [.csw t'.csw.dTag t'.csw.dDataResidue status]) := by
    rw [log_txCSW, added, List.append_assoc]
  have since := since_append log whole
  have exactly : csws (b.since (txCSW t' status)) = [(t'.csw.dTag, t'.csw.dDataResidue)] := by
    rw [since, csws_append, csws_append, none, quiet]
    rfl
  refine ⟨?_, .done ?_ rfl ?_, fun _ csw member => ?_, fun _ _ absent => ?_⟩
  · rw [since, whole, ← List.append_assoc b.log, ← log]
  · rw [exactly]
    rfl
  · rw [txStatus_txCSW]
    exact nofun
  · rw [exactly] at member
    obtain rfl := List.mem_singleton.mp member
    refine ⟨tag, ?_⟩
    rw [since, ← List.append_assoc, receivedBytes_append]
    exact residue
  · rw [exactly] at absent
    cases absent

theorem adds_clearOut {wIndex0 : Byte} (log : t.log = b.log ++ b.since t)
    (phase : Phase cfg b t) (sound : Sound t) (outbound : ¬ 128 ≤ wIndex0.toNat)
    (stopped : t.outEp.rxStatus = .stall) :
    Adds cfg b t (.clearHalt wIndex0) (clearFeatureHandler (clearHalt cfg t wIndex0)) := by
  have normal : t.status ≠ .error := fun error =>
    absurd (stopped.symm.trans (sound.refused error).2) nofun
  have writing : t.state ≠ .dataOut := by
    cases phase with
    | done _ idle =>
      rw [idle]
      exact nofun
    | halted _ _ _ _ _ _ other => exact other
    | sending _ _ _ stage =>
      rcases stage with state | state | state
      all_goals
        rw [state]
        exact nofun
    | writing _ _ _ _ _ armed => exact absurd (stopped.symm.trans armed) nofun
  rw [clearOut_eq outbound normal]
  refine ⟨log, phase.quiet writing rfl rfl rfl rfl rfl rfl, fun none csw member => ?_,
    fun _ onward => absurd onward outbound⟩
  have same : csws (b.since t) = [] := none
  have since : b.since { t with
      wIndex0 := wIndex0
      outEp.rxStatus := if t.outEp.rxStatus = .stall then cfg.clearedOut else t.outEp.rxStatus } =
      b.since t := rfl
  rw [since, same] at member
  cases member

theorem adds_halted {wIndex0 : Byte} (log : t.log = b.log ++ b.since t)
    (none : csws (b.since t) = []) (received : receivedBytes (b.since t) = 0)
    (tag : t.csw.dTag = b.dTag) (residue : t.csw.dDataResidue = b.dDataXferLen)
    (packets : t.inEp.packets = b.inEp.packets) (normal : t.status = .normal)
    (inbound : 128 ≤ wIndex0.toNat) :
    Adds cfg b t (.clearHalt wIndex0) (clearFeatureHandler (clearHalt cfg t wIndex0)) := by
  have answered : clearFeatureHandler (clearHalt cfg t wIndex0) =
      txCSW (clearHalt cfg t wIndex0) .cmdFail := by
    simp [clearFeatureHandler, clearHalt, inbound, normal]
  have cleared : (clearHalt cfg t wIndex0).csw = t.csw ∧ (clearHalt cfg t wIndex0).log = t.log := by
    simp [clearHalt, inbound]
  obtain ⟨csw, events⟩ := cleared
  have nothing : b.sentSince t = 0 := by
    rw [Bot.sentSince, packets, List.drop_length]
    rfl
  rw [answered]
  refine @adds_csw cfg b t _ [] (clearHalt cfg t wIndex0) .cmdFail log none ?_ rfl ?_ ?_
  · rw [events, List.append_nil]
  · rw [csw]
    exact tag
  · rw [csw, List.append_nil, nothing, received]
    exact residue

/-- A chunk of READ(10) that is handed to the IN endpoint. -/
theorem sending_chunk (log : t.log = b.log ++ b.since t) (positive : 0 < cfg.mediaPacket)
    (narrow : t.inEp.maxPackSize < 1024) (size : t.inEp.maxPackSize = b.inEp.maxPackSize)
    (none : csws (b.since t) = []) (received : receivedBytes (b.since t) = 0)
    (tag : t.csw.dTag = b.dTag) (state : t.state = .dataIn) (some : b.dDataXferLen ≠ 0)
    {data : List (List Byte)} (packets : t.inEp.packets = b.inEp.packets ++ data)
    (bytes : t.csw.dDataResidue + (data.map List.length).sum = b.dDataXferLen)
    (left : t.blkLen = t.csw.dDataResidue) (nonempty : 0 < t.blkLen)
    (fits : min cfg.mediaPacket b.dDataXferLen ≤ 256 * b.inEp.maxPackSize)
    (after : Bot) (next : after = (t.readCall storage (t.chunkLen cfg)).readNext (t.chunkLen cfg)) :
    after.log = b.log ++ b.since after ∧ csws (b.since after) = [] ∧ Phase cfg b after ∧
      after.toGo < t.blkLen * 256 := by
  have chunk : t.chunkLen cfg = min cfg.mediaPacket t.blkLen := rfl
  generalize t.chunkLen cfg = len at chunk next
  have bound : b.dDataXferLen < 4294967296 := le32_lt _ _ _ _
  obtain ⟨packet, queued, length, count⟩ :=
    @txData_counted t.inEp (t.readCall storage len).memory (.some ⟨.data, 0⟩) len narrow
      (by rw [size]; omega)
  have inEp : after.inEp = t.inEp.txData (t.readCall storage len).memory (.some ⟨.data, 0⟩) len := by
    rw [next]
    rfl
  have few : after.inEp.packNum < 256 := by
    rw [inEp]
    unfold InEp.txData
    split
    · exact Nat.mod_lt _ (by decide)
    · exact Nat.zero_lt_succ _
  have residue : after.csw.dDataResidue = t.csw.dDataResidue - len := by
    have wrapped : after.csw.dDataResidue =
        (4294967296 + t.csw.dDataResidue - len) % 4294967296 := by
      rw [next]
      rfl
    omega
  have blkLen : after.blkLen = t.blkLen - len := by
    rw [next]
    rfl
  have stage : after.state = if after.blkLen = 0 then .lastDataIn else .dataIn := by
    rw [next, readNext_state]
    split
    · rfl
    · exact state
  have added : after.log = t.log ++
      [.readData (UInt8.ofNat len) (t.blkAddr / t.blkSize) (len / t.blkSize)] := by
    rw [next]
    rfl
  have since := since_append log added
  have absent : csws (b.since after) = [] := by
    rw [since, csws_append, none]
    rfl
  refine ⟨?_, absent, .sending absent ?_ ?_ ?_ ?_ some ?_ ⟨data ++ [packet], ?_, ?_⟩ ?_, ?_⟩
  · rw [since, added, ← List.append_assoc b.log, ← log]
  · rw [since, receivedBytes_append, received]
    rfl
  · rw [next]
    exact tag
  · rw [stage]
    split
    · exact .inr (.inr rfl)
    · exact .inr (.inl rfl)
  · rw [next]
    exact txStatus_txData _ _ _
  · rw [inEp, ← size]
    exact count
  · rw [inEp, ← List.append_assoc, ← packets]
    exact queued
  · rw [List.map_append, List.sum_append, List.map_singleton, List.sum_singleton, residue, inEp]
    omega
  · intro reading
    rw [stage] at reading
    split at reading
    · cases reading
    · next more => exact ⟨by omega, by omega, fits⟩
  · by_cases last : after.blkLen = 0
    · rw [if_pos last] at stage
      simp only [Bot.toGo, stage]
      omega
    · rw [if_neg last] at stage
      simp only [Bot.toGo, stage]
      omega

/-- What a data stage to the host is, whatever the endpoint does with its packets. -/
structure Sending (cfg : Config) (b t : Bot) : Prop where
  none : csws (b.since t) = []
  received : receivedBytes (b.since t) = 0
  tag : t.csw.dTag = b.dTag
  state : t.state = .sendData ∨ t.state = .dataIn ∨ t.state = .lastDataIn
  some : b.dDataXferLen ≠ 0
  count : t.inEp.packNum = pieces b.inEp.maxPackSize t.inEp.bufLen
  queued : ∃ data, t.inEp.packets = b.inEp.packets ++ data ∧
    t.csw.dDataResidue + ((data.map List.length).sum + t.inEp.bufLen) = b.dDataXferLen
  left : t.state = .dataIn → t.blkLen = t.csw.dDataResidue ∧ 0 < t.blkLen ∧
    min cfg.mediaPacket b.dDataXferLen ≤ 256 * b.inEp.maxPackSize

/-- The next packet of the same transfer. -/
theorem Sending.adds_packet (sending : Sending cfg b t) (log : t.log = b.log ++ b.since t)
    (positive : 0 < t.inEp.maxPackSize) (size : t.inEp.maxPackSize = b.inEp.maxPackSize)
    (more : t.inEp.packNum ≠ 0) :
    Adds cfg b t (.inDone storage)
      { t with inEp := InEp.nextPacket { t.inEp with txStatus := .nak } t.memory } := by
  obtain ⟨none, received, tag, state, some, count, ⟨data, packets, bytes⟩, left⟩ := sending
  rw [← size] at count
  let ep : InEp Obj := { t.inEp with txStatus := .nak }
  obtain ⟨packet, next, length, count'⟩ :=
    @nextPacket_counted ep t.memory more positive count
  change Adds cfg b t (.inDone storage) { t with inEp := ep.nextPacket t.memory }
  refine ⟨log, .sending none received tag state rfl some ?_ ⟨data ++ [packet], ?_, ?_⟩ left,
    fun none' csw member => ?_, fun _ _ _ => ?_⟩
  · rw [← size]
    exact count'
  · rw [← List.append_assoc, ← packets]
    exact next
  · have length' : packet.length + (ep.nextPacket t.memory).bufLen = t.inEp.bufLen := length
    rw [List.map_append, List.sum_append, List.map_singleton, List.sum_singleton]
    dsimp only
    omega
  · have same : b.since { t with inEp := ep.nextPacket t.memory } = b.since t := rfl
    rw [same, none'] at member
    cases member
  · have fewer : (ep.nextPacket t.memory).packNum < t.inEp.packNum := Nat.sub_one_lt more
    rcases state with state | state | state
    all_goals
      simp only [Bot.toGo, state]
      omega

/-- At the end of a transfer all that is not in the residue has been sent. -/
theorem Sending.ended (sending : Sending cfg b t) (positive : 0 < b.inEp.maxPackSize)
    (done : t.inEp.packNum = 0) : ∃ data, t.inEp.packets = b.inEp.packets ++ data ∧
      t.csw.dDataResidue + (data.map List.length).sum = b.dDataXferLen := by
  obtain ⟨data, packets, bytes⟩ := sending.queued
  have empty : t.inEp.bufLen = 0 := by
    by_contra rest
    exact (pieces_ne_zero positive).mpr (Nat.pos_of_ne_zero rest) (sending.count.symm.trans done)
  rw [empty, Nat.add_zero] at bytes
  exact ⟨data, packets, bytes⟩

theorem Sending.residue (sending : Sending cfg b t) (positive : 0 < b.inEp.maxPackSize)
    (done : t.inEp.packNum = 0) (events : List Event) (quiet : receivedBytes events = 0) :
    t.csw.dDataResidue + (b.sentSince t + receivedBytes (b.since t ++ events)) =
      b.dDataXferLen := by
  obtain ⟨data, packets, bytes⟩ := sending.ended positive done
  rw [receivedBytes_append, sending.received, quiet, sentSince_eq packets]
  exact bytes

/-- The next chunk of READ(10). -/
theorem Sending.adds_read (sending : Sending cfg b t) (log : t.log = b.log ++ b.since t)
    (buffer : 0 < cfg.mediaPacket) (positive : 0 < b.inEp.maxPackSize)
    (narrow : t.inEp.maxPackSize < 1024) (size : t.inEp.maxPackSize = b.inEp.maxPackSize)
    (done : t.inEp.packNum = 0) (reading : t.state = .dataIn)
    (read : opcode (t.command 0) = .read10) :
    Adds cfg b t (.inDone storage) (inData cfg { t with inEp.txStatus := .nak } storage) := by
  obtain ⟨left, nonempty, fits⟩ := sending.left reading
  obtain ⟨data, packets, bytes⟩ := sending.ended positive done
  have resting : Bot.state { t with inEp.txStatus := .nak } = .dataIn := reading
  rw [inData_scsiRead resting read]
  unfold scsiRead
  cases storage.readData with
  | false =>
    refine @adds_csw cfg b t _ [.readData _ _ _] _ .cmdFail log sending.none rfl rfl sending.tag ?_
    exact sending.residue positive done _ rfl
  | true =>
    let waiting : Bot :=
      { t with inEp.txStatus := .nak, dataLen := cfg.mediaPacket % 65536 }
    obtain ⟨log', absent, phase, smaller⟩ := @sending_chunk cfg b waiting storage log buffer
      narrow size sending.none sending.received sending.tag reading sending.some data packets bytes
      left nonempty fits _ rfl
    refine ⟨log', phase, fun _ csw member => ?_, fun _ _ _ => ?_⟩
    · have same : csws (b.since ((waiting.readCall storage (waiting.chunkLen cfg)).readNext
        (waiting.chunkLen cfg))) = [] := absent
      simp only [Bool.not_true, Bool.false_eq_true, if_false] at member
      rw [same] at member
      cases member
    · have before : t.toGo = t.blkLen * 256 + t.inEp.packNum := by
        rw [Bot.toGo, reading]
      rw [before]
      exact Nat.lt_of_lt_of_le smaller (Nat.le_add_right _ _)

/-- The end of a packet that the host has taken. -/
theorem Sending.adds_sent (sending : Sending cfg b t) (log : t.log = b.log ++ b.since t)
    (sound : Sound t) (buffer : 0 < cfg.mediaPacket) (positive : 0 < t.inEp.maxPackSize)
    (narrow : t.inEp.maxPackSize < 1024) (size : t.inEp.maxPackSize = b.inEp.maxPackSize) :
    Adds cfg b t (.inDone storage)
      (dataInProcess cfg { t with inEp.txStatus := .nak } storage) := by
  by_cases more : t.inEp.packNum ≠ 0
  · have sent : dataInProcess cfg { t with inEp.txStatus := .nak } storage =
        { t with inEp := InEp.nextPacket { t.inEp with txStatus := .nak } t.memory } :=
      if_pos more
    rw [sent]
    exact sending.adds_packet log positive size more
  · have done : t.inEp.packNum = 0 := not_not.mp more
    have positive : 0 < b.inEp.maxPackSize := size ▸ positive
    have ended : dataInProcess cfg { t with inEp.txStatus := .nak } storage =
        inData cfg { t with inEp.txStatus := .nak } storage := if_neg more
    rw [ended]
    have last (waits : t.state = .sendData ∨ t.state = .lastDataIn) :
        Adds cfg b t (.inDone storage) (inData cfg { t with inEp.txStatus := .nak } storage) := by
      have answered : inData cfg { t with inEp.txStatus := .nak } storage =
          txCSW { t with inEp.txStatus := .nak } .cmdOk := by
        rcases waits with state | state <;> simp only [inData, state]
      rw [answered]
      exact adds_csw log sending.none (List.append_nil t.log).symm rfl sending.tag
        (sending.residue positive done [] rfl)
    rcases sending.state with state | state | state
    · exact last (.inl state)
    · exact sending.adds_read log buffer positive narrow size done state (sound.reading state)
    · exact last (.inr state)

/-- What a write to the medium is, whatever has arrived of its chunk. -/
structure Storing (cfg : Config) (b t : Bot) : Prop where
  tag : t.csw.dTag = b.dTag
  state : t.state = .dataOut
  quiet : t.inEp.txStatus ≠ .valid ∧ t.inEp.txStatus ≠ .stall
  packets : t.inEp.packets = b.inEp.packets
  residue : t.csw.dDataResidue = t.blkLen
  fits : min cfg.mediaPacket b.dDataXferLen ≤ 255 * b.outEp.maxPackSize
  whole : b.dDataXferLen ≤ cfg.mediaPacket ∨ b.outEp.maxPackSize ∣ cfg.mediaPacket
  left : t.blkLen ≤ b.dDataXferLen

theorem Storing.stored (storing : Storing cfg b t) (packet : List Byte) :
    Storing cfg b (t.stored packet) :=
  ⟨storing.tag, storing.state, storing.quiet, storing.packets, storing.residue, storing.fits,
    storing.whole, storing.left⟩

theorem Storing.sent (storing : Storing cfg b t) : b.sentSince t = 0 := by
  rw [Bot.sentSince, storing.packets, List.drop_length]
  rfl

/-- The next chunk is asked for. -/
theorem Storing.asked (storing : Storing cfg b t) (narrow : t.outEp.maxPackSize < 1024)
    (positive : 0 < cfg.mediaPacket) (size : t.outEp.maxPackSize = b.outEp.maxPackSize)
    (none : csws (b.since t) = []) (nonempty : 0 < t.blkLen)
    (received : receivedBytes (b.since t) + t.blkLen = b.dDataXferLen) :
    Phase cfg b (t.rxData .data (t.chunkLen cfg)) ∧
      (t.rxData .data (t.chunkLen cfg)).toGo < t.blkLen * 256 + 256 := by
  obtain ⟨tag, state, quiet, packets, residue, fits, whole, left⟩ := storing
  have chunk : t.chunkLen cfg = min cfg.mediaPacket t.blkLen := rfl
  have packNum : (t.rxData .data (t.chunkLen cfg)).outEp.packNum =
      packetCount (t.chunkLen cfg) t.outEp.maxPackSize := rfl
  constructor
  · refine .writing none tag state quiet packets rfl residue ?_ fits whole left
      ⟨0, received, ?_, dvd_zero _, ?_⟩
    · have room : min (t.chunkLen cfg) t.outEp.maxPackSize ≤
          armed (min (t.chunkLen cfg) t.outEp.maxPackSize) := le_armed (by omega)
      rw [← size]
      exact room
    · have same : (t.rxData .data (t.chunkLen cfg)).chunkLen cfg = t.chunkLen cfg := rfl
      rw [same]
      omega
    · rw [packNum, Nat.sub_zero, size]
      exact packetCount_exact (by omega) (by omega)
  · have few : packetCount (t.chunkLen cfg) t.outEp.maxPackSize < 256 := Nat.mod_lt _ (by decide)
    have stage : (t.rxData .data (t.chunkLen cfg)).state = .dataOut := state
    have same : (t.rxData .data (t.chunkLen cfg)).blkLen = t.blkLen := rfl
    rw [Bot.toGo, stage, packNum, same]
    dsimp only
    omega

/-- What a host packet of the full size is for a chunk with `left` bytes to come. -/
theorem host_packet {media maxPackSize blkLen count total : Nat} (positive : 0 < maxPackSize)
    (whole : total ≤ media ∨ maxPackSize ∣ media) (aligned : maxPackSize ∣ count)
    (bounded : blkLen ≤ total) (more : count < min media blkLen) :
    min maxPackSize (blkLen - count) = min maxPackSize (min media blkLen - count) := by
  by_cases last : blkLen ≤ media
  · rw [Nat.min_eq_right last]
  · have divides : maxPackSize ∣ media - count :=
      Nat.dvd_sub (whole.resolve_left (by omega)) aligned
    have full : maxPackSize ≤ media - count := Nat.le_of_dvd (by omega) divides
    omega

theorem toGo_shrinks {total len : Nat} (some : 0 < len) (fits : len ≤ total) :
    (total - len) * 256 + 256 ≤ total * 256 := by omega

/-- A whole chunk in the data buffer, the last of its packets just stored. -/
theorem Storing.adds_chunk {label : Label} {arrived : List Event} (storing : Storing cfg b after)
    (log : b.log ++ b.since t = t.log) (none : csws (b.since t) = [])
    (stored : after.log = t.log ++ arrived) (quiet : csws arrived = [])
    (narrow : after.outEp.maxPackSize < 1024) (positive : 0 < cfg.mediaPacket)
    (size : after.outEp.maxPackSize = b.outEp.maxPackSize) (sent : b.sentSince t = 0)
    (nonempty : 0 < after.blkLen)
    (received : receivedBytes (b.since t) + receivedBytes arrived + after.blkLen =
      b.dDataXferLen + after.chunkLen cfg)
    (toGo : after.blkLen * 256 ≤ t.toGo)
    (write : opcode (after.command 0) = .write10) (written : storage.writeData = true) :
    Adds cfg b t label (outData cfg after storage) := by
  have residue := storing.residue
  have left := storing.left
  have chunk : after.chunkLen cfg = min cfg.mediaPacket after.blkLen := rfl
  have bound : b.dDataXferLen < 4294967296 := le32_lt _ _ _ _
  obtain ⟨next, step⟩ : ∃ next : Bot,
      next = (after.writeCall (after.chunkLen cfg)).advance (after.chunkLen cfg) := ⟨_, rfl⟩
  have residue' : next.csw.dDataResidue = after.blkLen - after.chunkLen cfg := by
    have wrapped : next.csw.dDataResidue =
        (4294967296 + after.csw.dDataResidue - after.chunkLen cfg) % 4294967296 := by
      rw [step]
      rfl
    omega
  have blkLen : next.blkLen = after.blkLen - after.chunkLen cfg := by
    rw [step]
    rfl
  have room : next.blkLen * 256 + 256 ≤ after.blkLen * 256 := by
    rw [blkLen]
    exact toGo_shrinks (Nat.lt_min.mpr ⟨positive, nonempty⟩) (Nat.min_le_right _ _)
  have added : next.log = t.log ++ (arrived ++ [.writeData after.bLUN (after.blkAddr / after.blkSize)
      (after.chunkLen cfg / after.blkSize)
      ((List.range (after.chunkLen cfg)).map after.data)]) := by
    rw [← List.append_assoc, ← stored, step]
    rfl
  have since := since_append log.symm added
  have handled : outData cfg after storage =
      if next.blkLen ≠ 0 then next.rxData .data (next.chunkLen cfg) else txCSW next .cmdOk := by
    rw [outData_scsiWrite storing.state write, step]
    simp only [scsiWrite, written, Bool.not_true, Bool.false_eq_true, if_false]
    rfl
  have silent : csws (arrived ++ [.writeData after.bLUN (after.blkAddr / after.blkSize)
      (after.chunkLen cfg / after.blkSize)
      ((List.range (after.chunkLen cfg)).map after.data)]) = [] := by
    rw [csws_append, quiet]
    rfl
  have count : receivedBytes (b.since t ++ (arrived ++ [.writeData after.bLUN
      (after.blkAddr / after.blkSize) (after.chunkLen cfg / after.blkSize)
      ((List.range (after.chunkLen cfg)).map after.data)])) =
      receivedBytes (b.since t) + receivedBytes arrived := by
    rw [receivedBytes_append, receivedBytes_append]
    rfl
  rw [handled]
  by_cases more : next.blkLen ≠ 0
  · rw [if_pos more]
    have absent : csws (b.since next) = [] := by
      rw [since, csws_append, none, silent]
      rfl
    have onward : Storing cfg b next := by
      refine ⟨?_, ?_, ?_, ?_, by omega, storing.fits, storing.whole, by omega⟩
      · rw [step]
        exact storing.tag
      · rw [step]
        exact storing.state
      · rw [step]
        exact storing.quiet
      · rw [step]
        exact storing.packets
    obtain ⟨phase, smaller⟩ := onward.asked (by rw [step]; exact narrow) positive
      (by rw [step]; exact size) absent (by omega) (by rw [since, count]; omega)
    have same : b.since (next.rxData .data (next.chunkLen cfg)) = b.since next := rfl
    refine ⟨?_, phase, fun _ csw member => ?_, fun _ _ _ => ?_⟩
    · rw [log_rxData, same, since, added, ← List.append_assoc b.log, log]
    · rw [same, absent] at member
      cases member
    · exact Nat.lt_of_lt_of_le (Nat.lt_of_lt_of_le smaller room) toGo
  · rw [if_neg more]
    apply adds_csw log.symm none added silent
    · rw [step]
      exact storing.tag
    · rw [count, sent]
      omega

/-- `count` bytes of the chunk have come from the host. -/
structure Gathered (cfg : Config) (b t : Bot) (count : Nat) : Prop where
  received : receivedBytes (b.since t) + t.blkLen = b.dDataXferLen + count
  few : count < t.chunkLen cfg
  aligned : b.outEp.maxPackSize ∣ count
  packNum : t.outEp.packNum = pieces b.outEp.maxPackSize (t.chunkLen cfg - count)

/-- The packet that the host sends is the next of the chunk. -/
theorem Gathered.packet {count : Nat} (gathered : Gathered cfg b t count)
    (storing : Storing cfg b t) (positive : 0 < b.outEp.maxPackSize) :
    min b.outEp.maxPackSize (b.dDataXferLen - receivedBytes (b.since t)) =
      min b.outEp.maxPackSize (t.chunkLen cfg - count) := by
  have received := gathered.received
  have expected : b.dDataXferLen - receivedBytes (b.since t) = t.blkLen - count := by omega
  rw [expected]
  exact host_packet positive storing.whole gathered.aligned storing.left gathered.few

theorem Gathered.next {count : Nat} (gathered : Gathered cfg b t count)
    (positive : 0 < b.outEp.maxPackSize) : t.outEp.packNum = pieces b.outEp.maxPackSize
      (t.chunkLen cfg - count - min (t.chunkLen cfg - count) b.outEp.maxPackSize) + 1 := by
  have some : 0 < t.chunkLen cfg - count := Nat.sub_pos_of_lt gathered.few
  exact gathered.packNum.trans (pieces_next positive some).symm

/-- The packet that completes a chunk. -/
theorem Storing.adds_last {count : Nat} {packet : List Byte} (storing : Storing cfg b t)
    (gathered : Gathered cfg b t count) (log : t.log = b.log ++ b.since t)
    (none : csws (b.since t) = []) (narrow : t.outEp.maxPackSize < 1024)
    (buffer : 0 < cfg.mediaPacket) (size : t.outEp.maxPackSize = b.outEp.maxPackSize)
    (length : packet.length = t.chunkLen cfg - count)
    (write : opcode ((t.stored packet).command 0) = .write10)
    (written : storage.writeData = true) :
    Adds cfg b t (.out packet storage) (outData cfg (t.stored packet) storage) := by
  obtain ⟨received, few, -, -⟩ := gathered
  have chunk : t.chunkLen cfg = min cfg.mediaPacket t.blkLen := rfl
  have sizes : (t.stored packet).outEp.maxPackSize = t.outEp.maxPackSize :=
    congrArg Prod.snd (sizes_stored packet)
  have blkLen : (t.stored packet).blkLen = t.blkLen := rfl
  have chunkLen : (t.stored packet).chunkLen cfg = t.chunkLen cfg := rfl
  refine (storing.stored packet).adds_chunk log.symm none (log_stored storing.state packet) rfl
    (sizes ▸ narrow) buffer (sizes.trans size) storing.sent ?_ ?_ ?_ write written
  · rw [blkLen]
    omega
  · rw [blkLen, chunkLen]
    simp only [receivedBytes]
    omega
  · rw [blkLen, Bot.toGo, storing.state]
    exact Nat.le_add_right _ _

/-- A packet that more of the chunk come after. -/
theorem Storing.adds_packet {count : Nat} {packet : List Byte} (storing : Storing cfg b t)
    (gathered : Gathered cfg b t count) (log : t.log = b.log ++ b.since t)
    (none : csws (b.since t) = [])
    (room : min (t.chunkLen cfg) b.outEp.maxPackSize ≤ rxCapacity (t.stored packet).outEp.rxCount)
    (armed : (t.stored packet).outEp.rxStatus = .valid)
    (more : b.outEp.maxPackSize < t.chunkLen cfg - count)
    (length : packet.length = b.outEp.maxPackSize)
    (rest : (t.stored packet).outEp.packNum =
      pieces b.outEp.maxPackSize (t.chunkLen cfg - count - b.outEp.maxPackSize))
    (fewer : (t.stored packet).outEp.packNum < t.outEp.packNum) :
    Adds cfg b t (.out packet storage) (t.stored packet) := by
  obtain ⟨received, few, aligned, packNum⟩ := gathered
  have chunk : t.chunkLen cfg = min cfg.mediaPacket t.blkLen := rfl
  have arrived := log_stored storing.state packet
  have since := since_append log arrived
  have blkLen : (t.stored packet).blkLen = t.blkLen := rfl
  have chunkLen : (t.stored packet).chunkLen cfg = t.chunkLen cfg := rfl
  have absent : csws (b.since (t.stored packet)) = [] := by
    rw [since, csws_append, none]
    rfl
  have bytes : receivedBytes (b.since (t.stored packet)) =
      receivedBytes (b.since t) + b.outEp.maxPackSize := by
    rw [since, receivedBytes_append, ← length]
    simp only [receivedBytes, Nat.add_zero]
  obtain ⟨tag, state, quiet, packets, residue, fits, whole, left⟩ := storing.stored packet
  refine ⟨?_, .writing absent tag state quiet packets armed residue room fits whole left
    ⟨count + b.outEp.maxPackSize, ?_, ?_, Nat.dvd_add aligned (dvd_refl _), ?_⟩,
    fun _ csw member => ?_, fun _ _ _ => ?_⟩
  · rw [since, arrived, ← List.append_assoc, ← log]
  · rw [blkLen, bytes]
    omega
  · rw [chunkLen]
    omega
  · rw [chunkLen, rest]
    congr 1
    omega
  · rw [absent] at member
    cases member
  · simp only [Bot.toGo, state, storing.state, blkLen]
    omega

/-- A packet of the data stage from the host. -/
theorem adds_out {packet : List Byte} (log : t.log = b.log ++ b.since t) (sound : Sound t)
    (narrow : t.outEp.maxPackSize < 1024) (positive : 0 < t.outEp.maxPackSize)
    (buffer : 0 < cfg.mediaPacket) (size : t.outEp.maxPackSize = b.outEp.maxPackSize)
    (phase : Phase cfg b t) (host : Host b t (.out packet storage))
    (written : storage.writeData = true) :
    Adds cfg b t (.out packet storage) (dataOutProcess cfg t packet storage) := by
  obtain ⟨state, some, length⟩ := host
  cases phase with
  | done _ idle => exact absurd (idle.symm.trans state) nofun
  | halted _ _ _ _ _ _ other => exact absurd state other
  | sending _ _ _ stage =>
    rw [state] at stage
    exact absurd stage (by decide)
  | writing none tag _ quiet packets armed residue room fits whole left gathered =>
    obtain ⟨count, received, few, aligned, packNum⟩ := gathered
    have storing : Storing cfg b t := ⟨tag, state, quiet, packets, residue, fits, whole, left⟩
    have gathered : Gathered cfg b t count := ⟨received, few, aligned, packNum⟩
    have positive : 0 < b.outEp.maxPackSize := size ▸ positive
    rw [size, gathered.packet storing positive] at length
    have counted := gathered.next positive
    have nonempty : packet ≠ [] := List.ne_nil_of_length_pos some
    obtain ⟨rest, rxCount⟩ := sound.counted state counted nonempty
    simp only [dataOutProcess]
    by_cases last : (t.stored packet).outEp.packNum = 0
    · rw [if_pos last]
      have all : t.chunkLen cfg - count ≤ b.outEp.maxPackSize := by
        rw [last] at rest
        by_contra long
        exact (pieces_ne_zero positive).mpr (by omega) rest.symm
      exact storing.adds_last gathered log none narrow buffer size
        (length.trans (Nat.min_eq_right all)) ((sound.stored armed packet).writing state) written
    · rw [if_neg last]
      have more : b.outEp.maxPackSize < t.chunkLen cfg - count := by
        by_contra short
        rw [Nat.min_eq_left (Nat.le_of_not_lt short), Nat.sub_self, pieces_zero positive] at rest
        exact last rest
      have armed : (t.stored packet).outEp.rxStatus = .valid := by
        rw [outEp_stored] at last ⊢
        rw [OutEp.rxStatus_receive, if_neg last]
      rw [← rxCount] at room
      refine storing.adds_packet gathered log none room armed more
        (length.trans (Nat.min_eq_left more.le)) ?_ ?_
      · rw [rest, Nat.min_eq_right more.le]
      · rw [counted, rest]
        exact Nat.lt_succ_self _

/-- What a command keeps. -/
structure InHand (cfg : Config) (b t : Bot) : Prop where
  sound : Sound t
  sizes : t.sizes = b.sizes
  log : t.log = b.log ++ b.since t
  phase : Phase cfg b t

/-- Packet sizes of a full-speed endpoint. -/
structure FullSpeed (b : Bot) : Prop where
  inPositive : 0 < b.inEp.maxPackSize
  inNarrow : b.inEp.maxPackSize < 1024
  outPositive : 0 < b.outEp.maxPackSize
  outNarrow : b.outEp.maxPackSize < 1024

theorem InHand.adds {label : Label} (hand : InHand cfg b t) (speed : FullSpeed b)
    (buffer : 0 < cfg.mediaPacket) (host : Host b t label) (written : Written label)
    (taken : step cfg t label = some after) : Adds cfg b t label after := by
  obtain ⟨sound, sizes, log, phase⟩ := hand
  have inSize : t.inEp.maxPackSize = b.inEp.maxPackSize := congrArg Prod.fst sizes
  have outSize : t.outEp.maxPackSize = b.outEp.maxPackSize := congrArg Prod.snd sizes
  cases label with
  | out packet storage =>
    obtain ⟨_, rfl⟩ := step_out taken
    exact adds_out log sound (by rw [outSize]; exact speed.outNarrow)
      (by rw [outSize]; exact speed.outPositive) buffer outSize phase host written
  | inDone storage =>
    obtain ⟨valid, rfl⟩ := step_inDone taken
    cases phase with
    | done one idle running =>
      have answered (ep : InEp Obj) (status : ep.txStatus ≠ .stall) :
          Adds cfg b t (.inDone storage) { t with inEp := ep } := by
        have some : csws (b.since t) ≠ [] := by
          intro none
          rw [none] at one
          cases one
        exact ⟨log, .done one idle status, fun none => absurd none some,
          fun none => absurd none some⟩
      have sending : EpStatus.valid ≠ .stall := by decide
      have waiting : EpStatus.nak ≠ .stall := by decide
      simp only [dataInProcess]
      split
      · exact answered _ sending
      · have resting : Bot.state { t with inEp.txStatus := .nak } = .idle := idle
        have same : inData cfg { t with inEp.txStatus := .nak } storage =
            { t with inEp.txStatus := .nak } := by
          unfold inData
          rw [resting]
        rw [same]
        exact answered _ waiting
    | halted _ _ _ _ _ stopped => cases valid.symm.trans stopped
    | sending none received tag state _ some count queued left =>
      have sending : Sending cfg b t :=
        ⟨none, received, tag, state, some, count, queued, left⟩
      exact sending.adds_sent log sound buffer (by rw [inSize]; exact speed.inPositive)
        (by rw [inSize]; exact speed.inNarrow) inSize
    | writing _ _ _ quiet => exact absurd valid quiet.1
  | clearHalt wIndex0 =>
    obtain rfl := Option.some.inj taken
    by_cases inbound : 128 ≤ wIndex0.toNat
    · have stopped : t.inEp.txStatus = .stall := by
        rw [Host, if_pos inbound] at host
        exact host
      cases phase with
      | done _ _ running => exact absurd stopped running
      | halted none received tag residue packets _ _ normal =>
        exact adds_halted log none received tag residue packets normal inbound
      | sending _ _ _ _ running => cases stopped.symm.trans running
      | writing _ _ _ quiet => exact absurd stopped quiet.2
    · have stopped : t.outEp.rxStatus = .stall := by
        rw [Host, if_neg inbound] at host
        exact host
      exact adds_clearOut log phase sound inbound stopped
  | reset => exact absurd host id

theorem InHand.step {label : Label} (hand : InHand cfg b t) (speed : FullSpeed b)
    (buffer : 0 < cfg.mediaPacket) (host : Host b t label) (written : Written label)
    (taken : Msc.step cfg t label = some after) : InHand cfg b after := by
  have adds := hand.adds speed buffer host written taken
  exact ⟨hand.sound.step taken, (sizes_step hand.sound taken).trans hand.sizes, adds.log,
    adds.phase⟩

theorem Phase.once (phase : Phase cfg b t) : (csws (b.since t)).length ≤ 1 := by
  cases phase with
  | done one => exact one.le
  | halted none =>
    rw [none]
    exact Nat.zero_le 1
  | sending none =>
    rw [none]
    exact Nat.zero_le 1
  | writing none =>
    rw [none]
    exact Nat.zero_le 1

theorem Phase.first (phase : Phase cfg b t) (none : csws (b.since t) = [])
    (empty : b.dDataXferLen = 0) : t.inEp.packets = b.inEp.packets := by
  cases phase with
  | done one =>
    rw [none] at one
    cases one
  | halted _ _ _ _ packets => exact packets
  | sending _ _ _ _ _ some => exact absurd empty some
  | writing _ _ _ _ packets => exact packets

/-- Before the CSW there is always something for the host to do. -/
theorem InHand.goes (hand : InHand cfg b t) (speed : FullSpeed b) (storage : Storage)
    (written : storage.writeData = true) (none : csws (b.since t) = []) :
    ∃ label next, (Host b t label ∧ Written label ∧ Onward label) ∧
      Msc.step cfg t label = some next := by
  obtain ⟨sound, sizes, log, phase⟩ := hand
  cases phase with
  | done one =>
    rw [none] at one
    cases one
  | halted _ _ _ _ _ stopped =>
    refine ⟨.clearHalt 128, _, ⟨?_, trivial, ?_⟩, rfl⟩
    · rw [Host, if_pos (by decide)]
      exact stopped
    · show 128 ≤ _
      decide
  | sending _ _ _ _ running =>
    exact ⟨.inDone storage, _, ⟨trivial, trivial, trivial⟩, if_pos running⟩
  | writing _ _ state _ _ armed _ room _ whole left gathered =>
    obtain ⟨count, received, few, aligned, _⟩ := gathered
    have size : t.outEp.maxPackSize = b.outEp.maxPackSize := congrArg Prod.snd sizes
    have chunk : t.chunkLen cfg = min cfg.mediaPacket t.blkLen := rfl
    rw [chunk] at few room
    have packet := host_packet speed.outPositive whole aligned left few
    have expected : b.dDataXferLen - receivedBytes (b.since t) = t.blkLen - count := by omega
    have positive := speed.outPositive
    generalize total : min cfg.mediaPacket t.blkLen = len at few room packet
    generalize length : min t.outEp.maxPackSize
      (b.dDataXferLen - receivedBytes (b.since t)) = bytes
    rw [expected, size, packet] at length
    have taken : t.outEp.rxStatus = .valid ∧
        (List.replicate bytes (0 : Byte)).length ≤ rxCapacity t.outEp.rxCount := by
      rw [List.length_replicate]
      exact ⟨armed, by omega⟩
    refine ⟨.out (List.replicate bytes 0) storage, _, ⟨⟨state, ?_, ?_⟩, written, trivial⟩,
      if_pos taken⟩
    · rw [List.length_replicate]
      omega
    · rw [List.length_replicate, expected, size, packet]
      exact length.symm

theorem InHand.answers {start : Bot} (hand : InHand cfg b start) (speed : FullSpeed b)
    (buffer : 0 < cfg.mediaPacket)
    (direct : ∀ csw ∈ csws (b.since start), csw = (b.dTag, b.dDataXferLen))
    (storage : Storage) (written : storage.writeData = true) : Answers cfg b start := by
  have held {labels : List Label} {t : Bot}
      (run : Run (Msc.step cfg) (fun t label => Host b t label ∧ Written label) start labels t) :
      InHand cfg b t :=
    run.invariant (InHand cfg b) hand fun before label after hand admitted taken =>
      hand.step speed buffer admitted.1 admitted.2 taken
  refine ⟨fun labels t run => (held run).phase.once, direct, ?_, ?_, ?_⟩
  · intro labels t run none label after host written taken
    exact ((held run).adds speed buffer host written taken).exactly none
  · intro empty labels t run none
    exact (held run).phase.first none empty
  · intro labels t run
    apply Inevitable.of_measure Bot.toGo _ _ (held run)
    · intro t hand pending
      exact hand.goes speed storage written (not_not.mp pending)
    · intro t label next hand pending ⟨host, written, onward⟩ taken
      have adds := hand.adds speed buffer host written taken
      exact ⟨hand.step speed buffer host written taken, fun later =>
        adds.sooner (not_not.mp pending) onward (not_not.mp later)⟩

/-! ## The CBW -/

end

end ApmSdk.Msc
