import ApmSdk.Lib.Padding
import ApmSdk.Usbd.Answered
import ApmSdk.Usbd.Transfer

set_option autoImplicit false

/-!
# What the data stages of endpoint 0 touch

The bytes that `USBD_WriteDataToEP` and `USBD_ReadDataFromEP` read and write for the requests of
the standard dispatcher and of the CDC class handler.
-/

namespace ApmSdk.Usbd

open Runs Chunks Padding

/-- The packet size of a full speed endpoint 0. -/
structure Ep0Size where
  bytes : Nat
  allowed : bytes = 8 ∨ bytes = 16 ∨ bytes = 32 ∨ bytes = 64

inductive Access (Obj : Type) where
  | read (buf : Option (Ptr Obj)) (count : Nat)
  | write (buf : Option (Ptr Obj)) (count : Nat)

def Within {Obj : Type} (extent : Obj → Nat) (buf : Option (Ptr Obj)) (count : Nat) : Prop :=
  count = 0 ∨ ∃ pointer, buf = some pointer ∧ pointer.offset + count ≤ extent pointer.obj

/-- The bytes lie in the objects that may be read, and written. -/
def Access.Inside {Obj : Type} (readable writable : Obj → Nat) : Access Obj → Prop
  | .read buf count => Within readable buf count
  | .write buf count => Within writable buf count

/-! ## The requests -/

/-- What the standard dispatcher calls, without an exception handler. -/
def standardCall (config : Config) (request : DevReqData) : Option (Call Object) :=
  if config.Rejects request then some .stall
  else
    match request.bRequest.toNat with
    | 0 => some (.inData (some ⟨.status, 0⟩) 2)
    | 6 =>
        match request.wValue1.toNat with
        | 1 => some (.inData (some ⟨.deviceDesc, 0⟩)
            (min request.wLength config.deviceDesc.toNat))
        | 2 => some (.inData (some ⟨.configurationDesc, 0⟩)
            (min request.wLength config.configurationDesc.toNat))
        | _ => some (.inData (some ⟨.stringDesc request.wValue0.toNat, 0⟩)
            (min request.wLength ((config.stringDesc[request.wValue0.toNat]?).getD 0).toNat))
    | 8 => some (.inData (some ⟨.curConfiguration, 0⟩) 1)
    | 5 | 9 => some (.inData none 0)
    | _ => none

def cdcCall (request : DevReqData) : Option (Call Object) :=
  if request.wLength = 0 then
    if request.dirIn then some (.outData none 0) else some (.inData none 0)
  else
    match request.bRequest.toNat with
    | 0x20 => some (.outData (some ⟨.cmdBuf, 0⟩) request.wLength)
    | 0x21 => some (.inData (some ⟨.cmdBuf, 0⟩) request.wLength)
    | 0x22 => some (.outData (some ⟨.cmdBuf, 0⟩) request.wLength)
    | _ => none

/-- What a SETUP packet makes the device call; there is no vendor handler. -/
def setupCall (config : Config) (request : DevReqData) : Option (Call Object) :=
  match request.type with
  | 0 => standardCall config request
  | 1 => cdcCall request
  | 2 => none
  | _ => some .stall

def cdcDevice (config : Config) : Requests Object :=
  Handlers.requests
    { stdReqExceptionHandler := none
      classReqHandler := some (ClassHandler.cdc.handler config)
      vendorReqHandler := none } config

def Dev.answer (dev : Dev Object) : Option (Call Object) → Dev Object
  | some call => call.run dev
  | none => dev

theorem standardResult_call {config : Config} {dev : Dev Object}
    (accepted : ¬ config.Rejects dev.reqData) : ∃ memory, standardResult config dev =
      (Dev.answer { dev with memory := memory } (standardCall config dev.reqData), true) := by
  rw [standardCall, if_neg accepted]
  unfold Config.Rejects at accepted
  unfold standardResult
  split at accepted
  · next request =>
    simp only [request, standardGetStatus]
    split
    · exact ⟨_, rfl⟩
    · exact ⟨_, rfl⟩
    · exact ⟨_, rfl⟩
    · next device interface endpoint =>
      obtain zero | one | two : dev.reqData.recipient = 0 ∨ dev.reqData.recipient = 1 ∨
          dev.reqData.recipient = 2 := by omega
      · exact absurd zero device
      · exact absurd one interface
      · exact absurd two endpoint
  · next request =>
    simp only [request, standardSetAddress, not_not.mp accepted]
    exact ⟨dev.memory, rfl⟩
  · next request =>
    simp only [request, standardGetDescriptor]
    rcases not_not.mp accepted with device | configuration | ⟨string, within⟩
    · simp only [device]
      exact ⟨dev.memory, rfl⟩
    · simp only [configuration]
      exact ⟨dev.memory, rfl⟩
    · simp only [string, List.getElem?_eq_getElem within]
      exact ⟨dev.memory, rfl⟩
  · next request =>
    simp only [request, standardGetConfiguration, not_not.mp accepted]
    exact ⟨dev.memory, rfl⟩
  · next request =>
    simp only [request, standardSetConfiguration, not_not.mp accepted]
    exact ⟨_, rfl⟩
  · exact absurd trivial accepted
  · exact absurd trivial accepted
  · exact absurd trivial accepted
  · exact absurd trivial accepted
  · refine ⟨dev.memory, ?_⟩
    split <;> simp_all [standardSetFeature, Dev.answer]

theorem standardReqeust_call (config : Config) (dev : Dev Object) :
    ∃ memory, standardReqeust config none dev =
      Dev.answer { dev with memory := memory } (standardCall config dev.reqData) := by
  unfold standardReqeust
  by_cases rejected : config.Rejects dev.reqData
  · rw [standardResult_rejected rejected, standardCall, if_pos rejected]
    exact ⟨dev.memory, rfl⟩
  · obtain ⟨memory, result⟩ := standardResult_call rejected
    rw [result]
    exact ⟨memory, rfl⟩

theorem cdcClassHandler_call (dev : Dev Object) :
    cdcClassHandler dev = dev.answer (cdcCall dev.reqData) := by
  simp only [cdcClassHandler, cdcCall]
  split
  · split <;> rfl
  · generalize dev.reqData.bRequest.toNat = request
    by_cases setLineCoding : request = 0x20
    · rw [setLineCoding]
      rfl
    by_cases getLineCoding : request = 0x21
    · rw [getLineCoding]
      rfl
    by_cases setControlLineState : request = 0x22
    · rw [setControlLineState]
      rfl
    simp [Dev.answer]

/-- The handlers make the call that the request selects. -/
theorem lowPrioritySetup_call (config : Config) (dev : Dev Object) (request : DevReqData)
    (stack : Nat → Byte) : ∃ memory, lowPrioritySetup (cdcDevice config) dev request stack =
      Dev.answer { dev.started request with memory := memory } (setupCall config request) := by
  rw [lowPrioritySetup_eq, setupCall]
  generalize request.type = kind
  match kind with
  | 0 => exact standardReqeust_call config (dev.started request)
  | 1 => exact ⟨dev.memory, cdcClassHandler_call (dev.started request)⟩
  | 2 => exact ⟨dev.memory, rfl⟩
  | _ + 3 => exact ⟨dev.memory, rfl⟩

/-! ## Runs -/

inductive StageLabel where
  | setup (request : DevReqData) (stack : Nat → Byte)
  | inDone
  | out (packet : List Byte)

def stageStep (config : Config) (dev : Dev Object) : StageLabel → Option (Dev Object)
  | .setup request stack => some (lowPrioritySetup (cdcDevice config) dev request stack)
  | .inDone => controlStep dev .inDone
  | .out packet => controlStep dev (.out packet)

/-- Whole halfwords. -/
def writeDataToEP (wBuf : Option (Ptr Object)) (wLen : Nat) : Access Object :=
  .read wBuf (2 * ((wLen + 1) / 2))

def Call.accesses (dev : Dev Object) : Call Object → List (Access Object)
  | .inData buf len =>
      if len = 0 then [] else [writeDataToEP buf (min len dev.in0.maxPackSize)]
  | .outData _ _ => []
  | .stall => []

/-- The data that `USBD_CtrlInProcess` and `USBD_CtrlOutProcess` move, and the first packet of
`USBD_CtrlInData`. -/
def stageAccesses (config : Config) (dev : Dev Object) : StageLabel → List (Access Object)
  | .setup request _ =>
      match setupCall config request with
      | some call => call.accesses (dev.started request)
      | none => []
  | .inDone =>
      if dev.ctrlState = .dataIn ∧ dev.in0.packNum ≠ 0 then
        [writeDataToEP dev.in0.pBuf (min dev.in0.bufLen dev.in0.maxPackSize)]
      else []
  | .out _ =>
      if dev.ctrlState = .dataOut ∧ dev.out0.packNum ≠ 0 then
        [.write dev.out0.pBuf (min dev.out0.bufLen dev.out0.maxPackSize)]
      else []

/-- The bytes of the objects that are meant for the host; the two of `GET_STATUS` are a local
array of the request. -/
def Config.extent (config : Config) (inRequest : Bool) : Object → Nat
  | .deviceDesc => config.deviceDesc.toNat
  | .configurationDesc => config.configurationDesc.toNat
  | .stringDesc index => ((config.stringDesc[index]?).getD 0).toNat
  | .curConfiguration => 1
  | .status => if inRequest then 2 else 0
  | .cmdBuf => 8
  | _ => 0

def writable : Object → Nat
  | .cmdBuf => 8
  | _ => 0

/-- A data stage goes on until the next SETUP packet. -/
def InStage : Dev Object → StageLabel → Prop
  | _, .setup _ _ => False
  | _, _ => True

/-- The data stage of the request touches nothing else, however the interrupts go on. -/
structure Safe (config : Config) (dev : Dev Object) (request : DevReqData)
    (stack : Nat → Byte) : Prop where
  start : ∀ access ∈ stageAccesses config dev (.setup request stack),
    access.Inside (config.extent true) writable
  later : ∀ labels t label next, Run (stageStep config) InStage
      (lowPrioritySetup (cdcDevice config) dev request stack) labels t →
    InStage t label → stageStep config t label = some next →
    ∀ access ∈ stageAccesses config t label, access.Inside (config.extent false) writable

/-- The bytes that the packets counted by eight bits cover. -/
def covered (maxPackSize len : Nat) : Nat := min len (packetCount len maxPackSize * maxPackSize)

/-- What a call may ask for: with the first packet read at once and the others later. -/
def Call.Bounded (config : Config) (size : Ep0Size) : Call Object → Prop
  | .inData buf len => len = 0 ∨ ∃ pointer, buf = some pointer ∧
      Fits (config.extent true pointer.obj) 2 pointer.offset (min len size.bytes) ∧
      Fits (config.extent false pointer.obj) 2 (pointer.offset + size.bytes)
        (if size.bytes ≤ len then covered size.bytes (len - size.bytes) else 0)
  | .outData buf len => covered size.bytes len = 0 ∨ ∃ pointer, buf = some pointer ∧
      Fits (writable pointer.obj) 1 pointer.offset (covered size.bytes len)
  | .stall => True

/-- The request does not ask for more than the object has. -/
def Bounded (config : Config) (size : Ep0Size) (request : DevReqData) : Prop :=
  ∀ call, setupCall config request = some call → call.Bounded config size

/-! ## Windows -/

theorem Ep0Size.positive (size : Ep0Size) : 0 < size.bytes := by
  have allowed := size.allowed
  omega

theorem Ep0Size.even (size : Ep0Size) : 2 ∣ size.bytes := by
  have allowed := size.allowed
  omega

theorem writeDataToEP_inside {config : Config} {inRequest : Bool} {pointer : Ptr Object}
    {wLen : Nat} : (writeDataToEP (some pointer) wLen).Inside (config.extent inRequest) writable ↔
      Fits (config.extent inRequest pointer.obj) 2 pointer.offset wLen := by
  have padded : 2 * ((wLen + 1) / 2) = pad 2 wLen := by
    rw [pad, pieces, Nat.mul_comm]
  have nothing : pad 2 wLen = 0 ↔ wLen = 0 := by
    rw [← padded]
    omega
  simp only [writeDataToEP, Access.Inside, Within, Fits, padded, nothing, Option.some.injEq,
    exists_eq_left']

theorem write_inside {readable : Object → Nat} {pointer : Ptr Object} {count : Nat} :
    (Access.write (some pointer) count).Inside readable writable ↔
      Fits (writable pointer.obj) 1 pointer.offset count := by
  simp [Access.Inside, Within, Fits, pad_one]

/-- The packets that are counted after the next one. -/
theorem packets_next {size : Nat} {bufLen packNum : Nat} (more : packNum ≠ 0) :
    min (min bufLen (packNum * size)) size = min bufLen size ∧
      min bufLen (packNum * size) - min bufLen size =
        min (bufLen - min bufLen size) ((packNum - 1) * size) := by
  obtain ⟨rest, rfl⟩ := Nat.exists_eq_succ_of_ne_zero more
  rw [Nat.succ_mul, Nat.succ_sub_one]
  omega

theorem fits_packet {extent unit offset bufLen packNum size : Nat} (positive : 0 < unit)
    (whole : unit ∣ size) (more : packNum ≠ 0) :
    Fits extent unit offset (min bufLen (packNum * size)) ↔
      Fits extent unit offset (min bufLen size) ∧
        Fits extent unit (offset + min bufLen size)
          (min (bufLen - min bufLen size) ((packNum - 1) * size)) := by
  have next := @packets_next size bufLen packNum more
  rw [fits_chunk positive whole, next.1, next.2]

-- A sum that wraps at 32 bits leaves no packet.
theorem packetCount_unwrapped {size bufLen : Nat} (narrow : size < 65536)
    (short : bufLen < 4294967296) (more : packetCount bufLen size ≠ 0) :
    bufLen + (size - 1) < 4294967296 := by
  by_contra wrapped
  apply more
  have rest : (bufLen + (size - 1)) % 4294967296 < size := by omega
  rw [packetCount, Nat.div_eq_of_lt rest]

/-- Counting what is left gives one packet less. -/
theorem packetCount_next {size bufLen : Nat} (positive : 0 < size) (narrow : size < 65536)
    (short : bufLen < 4294967296) (more : packetCount bufLen size ≠ 0) :
    packetCount (bufLen - min bufLen size) size = packetCount bufLen size - 1 := by
  have room := packetCount_unwrapped narrow short more
  have unwrapped (length : Nat) (few : length ≤ bufLen) :
      packetCount length size = pieces size length % 256 := by
    rw [packetCount, pieces, Nat.mod_eq_of_lt (by omega : length + (size - 1) < 4294967296)]
  rw [unwrapped _ (Nat.le_refl _)] at more ⊢
  rw [unwrapped _ (Nat.sub_le _ _)]
  have one : pieces size (bufLen - min bufLen size) = pieces size bufLen - 1 := by
    by_cases last : bufLen ≤ size
    · have single : pieces size bufLen ≤ 1 := pieces_le positive (by omega)
      rw [Nat.min_eq_left last, Nat.sub_self, pieces_zero positive]
      omega
    · have shifted : bufLen + (size - 1) = bufLen - size + (size - 1) + size := by omega
      rw [Nat.min_eq_right (by omega), pieces, pieces, shifted, Nat.add_div_right _ positive,
        Nat.succ_sub_one]
  rw [one]
  omega

/-! ## Requests within their objects -/

section

variable {config : Config} {size : Ep0Size}

/-- What is left of the data stages begun lies in their objects. -/
structure Dev.Contained (config : Config) (size : Ep0Size) (dev : Dev Object) : Prop where
  inSize : dev.in0.maxPackSize = size.bytes
  outSize : dev.out0.maxPackSize = size.bytes
  reading : dev.in0.packNum ≠ 0 → ∃ pointer, dev.in0.pBuf = some pointer ∧
    Fits (config.extent false pointer.obj) 2 pointer.offset
      (min dev.in0.bufLen (dev.in0.packNum * size.bytes))
  writing : dev.ctrlState = .dataOut → dev.out0.packNum ≠ 0 →
    dev.out0.packNum = packetCount dev.out0.bufLen size.bytes ∧ dev.out0.bufLen < 65536 ∧
    ∃ pointer, dev.out0.pBuf = some pointer ∧
      Fits (writable pointer.obj) 1 pointer.offset
        (min dev.out0.bufLen (dev.out0.packNum * size.bytes))

theorem Dev.Contained.reset (config : Config) (size : Ep0Size) (memory : Memory Object) :
    (Dev.reset size.bytes memory).Contained config size :=
  ⟨rfl, rfl, fun more => absurd rfl more, nofun⟩

theorem Dev.Contained.same {dev after : Dev Object} (contained : dev.Contained config size)
    (inSize : after.in0.maxPackSize = dev.in0.maxPackSize)
    (outSize : after.out0.maxPackSize = dev.out0.maxPackSize)
    (reading : after.in0.packNum = dev.in0.packNum ∧ after.in0.pBuf = dev.in0.pBuf ∧
      after.in0.bufLen = dev.in0.bufLen)
    (writing : after.ctrlState = .dataOut → dev.ctrlState = .dataOut ∧
      after.out0.packNum = dev.out0.packNum ∧ after.out0.pBuf = dev.out0.pBuf ∧
      after.out0.bufLen = dev.out0.bufLen) : after.Contained config size := by
  refine ⟨inSize.trans contained.inSize, outSize.trans contained.outSize, ?_, ?_⟩
  · rw [reading.1, reading.2.1, reading.2.2]
    exact contained.reading
  · intro state
    obtain ⟨before, packNum, pBuf, bufLen⟩ := writing state
    rw [packNum, pBuf, bufLen]
    exact contained.writing before

theorem Dev.Contained.status {dev : Dev Object} (contained : dev.Contained config size)
    (buf : Option (Ptr Object)) : (ctrlInData dev buf 0).Contained config size := by
  apply contained.same
  · simp [ctrlInData, InEp.queue]
  · simp [ctrlInData]
  · simp [ctrlInData, InEp.queue]
  · intro state
    simp only [ctrlInData, if_true] at state
    split at state <;> cases state

theorem Dev.Contained.inData {dev : Dev Object} (contained : dev.Contained config size)
    {buf : Option (Ptr Object)} {len : Nat} (bounded : (Call.inData buf len).Bounded config size) :
    (ctrlInData dev buf len).Contained config size := by
  by_cases none : len = 0
  · subst none
    exact contained.status buf
  · obtain ⟨pointer, rfl, _, rest⟩ := bounded.resolve_left none
    by_cases whole : size.bytes ≤ len
    · rw [if_pos whole] at rest
      have large : dev.in0.maxPackSize ≤ len := contained.inSize ▸ whole
      refine ⟨?_, ?_, fun _ => ⟨pointer.add size.bytes, ?_, ?_⟩, ?_⟩
      · simpa [ctrlInData, none, large, InEp.queue] using contained.inSize
      · simpa [ctrlInData, none, large] using contained.outSize
      · simp [ctrlInData, none, whole, contained.inSize]
      · simpa [ctrlInData, none, whole, contained.inSize, Ptr.add, covered] using rest
      · intro state
        simp [ctrlInData, none, large] at state
    · have small : ¬ dev.in0.maxPackSize ≤ len := contained.inSize ▸ whole
      apply contained.same
      · simp [ctrlInData, none, small, InEp.queue]
      · simp [ctrlInData, none, small]
      · simp [ctrlInData, none, small, InEp.queue]
      · intro state
        simp only [ctrlInData, if_neg none, if_neg small] at state
        split at state <;> cases state

theorem Dev.Contained.outData {dev : Dev Object} (contained : dev.Contained config size)
    {buf : Option (Ptr Object)} {len : Nat} (short : len < 65536)
    (bounded : (Call.outData buf len).Bounded config size) :
    (ctrlOutData dev buf len).Contained config size := by
  by_cases none : len = 0
  · apply contained.same
    · simp [ctrlOutData, none, Dev.setTxRxStatus]
    · simp [ctrlOutData, none, Dev.setTxRxStatus]
    · simp [ctrlOutData, none, Dev.setTxRxStatus]
    · intro state
      simp [ctrlOutData, none] at state
  · refine ⟨?_, ?_, ?_, fun _ more => ?_⟩
    · simpa [ctrlOutData, none] using contained.inSize
    · simpa [ctrlOutData, none] using contained.outSize
    · simpa [ctrlOutData, none] using contained.reading
    · simp only [ctrlOutData, if_neg none, contained.outSize] at more ⊢
      refine ⟨trivial, short, ?_⟩
      rcases bounded with nothing | ⟨pointer, rfl, fits⟩
      · have positive := size.positive
        unfold covered at nothing
        have some : packetCount len size.bytes * size.bytes ≠ 0 := Nat.mul_ne_zero more positive.ne'
        omega
      · exact ⟨pointer, rfl, fits⟩

/-- Data comes from the host only for `cmdBuf`. -/
theorem setupCall_outData {request : DevReqData} {buf : Option (Ptr Object)} {len : Nat}
    (call : setupCall config request = some (.outData buf len)) :
    len < 65536 ∧ (len = 0 ∨ buf = some ⟨.cmdBuf, 0⟩) := by
  have low := request.wLength0.toNat_lt
  have high := request.wLength1.toNat_lt
  have short : request.wLength < 65536 := by
    unfold DevReqData.wLength
    omega
  unfold setupCall at call
  split at call
  · unfold standardCall at call
    split at call
    · cases call
    · split at call
      · cases call
      · split at call <;> cases call
      · cases call
      · cases call
      · cases call
      · cases call
  · unfold cdcCall at call
    split at call
    · split at call
      · cases call
        exact ⟨Nat.zero_lt_succ _, .inl rfl⟩
      · cases call
    · split at call
      · cases call
        exact ⟨short, .inr rfl⟩
      · cases call
      · cases call
        exact ⟨short, .inr rfl⟩
      · cases call
  · cases call
  · cases call

theorem Dev.Contained.setup {dev : Dev Object} (contained : dev.Contained config size)
    {request : DevReqData} (bounded : Bounded config size request) (stack : Nat → Byte) :
    (lowPrioritySetup (cdcDevice config) dev request stack).Contained config size := by
  obtain ⟨memory, next⟩ := lowPrioritySetup_call config dev request stack
  have started : Dev.Contained config size { dev.started request with memory := memory } :=
    contained.same rfl rfl ⟨rfl, rfl, rfl⟩ fun state => ⟨state, rfl, rfl, rfl⟩
  rw [next]
  cases called : setupCall config request with
  | none => exact started
  | some call =>
    have fits := bounded call called
    cases call with
    | inData buf len => exact started.inData fits
    | outData buf len => exact started.outData (setupCall_outData called).1 fits
    | stall => exact started.same rfl rfl ⟨rfl, rfl, rfl⟩ fun state => ⟨state, rfl, rfl, rfl⟩

/-! ### What goes on inside -/

theorem Dev.Contained.inProcess {dev : Dev Object} (contained : dev.Contained config size) :
    (ctrlInProcess (dev.setTxRxStatus .nak .nak)).Contained config size := by
  have quiet : (dev.setTxRxStatus .nak .nak).Contained config size :=
    contained.same rfl rfl ⟨rfl, rfl, rfl⟩ fun state => ⟨state, rfl, rfl, rfl⟩
  revert quiet
  generalize dev.setTxRxStatus .nak .nak = dev
  intro contained
  unfold ctrlInProcess
  split
  · next state =>
    split
    · next more =>
      obtain ⟨pointer, position, fits⟩ := contained.reading more
      have rest := ((fits_packet (by decide) size.even more).mp fits).2
      refine ⟨contained.inSize, contained.outSize, fun _ => ?_, ?_⟩
      · refine ⟨pointer.add (min dev.in0.bufLen size.bytes), ?_, ?_⟩
        · simp [InEp.nextPacket, position, contained.inSize]
        · simpa [InEp.nextPacket, Ptr.add, contained.inSize] using rest
      · intro writing
        cases state.symm.trans writing
    · split
      · exact contained.same rfl rfl ⟨rfl, rfl, rfl⟩ fun writing => by
          cases state.symm.trans writing
      · exact contained.same rfl rfl ⟨rfl, rfl, rfl⟩ fun writing => by
          cases writing
  · next state =>
    exact contained.same rfl rfl ⟨rfl, rfl, rfl⟩ fun writing => by
      cases state.symm.trans writing
  · exact contained

/-- The window of an OUT data stage after the next packet. -/
theorem Dev.Contained.moved {dev : Dev Object} (contained : dev.Contained config size)
    (state : dev.ctrlState = .dataOut) (more : dev.out0.packNum ≠ 0) (memory : Memory Object)
    (reads : List Read) : Dev.Contained config size
      { dev with
        memory := memory
        reads := reads
        out0 := { dev.out0 with
          bufLen := dev.out0.bufLen - min dev.out0.bufLen dev.out0.maxPackSize
          pBuf := dev.out0.pBuf.map (Ptr.add · (min dev.out0.bufLen dev.out0.maxPackSize))
          packNum := dev.out0.packNum - 1 } } := by
  have narrow : size.bytes < 65536 := by
    have allowed := size.allowed
    omega
  obtain ⟨count, short, pointer, position, fits⟩ := contained.writing state more
  have rest := ((fits_packet (by decide) (one_dvd _) more).mp fits).2
  have next := packetCount_next size.positive narrow (by omega) (count ▸ more)
  refine ⟨contained.inSize, contained.outSize, contained.reading, fun _ _ => ?_⟩
  rw [contained.outSize]
  refine ⟨?_, Nat.lt_of_le_of_lt (Nat.sub_le _ _) short,
    pointer.add (min dev.out0.bufLen size.bytes), ?_, rest⟩
  · rw [next, count]
  · rw [position]
    rfl

theorem Dev.Contained.outProcess {dev : Dev Object} (contained : dev.Contained config size) :
    (ctrlOutProcess (dev.setTxRxStatus .nak .nak)).Contained config size := by
  have quiet : (dev.setTxRxStatus .nak .nak).Contained config size :=
    contained.same rfl rfl ⟨rfl, rfl, rfl⟩ fun state => ⟨state, rfl, rfl, rfl⟩
  revert quiet
  generalize dev.setTxRxStatus .nak .nak = dev
  intro contained
  unfold ctrlOutProcess
  split
  · next state =>
    split
    · next more =>
      have moved := contained.moved state more
      dsimp only
      split
      · next another =>
        apply (moved _ _).outData
        · exact Nat.lt_of_le_of_lt (Nat.sub_le _ _) (contained.writing state more).2.1
        · obtain ⟨count, _, window⟩ := (moved dev.memory dev.reads).writing state another
          right
          rw [covered, ← count]
          exact window
      · exact (moved _ _).status none
    · unfold ctrlTxStatus
      apply Dev.Contained.status
      exact contained.same rfl rfl ⟨rfl, rfl, rfl⟩ fun state => ⟨state, rfl, rfl, rfl⟩
  · exact contained

theorem stageStep_contained {dev after : Dev Object} {label : StageLabel}
    (contained : dev.Contained config size)
    (bounded : ∀ request stack, label = .setup request stack → Bounded config size request)
    (taken : stageStep config dev label = some after) : after.Contained config size := by
  cases label with
  | setup request stack =>
    obtain rfl := Option.some.inj taken
    exact contained.setup (bounded request stack rfl) stack
  | inDone =>
    obtain ⟨_, rfl⟩ := controlStep_inDone taken
    exact contained.inProcess
  | out packet =>
    obtain ⟨_, rfl⟩ := controlStep_out taken
    apply Dev.Contained.outProcess
    exact contained.same rfl rfl ⟨rfl, rfl, rfl⟩ fun state => ⟨state, rfl, rfl, rfl⟩

/-- The next packet of a contained data stage lies in its object. -/
theorem Dev.Contained.inside {dev : Dev Object} (contained : dev.Contained config size)
    {label : StageLabel} (inStage : InStage dev label) :
    ∀ access ∈ stageAccesses config dev label,
      access.Inside (config.extent false) writable := by
  intro access member
  cases label with
  | setup request stack => exact absurd inStage not_false
  | inDone =>
    simp only [stageAccesses] at member
    split at member
    · next moving =>
      obtain rfl := List.mem_singleton.mp member
      obtain ⟨pointer, position, fits⟩ := contained.reading moving.2
      rw [position, contained.inSize, writeDataToEP_inside]
      exact ((fits_packet (by decide) size.even moving.2).mp fits).1
    · cases member
  | out packet =>
    simp only [stageAccesses] at member
    split at member
    · next moving =>
      obtain rfl := List.mem_singleton.mp member
      obtain ⟨_, _, pointer, position, fits⟩ := contained.writing moving.1 moving.2
      rw [position, contained.outSize, write_inside]
      exact ((fits_packet (by decide) (one_dvd _) moving.2).mp fits).1
    · cases member

/-- A bounded request has a safe data stage. -/
theorem Bounded.safe {dev : Dev Object} (contained : dev.Contained config size)
    {request : DevReqData} (bounded : Bounded config size request) (stack : Nat → Byte) :
    Safe config dev request stack := by
  constructor
  · intro access member
    simp only [stageAccesses] at member
    split at member
    · next call called =>
      have fits := bounded call called
      cases call with
      | inData buf len =>
        simp only [Call.accesses] at member
        split at member
        · cases member
        · next more =>
          obtain rfl := List.mem_singleton.mp member
          obtain ⟨pointer, rfl, first, _⟩ := fits.resolve_left more
          have inSize : (dev.started request).in0.maxPackSize = size.bytes := contained.inSize
          rw [inSize, writeDataToEP_inside]
          exact first
      | outData buf len => cases member
      | stall => cases member
    · cases member
  · intro labels t label next run inStage taken access member
    have later : t.Contained config size := by
      apply run.invariant (Dev.Contained config size) (contained.setup bounded stack)
      intro before label after held inStage taken
      refine stageStep_contained held ?_ taken
      rintro request stack rfl
      exact absurd inStage not_false
    exact later.inside inStage access member

/-! ### Requests beyond their objects -/

/-- Some later packet of the data stage leaves its object. -/
def Overruns (config : Config) (dev : Dev Object) : Prop :=
  ∃ labels t label next, Run (stageStep config) InStage dev labels t ∧ InStage t label ∧
    stageStep config t label = some next ∧
    ∃ access ∈ stageAccesses config t label, ¬ access.Inside (config.extent false) writable

theorem Overruns.cons {before after : Dev Object} {label : StageLabel}
    (inStage : InStage before label) (taken : stageStep config before label = some after)
    (overruns : Overruns config after) : Overruns config before := by
  obtain ⟨labels, t, last, next, run, rest⟩ := overruns
  exact ⟨label :: labels, t, last, next, run.cons inStage taken, rest⟩

theorem Overruns.unsafe {dev : Dev Object} {request : DevReqData} {stack : Nat → Byte}
    (overruns : Overruns config (lowPrioritySetup (cdcDevice config) dev request stack)) :
    ¬ Safe config dev request stack := by
  obtain ⟨labels, t, label, next, run, inStage, taken, access, member, outside⟩ := overruns
  intro safe
  exact outside (safe.later labels t label next run inStage taken access member)

theorem inProcess_moves {dev : Dev Object} (state : dev.ctrlState = .dataIn)
    (more : dev.in0.packNum ≠ 0) : ∃ after,
    ctrlInProcess (dev.setTxRxStatus .nak .nak) = after ∧ after.ctrlState = .dataIn ∧
      after.in0.maxPackSize = dev.in0.maxPackSize ∧ after.in0.txStatus = .valid ∧
      after.in0.pBuf = dev.in0.pBuf.map (Ptr.add · (min dev.in0.bufLen dev.in0.maxPackSize)) ∧
      after.in0.bufLen = dev.in0.bufLen - min dev.in0.bufLen dev.in0.maxPackSize ∧
      after.in0.packNum = dev.in0.packNum - 1 := by
  refine ⟨_, rfl, ?_⟩
  simp [ctrlInProcess, Dev.setTxRxStatus, state, more, InEp.nextPacket, InEp.queue]

theorem outProcess_moves {dev : Dev Object} (state : dev.ctrlState = .dataOut)
    (more : dev.out0.packNum - 1 ≠ 0)
    (some : dev.out0.bufLen - min dev.out0.bufLen dev.out0.maxPackSize ≠ 0)
    (rxBuffer : Nat → Byte) : ∃ after,
    ctrlOutProcess (Dev.setTxRxStatus { dev with rxBuffer := rxBuffer } .nak .nak) = after ∧
        after.ctrlState = .dataOut ∧
      after.out0.maxPackSize = dev.out0.maxPackSize ∧ after.out0.rxStatus = .valid ∧
      after.out0.pBuf =
        dev.out0.pBuf.map (Ptr.add · (min dev.out0.bufLen dev.out0.maxPackSize)) ∧
      after.out0.bufLen = dev.out0.bufLen - min dev.out0.bufLen dev.out0.maxPackSize ∧
      after.out0.packNum = packetCount (dev.out0.bufLen -
        min dev.out0.bufLen dev.out0.maxPackSize) dev.out0.maxPackSize := by
  have first : dev.out0.packNum ≠ 0 := by omega
  refine ⟨_, rfl, ?_⟩
  simp [ctrlOutProcess, Dev.setTxRxStatus, state, first, more, ctrlOutData, some]

/-- The packets of an IN data stage that is too long, one by one until one is outside. -/
theorem in_overruns {dev : Dev Object} {pointer : Ptr Object}
    (inSize : dev.in0.maxPackSize = size.bytes) (state : dev.ctrlState = .dataIn)
    (valid : dev.in0.txStatus = .valid) (position : dev.in0.pBuf = some pointer)
    (beyond : ¬ Fits (config.extent false pointer.obj) 2 pointer.offset
      (min dev.in0.bufLen (dev.in0.packNum * size.bytes))) : Overruns config dev := by
  generalize packets : dev.in0.packNum = packNum at beyond
  induction packNum generalizing dev pointer with
  | zero =>
    rw [Nat.zero_mul, Nat.min_zero] at beyond
    exact absurd (Fits.nothing _ _ _) beyond
  | succ packNum ih =>
    have more : dev.in0.packNum ≠ 0 := by omega
    have taken : stageStep config dev .inDone =
        some (ctrlInProcess (dev.setTxRxStatus .nak .nak)) := by
      simp [stageStep, controlStep, valid]
    by_cases first : Fits (config.extent false pointer.obj) 2 pointer.offset
        (min dev.in0.bufLen size.bytes)
    · rw [fits_packet (by decide) size.even (Nat.succ_ne_zero packNum), and_iff_right first]
        at beyond
      refine Overruns.cons (by trivial) taken ?_
      obtain ⟨after, next, state', inSize', valid', position', bufLen, count⟩ :=
        inProcess_moves state more
      rw [position, inSize] at position'
      rw [next]
      apply ih (inSize'.trans inSize) state' valid' position'
      · rw [count, packets, Nat.add_sub_cancel]
      · rw [bufLen, inSize]
        exact beyond
    · refine ⟨[], dev, .inDone, _, .nil, trivial, taken,
        writeDataToEP dev.in0.pBuf (min dev.in0.bufLen dev.in0.maxPackSize), ?_, ?_⟩
      · simp [stageAccesses, state, more]
      · rwa [position, inSize, writeDataToEP_inside]

theorem out_overruns {dev : Dev Object} {pointer : Ptr Object}
    (outSize : dev.out0.maxPackSize = size.bytes) (state : dev.ctrlState = .dataOut)
    (valid : dev.out0.rxStatus = .valid) (position : dev.out0.pBuf = some pointer)
    (count : dev.out0.packNum = packetCount dev.out0.bufLen size.bytes)
    (short : dev.out0.bufLen < 65536)
    (beyond : ¬ Fits (writable pointer.obj) 1 pointer.offset
      (min dev.out0.bufLen (dev.out0.packNum * size.bytes))) : Overruns config dev := by
  generalize packets : dev.out0.packNum = packNum at beyond
  induction packNum generalizing dev pointer with
  | zero =>
    rw [Nat.zero_mul, Nat.min_zero] at beyond
    exact absurd (Fits.nothing _ _ _) beyond
  | succ packNum ih =>
    have more : dev.out0.packNum ≠ 0 := by omega
    have narrow : size.bytes < 65536 := by
      have allowed := size.allowed
      omega
    -- the device stores a whole packet for every OUT packet, even an empty one
    have taken : stageStep config dev (.out []) = some (ctrlOutProcess
        (Dev.setTxRxStatus { dev with rxBuffer := received [] dev.rxBuffer } .nak .nak)) := by
      simp [stageStep, controlStep, valid]
    by_cases first : Fits (writable pointer.obj) 1 pointer.offset
        (min dev.out0.bufLen size.bytes)
    · rw [fits_packet (by decide) (one_dvd _) (Nat.succ_ne_zero packNum), and_iff_right first,
        Nat.succ_sub_one] at beyond
      have left := packetCount_next size.positive narrow (by omega) (count ▸ more)
      have another : packNum ≠ 0 := by
        rintro rfl
        rw [Nat.zero_mul, Nat.min_zero] at beyond
        exact beyond (Fits.nothing _ _ _)
      have some : dev.out0.bufLen - min dev.out0.bufLen size.bytes ≠ 0 := by
        intro none
        rw [none, Nat.zero_min] at beyond
        exact beyond (Fits.nothing _ _ _)
      refine Overruns.cons (by trivial) taken ?_
      rw [← outSize] at some
      obtain ⟨after, next, state', outSize', valid', position', bufLen, count'⟩ :=
        outProcess_moves state (by rw [packets]; exact another) some (received [] dev.rxBuffer)
      rw [position, outSize] at position'
      rw [outSize] at count' bufLen
      rw [next]
      apply ih (outSize'.trans outSize) state' valid' position'
      · rw [count', bufLen]
      · rw [bufLen]
        exact Nat.lt_of_le_of_lt (Nat.sub_le _ _) short
      · rw [count', left, ← count, packets, Nat.add_sub_cancel]
      · rw [bufLen]
        exact beyond
    · refine ⟨[], dev, .out [], _, .nil, trivial, taken,
        .write dev.out0.pBuf (min dev.out0.bufLen dev.out0.maxPackSize), ?_, ?_⟩
      · simp [stageAccesses, state, more]
      · rwa [position, outSize, write_inside]

theorem writeDataToEP_null {wLen : Nat} (some : wLen ≠ 0) (readable : Object → Nat) :
    ¬ (writeDataToEP none wLen).Inside readable writable := by
  rintro (none | ⟨pointer, null, _⟩)
  · omega
  · cases null

theorem inData_overruns {dev : Dev Object} (inSize : dev.in0.maxPackSize = size.bytes)
    {pointer : Ptr Object} {len : Nat} (whole : size.bytes ≤ len)
    (beyond : ¬ Fits (config.extent false pointer.obj) 2 (pointer.offset + size.bytes)
      (covered size.bytes (len - size.bytes))) :
    Overruns config (ctrlInData dev (some pointer) len) := by
  have positive := size.positive
  have none : len ≠ 0 := by omega
  have next : (ctrlInData dev (some pointer) len).in0.pBuf = some (pointer.add size.bytes) ∧
      (ctrlInData dev (some pointer) len).in0.maxPackSize = size.bytes ∧
      (ctrlInData dev (some pointer) len).ctrlState = .dataIn ∧
      (ctrlInData dev (some pointer) len).in0.txStatus = .valid ∧
      (ctrlInData dev (some pointer) len).in0.bufLen = len - size.bytes ∧
      (ctrlInData dev (some pointer) len).in0.packNum =
        packetCount (len - size.bytes) size.bytes := by
    simp [ctrlInData, none, inSize, whole, InEp.queue]
  obtain ⟨position, same, state, valid, bufLen, count⟩ := next
  apply in_overruns same state valid position
  rw [bufLen, count]
  exact beyond

theorem outData_overruns {dev : Dev Object} (outSize : dev.out0.maxPackSize = size.bytes)
    {pointer : Ptr Object} {len : Nat} (short : len < 65536)
    (beyond : ¬ Fits (writable pointer.obj) 1 pointer.offset (covered size.bytes len)) :
    Overruns config (ctrlOutData dev (some pointer) len) := by
  have none : len ≠ 0 := by
    rintro rfl
    rw [covered, Nat.zero_min] at beyond
    exact beyond (Fits.nothing _ _ _)
  have next : (ctrlOutData dev (some pointer) len).out0.pBuf = some pointer ∧
      (ctrlOutData dev (some pointer) len).out0.maxPackSize = size.bytes ∧
      (ctrlOutData dev (some pointer) len).ctrlState = .dataOut ∧
      (ctrlOutData dev (some pointer) len).out0.rxStatus = .valid ∧
      (ctrlOutData dev (some pointer) len).out0.bufLen = len ∧
      (ctrlOutData dev (some pointer) len).out0.packNum = packetCount len size.bytes := by
    simp [ctrlOutData, none, outSize]
  obtain ⟨position, same, state, valid, bufLen, count⟩ := next
  apply out_overruns same state valid position
  · rw [count, bufLen]
  · rw [bufLen]
    exact short
  · rw [bufLen, count]
    exact beyond

/-- A safe request does not ask for too much. -/
theorem Safe.bounded {dev : Dev Object} (contained : dev.Contained config size)
    {request : DevReqData} {stack : Nat → Byte} (safe : Safe config dev request stack) :
    Bounded config size request := by
  intro call called
  obtain ⟨memory, next⟩ := lowPrioritySetup_call config dev request stack
  rw [called] at next
  have inSize : (dev.started request).in0.maxPackSize = size.bytes := contained.inSize
  have positive := size.positive
  cases call with
  | inData buf len =>
    by_cases none : len = 0
    · exact .inl none
    · have first := safe.start (writeDataToEP buf (min len size.bytes)) (by
        simp [stageAccesses, called, Call.accesses, none, inSize])
      cases buf with
      | none => exact absurd first (writeDataToEP_null (by omega) _)
      | some pointer =>
        rw [writeDataToEP_inside] at first
        refine .inr ⟨pointer, rfl, first, ?_⟩
        split
        · next whole =>
          by_contra beyond
          refine Overruns.unsafe ?_ safe
          rw [next]
          change Overruns config
            (ctrlInData { dev.started request with memory := memory } (some pointer) len)
          apply inData_overruns ?_ whole beyond
          exact inSize
        · exact Fits.nothing _ _ _
  | outData buf len =>
    obtain ⟨short, none | rfl⟩ := setupCall_outData called
    · left
      rw [covered, none, Nat.zero_min]
    · refine .inr ⟨_, rfl, ?_⟩
      by_contra beyond
      refine Overruns.unsafe ?_ safe
      rw [next]
      change Overruns config
        (ctrlOutData { dev.started request with memory := memory } (some ⟨.cmdBuf, 0⟩) len)
      apply outData_overruns ?_ short beyond
      exact contained.outSize
  | stall => trivial

/-- The requests of a run ask for no more than there is. -/
def EachBounded (config : Config) (size : Ep0Size) : Dev Object → StageLabel → Prop
  | _, .setup request _ => Bounded config size request
  | _, _ => True

theorem reached_contained {memory : Memory Object} {labels : List StageLabel} {dev : Dev Object}
    (run : Run (stageStep config) (EachBounded config size) (Dev.reset size.bytes memory)
      labels dev) : dev.Contained config size := by
  apply run.invariant (Dev.Contained config size) (Dev.Contained.reset config size memory)
  intro before label after held bounded taken
  refine stageStep_contained held ?_ taken
  rintro request stack rfl
  exact bounded

theorem safe_iff {memory : Memory Object} {labels : List StageLabel} {dev : Dev Object}
    (run : Run (stageStep config) (EachBounded config size) (Dev.reset size.bytes memory)
      labels dev) (request : DevReqData) (stack : Nat → Byte) :
    Safe config dev request stack ↔ Bounded config size request :=
  ⟨fun safe => safe.bounded (reached_contained run),
    fun bounded => bounded.safe (reached_contained run) stack⟩

end

end ApmSdk.Usbd
