import ApmSdk.Lib.Padding
import ApmSdk.Otg.Control
import ApmSdk.Otg.DeviceState
import ApmSdk.Usbd.DataStage

set_option autoImplicit false

/-!
# What the data stages of the OTG device touch

The bytes that `USB_FIFO_WriteFifoPacket` reads and `USB_FIFO_ReadRxFifoPacket` stores for the
standard requests and those of the CDC class handler.
-/

namespace ApmSdk.Otg

open Runs Chunks Padding
open Usbd (Byte DevReqData Ptr packetCount Ep0Size Access)

-- `USBD_ClassHandler` of CDC.
def classHandler (dev : Device) (reqData : DevReqData) : Device :=
  if reqData.wLength ≠ 0 then
    if reqData.dirIn then dev.ctrlInData .cmdBuf reqData.wLength
    else dev.ctrlOutData .cmdBuf reqData.wLength
  else dev.ctrlTxStatus

/-- The vendor handler is the application's. -/
def setupProcess (descriptors : Descriptors) (dev : Device) (reqData : DevReqData) : Device :=
  match reqData.type with
  | 0 => setup descriptors dev reqData
  | 1 => classHandler { dev with ep0 := [] } reqData
  | 2 => { dev with ep0 := [] }
  | _ => Device.setStall { dev with ep0 := [] }

-- What a request does to endpoint 0, with the `wLength` that `USBD_CtrlInData` reads.
def ControlEp.act (wLength : Nat) (dev : ControlEp Ep0Object) :
    Ep0Action → ControlEp Ep0Object
  | .txStatus => dev.ctrlTxStatus
  | .inData obj len => dev.ctrlInData ⟨obj, 0⟩ len wLength
  | .outData obj len => dev.ctrlOutData ⟨obj, 0⟩ len
  | .stall => dev

structure StageState where
  device : Device
  ep0 : ControlEp Ep0Object

inductive StageLabel where
  | setup (reqData : DevReqData)
  | reset
  | suspend
  | resume
  | push (txFifoAvailable : Nat)
  | inDone (txFifoAvailable : Nat)
  | out (byteCount : Nat)

def StageState.setup (descriptors : Descriptors) (state : StageState) (reqData : DevReqData) :
    StageState where
  device := setupProcess descriptors state.device reqData
  ep0 := (setupProcess descriptors state.device reqData).ep0.foldl
    (ControlEp.act reqData.wLength) state.ep0

def stageStep (descriptors : Descriptors) (state : StageState) : StageLabel → Option StageState
  | .setup reqData => some (state.setup descriptors reqData)
  -- `USB_OTG_FlushTxFIFO`
  | .reset =>
      some {
        device := resetIsrHandler descriptors state.device
        ep0 := { state.ep0 with loaded := false } }
  | .suspend => some { state with device := suspendIsrHandler state.device }
  | .resume => some { state with device := resumeIsrHandler state.device }
  | .push txFifoAvailable =>
      if state.ep0.emptyInt ∧ 0 < txFifoAvailable then
        some { state with ep0 := state.ep0.pushDataToTxFIFO txFifoAvailable }
      else none
  | .inDone txFifoAvailable =>
      if state.ep0.loaded then
        some { state with
          ep0 := ControlEp.inComplete { state.ep0 with loaded := false } txFifoAvailable }
      else none
  | .out byteCount =>
      if state.ep0.outArmed ∧ byteCount ≤ state.ep0.outBuf.maxPackSize then
        some { state with ep0 := state.ep0.outComplete byteCount }
      else none

/-- Whole words, when the packet has room in the FIFO. -/
def ControlEp.pushAccess (dev : ControlEp Ep0Object) (txFifoAvailable : Nat) :
    List (Access Ep0Object) :=
  match dev.inBuf.pBuf with
  | none => []
  | some pBuf =>
      let len := min dev.inBuf.bufLen dev.inBuf.maxPackSize
      if dev.inBuf.bufLen ≠ 0 ∧ len ≤ 4 * txFifoAvailable then
        [.read (some pBuf) (4 * ((len + 3) / 4))]
      else []

def stageAccesses (state : StageState) : StageLabel → List (Access Ep0Object)
  | .push txFifoAvailable => state.ep0.pushAccess txFifoAvailable
  | .inDone txFifoAvailable =>
      if 0 < txFifoAvailable then
        (ControlEp.ctrlInProcess { state.ep0 with loaded := false, emptyInt := false }).pushAccess
          txFifoAvailable
      else []
  | .out byteCount =>
      match state.ep0.outBuf.pBuf with
      | none => []
      | some pBuf => if byteCount ≠ 0 then [.write (some pBuf) byteCount] else []
  | _ => []

/-- The bytes of the objects that are meant for the host. Nothing is left of the two of
`GET_STATUS` when they are read: they were a local array of the request. -/
def Descriptors.extent (descriptors : Descriptors) : Ep0Object → Nat
  | .deviceDesc => descriptors.deviceDesc.toNat
  | .configurationDesc => descriptors.configurationDesc.toNat
  | .stringDesc index =>
      if index.toNat < descriptors.stringNum then
        ((descriptors.stringDesc index).getD 0).toNat
      else 0
  | .qualifierDesc => descriptors.qualifierDesc.toNat
  | .curConfiguration => 1
  | .curAlternateSetting => 1
  | .status => 0
  | .cmdBuf => 8

def writable : Ep0Object → Nat
  | .cmdBuf => 8
  | _ => 0

/-- The packet of an OUT status stage is empty. -/
def FromHost : StageState → StageLabel → Prop
  | state, .out byteCount => byteCount = 0 ∨ state.ep0.ctrlState = .outData
  | _, _ => True

instance (state : StageState) (label : StageLabel) : Decidable (FromHost state label) := by
  unfold FromHost; split <;> infer_instance

def InRequest (state : StageState) : StageLabel → Prop
  | .setup _ => False
  | label => FromHost state label

/-- The data stage of the request touches nothing else, however the interrupts go on. -/
def Safe (descriptors : Descriptors) (state : StageState) (reqData : DevReqData) : Prop :=
  ∀ labels t label next,
    Run (stageStep descriptors) InRequest (state.setup descriptors reqData) labels t →
    InRequest t label → stageStep descriptors t label = some next →
    ∀ access ∈ stageAccesses t label, access.Inside descriptors.extent writable

/-- The words that hold the data lie in the object, whose bytes are still there when they are
read; data from the host is one packet that cannot be larger than `cmdBuf`. -/
def Bounded (descriptors : Descriptors) (size : Ep0Size) (dev : Device) (reqData : DevReqData) :
    Prop :=
  let room (obj : Ep0Object) (len : Nat) := Padding.Fits (descriptors.extent obj) 4 0 len
  match reqData.type with
  | 0 =>
      match reqData.bRequest.toNat with
      | 0 => ¬ reqData.recipient < 3
      | 6 =>
          match reqData.wValue1.toNat with
          | 1 => room .deviceDesc (min reqData.wLength descriptors.deviceDesc.toNat)
          | 2 => room .configurationDesc (min reqData.wLength descriptors.configurationDesc.toNat)
          | 3 => room (.stringDesc reqData.wValue0)
              (min reqData.wLength ((descriptors.stringDesc reqData.wValue0).getD 0).toNat)
          | 6 => descriptors.usbOtgFs = true ∨
              room .qualifierDesc (min reqData.wLength descriptors.qualifierDesc.toNat)
          | _ => True
      -- the word read goes beyond the byte
      | 8 => ¬ (reqData.recipient = 0 ∧ (dev.devState = .configured ∨ dev.devState = .address))
      | 10 => ¬ (reqData.recipient = 1 ∧ dev.devState = .configured)
      | _ => True
  | 1 =>
      if reqData.dirIn then room .cmdBuf reqData.wLength
      else reqData.wLength = 0 ∨
        size.bytes ≤ 8 ∧ packetCount reqData.wLength size.bytes = 1
  | _ => True

/-! ## What a request does -/

def Ep0Action.Bounded (descriptors : Descriptors) (size : Ep0Size) : Ep0Action → Prop
  | .inData obj len => Padding.Fits (descriptors.extent obj) 4 0 len
  | .outData obj len => size.bytes ≤ writable obj ∧ packetCount len size.bytes = 1
  | _ => True

/-- At most one data stage. -/
inductive Actions (descriptors : Descriptors) (size : Ep0Size) (bounded : Prop) :
    List Ep0Action → Prop
  | inData {obj : Ep0Object} {len : Nat}
      (exactly : bounded ↔ (Ep0Action.inData obj len).Bounded descriptors size) :
      Actions descriptors size bounded [.inData obj len]
  | outData {len : Nat}
      (exactly : bounded ↔ (Ep0Action.outData .cmdBuf len).Bounded descriptors size) :
      Actions descriptors size bounded [.outData .cmdBuf len]
  | noData {actions : List Ep0Action} (always : bounded)
      (none : ∀ action ∈ actions, action = .txStatus ∨ action = .stall) :
      Actions descriptors size bounded actions

section

variable {descriptors : Descriptors} {size : Ep0Size}

theorem setup_ep0 (dev : Device) (reqData : DevReqData) : (setup descriptors dev reqData).ep0 =
    (standardReqeust descriptors { dev with ep0 := [] } reqData).1.ep0 := by
  unfold setup
  split
  · next result => rw [result]
  · next result => rw [result]

theorem byte_short : ¬ Padding.Fits 1 4 0 1 := by decide

section Standard

variable {dev : Device} {reqData : DevReqData} (standard : reqData.type = 0)

include standard

theorem standardGetDescriptor_actions (request : reqData.bRequest.toNat = 6) :
    Actions descriptors size (Bounded descriptors size dev reqData)
      (standardGetDescriptor descriptors { dev with ep0 := [] } reqData).1.ep0 := by
  unfold standardGetDescriptor
  split
  · next kind =>
    apply Actions.inData
    simp [Bounded, standard, request, kind, Ep0Action.Bounded]
  · next kind =>
    apply Actions.inData
    simp [Bounded, standard, request, kind, Ep0Action.Bounded]
  · next kind =>
    split
    · next string =>
      apply Actions.inData
      simp [Bounded, standard, request, kind, string, Ep0Action.Bounded]
    · next string =>
      apply Actions.noData
      · simp [Bounded, standard, request, kind, string, Padding.Fits.nothing]
      · simp [Device.setStall]
  · next kind =>
    split
    · next unserved =>
      apply Actions.noData <;> simp [Bounded, standard, request, kind, unserved, Device.setStall]
    · next served =>
      apply Actions.inData
      simp [Bounded, standard, request, kind, served, Ep0Action.Bounded]
  · apply Actions.noData <;> simp_all [Bounded, Device.setStall]

theorem standardGetConfiguration_actions (request : reqData.bRequest.toNat = 8) :
    Actions descriptors size (Bounded descriptors size dev reqData)
      (standardGetConfiguration { dev with ep0 := [] } reqData).1.ep0 := by
  unfold standardGetConfiguration
  split
  · next toDevice =>
    dsimp only
    split
    · next state =>
      apply Actions.inData
      simp [Bounded, standard, request, toDevice, state, Ep0Action.Bounded, Descriptors.extent,
        byte_short]
    · next state =>
      apply Actions.inData
      simp [Bounded, standard, request, toDevice, state, Ep0Action.Bounded, Descriptors.extent,
        byte_short]
    · apply Actions.noData <;> simp_all [Bounded, Device.setStall]
  · next other =>
    apply Actions.noData <;> simp [Bounded, standard, request, other, Device.setStall]

theorem standardReqeust_actions :
    Actions descriptors size (Bounded descriptors size dev reqData)
      (standardReqeust descriptors { dev with ep0 := [] } reqData).1.ep0 := by
  unfold standardReqeust
  split
  case h_1 request =>
    unfold standardGetStatus
    split
    · next served =>
      apply Actions.inData
      simp [Bounded, standard, request, Nat.not_le_of_gt served, Ep0Action.Bounded,
        Descriptors.extent, Padding.Fits, pad, pieces]
    · next rejected =>
      apply Actions.noData <;> simp_all [Bounded, Device.setStall]
  case h_2 request =>
    unfold standardClearFeature
    apply Actions.noData
    · simp [Bounded, standard, request]
    · split
      · simp [Device.ctrlTxStatus]
      · split <;> simp [Device.ctrlTxStatus, Device.setStall]
  case h_3 request =>
    unfold standardSetFeature
    apply Actions.noData
    · simp [Bounded, standard, request]
    · split
      · simp [Device.ctrlTxStatus]
      · split <;> simp [Device.ctrlTxStatus, Device.setStall]
  case h_4 request =>
    unfold standardSetAddress
    apply Actions.noData
    · simp [Bounded, standard, request]
    · split
      · dsimp only
        split <;> simp [Device.ctrlTxStatus, Device.setStall]
      · simp [Device.setStall]
  case h_5 request =>
    exact standardGetDescriptor_actions standard request
  case h_6 request =>
    apply Actions.noData <;> simp [Bounded, standard, request, standardSetDescriptor,
      Device.setStall]
  case h_7 request =>
    exact standardGetConfiguration_actions standard request
  case h_8 request =>
    unfold standardSetConfiguration
    apply Actions.noData
    · simp [Bounded, standard, request]
    · split <;> simp [Device.ctrlTxStatus, Device.setStall]
  case h_9 request =>
    unfold standardGetInterface
    split
    · next served =>
      apply Actions.inData
      simpa [Bounded, standard, request, served.1, Ep0Action.Bounded, Descriptors.extent, byte_short]
        using served.2
    · next unserved =>
      apply Actions.noData
      · simpa [Bounded, standard, request] using unserved
      · simp
  case h_10 request =>
    unfold standardSetInterface
    apply Actions.noData
    · simp [Bounded, standard, request]
    · split <;> simp [Device.ctrlTxStatus]
  case h_11 =>
    apply Actions.noData
    · simp_all [Bounded]
    · simp [Device.setStall]

end Standard

theorem classHandler_actions {dev : Device} {reqData : DevReqData} (isClass : reqData.type = 1) :
    Actions descriptors size (Bounded descriptors size dev reqData)
      (classHandler { dev with ep0 := [] } reqData).ep0 := by
  unfold classHandler
  split
  · next data =>
    split
    · next dirIn =>
      apply Actions.inData
      simp [Bounded, isClass, dirIn, Ep0Action.Bounded]
    · next dirOut =>
      apply Actions.outData
      simp [Bounded, isClass, dirOut, data, Ep0Action.Bounded, writable]
  · next none =>
    apply Actions.noData
    · simp [Bounded, isClass, not_not.mp none, Padding.Fits.nothing]
    · simp [Device.ctrlTxStatus]

theorem setupProcess_actions (dev : Device) (reqData : DevReqData) :
    Actions descriptors size (Bounded descriptors size dev reqData)
      (setupProcess descriptors dev reqData).ep0 := by
  unfold setupProcess
  split
  · next standard =>
    rw [setup_ep0]
    exact standardReqeust_actions standard
  · next isClass => exact classHandler_actions isClass
  · next vendor => apply Actions.noData <;> simp [Bounded, vendor]
  · apply Actions.noData
    · simp_all [Bounded]
    · simp [Device.setStall]

/-! ## Requests within their objects -/

theorem words (size : Ep0Size) : 4 ∣ size.bytes := by
  have allowed := size.allowed
  omega

theorem read_inside {pBuf : Ptr Ep0Object} {len : Nat} :
    (Access.read (some pBuf) (4 * ((len + 3) / 4))).Inside descriptors.extent writable ↔
      Padding.Fits (descriptors.extent pBuf.obj) 4 pBuf.offset len := by
  have padded : 4 * ((len + 3) / 4) = pad 4 len := by
    rw [pad, pieces, Nat.mul_comm]
  have nothing : pad 4 len = 0 ↔ len = 0 := by
    rw [← padded]
    omega
  simp only [Access.Inside, Usbd.Within, Padding.Fits, padded, nothing, Option.some.injEq,
    exists_eq_left']

/-- What is left of the data stages begun lies in their objects. -/
structure ControlEp.Contained (descriptors : Descriptors) (size : Ep0Size)
    (dev : ControlEp Ep0Object) : Prop where
  inSize : dev.inBuf.maxPackSize = size.bytes
  outSize : dev.outBuf.maxPackSize = size.bytes
  reading : ∀ pBuf, dev.inBuf.pBuf = some pBuf →
    Padding.Fits (descriptors.extent pBuf.obj) 4 pBuf.offset dev.inBuf.bufLen
  writing : dev.ctrlState = .outData → dev.outArmed = true → ∃ pBuf,
    dev.outBuf.pBuf = some pBuf ∧ pBuf.offset + size.bytes ≤ writable pBuf.obj ∧
    dev.outBuf.packNum = 1

theorem ControlEp.Contained.same {dev after : ControlEp Ep0Object}
    (contained : dev.Contained descriptors size)
    (inSize : after.inBuf.maxPackSize = dev.inBuf.maxPackSize)
    (reading : after.inBuf.pBuf = dev.inBuf.pBuf ∧ after.inBuf.bufLen = dev.inBuf.bufLen)
    (outBuf : after.outBuf = dev.outBuf)
    (writing : after.ctrlState = .outData → after.outArmed = true →
      dev.ctrlState = .outData ∧ dev.outArmed = true) :
    after.Contained descriptors size := by
  constructor
  · exact inSize.trans contained.inSize
  · rw [outBuf]
    exact contained.outSize
  · rw [reading.1, reading.2]
    exact contained.reading
  · intro state armed
    obtain ⟨before, already⟩ := writing state armed
    rw [outBuf]
    exact contained.writing before already

theorem ctrlInData_window (dev : ControlEp Ep0Object) (buf : Ptr Ep0Object) (len reqLen : Nat) :
    (dev.ctrlInData buf len reqLen).inBuf.pBuf = some buf ∧
      (dev.ctrlInData buf len reqLen).inBuf.bufLen = len ∧
      (dev.ctrlInData buf len reqLen).inBuf.maxPackSize = dev.inBuf.maxPackSize ∧
      (dev.ctrlInData buf len reqLen).outBuf = dev.outBuf ∧
      (dev.ctrlInData buf len reqLen).outArmed = dev.outArmed ∧
      ((dev.ctrlInData buf len reqLen).ctrlState = .outData → dev.ctrlState = .outData) := by
  unfold ControlEp.ctrlInData
  dsimp only
  split
  · exact ⟨rfl, rfl, rfl, rfl, rfl, nofun⟩
  · exact ⟨rfl, rfl, rfl, rfl, rfl, id⟩

theorem ControlEp.Contained.act {dev : ControlEp Ep0Object} {action : Ep0Action}
    (contained : dev.Contained descriptors size) (wLength : Nat)
    (bounded : action.Bounded descriptors size) :
    (dev.act wLength action).Contained descriptors size := by
  cases action with
  | txStatus => exact contained.same rfl ⟨rfl, rfl⟩ rfl fun state armed => ⟨state, armed⟩
  | stall => exact contained
  | inData obj len =>
    obtain ⟨position, bufLen, inSize, outBuf, armed, state⟩ :=
      ctrlInData_window dev ⟨obj, 0⟩ len wLength
    constructor
    · exact inSize.trans contained.inSize
    · exact outBuf ▸ contained.outSize
    · intro pBuf next
      obtain rfl := Option.some.inj (position.symm.trans next)
      have window : (dev.act wLength (.inData obj len)).inBuf.bufLen = len := bufLen
      rw [window]
      exact bounded
    · intro writing ready
      have before := contained.writing (state writing) (armed.symm.trans ready)
      exact outBuf ▸ before
  | outData obj len =>
    refine ⟨contained.inSize, contained.outSize, contained.reading, fun _ _ => ?_⟩
    refine ⟨⟨obj, 0⟩, rfl, (Nat.zero_add _).trans_le bounded.1, ?_⟩
    have count := bounded.2
    rw [← contained.outSize] at count
    exact count

theorem ControlEp.Contained.acts {actions : List Ep0Action} {dev : ControlEp Ep0Object}
    (contained : dev.Contained descriptors size) (wLength : Nat)
    (bounded : ∀ action ∈ actions, action.Bounded descriptors size) :
    (actions.foldl (ControlEp.act wLength) dev).Contained descriptors size := by
  induction actions generalizing dev with
  | nil => exact contained
  | cons action rest ih =>
    have first := contained.act wLength (bounded action List.mem_cons_self)
    exact ih first fun action member => bounded action (List.mem_cons_of_mem _ member)

theorem Actions.each {bounded : Prop} {actions : List Ep0Action}
    (does : Actions descriptors size bounded actions) (holds : bounded) :
    ∀ action ∈ actions, action.Bounded descriptors size := by
  intro action member
  cases does with
  | inData exactly =>
    obtain rfl := List.mem_singleton.mp member
    exact exactly.mp holds
  | outData exactly =>
    obtain rfl := List.mem_singleton.mp member
    exact exactly.mp holds
  | noData always none => rcases none action member with rfl | rfl <;> trivial

theorem ControlEp.Contained.push {dev : ControlEp Ep0Object} (contained : dev.Contained descriptors size)
    (txFifoAvailable : Nat) :
    (dev.pushDataToTxFIFO txFifoAvailable).Contained descriptors size := by
  unfold ControlEp.pushDataToTxFIFO
  split
  · exact contained
  · next pBuf position =>
    dsimp only
    split
    · refine ⟨contained.inSize, contained.outSize, ?_, contained.writing⟩
      intro moved next
      obtain rfl := Option.some.inj next
      have fits := contained.reading pBuf position
      rw [fits_chunk (by decide) (words size)] at fits
      simpa [contained.inSize, Ptr.add] using fits.2
    · exact contained

theorem ControlEp.Contained.inProcess {dev : ControlEp Ep0Object}
    (contained : dev.Contained descriptors size) :
    dev.ctrlInProcess.Contained descriptors size := by
  unfold ControlEp.ctrlInProcess
  split
  · next reading =>
    have notWriting : dev.ctrlState ≠ .outData := by
      rw [reading]
      exact nofun
    split
    · exact contained.same rfl ⟨rfl, rfl⟩ rfl fun state => absurd state notWriting
    · split
      · exact contained.same rfl ⟨rfl, rfl⟩ rfl fun state => absurd state notWriting
      · exact contained.same rfl ⟨rfl, rfl⟩ rfl fun state => absurd state notWriting
  · exact contained

theorem ControlEp.Contained.inComplete {dev : ControlEp Ep0Object}
    (contained : dev.Contained descriptors size) (txFifoAvailable : Nat) :
    (dev.inComplete txFifoAvailable).Contained descriptors size := by
  have quiet : Contained descriptors size { dev with emptyInt := false } :=
    contained.same rfl ⟨rfl, rfl⟩ rfl fun state armed => ⟨state, armed⟩
  unfold ControlEp.inComplete
  dsimp only
  split
  · exact quiet.inProcess.push txFifoAvailable
  · exact quiet.inProcess

/-- A packet of an OUT data stage; the next one is armed while the counter does not show 0. -/
theorem outComplete_moves {dev : ControlEp Ep0Object} {pBuf : Ptr Ep0Object} {byteCount : Nat}
    (state : dev.ctrlState = .outData) (position : dev.outBuf.pBuf = some pBuf)
    (some : byteCount ≠ 0) : ∃ after, dev.outComplete byteCount = after ∧
      after.inBuf = dev.inBuf ∧ after.outBuf.maxPackSize = dev.outBuf.maxPackSize ∧
      after.outBuf.pBuf = .some (pBuf.add byteCount) ∧ after.ctrlState = .outData ∧
      (after.outArmed = true ↔ (dev.outBuf.packNum + 255) % 256 ≠ 0) := by
  refine ⟨_, rfl, ?_⟩
  simp only [ControlEp.outComplete, position, if_pos some, ControlEp.ctrlOutProcess, state, if_true]
  split
  · next more => exact ⟨rfl, rfl, rfl, rfl, iff_of_true rfl more⟩
  · next last => exact ⟨rfl, rfl, rfl, rfl, iff_of_false nofun last⟩

/-- The one packet of an OUT data stage, with empty ones before it. -/
theorem ControlEp.Contained.outComplete {dev : ControlEp Ep0Object}
    (contained : dev.Contained descriptors size) (armed : dev.outArmed = true) {byteCount : Nat}
    (fromHost : byteCount = 0 ∨ dev.ctrlState = .outData) :
    (dev.outComplete byteCount).Contained descriptors size := by
  by_cases empty : byteCount = 0
  · have same (after : ControlEp Ep0Object) (inBuf : after.inBuf = dev.inBuf)
        (outBuf : after.outBuf = dev.outBuf) (state : after.ctrlState = dev.ctrlState) :
        after.Contained descriptors size := by
      apply contained.same (by rw [inBuf]) (by rw [inBuf]; exact ⟨rfl, rfl⟩) outBuf
      intro writing _
      exact ⟨state.symm.trans writing, armed⟩
    have passed : dev.outComplete 0 = { dev with outArmed := false }.ctrlOutProcess := by
      unfold ControlEp.outComplete
      dsimp only
      split <;> simp
    rw [empty, passed]
    unfold ControlEp.ctrlOutProcess
    split
    · split <;> exact same _ rfl rfl rfl
    · exact same _ rfl rfl rfl
  · have state := fromHost.resolve_left empty
    obtain ⟨pBuf, position, _, last⟩ := contained.writing state armed
    obtain ⟨after, next, inBuf, outSize, _, _, again⟩ := outComplete_moves state position empty
    rw [next]
    constructor
    · rw [inBuf]
      exact contained.inSize
    · exact outSize.trans contained.outSize
    · rw [inBuf]
      exact contained.reading
    · intro _ armed
      have more := again.mp armed
      rw [last] at more
      exact absurd rfl more

/-- The requests of a run ask for no more than there is. -/
def EachBounded (descriptors : Descriptors) (size : Ep0Size) (state : StageState) :
    StageLabel → Prop
  | .setup reqData => Bounded descriptors size state.device reqData
  | label => FromHost state label

theorem stageStep_contained {state after : StageState} {label : StageLabel}
    (contained : state.ep0.Contained descriptors size)
    (bounded : EachBounded descriptors size state label)
    (taken : stageStep descriptors state label = some after) :
    after.ep0.Contained descriptors size := by
  cases label with
  | setup reqData =>
    obtain rfl := Option.some.inj taken
    apply contained.acts
    exact (setupProcess_actions state.device reqData).each bounded
  | reset =>
    obtain rfl := Option.some.inj taken
    exact contained.same rfl ⟨rfl, rfl⟩ rfl fun writing armed => ⟨writing, armed⟩
  | suspend =>
    obtain rfl := Option.some.inj taken
    exact contained
  | resume =>
    obtain rfl := Option.some.inj taken
    exact contained
  | push txFifoAvailable =>
    simp only [stageStep] at taken
    split at taken
    · obtain rfl := Option.some.inj taken
      exact contained.push txFifoAvailable
    · cases taken
  | inDone txFifoAvailable =>
    simp only [stageStep] at taken
    split at taken
    · obtain rfl := Option.some.inj taken
      apply ControlEp.Contained.inComplete
      exact contained.same rfl ⟨rfl, rfl⟩ rfl fun writing armed => ⟨writing, armed⟩
    · cases taken
  | out byteCount =>
    simp only [stageStep] at taken
    split at taken
    · next ready =>
      obtain rfl := Option.some.inj taken
      exact contained.outComplete ready.1 bounded
    · cases taken

theorem pushAccess_inside {dev : ControlEp Ep0Object} (contained : dev.Contained descriptors size)
    (txFifoAvailable : Nat) : ∀ access ∈ dev.pushAccess txFifoAvailable,
      access.Inside descriptors.extent writable := by
  intro access member
  unfold ControlEp.pushAccess at member
  split at member
  · cases member
  · next pBuf position =>
    dsimp only at member
    split at member
    · obtain rfl := List.mem_singleton.mp member
      have fits := contained.reading pBuf position
      rw [fits_chunk (by decide) (words size)] at fits
      rw [contained.inSize, read_inside]
      exact fits.1
    · cases member

theorem ControlEp.Contained.inside {state : StageState} {label : StageLabel} {next : StageState}
    (contained : state.ep0.Contained descriptors size) (inRequest : InRequest state label)
    (taken : stageStep descriptors state label = some next) :
    ∀ access ∈ stageAccesses state label, access.Inside descriptors.extent writable := by
  cases label with
  | setup reqData => exact absurd inRequest not_false
  | reset => exact nofun
  | suspend => exact nofun
  | resume => exact nofun
  | push txFifoAvailable => exact pushAccess_inside contained txFifoAvailable
  | inDone txFifoAvailable =>
    simp only [stageAccesses]
    split
    · apply pushAccess_inside
      apply ControlEp.Contained.inProcess
      exact contained.same rfl ⟨rfl, rfl⟩ rfl fun writing armed => ⟨writing, armed⟩
    · exact nofun
  | out byteCount =>
    intro access member
    simp only [stageStep] at taken
    split at taken
    · next ready =>
      simp only [stageAccesses] at member
      split at member
      · cases member
      · next pBuf position =>
        split at member
        · next some =>
          obtain rfl := List.mem_singleton.mp member
          obtain ⟨other, same, room, _⟩ :=
            contained.writing (inRequest.resolve_left some) ready.1
          obtain rfl := Option.some.inj (position.symm.trans same)
          right
          refine ⟨pBuf, rfl, ?_⟩
          have short := ready.2
          rw [contained.outSize] at short
          omega
        · cases member
    · cases taken

theorem Bounded.safe {state : StageState} (contained : state.ep0.Contained descriptors size)
    {reqData : DevReqData} (bounded : Bounded descriptors size state.device reqData) :
    Safe descriptors state reqData := by
  intro labels t label next run inRequest taken
  have later : t.ep0.Contained descriptors size := by
    apply run.invariant fun t => t.ep0.Contained descriptors size
    · apply contained.acts
      exact (setupProcess_actions state.device reqData).each bounded
    · intro before label after held inRequest taken
      apply stageStep_contained held _ taken
      cases label with
      | setup reqData => exact absurd inRequest not_false
      | _ => exact inRequest
  exact later.inside inRequest taken

/-! ## Requests beyond their objects -/

/-- Some packet of the data stage leaves its object. -/
def Overruns (descriptors : Descriptors) (state : StageState) : Prop :=
  ∃ labels t label next, Run (stageStep descriptors) InRequest state labels t ∧
    InRequest t label ∧ stageStep descriptors t label = some next ∧
    ∃ access ∈ stageAccesses t label, ¬ access.Inside descriptors.extent writable

theorem Overruns.now {state next : StageState} {label : StageLabel}
    (inRequest : InRequest state label) (taken : stageStep descriptors state label = some next)
    {access : Access Ep0Object} (member : access ∈ stageAccesses state label)
    (outside : ¬ access.Inside descriptors.extent writable) : Overruns descriptors state :=
  ⟨[], state, label, next, .nil, inRequest, taken, access, member, outside⟩

theorem Overruns.cons {before after : StageState} {label : StageLabel}
    (inRequest : InRequest before label)
    (taken : stageStep descriptors before label = some after)
    (overruns : Overruns descriptors after) : Overruns descriptors before := by
  obtain ⟨labels, t, last, next, run, rest⟩ := overruns
  exact ⟨label :: labels, t, last, next, run.cons inRequest taken, rest⟩

theorem Overruns.unsafe {state : StageState} {reqData : DevReqData}
    (overruns : Overruns descriptors (state.setup descriptors reqData)) :
    ¬ Safe descriptors state reqData := by
  obtain ⟨labels, t, label, next, run, inRequest, taken, access, member, outside⟩ := overruns
  intro safe
  exact outside (safe labels t label next run inRequest taken access member)

/-- A packet that has room in the FIFO. -/
theorem push_front {dev : ControlEp Ep0Object} {pBuf : Ptr Ep0Object}
    (inSize : dev.inBuf.maxPackSize = size.bytes) (position : dev.inBuf.pBuf = some pBuf)
    (some : dev.inBuf.bufLen ≠ 0) : ∃ after, dev.pushDataToTxFIFO size.bytes = after ∧
      dev.pushAccess size.bytes =
        [.read (.some pBuf) (4 * ((min dev.inBuf.bufLen size.bytes + 3) / 4))] ∧
      after.inBuf.maxPackSize = size.bytes ∧ after.loaded = true ∧
      after.inBuf.pBuf = .some (pBuf.add (min dev.inBuf.bufLen size.bytes)) ∧
      after.inBuf.bufLen = dev.inBuf.bufLen - min dev.inBuf.bufLen size.bytes := by
  have room : min dev.inBuf.bufLen size.bytes ≤ 4 * size.bytes := by omega
  refine ⟨_, rfl, ?_⟩
  simp only [ControlEp.pushDataToTxFIFO, ControlEp.pushAccess, position, inSize,
    if_pos (And.intro some room)]
  exact ⟨trivial, trivial, trivial, trivial, trivial⟩

theorem inProcess_window (dev : ControlEp Ep0Object) : ∃ after, dev.ctrlInProcess = after ∧
    after.inBuf.pBuf = dev.inBuf.pBuf ∧ after.inBuf.bufLen = dev.inBuf.bufLen ∧
      after.inBuf.maxPackSize = dev.inBuf.maxPackSize := by
  refine ⟨_, rfl, ?_⟩
  unfold ControlEp.ctrlInProcess
  split
  · split
    · exact ⟨rfl, rfl, rfl⟩
    · split <;> exact ⟨rfl, rfl, rfl⟩
  · exact ⟨rfl, rfl, rfl⟩

/-- The next packet of an IN data stage is pushed, by one label or the other. -/
theorem pushes {state : StageState} {pBuf : Ptr Ep0Object}
    (inSize : state.ep0.inBuf.maxPackSize = size.bytes)
    (ready : state.ep0.loaded = true ∨ state.ep0.emptyInt = true)
    (position : state.ep0.inBuf.pBuf = some pBuf) (some : state.ep0.inBuf.bufLen ≠ 0) :
    ∃ label next, InRequest state label ∧ stageStep descriptors state label = .some next ∧
      stageAccesses state label =
        [.read (.some pBuf) (4 * ((min state.ep0.inBuf.bufLen size.bytes + 3) / 4))] ∧
      next.ep0.inBuf.maxPackSize = size.bytes ∧ next.ep0.loaded = true ∧
      next.ep0.inBuf.pBuf = .some (pBuf.add (min state.ep0.inBuf.bufLen size.bytes)) ∧
      next.ep0.inBuf.bufLen =
        state.ep0.inBuf.bufLen - min state.ep0.inBuf.bufLen size.bytes := by
  have positive := size.positive
  rcases ready with loaded | waits
  · obtain ⟨quiet, process, window, left, same⟩ :=
      inProcess_window { state.ep0 with loaded := false, emptyInt := false }
    obtain ⟨after, pushed, access, rest⟩ := push_front (same.trans inSize)
      (window.trans position) (left.trans_ne some)
    rw [left] at access rest
    refine ⟨.inDone size.bytes, { state with ep0 := after }, trivial, ?_, ?_, rest⟩
    · simp only [stageStep, loaded, if_true, ControlEp.inComplete, positive, process, pushed]
    · simp only [stageAccesses, positive, if_true, process, access]
  · obtain ⟨after, pushed, access, rest⟩ := push_front inSize position some
    refine ⟨.push size.bytes, { state with ep0 := after }, trivial, ?_, access, rest⟩
    simp only [stageStep, waits, positive, and_self, if_true, pushed]

/-- An IN data stage that is too long is pushed packet by packet until one is outside. -/
theorem in_overruns {state : StageState} {pBuf : Ptr Ep0Object}
    (inSize : state.ep0.inBuf.maxPackSize = size.bytes)
    (ready : state.ep0.loaded = true ∨ state.ep0.emptyInt = true)
    (position : state.ep0.inBuf.pBuf = some pBuf)
    (beyond : ¬ Padding.Fits (descriptors.extent pBuf.obj) 4 pBuf.offset state.ep0.inBuf.bufLen) :
    Overruns descriptors state := by
  have positive := size.positive
  generalize bytes : state.ep0.inBuf.bufLen = bufLen at beyond
  induction bufLen using Nat.strong_induction_on generalizing state pBuf with
  | _ bufLen ih =>
    have some : bufLen ≠ 0 := by
      rintro rfl
      exact beyond (Padding.Fits.nothing _ _ _)
    obtain ⟨label, next, inRequest, taken, accesses, inSize', loaded', position', bufLen'⟩ :=
      @pushes descriptors size state pBuf inSize ready position (bytes.trans_ne some)
    rw [bytes] at accesses position' bufLen'
    rw [fits_chunk (by decide) (words size), not_and_or] at beyond
    rcases beyond with first | rest
    · apply Overruns.now inRequest taken
      · rw [accesses]
        exact List.mem_singleton_self _
      · rwa [read_inside]
    · apply Overruns.cons inRequest taken
      exact ih _ (by omega) inSize' (.inl loaded') position' bufLen' rest

/-- An OUT data stage whose first packet, or whose second one, is outside of `cmdBuf`. -/
theorem out_overruns {state : StageState} (outSize : state.ep0.outBuf.maxPackSize = size.bytes)
    (ctrlState : state.ep0.ctrlState = .outData) (armed : state.ep0.outArmed = true)
    (position : state.ep0.outBuf.pBuf = some ⟨.cmdBuf, 0⟩)
    (few : state.ep0.outBuf.packNum < 256)
    (beyond : ¬ (size.bytes ≤ 8 ∧ state.ep0.outBuf.packNum = 1)) :
    Overruns descriptors state := by
  have some : size.bytes ≠ 0 := size.positive.ne'
  have taken (state : StageState) (outSize : state.ep0.outBuf.maxPackSize = size.bytes)
      (armed : state.ep0.outArmed = true) : stageStep descriptors state (.out size.bytes) =
        .some { state with ep0 := state.ep0.outComplete size.bytes } := by
    simp [stageStep, armed, outSize]
  have stored {state : StageState} {pBuf : Ptr Ep0Object}
      (position : state.ep0.outBuf.pBuf = .some pBuf) :
      .write (.some pBuf) size.bytes ∈ stageAccesses state (.out size.bytes) := by
    simp [stageAccesses, position, some]
  have fromHost {state : StageState} (ctrlState : state.ep0.ctrlState = .outData) :
      InRequest state (.out size.bytes) := Or.inr ctrlState
  by_cases large : 8 < size.bytes
  · apply Overruns.now (fromHost ctrlState) (taken state outSize armed) (stored position)
    rintro (none | ⟨pointer, same, room⟩)
    · exact some none
    · obtain rfl := Option.some.inj same
      simp only [writable] at room
      omega
  · obtain ⟨after, next, _, outSize', position', ctrlState', again⟩ :=
      outComplete_moves ctrlState position some
    have armed' : after.outArmed = true := again.mpr (by omega)
    apply Overruns.cons (fromHost ctrlState) (taken state outSize armed)
    rw [next]
    apply Overruns.now (fromHost ctrlState') (taken _ (outSize'.trans outSize) armed')
      (stored position')
    rintro (none | ⟨pointer, same, room⟩)
    · exact some none
    · obtain rfl := Option.some.inj same
      have allowed := size.allowed
      simp only [Ptr.add, writable] at room
      omega

theorem Safe.bounded {state : StageState} (contained : state.ep0.Contained descriptors size)
    {reqData : DevReqData} (safe : Safe descriptors state reqData) :
    Bounded descriptors size state.device reqData := by
  have does : Actions descriptors size (Bounded descriptors size state.device reqData)
      (setupProcess descriptors state.device reqData).ep0 :=
    setupProcess_actions state.device reqData
  generalize actions : (setupProcess descriptors state.device reqData).ep0 = list at does
  cases does with
  | @inData obj len exactly =>
    rw [exactly]
    by_contra beyond
    have started : (state.setup descriptors reqData).ep0 =
        state.ep0.ctrlInData ⟨obj, 0⟩ len reqData.wLength := by
      simp only [StageState.setup, actions]
      rfl
    obtain ⟨position, bufLen, inSize, _⟩ := ctrlInData_window state.ep0 ⟨obj, 0⟩ len reqData.wLength
    have some : len ≠ 0 := by
      rintro rfl
      exact beyond (Padding.Fits.nothing _ _ _)
    have waits : (state.ep0.ctrlInData ⟨obj, 0⟩ len reqData.wLength).emptyInt = true := by
      simp [ControlEp.ctrlInData, some]
    rw [← started] at position bufLen inSize waits
    refine Overruns.unsafe ?_ safe
    apply in_overruns (inSize.trans contained.inSize) (.inr waits) position
    rw [bufLen]
    exact beyond
  | @outData len exactly =>
    rw [exactly]
    by_contra beyond
    have started : (state.setup descriptors reqData).ep0 = state.ep0.ctrlOutData ⟨.cmdBuf, 0⟩ len := by
      simp only [StageState.setup, actions]
      rfl
    refine Overruns.unsafe ?_ safe
    refine @out_overruns descriptors size _ ?_ ?_ ?_ ?_ ?_ ?_
    · rw [started]
      exact contained.outSize
    · rw [started]
      rfl
    · rw [started]
      rfl
    · rw [started]
      rfl
    · rw [started]
      exact Nat.mod_lt _ (by decide)
    · rw [started, ControlEp.ctrlOutData, ControlEp.enableOutEpTransfer]
      dsimp only
      rw [contained.outSize]
      exact beyond
  | noData always none => exact always

/-- The stack before the first reset. -/
def StageState.started (size : Ep0Size) : StageState where
  device := Device.powered
  ep0 := (ControlRun.started size.bytes).dev

theorem reached_contained {labels : List StageLabel} {state : StageState}
    (run : Run (stageStep descriptors) (EachBounded descriptors size) (.started size) labels
      state) : state.ep0.Contained descriptors size := by
  apply run.invariant fun state => state.ep0.Contained descriptors size
  · exact ⟨rfl, rfl, nofun, nofun⟩
  · intro before label after held bounded taken
    exact stageStep_contained held bounded taken

theorem safe_iff {labels : List StageLabel} {state : StageState}
    (run : Run (stageStep descriptors) (EachBounded descriptors size) (.started size) labels
      state) (reqData : DevReqData) :
    Safe descriptors state reqData ↔ Bounded descriptors size state.device reqData :=
  ⟨fun safe => safe.bounded (reached_contained run),
    fun bounded => bounded.safe (reached_contained run)⟩

end

/-! ## Both stacks -/

/-- In both stacks the data stages stay inside the objects meant for them exactly for the
requests that ask for no more than there is. -/
theorem dataStages_inside (size : Ep0Size) {config : Usbd.Config}
    {memory : Usbd.Memory Usbd.Object} {usbdLabels : List Usbd.StageLabel}
    {dev : Usbd.Dev Usbd.Object} (usbd : Run (Usbd.stageStep config)
      (Usbd.EachBounded config size) (Usbd.Dev.reset size.bytes memory) usbdLabels dev)
    {descriptors : Descriptors} {otgLabels : List StageLabel} {state : StageState}
    (otg : Run (stageStep descriptors) (EachBounded descriptors size) (.started size) otgLabels
      state) (request : DevReqData) (stack : Nat → Byte) :
    (Usbd.Safe config dev request stack ↔ Usbd.Bounded config size request) ∧
      (Safe descriptors state request ↔ Bounded descriptors size state.device request) :=
  ⟨Usbd.safe_iff usbd request stack, safe_iff otg request⟩

def size64 : Ep0Size := ⟨64, by decide⟩

/-- A full speed device with four strings. -/
def fullSpeed : Descriptors where
  deviceDesc := 18
  configurationDesc := 67
  stringDesc index := if index < 4 then some 4 else none
  stringNum := 4
  qualifierDesc := 10
  attributes := 0xC0
  configurationNum := 1
  usbOtgFs := true

/-- The first request of a host: eight bytes of the device descriptor. -/
def getDeviceDesc : DevReqData := ⟨0x80, 6, 0, 1, 0, 0, 8, 0⟩

theorem deviceDesc_inside :
    Usbd.Safe Usbd.blankConfig (Usbd.Dev.reset 64 fun _ _ => 0) getDeviceDesc (fun _ => 0) ∧
      Safe fullSpeed (.started size64) getDeviceDesc := by
  have inside : (Usbd.Safe Usbd.blankConfig (Usbd.Dev.reset 64 fun _ _ => 0) getDeviceDesc
      (fun _ => 0) ↔ _) ∧ (Safe fullSpeed (.started size64) getDeviceDesc ↔ _) :=
    dataStages_inside size64 .nil .nil getDeviceDesc fun _ => 0
  constructor
  · apply inside.1.mpr
    intro call called
    obtain rfl := Option.some.inj ((show Usbd.setupCall Usbd.blankConfig getDeviceDesc =
      some (.inData (some ⟨.deviceDesc, 0⟩) 8) by decide).symm.trans called)
    exact .inr ⟨_, rfl, by decide, by decide⟩
  · exact inside.2.mpr (by decide : Padding.Fits 18 4 0 8)

-- `GET_LINE_CODING` for 64 bytes.
def getLineCoding : DevReqData := ⟨0xA1, 0x21, 0, 0, 0, 0, 64, 0⟩

theorem lineCoding_overruns :
    ¬ Usbd.Safe Usbd.blankConfig (Usbd.Dev.reset 64 fun _ _ => 0) getLineCoding (fun _ => 0) ∧
      ¬ Safe fullSpeed (.started size64) getLineCoding := by
  constructor
  · intro safe
    have bounded : Usbd.Bounded Usbd.blankConfig size64 getLineCoding :=
      (Usbd.safe_iff .nil _ _).mp safe
    rcases bounded (.inData (some ⟨.cmdBuf, 0⟩) 64) rfl with none | ⟨pointer, same, fits, _⟩
    · cases none
    · obtain rfl := Option.some.inj same
      exact absurd fits (by decide)
  · intro safe
    exact absurd ((safe_iff .nil getLineCoding).mp safe) (by decide : ¬ Padding.Fits 8 4 0 64)

end ApmSdk.Otg
