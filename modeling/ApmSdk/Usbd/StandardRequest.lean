import ApmSdk.Usbd.Control

set_option autoImplicit false

/-!
# The request handlers of the library

The dispatcher of `usbd_stdReq.c` and the class handlers for CDC, HID and MSC, as functions on
endpoint 0.
-/

namespace ApmSdk.Usbd

/-- What the data stages of the handlers read and write. -/
inductive Object where
  | deviceDesc
  | configurationDesc
  | stringDesc (index : Nat)
  | curConfiguration
  | curFeature
  | status
  | cmdBuf
  | hidIdleState
  | hidProtocol
  | mscMaxLen
  deriving DecidableEq, Repr

-- What the application registers: `stringDesc` has `SRTING_DESC_NUM` entries.
structure Config where
  deviceDesc : Byte
  configurationDesc : Byte
  stringDesc : List Byte
  configurationNum : Byte
  storageMaxLun : Byte
  /-- The status of the endpoint that `wIndex[0]` names is STALL. -/
  stalled : Byte → Bool

def DevReqData.recipient (request : DevReqData) : Nat := request.bmRequestType.toNat % 32

section

variable {Obj : Type}

/-- All that a request handler does to endpoint 0. -/
def Replies (before after : Dev Obj) : Prop :=
  ∃ (memory : Memory Obj) (calls : List (Call Obj)),
    after = calls.foldl Call.run { before with memory := memory }

theorem Replies.silent (dev : Dev Obj) : Replies dev dev := ⟨dev.memory, [], rfl⟩

theorem Replies.calls (dev : Dev Obj) (memory : Memory Obj) (calls : List (Call Obj)) :
    Replies dev (calls.foldl Call.run { dev with memory := memory }) := ⟨memory, calls, rfl⟩

theorem Replies.inData (dev : Dev Obj) (memory : Memory Obj) (buf : Option (Ptr Obj))
    (len : Nat) : Replies dev (ctrlInData { dev with memory := memory } buf len) :=
  .calls dev memory [.inData buf len]

theorem Replies.outData (dev : Dev Obj) (buf : Option (Ptr Obj)) (len : Nat) :
    Replies dev (ctrlOutData dev buf len) := .calls dev dev.memory [.outData buf len]

theorem Replies.stall (dev : Dev Obj) : Replies dev (Usbd.stall dev) :=
  .calls dev dev.memory [.stall]

/-- A handler of the application or of a class. -/
structure Handler (Obj : Type) where
  run : Dev Obj → Dev Obj
  replies : ∀ dev, Replies dev (run dev)

end

/-! ## Standard requests

Each returns whether it succeeded. -/

def standardGetConfiguration (dev : Dev Object) : Dev Object × Bool :=
  if dev.reqData.recipient = 0 then
    (ctrlInData dev (some ⟨.curConfiguration, 0⟩) 1, true)
  else (dev, false)

def standardGetDescriptor (config : Config) (dev : Dev Object) : Dev Object × Bool :=
  let answer (obj : Object) (size : Byte) :=
    (ctrlInData dev (some ⟨obj, 0⟩) (min dev.reqData.wLength size.toNat), true)
  let wValue0 := dev.reqData.wValue0.toNat
  match dev.reqData.wValue1.toNat with
  | 1 => answer .deviceDesc config.deviceDesc
  | 2 => answer .configurationDesc config.configurationDesc
  | 3 =>
      match config.stringDesc[wValue0]? with
      | some size => answer (.stringDesc wValue0) size
      | none => (dev, false)
  | _ => (dev, false)

def standardGetStatus (config : Config) (dev : Dev Object) : Dev Object × Bool :=
  let answer (status : Byte) :=
    (ctrlInData { dev with memory := dev.memory.write ⟨.status, 0⟩ [status, 0] }
      (some ⟨.status, 0⟩) 2, true)
  let curFeature := dev.memory .curFeature 0
  match dev.reqData.recipient with
  | 0 => answer ((if curFeature &&& 32 ≠ 0 then 2 else 0) ||| if curFeature &&& 64 ≠ 0 then 1 else 0)
  | 1 => answer 0
  | 2 => answer (if config.stalled dev.reqData.wIndex0 then 1 else 0)
  | _ => (dev, false)

def standardSetAddress (dev : Dev Object) : Dev Object × Bool :=
  if dev.reqData.wValue0 < 127 ∧ dev.reqData.wValue1 = 0 ∧ dev.reqData.recipient = 0 then
    (ctrlInData dev none 0, true)
  else (dev, false)

def standardSetConfiguration (config : Config) (dev : Dev Object) : Dev Object × Bool :=
  if dev.reqData.wValue0 ≤ config.configurationNum ∧ dev.reqData.recipient = 0 then
    (ctrlInData
      { dev with memory := dev.memory.write ⟨.curConfiguration, 0⟩ [dev.reqData.wValue0] }
      none 0, true)
  else (dev, false)

def standardGetInterface (dev : Dev Object) : Dev Object × Bool := (dev, false)

def standardSetDescriptor (dev : Dev Object) : Dev Object × Bool := (dev, false)

def standardSetFeature (dev : Dev Object) : Dev Object × Bool := (dev, true)

def standardSetInterface (dev : Dev Object) : Dev Object × Bool := (dev, false)

def standardClearFeature (dev : Dev Object) : Dev Object × Bool := (dev, false)

-- The switch of `USBD_StandardReqeust`.
def standardResult (config : Config) (dev : Dev Object) : Dev Object × Bool :=
  match dev.reqData.bRequest.toNat with
  | 0 => standardGetStatus config dev
  | 1 => standardClearFeature dev
  | 3 => standardSetFeature dev
  | 5 => standardSetAddress dev
  | 6 => standardGetDescriptor config dev
  | 7 => standardSetDescriptor dev
  | 8 => standardGetConfiguration dev
  | 9 => standardSetConfiguration config dev
  | 10 => standardGetInterface dev
  | 11 => standardSetInterface dev
  | _ => (dev, true)

def standardReqeust (config : Config) (stdReqExceptionHandler : Option (Handler Object))
    (dev : Dev Object) : Dev Object :=
  match standardResult config dev with
  | (dev, true) => dev
  | (dev, false) =>
      match stdReqExceptionHandler with
      | some handler => handler.run dev
      | none => stall dev

/-! ## Class requests -/

def cdcClassHandler (dev : Dev Object) : Dev Object :=
  let length := dev.reqData.wLength
  let cmdBuf : Option (Ptr Object) := some ⟨.cmdBuf, 0⟩
  if length = 0 then
    if dev.reqData.dirIn then ctrlOutData dev none 0 else ctrlTxStatus dev
  else
    match dev.reqData.bRequest.toNat with
    | 0x20 => ctrlOutData dev cmdBuf length
    | 0x21 => ctrlInData dev cmdBuf length
    | 0x22 => ctrlOutData dev cmdBuf length
    | _ => dev

def hidClassHandler (dev : Dev Object) : Dev Object :=
  match dev.reqData.bRequest.toNat with
  | 0x0A =>
      ctrlInData { dev with memory := dev.memory.write ⟨.hidIdleState, 0⟩ [dev.reqData.wValue1] }
        none 0
  | 0x02 => ctrlInData dev (some ⟨.hidIdleState, 0⟩) 1
  | 0x0B =>
      ctrlInData { dev with memory := dev.memory.write ⟨.hidProtocol, 0⟩ [dev.reqData.wValue0] }
        none 0
  | 0x03 => ctrlInData dev (some ⟨.hidProtocol, 0⟩) 1
  | _ => dev

-- `USBD_MSC_BOT_Reset` leaves endpoint 0 alone.
def mscClassHandler (config : Config) (dev : Dev Object) : Dev Object :=
  let noValue := dev.reqData.wValue0 = 0 ∧ dev.reqData.wValue1 = 0
  match dev.reqData.bRequest.toNat with
  | 0xFE =>
      if noValue ∧ dev.reqData.wLength = 1 ∧ dev.reqData.dirIn then
        ctrlInData
          { dev with memory := dev.memory.write ⟨.mscMaxLen, 0⟩ [config.storageMaxLun - 1] }
          (some ⟨.mscMaxLen, 0⟩) 1
      else stall dev
  | 0xFF =>
      if noValue ∧ dev.reqData.wLength = 0 ∧ ¬ dev.reqData.dirIn then ctrlInData dev none 0
      else stall dev
  | _ => stall dev

inductive ClassHandler where
  | cdc
  | hid
  | msc
  deriving DecidableEq, Repr

def ClassHandler.run (config : Config) (dev : Dev Object) : ClassHandler → Dev Object
  | .cdc => cdcClassHandler dev
  | .hid => hidClassHandler dev
  | .msc => mscClassHandler config dev

theorem ClassHandler.replies (config : Config) (dev : Dev Object) (handler : ClassHandler) :
    Replies dev (handler.run config dev) := by
  cases handler with
  | cdc =>
    simp only [ClassHandler.run, cdcClassHandler]
    split_ifs
    · exact .outData dev none 0
    · exact .inData dev dev.memory none 0
    · split
      · exact .outData dev _ _
      · exact .inData dev dev.memory _ _
      · exact .outData dev _ _
      · exact .silent dev
  | hid =>
    simp only [ClassHandler.run, hidClassHandler]
    split
    · exact .inData dev _ none 0
    · exact .inData dev dev.memory _ 1
    · exact .inData dev _ none 0
    · exact .inData dev dev.memory _ 1
    · exact .silent dev
  | msc =>
    simp only [ClassHandler.run, mscClassHandler]
    split
    · split_ifs
      · exact .inData dev _ _ 1
      · exact .stall dev
    · split_ifs
      · exact .inData dev dev.memory none 0
      · exact .stall dev
    · exact .stall dev

def ClassHandler.handler (config : Config) (handler : ClassHandler) : Handler Object where
  run := fun dev => handler.run config dev
  replies := fun dev => handler.replies config dev

-- The optional handlers of `USBD_InitParam_T`.
structure Handlers where
  stdReqExceptionHandler : Option (Handler Object)
  classReqHandler : Option (Handler Object)
  vendorReqHandler : Option (Handler Object)

def Handlers.requests (handlers : Handlers) (config : Config) : Requests Object where
  standard := standardReqeust config handlers.stdReqExceptionHandler
  classReqHandler := handlers.classReqHandler.map Handler.run
  vendorReqHandler := handlers.vendorReqHandler.map Handler.run

/-! ## What a standard request does -/

/-- The checks that the standard requests make of the fields. -/
def Config.Rejects (config : Config) (request : DevReqData) : Prop :=
  match request.bRequest.toNat with
  | 0 => 3 ≤ request.recipient
  | 5 => ¬ (request.wValue0 < 127 ∧ request.wValue1 = 0 ∧ request.recipient = 0)
  | 6 => ¬ (request.wValue1.toNat = 1 ∨ request.wValue1.toNat = 2 ∨
      request.wValue1.toNat = 3 ∧ request.wValue0.toNat < config.stringDesc.length)
  | 8 => request.recipient ≠ 0
  | 9 => ¬ (request.wValue0 ≤ config.configurationNum ∧ request.recipient = 0)
  | 1 | 7 | 10 | 11 => True
  | _ => False

instance (config : Config) (request : DevReqData) : Decidable (config.Rejects request) := by
  unfold Config.Rejects; split <;> infer_instance

/-- The requests that the dispatcher answers or rejects; it ignores the others. -/
def DevReqData.Known (request : DevReqData) : Prop :=
  request.bRequest.toNat ∈ [0, 1, 5, 6, 7, 8, 9, 10, 11]

instance (request : DevReqData) : Decidable request.Known := by
  unfold DevReqData.Known; infer_instance

theorem standardResult_rejected {config : Config} {dev : Dev Object}
    (rejected : config.Rejects dev.reqData) : standardResult config dev = (dev, false) := by
  unfold Config.Rejects at rejected
  unfold standardResult
  split at rejected
  · next request =>
    simp only [request, standardGetStatus]
    split <;> first | rfl | omega
  · next request => simp only [request, standardSetAddress, rejected, if_false]
  · next request =>
    simp only [request, standardGetDescriptor]
    split
    · next device => exact absurd (.inl device) rejected
    · next configuration => exact absurd (.inr (.inl configuration)) rejected
    · next string =>
      have beyond : ¬ dev.reqData.wValue0.toNat < config.stringDesc.length :=
        fun within => rejected (.inr (.inr ⟨string, within⟩))
      rw [List.getElem?_eq_none (Nat.le_of_not_lt beyond)]
    · rfl
  · next request => simp only [request, standardGetConfiguration, rejected, if_false]
  · next request => simp only [request, standardSetConfiguration, rejected, if_false]
  · next request => simp only [request, standardClearFeature]
  · next request => simp only [request, standardSetDescriptor]
  · next request => simp only [request, standardGetInterface]
  · next request => simp only [request, standardSetInterface]
  · contradiction

theorem standardResult_ignored (config : Config) {dev : Dev Object}
    (unknown : ¬ dev.reqData.Known) : standardResult config dev = (dev, true) := by
  unfold standardResult
  split <;> simp_all [DevReqData.Known, standardSetFeature]

/-- The answer of a request that is neither ignored nor rejected: some bytes or the status. -/
theorem standardResult_accepted {config : Config} {dev : Dev Object}
    (known : dev.reqData.Known) (accepted : ¬ config.Rejects dev.reqData) :
    ∃ memory buf len,
      standardResult config dev = (ctrlInData { dev with memory := memory } buf len, true) := by
  unfold Config.Rejects at accepted
  unfold standardResult
  split at accepted
  · next request =>
    simp only [request, standardGetStatus]
    split
    · exact ⟨_, _, _, rfl⟩
    · exact ⟨_, _, _, rfl⟩
    · exact ⟨_, _, _, rfl⟩
    · next device interface endpoint =>
      obtain zero | one | two : dev.reqData.recipient = 0 ∨ dev.reqData.recipient = 1 ∨
          dev.reqData.recipient = 2 := by omega
      · exact absurd zero device
      · exact absurd one interface
      · exact absurd two endpoint
  · next request =>
    rw [not_not] at accepted
    simp only [request, standardSetAddress, accepted]
    exact ⟨dev.memory, none, 0, rfl⟩
  · next request =>
    rw [not_not] at accepted
    simp only [request, standardGetDescriptor]
    rcases accepted with device | configuration | ⟨string, within⟩
    · simp only [device]
      exact ⟨dev.memory, _, _, rfl⟩
    · simp only [configuration]
      exact ⟨dev.memory, _, _, rfl⟩
    · simp only [string, List.getElem?_eq_getElem within]
      exact ⟨dev.memory, _, _, rfl⟩
  · next request =>
    rw [not_not] at accepted
    simp only [request, standardGetConfiguration, accepted]
    exact ⟨dev.memory, _, _, rfl⟩
  · next request =>
    rw [not_not] at accepted
    simp only [request, standardSetConfiguration, accepted]
    exact ⟨_, _, _, rfl⟩
  · exact absurd trivial accepted
  · exact absurd trivial accepted
  · exact absurd trivial accepted
  · exact absurd trivial accepted
  · simp_all [DevReqData.Known]

theorem standardReqeust_replies (config : Config) (exception : Option (Handler Object))
    (dev : Dev Object) : Replies dev (standardReqeust config exception dev) := by
  unfold standardReqeust
  by_cases rejected : config.Rejects dev.reqData
  · rw [standardResult_rejected rejected]
    cases exception with
    | none => exact .stall dev
    | some handler => exact handler.replies dev
  · by_cases known : dev.reqData.Known
    · obtain ⟨memory, buf, len, result⟩ := standardResult_accepted known rejected
      rw [result]
      exact .inData dev memory buf len
    · rw [standardResult_ignored config known]
      exact .silent dev

end ApmSdk.Usbd
