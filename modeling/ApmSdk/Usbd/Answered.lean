import ApmSdk.Usbd.StandardRequest

set_option autoImplicit false

/-!
# What a SETUP packet leaves on endpoint 0

The low priority interrupt sets both halves of endpoint 0 to NAK and calls `USBD_SetupProcess`:
which requests does a handler of the library undo that for?
-/

namespace ApmSdk.Usbd

def DevReqData.pack (request : DevReqData) : List Byte :=
  [request.bmRequestType, request.bRequest, request.wValue0, request.wValue1, request.wIndex0,
    request.wIndex1, request.wLength0, request.wLength1]

-- The branch of `USBD_LowPriorityProc` for a SETUP packet.
def lowPrioritySetup {Obj : Type} (requests : Requests Obj) (dev : Dev Obj)
    (request : DevReqData) (stack : Nat → Byte) : Dev Obj :=
  let dev := { dev with rxBuffer := received request.pack dev.rxBuffer }
  setupProcess requests (dev.setTxRxStatus .nak .nak) request.pack.length
    (received request.pack stack)

-- Endpoint 0 when `USBD_SetupProcess` has stored the request.
def Dev.started {Obj : Type} (dev : Dev Obj) (request : DevReqData) : Dev Obj :=
  { dev with
    rxBuffer := received request.pack dev.rxBuffer
    in0.txStatus := .nak
    out0.rxStatus := .nak
    reqData := request
    reads := dev.reads ++ [⟨8, 8, none⟩] }

theorem lowPrioritySetup_eq {Obj : Type} (requests : Requests Obj) (dev : Dev Obj)
    (request : DevReqData) (stack : Nat → Byte) :
    lowPrioritySetup requests dev request stack =
      match request.type with
      | 0 => requests.standard (dev.started request)
      | 1 => requests.classReqHandler.getD id (dev.started request)
      | 2 => requests.vendorReqHandler.getD id (dev.started request)
      | _ => stall (dev.started request) :=
  rfl

/-- The host goes on with an IN transaction: the data stage, or the status stage of a request
without data. -/
def DevReqData.expectsIn (request : DevReqData) : Prop :=
  request.wLength = 0 ∨ request.dirIn = true

instance (request : DevReqData) : Decidable request.expectsIn := by
  unfold DevReqData.expectsIn; infer_instance

def Answered {Obj : Type} (request : DevReqData) (dev : Dev Obj) : Prop :=
  dev.in0.txStatus = .valid ∨ dev.out0.rxStatus = .valid ∨
    if request.expectsIn then dev.in0.txStatus = .stall else dev.out0.rxStatus = .stall

/-- The requests that a class handler does not pass over. -/
def ClassHandler.Answers (request : DevReqData) : ClassHandler → Prop
  | .cdc => request.wLength = 0 ∨ request.bRequest.toNat ∈ [0x20, 0x21, 0x22]
  | .hid => request.bRequest.toNat ∈ [0x02, 0x03, 0x0A, 0x0B]
  | .msc => True

/-- Which class handlers of the library the application registers. -/
structure ClassHandlers where
  stdReqExceptionHandler : Option ClassHandler
  classReqHandler : Option ClassHandler
  vendorReqHandler : Option ClassHandler

def ClassHandlers.handlers (handlers : ClassHandlers) (config : Config) : Handlers where
  stdReqExceptionHandler := handlers.stdReqExceptionHandler.map (·.handler config)
  classReqHandler := handlers.classReqHandler.map (·.handler config)
  vendorReqHandler := handlers.vendorReqHandler.map (·.handler config)

/-- A standard request is known and, when it is rejected, the exception handler answers it; a
class or vendor request has a handler that answers it. -/
def ClassHandlers.Answers (handlers : ClassHandlers) (config : Config) (request : DevReqData) :
    Prop :=
  match request.type with
  | 0 => request.Known ∧ (config.Rejects request →
      ∀ handler, handlers.stdReqExceptionHandler = some handler → handler.Answers request)
  | 1 => ∃ handler, handlers.classReqHandler = some handler ∧ handler.Answers request
  | 2 => ∃ handler, handlers.vendorReqHandler = some handler ∧ handler.Answers request
  | _ => True

section

variable {Obj : Type}

/-- Both halves of the endpoint are at NAK. -/
structure Dev.Silent (dev : Dev Obj) : Prop where
  tx : dev.in0.txStatus = .nak
  rx : dev.out0.rxStatus = .nak

instance (request : DevReqData) (dev : Dev Obj) : Decidable (Answered request dev) := by
  unfold Answered; infer_instance

theorem Dev.Silent.unanswered {dev : Dev Obj} (silent : dev.Silent) (request : DevReqData) :
    ¬ Answered request dev := by
  simp [Answered, silent.tx, silent.rx]

theorem answered_ctrlInData (request : DevReqData) (dev : Dev Obj) (buf : Option (Ptr Obj))
    (len : Nat) : Answered request (ctrlInData dev buf len) := by
  left
  unfold ctrlInData
  dsimp only
  split
  · rfl
  · split <;> rfl

theorem answered_ctrlOutData (request : DevReqData) (dev : Dev Obj) (buf : Option (Ptr Obj))
    (len : Nat) : Answered request (ctrlOutData dev buf len) := by
  right
  left
  unfold ctrlOutData
  split <;> rfl

theorem answered_stall (request : DevReqData) (dev : Dev Obj) :
    Answered request (stall dev) := by
  right
  right
  split <;> rfl

end

theorem ClassHandler.answers_iff (config : Config) {dev : Dev Object} (silent : dev.Silent)
    (handler : ClassHandler) :
    Answered dev.reqData (handler.run config dev) ↔ handler.Answers dev.reqData := by
  have never := silent.unanswered dev.reqData
  cases handler with
  | cdc =>
    simp only [ClassHandler.run, cdcClassHandler, ClassHandler.Answers]
    by_cases none : dev.reqData.wLength = 0
    · simp only [none, if_true, true_or, iff_true]
      split
      · exact answered_ctrlOutData _ dev _ 0
      · exact answered_ctrlInData _ dev _ 0
    · simp only [none, if_false, false_or]
      split <;> simp_all [answered_ctrlInData, answered_ctrlOutData]
  | hid =>
    simp only [ClassHandler.run, hidClassHandler, ClassHandler.Answers]
    split <;> simp_all [answered_ctrlInData]
  | msc =>
    simp only [ClassHandler.run, mscClassHandler, ClassHandler.Answers, iff_true]
    split
    · split
      · exact answered_ctrlInData _ _ _ 1
      · exact answered_stall _ dev
    · split
      · exact answered_ctrlInData _ dev _ 0
      · exact answered_stall _ dev
    · exact answered_stall _ dev

theorem answered_standardReqeust (config : Config) {dev : Dev Object} (silent : dev.Silent)
    (exception : Option ClassHandler) :
    Answered dev.reqData
        (standardReqeust config (exception.map (·.handler config)) dev) ↔
      dev.reqData.Known ∧ (config.Rejects dev.reqData →
        ∀ handler, exception = some handler → handler.Answers dev.reqData) := by
  unfold standardReqeust
  by_cases known : dev.reqData.Known
  · by_cases rejected : config.Rejects dev.reqData
    · rw [standardResult_rejected rejected]
      cases exception with
      | none => simpa [known] using answered_stall _ dev
      | some handler =>
        simpa [known, rejected, ClassHandler.handler] using handler.answers_iff config silent
    · obtain ⟨memory, buf, len, result⟩ := standardResult_accepted known rejected
      rw [result]
      simpa [known, rejected] using answered_ctrlInData _ _ buf len
  · rw [standardResult_ignored config known]
    simpa [known] using silent.unanswered dev.reqData

/-- A SETUP packet is answered exactly when some handler is there for it. -/
theorem answered_iff (handlers : ClassHandlers) (config : Config) (dev : Dev Object)
    (request : DevReqData) (stack : Nat → Byte) :
    Answered request
        (lowPrioritySetup ((handlers.handlers config).requests config) dev request stack) ↔
      handlers.Answers config request := by
  have silent : (dev.started request).Silent := ⟨rfl, rfl⟩
  have never := silent.unanswered request
  have handled (handler : Option ClassHandler) :
      Answered request
          (((handler.map (·.handler config)).map Handler.run).getD id (dev.started request)) ↔
        ∃ some, handler = .some some ∧ some.Answers request := by
    cases handler with
    | none => simpa using never
    | some handler =>
      have answers : Answered request (handler.run config (dev.started request)) ↔
          handler.Answers request := handler.answers_iff config silent
      simpa [ClassHandler.handler] using answers
  rw [lowPrioritySetup_eq]
  unfold ClassHandlers.Answers
  split
  · exact answered_standardReqeust config silent handlers.stdReqExceptionHandler
  · exact handled handlers.classReqHandler
  · exact handled handlers.vendorReqHandler
  · simpa using answered_stall request _

-- `SET_FEATURE` for remote wake-up.
def setFeature : DevReqData := ⟨0, 3, 1, 0, 0, 0, 0, 0⟩

def blankConfig : Config := ⟨18, 32, [4], 1, 1, fun _ => false⟩

def noHandlers : ClassHandlers := ⟨none, none, none⟩

theorem setFeature_unanswered :
    ¬ ∀ (handlers : ClassHandlers) (config : Config) (dev : Dev Object) (request : DevReqData)
        (stack : Nat → Byte), Answered request
          (lowPrioritySetup ((handlers.handlers config).requests config) dev request stack) := by
  intro answered
  have left := answered noHandlers blankConfig (.reset 64 fun _ _ => 0) setFeature fun _ => 0
  exact absurd left (by decide)

end ApmSdk.Usbd
