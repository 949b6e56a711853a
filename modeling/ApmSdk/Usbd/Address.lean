import ApmSdk.Usbd.Answered

set_option autoImplicit false

/-!
# The device address

When `USBD_CtrlInProcess` calls `USBD_SetDeviceAddr`, over runs of control transfers of every
type with any class, vendor and exception handlers.
-/

namespace ApmSdk.Usbd

open Runs

inductive TransferLabel where
  | setup (request : DevReqData) (stack : Nat → Byte) (handlers : Handlers)
  | inDone
  | out (packet : List Byte)

/-- The control label of a transaction other than SETUP. -/
def transferStep (config : Config) (dev : Dev Object) : TransferLabel → Option (Dev Object)
  | .setup request stack handlers =>
      some (lowPrioritySetup (handlers.requests config) dev request stack)
  | .inDone => controlStep dev .inDone
  | .out packet => controlStep dev (.out packet)

def lastRequest (labels : List TransferLabel) : Option DevReqData :=
  labels.foldl (fun last label => match label with
    | .setup request _ _ => some request
    | _ => last) none

-- A standard `SET_ADDRESS` that passes the checks of `USBD_StandardSetAddress`.
structure DevReqData.SetsAddress (request : DevReqData) : Prop where
  standard : request.type = 0
  setAddress : request.bRequest.toNat = 5
  valid : request.wValue0 < 127 ∧ request.wValue1 = 0 ∧ request.recipient = 0

instance (request : DevReqData) : Decidable request.SetsAddress :=
  decidable_of_iff (request.type = 0 ∧ request.bRequest.toNat = 5 ∧
      request.wValue0 < 127 ∧ request.wValue1 = 0 ∧ request.recipient = 0)
    ⟨fun ⟨standard, setAddress, valid⟩ => ⟨standard, setAddress, valid⟩,
      fun ⟨standard, setAddress, valid⟩ => ⟨standard, setAddress, valid⟩⟩

-- The argument of the call of `USBD_SetDeviceAddr` that the transaction ends with.
def addressCall (dev : Dev Object) : TransferLabel → Option Byte
  | .inDone =>
      if dev.ctrlState = .waitStatusIn ∧ dev.reqData.bRequest = 5 then some dev.reqData.wValue0
      else none
  | _ => none

/-- The transaction is the status stage of a request that carries no data to the device: IN,
unless the host has asked for IN data. -/
def StatusStage (request : DevReqData) : TransferLabel → Prop
  | .inDone => request.wLength = 0 ∨ request.dirIn = false
  | .out _ => ¬ (request.wLength = 0 ∨ request.dirIn = false)
  | .setup _ _ _ => False

instance (request : DevReqData) (label : TransferLabel) :
    Decidable (StatusStage request label) := by
  cases label <;> unfold StatusStage <;> infer_instance

-- The claims of a transaction on the address after the requests of `labels`.
structure Addresses (labels : List TransferLabel) (dev : Dev Object) (label : TransferLabel) :
    Prop where
  only : ∀ address, addressCall dev label = some address → address ≠ 0 →
    ∃ request, lastRequest labels = some request ∧ request.SetsAddress ∧
      StatusStage request label ∧ address = request.wValue0
  always : ∀ request, lastRequest labels = some request → request.SetsAddress →
    StatusStage request label → addressCall dev label = some request.wValue0

/-- The request that completes is not another one with the number of `SET_ADDRESS` and some
address, nor a `SET_ADDRESS` in the direction of IN data. -/
def Unconfused (dev : Dev Object) : TransferLabel → Prop
  | .inDone =>
      if dev.reqData.SetsAddress then dev.reqData.dirIn = false ∨ dev.reqData.wLength ≠ 0
      else dev.ctrlState = .waitStatusIn → dev.reqData.bRequest = 5 → dev.reqData.wValue0 = 0
  | .out _ => dev.reqData.SetsAddress → dev.reqData.dirIn = false ∨ dev.reqData.wLength = 0
  | .setup _ _ _ => True

instance (dev : Dev Object) (label : TransferLabel) : Decidable (Unconfused dev label) := by
  cases label <;> unfold Unconfused <;> infer_instance

/-! ## What the requests leave alone -/

theorem reqData_ctrlInData {Obj : Type} (dev : Dev Obj) (buf : Option (Ptr Obj)) (len : Nat) :
    (ctrlInData dev buf len).reqData = dev.reqData ∧
      (ctrlInData dev buf len).address = dev.address := by
  unfold ctrlInData
  dsimp only
  split
  · exact ⟨rfl, rfl⟩
  · split <;> exact ⟨rfl, rfl⟩

theorem reqData_ctrlOutData {Obj : Type} (dev : Dev Obj) (buf : Option (Ptr Obj)) (len : Nat) :
    (ctrlOutData dev buf len).reqData = dev.reqData ∧
      (ctrlOutData dev buf len).address = dev.address := by
  unfold ctrlOutData
  split <;> exact ⟨rfl, rfl⟩

theorem Replies.reqData {Obj : Type} {before after : Dev Obj} (replies : Replies before after) :
    after.reqData = before.reqData ∧ after.address = before.address := by
  obtain ⟨memory, calls, rfl⟩ := replies
  suffices each : ∀ dev : Dev Obj, (calls.foldl Call.run dev).reqData = dev.reqData ∧
      (calls.foldl Call.run dev).address = dev.address from each { before with memory := memory }
  induction calls with
  | nil => exact fun _ => ⟨rfl, rfl⟩
  | cons call rest ih =>
    intro dev
    rw [List.foldl_cons, (ih _).1, (ih _).2]
    cases call with
    | inData buf len => exact reqData_ctrlInData dev buf len
    | outData buf len => exact reqData_ctrlOutData dev buf len
    | stall => exact ⟨rfl, rfl⟩

theorem reqData_lowPrioritySetup (config : Config) (handlers : Handlers) (dev : Dev Object)
    (request : DevReqData) (stack : Nat → Byte) :
    (lowPrioritySetup (handlers.requests config) dev request stack).reqData = request ∧
      (lowPrioritySetup (handlers.requests config) dev request stack).address = dev.address := by
  have handled (handler : Option (Handler Object)) :
      ((handler.map Handler.run).getD id (dev.started request)).reqData = request ∧
        ((handler.map Handler.run).getD id (dev.started request)).address = dev.address := by
    cases handler with
    | none => exact ⟨rfl, rfl⟩
    | some handler => exact (handler.replies _).reqData
  rw [lowPrioritySetup_eq]
  split
  · exact (standardReqeust_replies config _ _).reqData
  · exact handled handlers.classReqHandler
  · exact handled handlers.vendorReqHandler
  · exact ⟨rfl, rfl⟩

theorem reqData_ctrlInProcess {Obj : Type} (dev : Dev Obj) :
    (ctrlInProcess dev).reqData = dev.reqData := by
  unfold ctrlInProcess
  split
  · split
    · rfl
    · split <;> rfl
  · rfl
  · rfl

theorem reqData_ctrlOutProcess {Obj : Type} [DecidableEq Obj] (dev : Dev Obj) :
    (ctrlOutProcess dev).reqData = dev.reqData ∧ (ctrlOutProcess dev).address = dev.address := by
  unfold ctrlOutProcess
  split
  · split
    · dsimp only
      split
      · exact reqData_ctrlOutData _ _ _
      · exact reqData_ctrlInData _ _ _
    · exact reqData_ctrlInData _ _ _
  · exact ⟨rfl, rfl⟩

/-! ## The invariant of the runs -/

def answeredState (request : DevReqData) : CtrlState :=
  if request.dirIn then .dataIn else .waitStatusIn

/-- The stored request is the last one, and an accepted `SET_ADDRESS` whose answer is queued has
decided the state. -/
structure Tracked (labels : List TransferLabel) (dev : Dev Object) : Prop where
  request : ∀ request, lastRequest labels = some request → dev.reqData = request
  fresh : lastRequest labels = none →
    dev.ctrlState = .waitSetup ∧ dev.in0.txStatus ≠ .valid ∧ ¬ dev.reqData.SetsAddress
  state : dev.reqData.SetsAddress → dev.in0.txStatus = .valid →
    dev.ctrlState = answeredState dev.reqData

theorem Tracked.asked {labels : List TransferLabel} {dev : Dev Object}
    (tracked : Tracked labels dev) (begun : dev.in0.txStatus = .valid ∨ dev.reqData.SetsAddress) :
    lastRequest labels = some dev.reqData := by
  cases last : lastRequest labels with
  | some request => rw [tracked.request request last]
  | none =>
    have ⟨_, idle, other⟩ := tracked.fresh last
    exact absurd begun (not_or.mpr ⟨idle, other⟩)

theorem lastRequest_snoc (labels : List TransferLabel) (label : TransferLabel) :
    lastRequest (labels ++ [label]) = match label with
      | .setup request _ _ => some request
      | _ => lastRequest labels := by
  simp only [lastRequest, List.foldl_append, List.foldl_cons, List.foldl_nil]

theorem setup_setsAddress {config : Config} {handlers : Handlers} {dev : Dev Object}
    {request : DevReqData} {stack : Nat → Byte} (sets : request.SetsAddress) :
    lowPrioritySetup (handlers.requests config) dev request stack =
      ctrlInData (dev.started request) none 0 := by
  have result : standardResult config (dev.started request) =
      (ctrlInData (dev.started request) none 0, true) := by
    have fields := sets.setAddress
    have accepted := sets.valid
    simp only [standardResult, Dev.started, fields, standardSetAddress, accepted]
    rfl
  rw [lowPrioritySetup_eq, sets.standard]
  simp only [Handlers.requests, standardReqeust, result]

theorem ctrlState_ctrlInData_zero {Obj : Type} (dev : Dev Obj) (buf : Option (Ptr Obj)) :
    (ctrlInData dev buf 0).ctrlState = answeredState dev.reqData := by
  simp [ctrlInData, answeredState]

theorem Tracked.setup {config : Config} {labels : List TransferLabel} {dev : Dev Object}
    {request : DevReqData} {stack : Nat → Byte} {handlers : Handlers} :
    Tracked (labels ++ [.setup request stack handlers])
      (lowPrioritySetup (handlers.requests config) dev request stack) := by
  have stored := (reqData_lowPrioritySetup config handlers dev request stack).1
  constructor
  · intro other last
    rw [lastRequest_snoc, Option.some.injEq] at last
    rw [stored, last]
  · intro none
    rw [lastRequest_snoc] at none
    contradiction
  · intro sets _
    rw [stored] at sets ⊢
    rw [setup_setsAddress sets]
    exact ctrlState_ctrlInData_zero _ none

theorem ctrlInProcess_dataIn {dev : Dev Object} (state : dev.ctrlState = .dataIn)
    (queued : (ctrlInProcess dev).in0.txStatus = .valid) :
    (ctrlInProcess dev).ctrlState = .dataIn := by
  by_cases none : dev.in0.packNum = 0
  · by_cases filled : dev.in0.zeroPackFill = true
    · simp [ctrlInProcess, state, none, filled]
    · simp [ctrlInProcess, state, none, filled, Dev.setTxRxStatus] at queued
  · simp [ctrlInProcess, state, none]

theorem ctrlInProcess_waitStatusIn {dev : Dev Object} (state : dev.ctrlState = .waitStatusIn) :
    (ctrlInProcess dev).in0 = dev.in0 := by
  simp [ctrlInProcess, state]

theorem Tracked.inDone {labels : List TransferLabel} {dev : Dev Object}
    (tracked : Tracked labels dev) (valid : dev.in0.txStatus = .valid) :
    Tracked (labels ++ [.inDone]) (ctrlInProcess (dev.setTxRxStatus .nak .nak)) := by
  have stored : (ctrlInProcess (dev.setTxRxStatus .nak .nak)).reqData = dev.reqData :=
    reqData_ctrlInProcess _
  have asked := tracked.asked (.inl valid)
  constructor
  · rw [lastRequest_snoc, stored]
    exact tracked.request
  · intro none
    rw [lastRequest_snoc, asked] at none
    contradiction
  · rw [stored]
    intro sets queued
    have state := tracked.state sets valid
    unfold answeredState at state ⊢
    cases inbound : dev.reqData.dirIn with
    | false =>
      -- the address is set and nothing is queued any more
      rw [inbound] at state
      have settled : (dev.setTxRxStatus .nak .nak).ctrlState = .waitStatusIn := state
      rw [ctrlInProcess_waitStatusIn settled] at queued
      contradiction
    | true =>
      rw [inbound] at state
      exact ctrlInProcess_dataIn state queued

theorem txStatus_ctrlOutData (dev : Dev Object) (buf : Option (Ptr Object)) (len : Nat) :
    (ctrlOutData dev buf len).in0.txStatus = .nak := by
  unfold ctrlOutData
  split <;> rfl

theorem ctrlOutProcess_queued {dev : Dev Object} (idle : dev.in0.txStatus = .nak)
    (queued : (ctrlOutProcess dev).in0.txStatus = .valid) :
    dev.ctrlState = .dataOut ∧ (ctrlOutProcess dev).ctrlState = answeredState dev.reqData := by
  unfold ctrlOutProcess at queued ⊢
  split at queued
  · next state =>
    simp only [state, true_and]
    split at queued
    · next expected =>
      dsimp only at queued
      split at queued
      · rw [txStatus_ctrlOutData] at queued
        contradiction
      · next last =>
        rw [if_pos expected, if_neg last]
        exact ctrlState_ctrlInData_zero _ none
    · next unexpected =>
      rw [if_neg unexpected]
      exact ctrlState_ctrlInData_zero _ none
  · rw [idle] at queued
    contradiction

theorem Tracked.out {labels : List TransferLabel} {dev : Dev Object}
    (tracked : Tracked labels dev) (packet : List Byte) :
    Tracked (labels ++ [.out packet]) (ctrlOutProcess
      ({ dev with rxBuffer := received packet dev.rxBuffer }.setTxRxStatus .nak .nak)) := by
  have stored := (reqData_ctrlOutProcess
    ({ dev with rxBuffer := received packet dev.rxBuffer }.setTxRxStatus .nak .nak)).1
  constructor
  · rw [lastRequest_snoc, stored]
    exact tracked.request
  · rw [lastRequest_snoc, stored]
    intro none
    have ⟨state, _, other⟩ := tracked.fresh none
    have unmoved : ctrlOutProcess ({ dev with rxBuffer := received packet dev.rxBuffer
        }.setTxRxStatus .nak .nak) =
        { dev with rxBuffer := received packet dev.rxBuffer }.setTxRxStatus .nak .nak := by
      simp [ctrlOutProcess, Dev.setTxRxStatus, state]
    rw [unmoved]
    exact ⟨state, nofun, other⟩
  · rw [stored]
    intro _ queued
    exact (ctrlOutProcess_queued rfl queued).2

theorem reached_tracked {config : Config} {ep0PacketSize : Nat} {memory : Memory Object}
    {labels : List TransferLabel} {s : Dev Object}
    (run : Run (transferStep config) free (Dev.reset ep0PacketSize memory) labels s) :
    Tracked labels s := by
  induction run with
  | nil =>
    constructor
    · intro request last
      contradiction
    · intro _
      exact ⟨rfl, nofun, fun sets => by cases sets.setAddress⟩
    · intro _ queued
      contradiction
  | @snoc labels before after label run _ taken tracked =>
    cases label with
    | setup request stack handlers =>
      obtain rfl := Option.some.inj taken
      exact .setup
    | inDone =>
      obtain ⟨valid, rfl⟩ := controlStep_inDone taken
      exact tracked.inDone valid
    | out packet =>
      obtain ⟨_, rfl⟩ := controlStep_out taken
      exact tracked.out packet

/-! ## The calls -/

theorem address_ctrlInProcess (dev : Dev Object) :
    (ctrlInProcess dev).address = (addressCall dev .inDone).getD dev.address := by
  unfold ctrlInProcess
  split
  · next state =>
    have silent : addressCall dev .inDone = none := by simp [addressCall, state]
    rw [silent]
    split
    · rfl
    · split <;> rfl
  · next state => by_cases number : dev.reqData.bRequest = 5 <;> simp [addressCall, state, number]
  · next data status =>
    have silent : addressCall dev .inDone = none := by
      simp only [addressCall, ite_eq_right_iff]
      exact fun call => absurd call.1 status
    rw [silent]
    rfl

theorem address_transferStep {config : Config} {before after : Dev Object}
    {label : TransferLabel} (taken : transferStep config before label = some after) :
    after.address = (addressCall before label).getD before.address := by
  cases label with
  | setup request stack handlers =>
    obtain rfl := Option.some.inj taken
    exact (reqData_lowPrioritySetup config handlers before request stack).2
  | inDone =>
    obtain ⟨_, rfl⟩ := controlStep_inDone taken
    exact address_ctrlInProcess _
  | out packet =>
    obtain ⟨_, rfl⟩ := controlStep_out taken
    exact (reqData_ctrlOutProcess _).2

theorem inDone_valid {config : Config} {before after : Dev Object}
    (taken : transferStep config before .inDone = some after) : before.in0.txStatus = .valid :=
  (controlStep_inDone taken).1

theorem addressCall_setsAddress {dev : Dev Object} (sets : dev.reqData.SetsAddress)
    (state : dev.ctrlState = answeredState dev.reqData) :
    addressCall dev .inDone =
      if dev.reqData.dirIn then none else some dev.reqData.wValue0 := by
  have number : dev.reqData.bRequest = 5 := UInt8.toNat_inj.mp sets.setAddress
  unfold answeredState at state
  cases inbound : dev.reqData.dirIn <;> simp [addressCall, state, inbound, number]

theorem addresses_of_setsAddress {labels : List TransferLabel} {s : Dev Object}
    (asked : lastRequest labels = some s.reqData) (sets : s.reqData.SetsAddress)
    (state : s.ctrlState = answeredState s.reqData) :
    Addresses labels s .inDone ↔ s.reqData.dirIn = false ∨ s.reqData.wLength ≠ 0 := by
  have call := addressCall_setsAddress sets state
  constructor
  · intro addresses
    by_cases short : s.reqData.wLength = 0
    · have performed := addresses.always _ asked sets (.inl short)
      rw [call] at performed
      left
      by_contra inbound
      simp [inbound] at performed
    · exact .inr short
  · intro unconfused
    constructor
    · intro address called _
      rw [call] at called
      cases inbound : s.reqData.dirIn with
      | true => simp [inbound] at called
      | false => exact ⟨_, asked, sets, .inr inbound, by simpa [inbound] using called.symm⟩
    · intro request last _ status
      obtain rfl := Option.some.inj (asked.symm.trans last)
      have outward : s.reqData.dirIn = false := by
        rcases status with none | outward
        · exact unconfused.resolve_right (not_not.mpr none)
        · exact outward
      simp [call, outward]

theorem addresses_of_other {labels : List TransferLabel} {s : Dev Object}
    (asked : lastRequest labels = some s.reqData) (other : ¬ s.reqData.SetsAddress) :
    Addresses labels s .inDone ↔
      (s.ctrlState = .waitStatusIn → s.reqData.bRequest = 5 → s.reqData.wValue0 = 0) := by
  constructor
  · intro addresses state number
    by_contra some
    have call : addressCall s .inDone = .some s.reqData.wValue0 := by
      simp [addressCall, state, number]
    obtain ⟨request, last, sets, _⟩ := addresses.only _ call some
    obtain rfl := Option.some.inj (asked.symm.trans last)
    exact other sets
  · intro unconfused
    constructor
    · intro address call some
      simp only [addressCall, Option.ite_none_right_eq_some, Option.some.injEq] at call
      obtain ⟨⟨state, number⟩, rfl⟩ := call
      exact absurd (unconfused state number) some
    · intro request last sets _
      obtain rfl := Option.some.inj (asked.symm.trans last)
      exact absurd sets other

theorem addresses_out {labels : List TransferLabel} {s : Dev Object}
    (tracked : Tracked labels s) (packet : List Byte) :
    Addresses labels s (.out packet) ↔
      (s.reqData.SetsAddress → s.reqData.dirIn = false ∨ s.reqData.wLength = 0) := by
  constructor
  · intro addresses sets
    by_contra inbound
    rw [or_comm] at inbound
    have performed := addresses.always _ (tracked.asked (.inr sets)) sets inbound
    contradiction
  · intro unconfused
    constructor
    · intro address call
      contradiction
    · intro request last sets status
      obtain rfl := tracked.request request last
      exact absurd (unconfused sets).symm status

/-- A transaction ends as the claims on the address say exactly when no other request is taken
for a `SET_ADDRESS`, nor a `SET_ADDRESS` for a request of IN data. -/
theorem addresses_iff_unconfused {config : Config} {ep0PacketSize : Nat}
    {memory : Memory Object} {labels : List TransferLabel} {label : TransferLabel}
    {s t : Dev Object}
    (run : Run (transferStep config) free (Dev.reset ep0PacketSize memory) labels s)
    (taken : transferStep config s label = some t) :
    (Addresses labels s label ↔ Unconfused s label) ∧
      t.address = (addressCall s label).getD s.address := by
  have tracked := reached_tracked run
  constructor
  · cases label with
    | setup request stack handlers =>
      constructor
      · intro _
        trivial
      · intro _
        constructor
        · intro address call
          contradiction
        · intro request _ _ status
          contradiction
    | inDone =>
      have valid := inDone_valid taken
      have asked := tracked.asked (.inl valid)
      by_cases sets : s.reqData.SetsAddress
      · rw [addresses_of_setsAddress asked sets (tracked.state sets valid), Unconfused,
          if_pos sets]
      · rw [addresses_of_other asked sets, Unconfused, if_neg sets]
    | out packet => exact addresses_out tracked packet
  · exact address_transferStep taken

/-! ## A class request with the number of SET_ADDRESS -/

def quietHandlers : Handlers := ⟨none, none, none⟩

def cdcHandlers : Handlers := ⟨none, some (ClassHandler.cdc.handler blankConfig), none⟩

def blankDev : Dev Object := .reset 64 fun _ _ => 0

-- `SET_ADDRESS` with the address 7.
def setAddress : TransferLabel := .setup ⟨0, 5, 7, 0, 0, 0, 0, 0⟩ (fun _ => 0) quietHandlers

theorem setAddress_accepted :
    (execute (transferStep blankConfig) free blankDev [setAddress]).isSome = true := by decide

/-- A class request without data, with request number 5 and value 1. -/
def collision : TransferLabel := .setup ⟨0x21, 5, 1, 0, 0, 0, 0, 0⟩ (fun _ => 0) cdcHandlers

theorem collision_accepted :
    (execute (transferStep blankConfig) free blankDev [collision]).isSome = true := by decide

theorem collision_completes :
    (transferStep blankConfig
      (final (transferStep blankConfig) free blankDev [collision] collision_accepted)
      .inDone).isSome = true := by decide

theorem setAddress_completes :
    (transferStep blankConfig
      (final (transferStep blankConfig) free blankDev [setAddress] setAddress_accepted)
      .inDone).isSome = true := by decide

theorem addresses_setAddress :
    Addresses [setAddress]
      (final (transferStep blankConfig) free blankDev [setAddress] setAddress_accepted)
      .inDone :=
  (addresses_iff_unconfused
    (Run.final (transferStep blankConfig) free blankDev [setAddress] setAddress_accepted)
    (Option.some_get setAddress_completes).symm).1.mpr (by decide)

theorem collision_changes_address :
    ¬ ∀ (labels : List TransferLabel) (label : TransferLabel) (s t : Dev Object),
      Run (transferStep blankConfig) free blankDev labels s →
      transferStep blankConfig s label = some t → Addresses labels s label := by
  intro addresses
  have claimed := addresses _ _ _ _
    (Run.final (transferStep blankConfig) free blankDev [collision] collision_accepted)
    (Option.some_get collision_completes).symm
  obtain ⟨request, last, sets, _⟩ := claimed.only 1 (by decide) (by decide)
  obtain rfl := Option.some.inj last
  exact absurd sets.standard (by decide)

end ApmSdk.Usbd
