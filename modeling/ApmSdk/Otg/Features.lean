import ApmSdk.Otg.DeviceState

set_option autoImplicit false

/-!
# Features of the OTG device

`SET_FEATURE`, `CLEAR_FEATURE` and `GET_STATUS` with the halts of all endpoints, against the
settings that the host has been told were accepted.
-/

namespace ApmSdk.Otg

open Runs
open Usbd (Byte DevReqData)

-- `USB_IN_EP_MAX_NUM` and `USB_OUT_EP_MAX_NUM`.
structure Endpoints where
  inEpMaxNum : Nat
  outEpMaxNum : Nat

-- The direction and the number that `wIndex[0]` has.
def endpoint (reqData : DevReqData) : Bool × Nat :=
  (128 ≤ reqData.wIndex0.toNat, reqData.wIndex0.toNat % 128)

def Endpoints.Has (endpoints : Endpoints) (ep : Bool × Nat) : Prop :=
  ep.2 < if ep.1 then endpoints.inEpMaxNum else endpoints.outEpMaxNum

instance (endpoints : Endpoints) (ep : Bool × Nat) : Decidable (endpoints.Has ep) :=
  inferInstanceAs (Decidable (ep.2 < if ep.1 then endpoints.inEpMaxNum else endpoints.outEpMaxNum))

structure FeatureDev where
  dev : Device
  -- `STALLH` of `EP_IN` and of `EP_OUT`
  halt : Bool × Nat → Bool
  -- the bytes transmitted for the last request
  sent : Option (Byte × Byte)
  -- ghost: the last setting accepted for the device and for each endpoint
  wakeup : Option Bool
  halted : Bool × Nat → Option Bool

def FeatureDev.ctrlTxStatus (s : FeatureDev) : FeatureDev := { s with dev := s.dev.ctrlTxStatus }

-- `USB_OTG_SetStall` of endpoint 0.
def FeatureDev.setStall (s : FeatureDev) : FeatureDev :=
  { s with
    dev := s.dev.setStall
    halt := Function.update (Function.update s.halt (true, 0) true) (false, 0) true }

/-- `USBD_StandardSetFeature` and `USBD_StandardClearFeature`, with the values that they compare
the recipient to. -/
def FeatureDev.feature (forDevice forEndpoint : Nat) (on : Bool) (endpoints : Endpoints)
    (s : FeatureDev) (reqData : DevReqData) : FeatureDev × Bool :=
  if reqData.wValue0 = 1 ∧ reqData.recipient = forDevice then
    ({ s with dev := { s.dev with
        curFeature := if on then s.dev.curFeature ||| 32 else s.dev.curFeature &&& ~~~32
        }.ctrlTxStatus }, true)
  else if reqData.wValue0 = 0 ∧ reqData.recipient = forEndpoint then
    let ep := endpoint reqData
    if ep.2 < max endpoints.outEpMaxNum endpoints.inEpMaxNum ∧ s.dev.curConfiguration = 0 then
      (FeatureDev.ctrlTxStatus { s with halt := Function.update s.halt ep on }, true)
    else (s.ctrlTxStatus, true)
  else (s.setStall, false)

-- `USBD_DESC_DEVICE` and `USBD_DESC_ENDPOINT`.
def FeatureDev.standardSetFeature : Endpoints → FeatureDev → DevReqData → FeatureDev × Bool :=
  FeatureDev.feature 1 5 true

-- `USBD_RECIPIENT_DEVICE` and `USBD_RECIPIENT_ENDPOINT`.
def FeatureDev.standardClearFeature : Endpoints → FeatureDev → DevReqData → FeatureDev × Bool :=
  FeatureDev.feature 0 2 false

-- The array that `USBD_StandardGetStatus` fills.
def FeatureDev.status (s : FeatureDev) (reqData : DevReqData) : Byte × Byte :=
  if reqData.recipient = 0 then
    ((if s.dev.curFeature &&& 32 ≠ 0 then 2 else 0) |||
      (if s.dev.curFeature &&& 64 ≠ 0 then 1 else 0), 0)
  else if reqData.recipient = 2 then (if s.halt (endpoint reqData) then 1 else 0, 0)
  else (0, 0)

/-- The array is local, and its bytes are pushed by the TxFIFO interrupt after the function has
returned: `overwritten` is what lies there by then, where that is something else. -/
def FeatureDev.standardGetStatus (s : FeatureDev) (reqData : DevReqData)
    (overwritten : Option (Byte × Byte)) : FeatureDev :=
  if reqData.recipient < 3 then
    { s with
      dev := s.dev.ctrlInData .status 2
      sent := some (overwritten.getD (s.status reqData)) }
  else s.setStall

-- The core clears the halts of endpoint 0 when it receives a SETUP packet.
def FeatureDev.received (s : FeatureDev) : FeatureDev :=
  { s with
    dev := { s.dev with ep0 := [] }
    halt := fun ep => if ep.2 = 0 then false else s.halt ep
    sent := none }

-- The selector has 16 bits.
def Selects (reqData : DevReqData) (feature : Byte) : Prop :=
  reqData.wValue0 = feature ∧ reqData.wValue1 = 0

instance (reqData : DevReqData) (feature : Byte) : Decidable (Selects reqData feature) :=
  inferInstanceAs (Decidable (reqData.wValue0 = feature ∧ reqData.wValue1 = 0))

-- The remote wakeup of the device, and the halt of an endpoint.
def OfDevice (reqData : DevReqData) : Prop := Selects reqData 1 ∧ reqData.recipient = 0

def OfEndpoint (reqData : DevReqData) : Prop := Selects reqData 0 ∧ reqData.recipient = 2

instance (reqData : DevReqData) : Decidable (OfDevice reqData) :=
  inferInstanceAs (Decidable (Selects reqData 1 ∧ reqData.recipient = 0))

instance (reqData : DevReqData) : Decidable (OfEndpoint reqData) :=
  inferInstanceAs (Decidable (Selects reqData 0 ∧ reqData.recipient = 2))

def recorded (reqData : DevReqData) (on : Bool) : FeatureDev × Bool → FeatureDev
  | (s, false) => s
  | (s, true) =>
      if OfDevice reqData then { s with wakeup := some on }
      else if OfEndpoint reqData then
        { s with halted := Function.update s.halted (endpoint reqData) (some on) }
      else s

inductive FeatureLabel where
  | request (reqData : DevReqData) (overwritten : Option (Byte × Byte))
  -- the bus and the other requests
  | elsewhere (devState : DevState) (curConfiguration : Byte)

def featureStep (endpoints : Endpoints) (s : FeatureDev) : FeatureLabel → Option FeatureDev
  | .request reqData overwritten =>
      match reqData.bRequest.toNat with
      | 0 => some (s.received.standardGetStatus reqData overwritten)
      | 1 => some (recorded reqData false (s.received.standardClearFeature endpoints reqData))
      | 3 => some (recorded reqData true (s.received.standardSetFeature endpoints reqData))
      | _ => none
  | .elsewhere devState curConfiguration =>
      some { s with dev := { s.dev with devState := devState, curConfiguration := curConfiguration } }

theorem FeatureDev.dev_standardSetFeature (endpoints : Endpoints) (s : FeatureDev)
    (reqData : DevReqData) :
    ((s.standardSetFeature endpoints reqData).1.dev, (s.standardSetFeature endpoints reqData).2) =
      Otg.standardSetFeature s.dev reqData := by
  simp only [FeatureDev.standardSetFeature, FeatureDev.feature, Otg.standardSetFeature]
  split
  · rfl
  · split
    · split <;> rfl
    · rfl

theorem FeatureDev.dev_standardClearFeature (endpoints : Endpoints) (s : FeatureDev)
    (reqData : DevReqData) :
    ((s.standardClearFeature endpoints reqData).1.dev,
      (s.standardClearFeature endpoints reqData).2) = Otg.standardClearFeature s.dev reqData := by
  simp only [FeatureDev.standardClearFeature, FeatureDev.feature, Otg.standardClearFeature]
  split
  · rfl
  · split
    · split <;> rfl
    · rfl

theorem FeatureDev.dev_standardGetStatus (s : FeatureDev) (reqData : DevReqData)
    (overwritten : Option (Byte × Byte)) :
    (s.standardGetStatus reqData overwritten).dev = (Otg.standardGetStatus s.dev reqData).1 := by
  unfold FeatureDev.standardGetStatus Otg.standardGetStatus
  split <;> rfl

/-! ## The property -/

def wakeupBit (curFeature : Byte) : Bool := curFeature &&& 32 ≠ 0

def Accepted (t : FeatureDev) : Prop := t.dev.ep0 = [.txStatus]

def Answers (s t : FeatureDev) (reqData : DevReqData) (on : Bool) : Prop :=
  if OfDevice reqData then Accepted t ∧ wakeupBit t.dev.curFeature = on
  else if OfEndpoint reqData then
    s.dev.devState = .configured → Accepted t ∧ t.halt (endpoint reqData) = on
  else t.dev.ep0 = [.stall] ∧ t.dev.curFeature = s.dev.curFeature ∧
    -- the stall of the request itself is that of endpoint 0
    ∀ ep : Bool × Nat, ep.2 ≠ 0 → t.halt ep = s.halt ep

def Reports (s t : FeatureDev) (reqData : DevReqData) : Prop :=
  (reqData.recipient = 0 → ∀ on, s.wakeup = some on →
    ∃ bytes, t.sent = some bytes ∧ decide (bytes.1 &&& 2 ≠ 0) = on) ∧
  (reqData.recipient = 2 → ∀ on, s.halted (endpoint reqData) = some on →
    ∃ bytes, t.sent = some bytes ∧ decide (bytes.1 &&& 1 ≠ 0) = on)

def Faithful (s : FeatureDev) : FeatureLabel → FeatureDev → Prop
  | .request reqData _, t =>
      match reqData.bRequest.toNat with
      | 0 => Reports s t reqData
      | 1 => Answers s t reqData false
      | 3 => Answers s t reqData true
      | _ => True
  | .elsewhere _ _, _ => True

-- `wIndex` names an endpoint that exists.
def Named (endpoints : Endpoints) : FeatureLabel → Prop
  | .request reqData _ => reqData.recipient = 2 → endpoints.Has (endpoint reqData)
  | .elsewhere _ _ => True

/-- What a request must be. -/
def Unaffected (s : FeatureDev) : FeatureLabel → Prop
  | .request reqData overwritten =>
      match reqData.bRequest.toNat with
      -- the array of an answer with a setting is still there
      | 0 => reqData.recipient = 0 ∧ s.wakeup ≠ none ∨
          reqData.recipient = 2 ∧ s.halted (endpoint reqData) ≠ none → overwritten = none
      -- the high byte of the selector is not looked at, and only an unconfigured device clears
      | 1 => (reqData.wValue0 = 1 ∧ reqData.recipient = 0 → reqData.wValue1 = 0) ∧
          (reqData.wValue0 = 0 ∧ reqData.recipient = 2 → reqData.wValue1 = 0 ∧
            (s.dev.curConfiguration = 0 ∨ s.received.halt (endpoint reqData) = false))
      -- the recipient is compared to descriptor types
      | 3 => ¬ OfDevice reqData ∧ ¬ (OfEndpoint reqData ∧ s.dev.devState = .configured) ∧
          ¬ (reqData.wValue0 = 1 ∧ reqData.recipient = 1) ∧
          ¬ (reqData.wValue0 = 0 ∧ reqData.recipient = 5)
      | _ => True
  | .elsewhere _ _ => True

/-! ## Steps -/

/-- What the host has been told is so; a halt of endpoint 0 is only ever cleared. -/
structure Current (s : FeatureDev) : Prop where
  wakeup : ∀ on, s.wakeup = some on → wakeupBit s.dev.curFeature = on
  halted : ∀ ep on, ep.2 ≠ 0 → s.halted ep = some on → s.halt ep = on
  control : ∀ ep on, ep.2 = 0 → s.halted ep = some on → on = false

theorem wakeupBit_clear (curFeature : Byte) : wakeupBit (curFeature &&& ~~~32) = false := by
  have each : ∀ bits : BitVec 8, wakeupBit (⟨bits⟩ &&& ~~~32) = false := by decide
  exact each curFeature.toBitVec

theorem status_wakeup (s : FeatureDev) {reqData : DevReqData} (device : reqData.recipient = 0) :
    decide ((s.status reqData).1 &&& 2 ≠ 0) = wakeupBit s.dev.curFeature := by
  simp only [FeatureDev.status, device, if_true, wakeupBit]
  by_cases wake : s.dev.curFeature &&& 32 = 0
  · simp only [wake, ne_eq, not_true_eq_false, if_false, decide_false]
    split <;> decide
  · simp only [wake, ne_eq, not_false_eq_true, if_true, decide_true]
    split <;> decide

theorem status_halt (s : FeatureDev) {reqData : DevReqData} (ep : reqData.recipient = 2) :
    decide ((s.status reqData).1 &&& 1 ≠ 0) = s.halt (endpoint reqData) := by
  have device : reqData.recipient ≠ 0 := by omega
  rw [FeatureDev.status, if_neg device, if_pos ep]
  cases s.halt (endpoint reqData) <;> rfl

section

variable {endpoints : Endpoints} {s t : FeatureDev} {reqData : DevReqData}

theorem Current.received (current : Current s) : Current s.received where
  wakeup := current.wakeup
  halted ep on other set := by
    refine (?_ : s.received.halt ep = s.halt ep).trans (current.halted ep on other set)
    exact if_neg other
  control := current.control

theorem Current.stalled (current : Current s) : Current s.setStall where
  wakeup := current.wakeup
  halted ep on other set := by
    refine (?_ : s.setStall.halt ep = s.halt ep).trans (current.halted ep on other set)
    have out : ep ≠ (false, 0) := by rintro rfl; exact other rfl
    have inward : ep ≠ (true, 0) := by rintro rfl; exact other rfl
    exact (Function.update_of_ne out _ _).trans (Function.update_of_ne inward _ _)
  control := current.control

theorem setFeature_unaffected (notInterface : ¬ (reqData.wValue0 = 1 ∧ reqData.recipient = 1))
    (notFive : ¬ (reqData.wValue0 = 0 ∧ reqData.recipient = 5)) :
    recorded reqData true (s.standardSetFeature endpoints reqData) = s.setStall := by
  rw [FeatureDev.standardSetFeature, FeatureDev.feature, if_neg notInterface, if_neg notFive]
  rfl

theorem answers_stall (notDevice : ¬ OfDevice reqData)
    (notEndpoint : ¬ (OfEndpoint reqData ∧ s.dev.devState = .configured)) (on : Bool) :
    Answers s s.received.setStall reqData on := by
  rw [Answers, if_neg notDevice]
  split
  · next ofEndpoint => exact fun configured => absurd ⟨ofEndpoint, configured⟩ notEndpoint
  · refine ⟨rfl, rfl, fun ep other => ?_⟩
    have out : ep ≠ (false, 0) := by rintro rfl; exact other rfl
    have inward : ep ≠ (true, 0) := by rintro rfl; exact other rfl
    exact (Function.update_of_ne out _ _).trans
      ((Function.update_of_ne inward _ _).trans (if_neg other))

theorem setFeature_step (current : Current s) (request : reqData.bRequest.toNat = 3)
    {overwritten : Option (Byte × Byte)}
    (unaffected : Unaffected s (.request reqData overwritten)) :
    Current (recorded reqData true (s.received.standardSetFeature endpoints reqData)) ∧
      Answers s (recorded reqData true (s.received.standardSetFeature endpoints reqData))
        reqData true := by
  simp only [Unaffected, request] at unaffected
  obtain ⟨notDevice, notEndpoint, notInterface, notFive⟩ := unaffected
  rw [setFeature_unaffected notInterface notFive]
  exact ⟨current.received.stalled, answers_stall notDevice notEndpoint true⟩

/-- What `CLEAR_FEATURE` makes of a request for an endpoint that exists. -/
theorem clearFeature_endpoint (named : endpoints.Has (endpoint reqData))
    (ofEndpoint : OfEndpoint reqData) :
    recorded reqData false (s.standardClearFeature endpoints reqData) =
      { s.ctrlTxStatus with
        halt := if s.dev.curConfiguration = 0 then Function.update s.halt (endpoint reqData) false
          else s.halt
        halted := Function.update s.halted (endpoint reqData) (some false) } := by
  obtain ⟨⟨selector, high⟩, recipient⟩ := ofEndpoint
  have notDevice : ¬ (reqData.wValue0 = 1 ∧ reqData.recipient = 0) := by
    rintro ⟨-, device⟩
    omega
  have notOfDevice : ¬ OfDevice reqData := fun device => notDevice ⟨device.1.1, device.2⟩
  have small : (endpoint reqData).2 < max endpoints.outEpMaxNum endpoints.inEpMaxNum := by
    unfold Endpoints.Has at named
    split at named <;> omega
  rw [FeatureDev.standardClearFeature, FeatureDev.feature, if_neg notDevice,
    if_pos ⟨selector, recipient⟩]
  simp only [small, true_and]
  have ofEndpoint : OfEndpoint reqData := ⟨⟨selector, high⟩, recipient⟩
  split
  · simp only [recorded, if_neg notOfDevice, if_pos ofEndpoint]
    rfl
  · simp only [recorded, if_neg notOfDevice, if_pos ofEndpoint]
    rfl

theorem clearFeature_device (ofDevice : OfDevice reqData) :
    recorded reqData false (s.standardClearFeature endpoints reqData) =
      { s with
        dev := { s.dev with curFeature := s.dev.curFeature &&& ~~~32 }.ctrlTxStatus
        wakeup := some false } := by
  rw [FeatureDev.standardClearFeature, FeatureDev.feature, if_pos ⟨ofDevice.1.1, ofDevice.2⟩]
  simp only [recorded, if_pos ofDevice]
  rfl

theorem clearFeature_other (notDevice : ¬ (reqData.wValue0 = 1 ∧ reqData.recipient = 0))
    (notEndpoint : ¬ (reqData.wValue0 = 0 ∧ reqData.recipient = 2)) :
    recorded reqData false (s.standardClearFeature endpoints reqData) = s.setStall := by
  rw [FeatureDev.standardClearFeature, FeatureDev.feature, if_neg notDevice, if_neg notEndpoint]
  rfl

theorem clearFeature_step (current : Current s) (request : reqData.bRequest.toNat = 1)
    {overwritten : Option (Byte × Byte)} (named : Named endpoints (.request reqData overwritten))
    (unaffected : Unaffected s (.request reqData overwritten)) :
    Current (recorded reqData false (s.received.standardClearFeature endpoints reqData)) ∧
      Answers s (recorded reqData false (s.received.standardClearFeature endpoints reqData))
        reqData false := by
  simp only [Unaffected, request] at unaffected
  obtain ⟨device, ofEndpoint⟩ := unaffected
  by_cases forDevice : reqData.wValue0 = 1 ∧ reqData.recipient = 0
  · have ofDevice : OfDevice reqData := ⟨⟨forDevice.1, device forDevice⟩, forDevice.2⟩
    rw [clearFeature_device ofDevice]
    constructor
    · refine ⟨fun on set => ?_, current.received.halted, current.control⟩
      obtain rfl := Option.some.inj set
      exact wakeupBit_clear _
    · rw [Answers, if_pos ofDevice]
      exact ⟨rfl, wakeupBit_clear _⟩
  · by_cases forEndpoint : reqData.wValue0 = 0 ∧ reqData.recipient = 2
    · obtain ⟨high, effective⟩ := ofEndpoint forEndpoint
      have halts : OfEndpoint reqData := ⟨⟨forEndpoint.1, high⟩, forEndpoint.2⟩
      have notOfDevice : ¬ OfDevice reqData := fun of => forDevice ⟨of.1.1, of.2⟩
      rw [clearFeature_endpoint (named forEndpoint.2) halts]
      have cleared (ep : Bool × Nat) : (if s.received.dev.curConfiguration = 0 then
          Function.update s.received.halt (endpoint reqData) false else s.received.halt) ep =
          if ep = endpoint reqData then false else s.received.halt ep := by
        by_cases unconfigured : s.received.dev.curConfiguration = 0
        · rw [if_pos unconfigured, Function.update_apply]
        · rw [if_neg unconfigured]
          split
          · next same => rw [same, effective.resolve_left unconfigured]
          · rfl
      constructor
      · constructor
        case wakeup => exact current.wakeup
        case halted =>
          intro ep on other set
          dsimp only at set ⊢
          rw [Function.update_apply] at set
          rw [cleared]
          split at set
          · next same => rw [if_pos same, Option.some.inj set]
          · next different =>
            rw [if_neg different]
            exact current.received.halted ep on other set
        case control =>
          intro ep on zero set
          dsimp only at set
          rw [Function.update_apply] at set
          split at set
          · exact (Option.some.inj set).symm
          · exact current.control ep on zero set
      · rw [Answers, if_neg notOfDevice, if_pos halts]
        refine fun _ => ⟨rfl, ?_⟩
        dsimp only
        rw [cleared, if_pos rfl]
    · rw [clearFeature_other forDevice forEndpoint]
      refine ⟨current.received.stalled, answers_stall ?_ ?_ false⟩
      · exact fun of => forDevice ⟨of.1.1, of.2⟩
      · exact fun both => forEndpoint ⟨both.1.1.1, both.1.2⟩

theorem getStatus_step (current : Current s) (request : reqData.bRequest.toNat = 0)
    {overwritten : Option (Byte × Byte)}
    (unaffected : Unaffected s (.request reqData overwritten)) :
    Current (s.received.standardGetStatus reqData overwritten) ∧
      Reports s (s.received.standardGetStatus reqData overwritten) reqData := by
  simp only [Unaffected, request] at unaffected
  have answered (known : reqData.recipient < 3) : s.received.standardGetStatus reqData overwritten =
      { s.received with
        dev := s.received.dev.ctrlInData .status 2
        sent := some (overwritten.getD (s.received.status reqData)) } := if_pos known
  refine ⟨?_, fun device on set => ?_, fun ep on set => ?_⟩
  · by_cases known : reqData.recipient < 3
    · rw [answered known]
      exact ⟨current.wakeup, current.received.halted, current.control⟩
    · rw [FeatureDev.standardGetStatus, if_neg known]
      exact current.received.stalled
  · obtain rfl := unaffected (.inl ⟨device, fun none => nomatch set.symm.trans none⟩)
    rw [answered (by omega)]
    refine ⟨_, rfl, (status_wakeup s.received device).trans ?_⟩
    exact current.wakeup on set
  · obtain rfl := unaffected (.inr ⟨ep, fun none => nomatch set.symm.trans none⟩)
    rw [answered (by omega)]
    refine ⟨_, rfl, (status_halt s.received ep).trans ?_⟩
    by_cases zero : (endpoint reqData).2 = 0
    · rw [current.control _ on zero set]
      exact if_pos zero
    · exact current.received.halted _ on zero set

theorem Current.step {label : FeatureLabel} (current : Current s) (named : Named endpoints label)
    (unaffected : Unaffected s label) (taken : featureStep endpoints s label = some t) :
    Current t ∧ Faithful s label t := by
  cases label with
  | elsewhere devState curConfiguration =>
    obtain rfl := Option.some.inj taken
    exact ⟨⟨current.wakeup, current.halted, current.control⟩, trivial⟩
  | request reqData overwritten =>
    simp only [featureStep] at taken
    simp only [Faithful]
    split at taken
    · next request =>
      obtain rfl := Option.some.inj taken
      exact getStatus_step current request unaffected
    · next request =>
      obtain rfl := Option.some.inj taken
      exact clearFeature_step current request named unaffected
    · next request =>
      obtain rfl := Option.some.inj taken
      exact setFeature_step current request unaffected
    · cases taken

/-! ## Where a request goes wrong -/

theorem dev_recorded (on : Bool) (result : FeatureDev × Bool) :
    (recorded reqData on result).dev = result.1.dev := by
  obtain ⟨s, accepted⟩ := result
  cases accepted with
  | false => rfl
  | true =>
    simp only [recorded]
    split
    · rfl
    · split <;> rfl

theorem ep0_feature (forDevice forEndpoint : Nat) (on : Bool) :
    (recorded reqData on (s.received.feature forDevice forEndpoint on endpoints reqData)).dev.ep0 =
      if reqData.wValue0 = 1 ∧ reqData.recipient = forDevice ∨
          reqData.wValue0 = 0 ∧ reqData.recipient = forEndpoint then [.txStatus] else [.stall] := by
  rw [dev_recorded, FeatureDev.feature]
  by_cases device : reqData.wValue0 = 1 ∧ reqData.recipient = forDevice
  · have either : reqData.wValue0 = 1 ∧ reqData.recipient = forDevice ∨
        reqData.wValue0 = 0 ∧ reqData.recipient = forEndpoint := .inl device
    rw [if_pos device, if_pos either]
    rfl
  · rw [if_neg device]
    simp only [device, false_or]
    by_cases ep : reqData.wValue0 = 0 ∧ reqData.recipient = forEndpoint
    · rw [if_pos ep, if_pos ep]
      split <;> rfl
    · rw [if_neg ep, if_neg ep]
      rfl

-- An accepted request for another recipient or another selector.
theorem not_answers_accepted {on : Bool} (accepted : t.dev.ep0 = [.txStatus])
    (notDevice : ¬ OfDevice reqData) (notEndpoint : ¬ OfEndpoint reqData) :
    ¬ Answers s t reqData on := by
  rw [Answers, if_neg notDevice, if_neg notEndpoint]
  rintro ⟨stalled, -⟩
  exact absurd (accepted.symm.trans stalled) (by decide)

theorem not_answers_stalled {on : Bool} (stalled : t.dev.ep0 = [.stall])
    (asked : OfDevice reqData ∨ OfEndpoint reqData ∧ s.dev.devState = .configured) :
    ¬ Answers s t reqData on := by
  intro answers
  rw [Answers] at answers
  have accepted : Accepted t := by
    split at answers
    · exact answers.1
    · next notDevice =>
      obtain ⟨ofEndpoint, configured⟩ := asked.resolve_left notDevice
      rw [if_pos ofEndpoint] at answers
      exact (answers configured).1
  exact absurd (stalled.symm.trans accepted) (by decide)

theorem setFeature_affected (request : reqData.bRequest.toNat = 3)
    {overwritten : Option (Byte × Byte)}
    (affected : ¬ Unaffected s (.request reqData overwritten)) :
    ¬ Answers s (recorded reqData true (s.received.standardSetFeature endpoints reqData))
      reqData true := by
  have ep0 := @ep0_feature endpoints s reqData 1 5 true
  simp only [Unaffected, request] at affected
  by_cases accepted : reqData.wValue0 = 1 ∧ reqData.recipient = 1 ∨
      reqData.wValue0 = 0 ∧ reqData.recipient = 5
  · rw [if_pos accepted] at ep0
    apply not_answers_accepted ep0
    · rintro ⟨-, device⟩
      omega
    · rintro ⟨-, ep⟩
      omega
  · rw [if_neg accepted] at ep0
    apply not_answers_stalled ep0
    by_contra neither
    exact affected ⟨fun device => neither (.inl device), fun ep => neither (.inr ep),
      fun interface => accepted (.inl interface), fun five => accepted (.inr five)⟩

/-- A halt that is not cleared is reported by the next `GET_STATUS`. -/
theorem halt_reported {ep : Bool × Nat} (getStatus : reqData.bRequest.toNat = 0)
    (recipient : reqData.recipient = 2) (addressed : endpoint reqData = ep)
    (set : s.halted ep = some false) (halt : s.halt ep = true) (other : ep.2 ≠ 0) :
    ∃ t, featureStep endpoints s (.request reqData none) = some t ∧
      ¬ Faithful s (.request reqData none) t := by
  refine ⟨s.received.standardGetStatus reqData none, by simp only [featureStep, getStatus], ?_⟩
  simp only [Faithful, getStatus]
  rintro ⟨-, reports⟩
  obtain ⟨bytes, sent, bit⟩ := reports recipient false (addressed ▸ set)
  rw [FeatureDev.standardGetStatus, if_pos (by omega)] at sent
  obtain rfl := Option.some.inj sent
  have shown := (status_halt s.received recipient).symm.trans bit
  rw [addressed] at shown
  have kept : s.received.halt ep = s.halt ep := if_neg other
  rw [kept, halt] at shown
  exact absurd shown (by decide)

-- `GET_STATUS` of the endpoint that a request names.
def getStatusOf (reqData : DevReqData) : DevReqData :=
  { reqData with bmRequestType := 0x82, bRequest := 0 }

theorem clearFeature_affected (request : reqData.bRequest.toNat = 1)
    {overwritten : Option (Byte × Byte)} (named : Named endpoints (.request reqData overwritten))
    (affected : ¬ Unaffected s (.request reqData overwritten))
    (cleared : recorded reqData false (s.received.standardClearFeature endpoints reqData) = t) :
    ¬ Answers s t reqData false ∨
      ∃ after, featureStep endpoints t (.request (getStatusOf reqData) none) = some after ∧
        ¬ Faithful t (.request (getStatusOf reqData) none) after := by
  have ep0 := @ep0_feature endpoints s reqData 0 2 false
  have same : recorded reqData false (s.received.feature 0 2 false endpoints reqData) = t := cleared
  rw [same] at ep0
  simp only [Unaffected, request, not_and_or, Classical.not_imp, not_or] at affected
  obtain ⟨forDevice, high⟩ | ⟨forEndpoint, high | ⟨configured, halt⟩⟩ := affected
  · left
    rw [if_pos (.inl forDevice)] at ep0
    apply not_answers_accepted ep0
    · exact fun of => high of.1.2
    · exact fun of => high of.1.2
  · left
    rw [if_pos (.inr forEndpoint)] at ep0
    apply not_answers_accepted ep0
    · exact fun of => high of.1.2
    · exact fun of => high of.1.2
  · by_cases high : reqData.wValue1 = 0
    · right
      have halts : OfEndpoint reqData := ⟨⟨forEndpoint.1, high⟩, forEndpoint.2⟩
      have other : (endpoint reqData).2 ≠ 0 := fun zero => halt (if_pos zero)
      have halted : s.received.halt (endpoint reqData) = true := by simpa using halt
      have stays : s.received.dev.curConfiguration ≠ 0 := configured
      rw [clearFeature_endpoint (named forEndpoint.2) halts, if_neg stays] at cleared
      have recipient : (getStatusOf reqData).recipient = 2 := by
        simp [getStatusOf, DevReqData.recipient]
      refine halt_reported rfl recipient rfl ?_ ?_ other
      · rw [← cleared]
        exact Function.update_self _ _ _
      · rw [← cleared]
        exact halted
    · left
      rw [if_pos (.inr forEndpoint)] at ep0
      apply not_answers_accepted ep0
      · exact fun of => high of.1.2
      · exact fun of => high of.1.2

/-- Every request of a run of unaffected requests is answered as the settings have it. One for a
setting that is affected is not, or the next `GET_STATUS` is not. -/
theorem features_reported {start : FeatureDev} {labels : List FeatureLabel} {label : FeatureLabel}
    (unset : start.wakeup = none ∧ ∀ ep, start.halted ep = none)
    (run : Run (featureStep endpoints)
      (fun s label => Named endpoints label ∧ Unaffected s label) start labels s)
    (named : Named endpoints label) (taken : featureStep endpoints s label = some t) :
    (Unaffected s label → Faithful s label t) ∧
      (∀ reqData overwritten, label = .request reqData overwritten → reqData.bRequest ≠ 0 →
        ¬ Unaffected s label → ¬ Faithful s label t ∨
          ∃ after, featureStep endpoints t (.request (getStatusOf reqData) none) = some after ∧
            ¬ Faithful t (.request (getStatusOf reqData) none) after) := by
  have current : Current s := by
    refine run.invariant Current ⟨?_, ?_, ?_⟩ fun _ _ _ held admitted stepped =>
      (held.step admitted.1 admitted.2 stepped).1
    · exact fun on set => nomatch unset.1.symm.trans set
    · exact fun ep on _ set => nomatch (unset.2 ep).symm.trans set
    · exact fun ep on _ set => nomatch (unset.2 ep).symm.trans set
  refine ⟨fun unaffected => (current.step named unaffected taken).2, ?_⟩
  rintro reqData overwritten rfl setting affected
  simp only [featureStep] at taken
  simp only [Faithful]
  split at taken
  · next zero => exact absurd (UInt8.toNat_inj.mp zero) setting
  · next request =>
    exact clearFeature_affected request named affected (Option.some.inj taken)
  · next request =>
    obtain rfl := Option.some.inj taken
    exact .inl (setFeature_affected request affected)
  · cases taken

end

instance (t : FeatureDev) : Decidable (Accepted t) :=
  inferInstanceAs (Decidable (t.dev.ep0 = [.txStatus]))

instance (endpoints : Endpoints) (label : FeatureLabel) : Decidable (Named endpoints label) := by
  unfold Named
  cases label <;> infer_instance

theorem unaffected_request_iff (s : FeatureDev) (reqData : DevReqData)
    (overwritten : Option (Byte × Byte)) : Unaffected s (.request reqData overwritten) ↔
      (reqData.bRequest.toNat = 0 → (reqData.recipient = 0 ∧ s.wakeup ≠ none ∨
        reqData.recipient = 2 ∧ s.halted (endpoint reqData) ≠ none) → overwritten = none) ∧
      (reqData.bRequest.toNat = 1 →
        (reqData.wValue0 = 1 ∧ reqData.recipient = 0 → reqData.wValue1 = 0) ∧
        (reqData.wValue0 = 0 ∧ reqData.recipient = 2 → reqData.wValue1 = 0 ∧
          (s.dev.curConfiguration = 0 ∨ s.received.halt (endpoint reqData) = false))) ∧
      (reqData.bRequest.toNat = 3 →
        ¬ OfDevice reqData ∧ ¬ (OfEndpoint reqData ∧ s.dev.devState = .configured) ∧
          ¬ (reqData.wValue0 = 1 ∧ reqData.recipient = 1) ∧
          ¬ (reqData.wValue0 = 0 ∧ reqData.recipient = 5)) := by
  simp only [Unaffected]
  split <;> simp_all

instance (s : FeatureDev) : (label : FeatureLabel) → Decidable (Unaffected s label)
  | .request reqData overwritten =>
      decidable_of_iff _ (unaffected_request_iff s reqData overwritten).symm
  | .elsewhere _ _ => instDecidableTrue

def fourEndpoints : Endpoints := ⟨4, 4⟩

def unsetDev : FeatureDev := ⟨Device.powered, fun _ => false, none, none, fun _ => none⟩

def featureRequest (bmRequestType bRequest wValue0 wIndex0 : Byte) : FeatureLabel :=
  .request ⟨bmRequestType, bRequest, wValue0, 0, wIndex0, 0, 0, 0⟩ none

-- The configured device is told not to wake the host.
def wakeupCleared : List FeatureLabel := [.elsewhere .configured 1, featureRequest 0 1 1 0]

theorem wakeupCleared_accepted : (execute (featureStep fourEndpoints)
    (fun s label => Named fourEndpoints label ∧ Unaffected s label) unsetDev
    wakeupCleared).isSome = true := by
  decide +kernel

def toldDev : FeatureDev := final (featureStep fourEndpoints)
  (fun s label => Named fourEndpoints label ∧ Unaffected s label) unsetDev wakeupCleared
  wakeupCleared_accepted

theorem wakeup_asked :
    (featureStep fourEndpoints toldDev (featureRequest 0x80 0 0 0)).isSome = true := by
  decide +kernel

theorem wakeup_reported : Faithful toldDev (featureRequest 0x80 0 0 0)
    ((featureStep fourEndpoints toldDev (featureRequest 0x80 0 0 0)).get wakeup_asked) :=
  (features_reported ⟨rfl, fun _ => rfl⟩ (Run.final _ _ unsetDev _ wakeupCleared_accepted)
    (by decide) (Option.some_get wakeup_asked).symm).1 (by decide +kernel)

-- `SET_FEATURE` of the remote wakeup is stalled.
theorem wakeup_not_settable : ¬ ∀ (labels : List FeatureLabel) (s t : FeatureDev)
    (label : FeatureLabel),
    Run (featureStep fourEndpoints) (fun _ label => Named fourEndpoints label) unsetDev labels s →
    Named fourEndpoints label → featureStep fourEndpoints s label = some t →
    Faithful s label t := by
  intro faithful
  have answers := faithful [] _ _ (featureRequest 0 3 1 0) .nil (by decide) rfl
  exact absurd answers.1 (by decide)

end ApmSdk.Otg
