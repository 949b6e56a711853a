import ApmSdk.Lib.FlagRegister
import ApmSdk.Lib.Runs

set_option autoImplicit false

/-!
# The port of the USB host

HPORTCSTS, whose fields are assigned by a read, a change and a write of the whole register, with
`USBH_HostPortIsrHandler`, `USBH_DisconnectIsrHandler` and the test of `USBH_PollingProcess`.
-/

namespace ApmSdk.Usbh

open Runs FlagRegister

inductive HostState where
  | idle
  | deviceAttached
  | deviceDetached
  | enum
  | userInput
  | classReq
  | classCore
  | suspend
  | wakeUp
  | error
  deriving DecidableEq, Repr

/-- OTG_HS_PHY_ULPI or OTG_HS_PHY_UTMI. -/
inductive Phy where
  | ulpi
  | utmi
  deriving DecidableEq, Repr

/-- PHYCLKSEL. -/
inductive PhyClk where
  | mhz3060
  | mhz48
  | mhz6
  deriving DecidableEq, Repr

inductive PortField where
  | pcnntflg
  | pcintflg
  | pen
  | penchg
  | povc
  | povcchg
  | prs
  | psus
  | prst
  | pp
  deriving DecidableEq, Repr

def PortField.bit : PortField → Nat
  | .pcnntflg => 0
  | .pcintflg => 1
  | .pen => 2
  | .penchg => 3
  | .povc => 4
  | .povcchg => 5
  | .prs => 6
  | .psus => 7
  | .prst => 8
  | .pp => 12

/-- PCINTFLG, PEN, PENCHG and POVCCHG; PCNNTFLG, POVC, PDLSTS and PSPDSEL. -/
def portLayout : Layout 32 := ⟨0x0000002E, 0x00060C11⟩

def PortField.cleared : PortField → Bool
  | .pcintflg | .pen | .penchg | .povcchg => true
  | _ => false

def PortField.isReadOnly : PortField → Bool
  | .pcnntflg | .povc => true
  | _ => false

-- The registers and the two flags of `g_usbHost` that the port handlers use.
structure Port where
  hportcsts : BitVec 32
  phyClk : PhyClk
  frameInterval : Nat
  dedisMask : Bool
  connectedFlag : Bool
  portEnable : Bool
  deriving DecidableEq

def Port.read (port : Port) (field : PortField) : Bool := port.hportcsts.getLsbD field.bit

/-- PSPDSEL. -/
def Port.speed (port : Port) : BitVec 2 := port.hportcsts.extractLsb' 17 2

def speedLs : BitVec 2 := 2
def speedFs : BitVec 2 := 1

/-- A pass of the handler: the fields written as one while they were one, the fields whose branch
was entered, and whether a port reset was started. -/
structure Pass extends Port where
  acked : PortField → Bool
  handled : PortField → Bool
  resetStarted : Bool

def Pass.assign (pass : Pass) (field : PortField) (value : Bool) : Pass :=
  { pass with
    hportcsts := portLayout.assign pass.hportcsts field.bit value
    acked := fun other => pass.acked other || (pass.hportcsts.getLsbD other.bit &&
      (withBit pass.hportcsts field.bit value).getLsbD other.bit) }

def Pass.enter (pass : Pass) (field : PortField) : Pass :=
  { pass with handled := fun other => pass.handled other || decide (other = field) }

def Pass.startReset (pass : Pass) : Pass :=
  { pass.assign .prst true with resetStarted := true }

def Pass.otgPortReset (pass : Pass) : Pass :=
  ((((pass.assign .pen false).assign .penchg true).assign .povcchg true).startReset).assign
    .prst false

def Pass.configClk (pass : Pass) (frameInterval : Nat) (phyClk : PhyClk) : Pass :=
  { pass with frameInterval := frameInterval, phyClk := phyClk }

def Pass.setConnected (pass : Pass) : Pass := { pass with connectedFlag := true }

/-- An enabled port also unmasks DEDIS. -/
def Pass.setEnable (pass : Pass) (enable : Bool) : Pass :=
  { pass with portEnable := enable, dedisMask := pass.dedisMask || enable }

def Phy.lowSpeedClk : Phy → PhyClk
  | .ulpi => .mhz48
  | .utmi => .mhz6

def Phy.lowSpeedInterval : Phy → Nat
  | .ulpi => 48000
  | .utmi => 6000

def Pass.connected (pass : Pass) : Pass :=
  if pass.read .pcintflg then ((pass.enter .pcintflg).assign .pcintflg true).setConnected
  else pass

/-- The clock and the frame interval for the speed, with a reset when the clock changes. -/
def Pass.enabled (phy : Phy) (pass : Pass) : Pass :=
  if pass.speed = speedLs then
    if pass.phyClk ≠ .mhz6 then
      (pass.configClk phy.lowSpeedInterval phy.lowSpeedClk).otgPortReset
    else pass.configClk 6000 pass.phyClk
  else if pass.speed = speedFs then
    if pass.phyClk ≠ .mhz48 then (pass.configClk 48000 .mhz48).otgPortReset
    else pass.configClk 48000 pass.phyClk
  else pass.otgPortReset

def Pass.enableChanged (phy : Phy) (pass : Pass) : Pass :=
  if pass.read .penchg then
    if pass.read .pen then ((pass.enter .penchg).enabled phy).setEnable true
    else (pass.enter .penchg).setEnable false
  else pass

/-- The branch is empty in the source. -/
def Pass.overcurrentChanged (pass : Pass) : Pass :=
  if pass.read .povcchg then pass.enter .povcchg else pass

def Port.entered (port : Port) : Pass :=
  { port with
    acked := fun _ => false
    handled := fun _ => false
    resetStarted := false }

def hostPortIsrHandler (phy : Phy) (port : Port) : Pass :=
  ((port.entered.connected.enableChanged phy).overcurrentChanged).assign .pen false

/-! ## What a pass has to do -/

/-- A field written as one is acknowledged, or for PEN disables the port. -/
structure Pass.Lawful (port : Port) (pass : Pass) : Prop where
  connects : port.read .pcintflg → pass.connectedFlag = true
  reports : port.read .penchg → pass.portEnable = port.read .pen
  disables : pass.acked .pen → pass.resetStarted = true
  acknowledges : ∀ flag ∈ [PortField.pcintflg, .penchg, .povcchg],
    pass.acked flag → pass.handled flag = true

/-- Whether an enabled port of this speed is reset. -/
def Port.resets (port : Port) : Bool :=
  if port.speed = speedLs then decide (port.phyClk ≠ .mhz6)
  else if port.speed = speedFs then decide (port.phyClk ≠ .mhz48)
  else true

/-- A connect comes alone and without PEN; no overcurrent comes with an enable that resets. -/
structure Port.Settled (port : Port) : Prop where
  connect : port.read .pcintflg →
    port.read .pen = false ∧ port.read .penchg = false ∧ port.read .povcchg = false
  overcurrent : port.read .povcchg →
    ¬ (port.read .penchg = true ∧ port.read .pen = true ∧ port.resets = true)

theorem Port.settled_iff (port : Port) : port.Settled ↔
    (port.read .pcintflg →
      port.read .pen = false ∧ port.read .penchg = false ∧ port.read .povcchg = false) ∧
    (port.read .povcchg →
      ¬ (port.read .penchg = true ∧ port.read .pen = true ∧ port.resets = true)) :=
  ⟨fun settled => ⟨settled.connect, settled.overcurrent⟩, fun both => ⟨both.1, both.2⟩⟩

instance (port : Port) : Decidable port.Settled := decidable_of_iff _ port.settled_iff.symm

/-! ## The accesses -/

theorem PortField.within (field : PortField) : field.bit < 32 := by
  cases field <;> decide

theorem PortField.bit_inj {first second : PortField} : first.bit = second.bit ↔ first = second := by
  constructor
  · intro same
    cases first <;> cases second <;> first | rfl | exact absurd same (by decide)
  · rintro rfl
    rfl

theorem PortField.layout (field : PortField) :
    portLayout.clearing.getLsbD field.bit = field.cleared ∧
      portLayout.readOnly.getLsbD field.bit = field.isReadOnly := by
  cases field <;> decide

@[simp] theorem Pass.read_assign (pass : Pass) (field : PortField) (value : Bool)
    (other : PortField) : (pass.assign field value).read other =
      if other.isReadOnly then pass.read other
      else if other.cleared then decide (field = other) && pass.read other && !value
      else if field = other then value else pass.read other := by
  have read := portLayout.getLsbD_assign pass.hportcsts field.within value other.within
  rw [other.layout.1, other.layout.2] at read
  simpa only [Port.read, Pass.assign, PortField.bit_inj] using read

@[simp] theorem Pass.acked_assign (pass : Pass) (field : PortField) (value : Bool)
    (other : PortField) : (pass.assign field value).acked other =
      (pass.acked other || (pass.read other && if field = other then value else pass.read other)) := by
  simp only [Pass.assign, Port.read, getLsbD_withBit _ field.within, PortField.bit_inj]

section Frame

variable (pass : Pass) (field : PortField) (value : Bool)

@[simp] theorem Pass.handled_assign : (pass.assign field value).handled = pass.handled := rfl
@[simp] theorem Pass.resetStarted_assign :
    (pass.assign field value).resetStarted = pass.resetStarted := rfl
@[simp] theorem Pass.connectedFlag_assign :
    (pass.assign field value).connectedFlag = pass.connectedFlag := rfl
@[simp] theorem Pass.portEnable_assign :
    (pass.assign field value).portEnable = pass.portEnable := rfl
@[simp] theorem Pass.dedisMask_assign : (pass.assign field value).dedisMask = pass.dedisMask := rfl

@[simp] theorem Pass.toPort_enter : (pass.enter field).toPort = pass.toPort := rfl
@[simp] theorem Pass.acked_enter : (pass.enter field).acked = pass.acked := rfl
@[simp] theorem Pass.resetStarted_enter : (pass.enter field).resetStarted = pass.resetStarted := rfl
@[simp] theorem Pass.handled_enter (other : PortField) :
    (pass.enter field).handled other = (pass.handled other || decide (other = field)) := rfl

@[simp] theorem Pass.read_setConnected : pass.setConnected.read field = pass.read field := rfl
@[simp] theorem Pass.acked_setConnected : pass.setConnected.acked = pass.acked := rfl
@[simp] theorem Pass.handled_setConnected : pass.setConnected.handled = pass.handled := rfl
@[simp] theorem Pass.resetStarted_setConnected :
    pass.setConnected.resetStarted = pass.resetStarted := rfl
@[simp] theorem Pass.connectedFlag_setConnected : pass.setConnected.connectedFlag = true := rfl
@[simp] theorem Pass.portEnable_setConnected :
    pass.setConnected.portEnable = pass.portEnable := rfl

@[simp] theorem Pass.read_setEnable :
    (pass.setEnable value).read field = pass.read field := rfl
@[simp] theorem Pass.acked_setEnable : (pass.setEnable value).acked = pass.acked := rfl
@[simp] theorem Pass.handled_setEnable : (pass.setEnable value).handled = pass.handled := rfl
@[simp] theorem Pass.resetStarted_setEnable :
    (pass.setEnable value).resetStarted = pass.resetStarted := rfl
@[simp] theorem Pass.connectedFlag_setEnable :
    (pass.setEnable value).connectedFlag = pass.connectedFlag := rfl
@[simp] theorem Pass.portEnable_setEnable : (pass.setEnable value).portEnable = value := rfl

@[simp] theorem Pass.read_startReset :
    pass.startReset.read field = (pass.assign .prst true).read field := rfl
@[simp] theorem Pass.acked_startReset :
    pass.startReset.acked = (pass.assign .prst true).acked := rfl

end Frame

/-! ## A pass -/

theorem PortField.plain_of_cleared {flag : PortField} (cleared : flag.cleared = true) :
    flag.isReadOnly = false ∧ flag ≠ .prst := by
  cases flag <;> simp_all [PortField.isReadOnly, PortField.cleared]

theorem Pass.flag_assign (pass : Pass) (field : PortField) (value : Bool) {flag : PortField}
    (cleared : flag.cleared = true) : (pass.assign field value).read flag =
      (decide (field = flag) && pass.read flag && !value) := by
  simp [cleared, (PortField.plain_of_cleared cleared).1]

/-- A reset acknowledges every flag that is pending. -/
theorem Pass.otgPortReset_flags (pass : Pass) {flag : PortField} (cleared : flag.cleared = true) :
    pass.otgPortReset.read flag = false ∧
      pass.otgPortReset.acked flag = (pass.acked flag || pass.read flag) := by
  have other := (PortField.plain_of_cleared cleared).2
  constructor
  · simp [Pass.otgPortReset, Pass.flag_assign _ _ _ cleared, other.symm]
  · simp only [Pass.otgPortReset, Pass.acked_assign, Pass.acked_startReset, Pass.read_startReset,
      Pass.flag_assign _ _ _ cleared]
    cases flag <;> simp_all

@[simp] theorem Port.entered_acked (port : Port) (field : PortField) :
    port.entered.acked field = false := rfl

@[simp] theorem Port.entered_handled (port : Port) (field : PortField) :
    port.entered.handled field = false := rfl

@[simp] theorem Port.entered_resetStarted (port : Port) : port.entered.resetStarted = false := rfl

@[simp] theorem Port.entered_toPort (port : Port) : port.entered.toPort = port := rfl

/-- Clearing the connect flag clears and acknowledges every other one. -/
theorem Pass.connected_flags (pass : Pass) (set : pass.read .pcintflg = true) {flag : PortField}
    (cleared : flag.cleared = true) :
    pass.connected.read flag = false ∧
      pass.connected.acked flag = (pass.acked flag || pass.read flag) := by
  rw [Pass.connected, if_pos set]
  constructor
  · rw [Pass.read_setConnected, Pass.flag_assign _ _ _ cleared]
    simp
  · simp only [Pass.acked_setConnected, Pass.acked_assign, Pass.acked_enter, Pass.toPort_enter]
    cases flag <;> simp_all

theorem Pass.connected_none (pass : Pass) (clear : pass.read .pcintflg = false) :
    pass.connected = pass := by
  simp [Pass.connected, clear]

theorem Pass.enableChanged_none (phy : Phy) (pass : Pass) (clear : pass.read .penchg = false) :
    pass.enableChanged phy = pass := by
  simp [Pass.enableChanged, clear]

theorem Pass.enableChanged_disabled (phy : Phy) (pass : Pass) (change : pass.read .penchg = true)
    (disabled : pass.read .pen = false) :
    pass.enableChanged phy = (pass.enter .penchg).setEnable false := by
  simp [Pass.enableChanged, change, disabled]

theorem Pass.enableChanged_enabled (phy : Phy) (pass : Pass) (change : pass.read .penchg = true)
    (enable : pass.read .pen = true) :
    pass.enableChanged phy = ((pass.enter .penchg).enabled phy).setEnable true := by
  simp [Pass.enableChanged, change, enable]

/-- A pass that finds the connect flag looks at nothing else. -/
theorem hostPortIsrHandler_connect (phy : Phy) {port : Port} (set : port.read .pcintflg = true) :
    hostPortIsrHandler phy port = port.entered.connected.assign .pen false := by
  have flags := @Pass.connected_flags port.entered set
  rw [hostPortIsrHandler, Pass.enableChanged_none phy port.entered.connected (@flags .penchg rfl).1]
  simp [Pass.overcurrentChanged, (@flags .povcchg rfl).1]

theorem Pass.lawful_iff (port : Port) (pass : Pass) : pass.Lawful port ↔
    (port.read .pcintflg → pass.connectedFlag = true) ∧
    (port.read .penchg → pass.portEnable = port.read .pen) ∧
    (pass.acked .pen → pass.resetStarted = true) ∧
    (pass.acked .pcintflg → pass.handled .pcintflg = true) ∧
    (pass.acked .penchg → pass.handled .penchg = true) ∧
    (pass.acked .povcchg → pass.handled .povcchg = true) := by
  constructor
  · intro lawful
    exact ⟨lawful.connects, lawful.reports, lawful.disables,
      lawful.acknowledges _ (by simp), lawful.acknowledges _ (by simp),
      lawful.acknowledges _ (by simp)⟩
  · intro ⟨connects, reports, disables, connect, enable, overcurrent⟩
    refine ⟨connects, reports, disables, ?_⟩
    intro flag listed
    simp only [List.mem_cons, List.not_mem_nil, or_false] at listed
    rcases listed with rfl | rfl | rfl <;> assumption

theorem connect_lawful_iff (phy : Phy) {port : Port} (set : port.read .pcintflg = true) :
    (hostPortIsrHandler phy port).Lawful port ↔ port.Settled := by
  have unfolded : port.entered.connected =
      ((port.entered.enter .pcintflg).assign .pcintflg true).setConnected := if_pos set
  rw [Pass.lawful_iff, Port.settled_iff, hostPortIsrHandler_connect phy set]
  simp only [unfolded, Pass.acked_assign, Pass.handled_assign, Pass.resetStarted_assign,
    Pass.connectedFlag_assign, Pass.portEnable_assign, Pass.acked_setConnected,
    Pass.handled_setConnected, Pass.resetStarted_setConnected, Pass.connectedFlag_setConnected,
    Pass.portEnable_setConnected, Pass.handled_enter, Pass.resetStarted_enter, Pass.acked_enter,
    Pass.read_setConnected, Pass.toPort_enter, Port.entered_toPort, Port.entered_acked,
    Port.entered_handled, Port.entered_resetStarted, Pass.read_assign, set]
  cases port.read .pen <;> cases port.read .penchg <;> cases port.read .povcchg <;>
    simp [PortField.cleared, PortField.isReadOnly]

/-- Without a reset only the clock and the frame interval change. -/
theorem Pass.enabled_calm (phy : Phy) (pass : Pass) (calm : pass.toPort.resets = false) :
    ∃ frameInterval, pass.enabled phy = pass.configClk frameInterval pass.phyClk := by
  revert calm
  simp only [Port.resets, Pass.enabled]
  split
  · next ls =>
    intro calm
    simp only [decide_eq_false_iff_not] at calm
    exact ⟨6000, if_neg calm⟩
  · split
    · next ls fs =>
      intro calm
      simp only [decide_eq_false_iff_not] at calm
      exact ⟨48000, if_neg calm⟩
    · intro calm
      cases calm

theorem Pass.enabled_resets (phy : Phy) (pass : Pass) (resets : pass.toPort.resets = true) :
    ∃ frameInterval phyClk,
      pass.enabled phy = (pass.configClk frameInterval phyClk).otgPortReset := by
  revert resets
  simp only [Port.resets, Pass.enabled]
  split
  · next ls =>
    intro resets
    simp only [decide_eq_true_eq] at resets
    exact ⟨_, _, if_pos resets⟩
  · split
    · next ls fs =>
      intro resets
      simp only [decide_eq_true_eq] at resets
      exact ⟨_, _, if_pos resets⟩
    · intro _
      exact ⟨pass.frameInterval, pass.phyClk, rfl⟩

section Config

variable (pass : Pass) (frameInterval : Nat) (phyClk : PhyClk)

@[simp] theorem Pass.read_configClk (field : PortField) :
    (pass.configClk frameInterval phyClk).read field = pass.read field := rfl
@[simp] theorem Pass.acked_configClk :
    (pass.configClk frameInterval phyClk).acked = pass.acked := rfl
@[simp] theorem Pass.handled_configClk :
    (pass.configClk frameInterval phyClk).handled = pass.handled := rfl
@[simp] theorem Pass.resetStarted_configClk :
    (pass.configClk frameInterval phyClk).resetStarted = pass.resetStarted := rfl
@[simp] theorem Pass.connectedFlag_configClk :
    (pass.configClk frameInterval phyClk).connectedFlag = pass.connectedFlag := rfl

@[simp] theorem Pass.otgPortReset_handled : pass.otgPortReset.handled = pass.handled := rfl
@[simp] theorem Pass.otgPortReset_resetStarted : pass.otgPortReset.resetStarted = true := rfl

end Config

/-- What the last part of a pass needs of the pass before it. -/
theorem Pass.closed_lawful {port : Port} {pass : Pass} (clear : port.read .pcintflg = false)
    (reports : port.read .penchg → pass.portEnable = port.read .pen)
    (same : ∀ flag : PortField, flag.cleared = true → pass.read flag = port.read flag)
    (fresh : ∀ flag : PortField, flag.cleared = true → pass.acked flag = false)
    (enters : port.read .penchg → pass.handled .penchg = true) :
    (pass.overcurrentChanged.assign .pen false).Lawful port := by
  have overcurrent := same .povcchg rfl
  rw [Pass.lawful_iff, Pass.overcurrentChanged, overcurrent]
  cases pending : port.read .povcchg <;>
    simp [clear, pending, overcurrent, same .pcintflg rfl, same .penchg rfl, fresh .pen rfl,
      fresh .pcintflg rfl, fresh .penchg rfl, fresh .povcchg rfl]
  all_goals exact ⟨reports, enters⟩

theorem resets_lawful_iff (phy : Phy) {port : Port} (clear : port.read .pcintflg = false)
    (resets : port.read .penchg = true ∧ port.read .pen = true ∧ port.resets = true) :
    (hostPortIsrHandler phy port).Lawful port ↔ port.read .povcchg = false := by
  obtain ⟨change, enable, resets⟩ := resets
  obtain ⟨frameInterval, phyClk, reset⟩ :=
    Pass.enabled_resets phy (port.entered.enter .penchg) resets
  have flags := @Pass.otgPortReset_flags ((port.entered.enter .penchg).configClk frameInterval phyClk)
  have overcurrent := @flags .povcchg rfl
  have pen := @flags .pen rfl
  have chg := @flags .penchg rfl
  have con := @flags .pcintflg rfl
  rw [Pass.lawful_iff, hostPortIsrHandler, Pass.connected_none port.entered clear,
    Pass.enableChanged_enabled phy port.entered change enable, reset]
  simp [change, enable, Pass.overcurrentChanged, overcurrent, pen, chg, con, clear]

theorem calm_lawful (phy : Phy) {port : Port} (clear : port.read .pcintflg = false)
    (calm : ¬ (port.read .penchg = true ∧ port.read .pen = true ∧ port.resets = true)) :
    (hostPortIsrHandler phy port).Lawful port := by
  rw [hostPortIsrHandler, Pass.connected_none port.entered clear]
  cases change : port.read .penchg with
  | false =>
    rw [Pass.enableChanged_none phy port.entered change]
    exact Pass.closed_lawful clear (by simp [change]) (fun _ _ => rfl) (fun _ _ => rfl)
      (by simp [change])
  | true =>
    cases enable : port.read .pen with
    | false =>
      rw [Pass.enableChanged_disabled phy port.entered change enable]
      exact Pass.closed_lawful clear (by simp [enable]) (fun _ _ => rfl) (fun _ _ => rfl)
        (by simp)
    | true =>
      have still : port.resets = false := by simpa [change, enable] using calm
      obtain ⟨frameInterval, config⟩ :=
        Pass.enabled_calm phy (port.entered.enter .penchg) still
      rw [Pass.enableChanged_enabled phy port.entered change enable, config]
      exact Pass.closed_lawful clear (by simp [enable]) (fun _ _ => rfl) (fun _ _ => rfl)
        (by simp)

theorem hostPortIsrHandler_lawful_iff (phy : Phy) (port : Port) :
    (hostPortIsrHandler phy port).Lawful port ↔ port.Settled := by
  cases set : port.read .pcintflg with
  | true => exact connect_lawful_iff phy set
  | false =>
    rw [Port.settled_iff, set]
    by_cases resets : port.read .penchg = true ∧ port.read .pen = true ∧ port.resets = true
    · rw [resets_lawful_iff phy set resets]
      simp [resets.1, resets.2.1, resets.2.2]
    · simp [calm_lawful phy set resets, resets]

/-! ## The host -/

/-- GINTMASK for HPORT and GAHBCFG.GINTMASK beside the port; `disconnected` lasts from a pass of
the disconnect handler to a connect or to a poll in another state than IDLE. -/
structure PortHost where
  port : Port
  hportMask : Bool
  gintMask : Bool
  curHostState : HostState
  disconnected : Bool
  deriving DecidableEq

/-- The hardware changes HPORTCSTS at will; an interrupt comes with two flags of GCINT; a poll
of a state that has nothing to do with the port leaves any other state. -/
inductive PortLabel where
  | hardware (hportcsts : BitVec 32)
  | isr (hport dedis : Bool)
  | poll (next : HostState)
  deriving DecidableEq

def Phy.initClk : Phy → PhyClk
  | .ulpi => .mhz3060
  | .utmi => .mhz48

-- `USB_HostInit` up to the masks.
def Port.hostInit (phy : Phy) (port : Port) : Port :=
  let reset := { port with phyClk := phy.initClk }.entered.otgPortReset
  { (reset.assign .pp true).toPort with dedisMask := false }

def PortHost.portPass (phy : Phy) (host : PortHost) (hport : Bool) : PortHost :=
  if hport && host.hportMask then
    { host with
      port := (hostPortIsrHandler phy host.port).toPort
      disconnected := host.disconnected && !host.port.read .pcintflg }
  else host

def PortHost.disconnectIsrHandler (host : PortHost) : PortHost :=
  { host with
    port := { host.port with connectedFlag := false, dedisMask := false }
    hportMask := false
    gintMask := false
    disconnected := true }

def PortHost.otgIsrHandler (phy : Phy) (host : PortHost) (hport dedis : Bool) : PortHost :=
  let after := host.portPass phy hport
  if dedis && after.port.dedisMask then after.disconnectIsrHandler else after

/-- The state whose handler a poll runs. -/
def PortHost.polled (host : PortHost) : HostState :=
  if !(host.port.connectedFlag || host.port.portEnable) && decide (host.curHostState ≠ .idle) then
    .deviceDetached
  else host.curHostState

def PortHost.dispatch (phy : Phy) (host : PortHost) (next : HostState) : PortHost :=
  match host.polled with
  | .idle =>
      if host.port.connectedFlag then { host with curHostState := .deviceAttached } else host
  | .deviceAttached =>
      { host with port := host.port.entered.otgPortReset.toPort, curHostState := .enum }
  | .deviceDetached =>
      { host with
        port := host.port.hostInit phy
        hportMask := true
        gintMask := true
        curHostState := .idle }
  | _ => { host with curHostState := next }

def PortHost.pollingProcess (phy : Phy) (host : PortHost) (next : HostState) : PortHost :=
  { host.dispatch phy next with
    disconnected := host.disconnected && decide (host.curHostState = .idle) }

def portStep (phy : Phy) (host : PortHost) : PortLabel → Option PortHost
  | .hardware hportcsts => some { host with port := { host.port with hportcsts := hportcsts } }
  | .isr hport dedis =>
      if host.gintMask then some (host.otgIsrHandler phy hport dedis) else none
  | .poll next => some (host.pollingProcess phy next)

-- After `USBH_Init`.
def PortHost.start (phy : Phy) : PortHost where
  port := ⟨0, phy.initClk, 0, false, false, false⟩
  hportMask := true
  gintMask := true
  curHostState := .idle
  disconnected := false

/-- The enable that a settled pass leaves. -/
def PortHost.enableAfter (host : PortHost) (hport : Bool) : Bool :=
  if hport && host.hportMask && host.port.read .penchg then host.port.read .pen
  else host.port.portEnable

def PortHost.dedisAfter (host : PortHost) (hport : Bool) : Bool :=
  host.port.dedisMask ||
    (hport && host.hportMask && host.port.read .penchg && host.port.read .pen)

/-- A port interrupt finds the port settled; a disconnect comes when the port is no longer known
as enabled, or to an idle host. -/
def Orderly (host : PortHost) : PortLabel → Prop
  | .isr hport dedis =>
      ((hport && host.hportMask) = true → host.port.Settled) ∧
        ((dedis && host.dedisAfter hport) = true → host.enableAfter hport = false ∨
          host.curHostState = .idle ∨ host.curHostState = .deviceDetached)
  | _ => True

instance (host : PortHost) (label : PortLabel) : Decidable (Orderly host label) := by
  unfold Orderly
  split <;> infer_instance

/-! ## The next poll -/

theorem hostPortIsrHandler_connect_enable (phy : Phy) {port : Port}
    (set : port.read .pcintflg = true) :
    (hostPortIsrHandler phy port).portEnable = port.portEnable ∧
      (hostPortIsrHandler phy port).dedisMask = port.dedisMask := by
  have unfolded : port.entered.connected =
      ((port.entered.enter .pcintflg).assign .pcintflg true).setConnected := if_pos set
  rw [hostPortIsrHandler_connect phy set, unfolded]
  exact ⟨rfl, rfl⟩

theorem Pass.overcurrentChanged_toPort (pass : Pass) :
    pass.overcurrentChanged.toPort = pass.toPort := by
  unfold Pass.overcurrentChanged
  split <;> rfl

theorem Pass.enabled_masks (phy : Phy) (pass : Pass) :
    (pass.enabled phy).dedisMask = pass.dedisMask := by
  cases resets : pass.toPort.resets with
  | true =>
    obtain ⟨frameInterval, phyClk, reset⟩ := pass.enabled_resets phy resets
    rw [reset]
    rfl
  | false =>
    obtain ⟨frameInterval, config⟩ := pass.enabled_calm phy resets
    rw [config]
    rfl

/-- What a pass that finds no connect leaves of the enable and the mask. -/
theorem hostPortIsrHandler_enable (phy : Phy) {port : Port} (clear : port.read .pcintflg = false) :
    (hostPortIsrHandler phy port).portEnable =
        (if port.read .penchg then port.read .pen else port.portEnable) ∧
      (hostPortIsrHandler phy port).dedisMask =
        (port.dedisMask || (port.read .penchg && port.read .pen)) := by
  rw [hostPortIsrHandler, Pass.connected_none port.entered clear, Pass.portEnable_assign,
    Pass.dedisMask_assign, Pass.overcurrentChanged_toPort, Pass.enableChanged]
  cases change : port.read .penchg <;> cases enable : port.read .pen <;>
    simp [change, enable, Pass.setEnable, Pass.enabled_masks]

theorem PortHost.portPass_enable (phy : Phy) (host : PortHost) {hport : Bool}
    (settled : (hport && host.hportMask) = true → host.port.Settled) :
    (host.portPass phy hport).port.portEnable = host.enableAfter hport ∧
      (host.portPass phy hport).port.dedisMask = host.dedisAfter hport := by
  cases runs : hport && host.hportMask with
  | false => simp [PortHost.portPass, PortHost.enableAfter, PortHost.dedisAfter, runs]
  | true =>
    cases set : host.port.read .pcintflg with
    | true =>
      have quiet := (settled runs).connect set
      have kept := hostPortIsrHandler_connect_enable phy set
      simp [PortHost.portPass, PortHost.enableAfter, PortHost.dedisAfter, runs, quiet, kept]
    | false =>
      have left := hostPortIsrHandler_enable phy set
      simp [PortHost.portPass, PortHost.enableAfter, PortHost.dedisAfter, runs, left]

theorem PortHost.portPass_frame (phy : Phy) (host : PortHost) (hport : Bool) :
    (host.portPass phy hport).curHostState = host.curHostState ∧
      (host.disconnected = false → (host.portPass phy hport).disconnected = false) := by
  unfold PortHost.portPass
  split <;> simp_all

/-- What a disconnect leaves behind until the next connect or poll. -/
structure Cut (host : PortHost) : Prop where
  masked : host.disconnected = true → host.gintMask = false
  unplugged : host.disconnected = true → host.port.connectedFlag = false
  disabled : host.disconnected = true → host.port.portEnable = false ∨
    host.curHostState = .idle ∨ host.curHostState = .deviceDetached

theorem Cut.of_connected {host : PortHost} (connected : host.disconnected = false) : Cut host :=
  ⟨by simp [connected], by simp [connected], by simp [connected]⟩

theorem otgIsrHandler_cut (phy : Phy) {host : PortHost} {hport dedis : Bool}
    (cut : Cut host) (unmasked : host.gintMask = true)
    (orderly : Orderly host (.isr hport dedis)) :
    Cut (host.otgIsrHandler phy hport dedis) := by
  have connected : host.disconnected = false := by
    cases known : host.disconnected with
    | false => rfl
    | true => exact absurd unmasked (by simp [cut.masked known])
  obtain ⟨enable, mask⟩ := host.portPass_enable phy orderly.1
  obtain ⟨same, still⟩ := host.portPass_frame phy hport
  simp only [PortHost.otgIsrHandler, mask]
  split
  · next runs =>
    refine ⟨fun _ => rfl, fun _ => rfl, fun _ => ?_⟩
    simpa [PortHost.disconnectIsrHandler, enable, same] using orderly.2 runs
  · exact Cut.of_connected (still connected)

theorem pollingProcess_cut (phy : Phy) {host : PortHost} (cut : Cut host) (next : HostState) :
    Cut (host.pollingProcess phy next) := by
  by_cases idle : host.curHostState = .idle
  · cases known : host.disconnected with
    | false => exact Cut.of_connected (by simp [PortHost.pollingProcess, known])
    | true =>
      have polled : host.polled = .idle := by simp [PortHost.polled, idle]
      have waits : host.pollingProcess phy next = host := by
        rw [PortHost.pollingProcess, PortHost.dispatch, polled, idle]
        simp [cut.unplugged known]
      rw [waits]
      exact cut
  · exact Cut.of_connected (by simp [PortHost.pollingProcess, idle])

theorem portStep_cut (phy : Phy) {before after : PortHost} {label : PortLabel}
    (cut : Cut before) (orderly : Orderly before label)
    (taken : portStep phy before label = some after) : Cut after := by
  cases label with
  | hardware hportcsts =>
    obtain rfl := Option.some.inj taken
    exact ⟨cut.masked, cut.unplugged, cut.disabled⟩
  | isr hport dedis =>
    simp only [portStep] at taken
    split at taken
    · next unmasked =>
      obtain rfl := Option.some.inj taken
      exact otgIsrHandler_cut phy cut unmasked orderly
    · cases taken
  | poll next =>
    obtain rfl := Option.some.inj taken
    exact pollingProcess_cut phy cut next

theorem Cut.polled {host : PortHost} (cut : Cut host) (known : host.disconnected = true)
    (busy : host.curHostState ≠ .idle) : host.polled = .deviceDetached := by
  rcases cut.disabled known with disabled | idle | detached
  · simp [PortHost.polled, cut.unplugged known, disabled, busy]
  · exact absurd idle busy
  · simp [PortHost.polled, detached]

/-- In every orderly run the next poll after a disconnect runs the detached handler. -/
theorem detached_after_disconnect {phy : Phy} {labels : List PortLabel} {host : PortHost}
    (run : Run (portStep phy) Orderly (PortHost.start phy) labels host)
    (known : host.disconnected = true) (busy : host.curHostState ≠ .idle) :
    host.polled = .deviceDetached := by
  have cut := run.invariant Cut (Cut.of_connected rfl)
    (fun _ _ _ cut orderly taken => portStep_cut phy cut orderly taken)
  exact cut.polled known busy

/-- A poll right after a disconnect runs the detached handler only if the pass was orderly. -/
theorem otgIsrHandler_polled_iff (phy : Phy) {host : PortHost} {hport dedis : Bool}
    (settled : (hport && host.hportMask) = true → host.port.Settled)
    (runs : (dedis && host.dedisAfter hport) = true) :
    ((host.otgIsrHandler phy hport dedis).curHostState ≠ .idle →
        (host.otgIsrHandler phy hport dedis).polled = .deviceDetached) ↔
      Orderly host (.isr hport dedis) := by
  obtain ⟨enable, mask⟩ := host.portPass_enable phy settled
  have same := (host.portPass_frame phy hport).1
  have after : host.otgIsrHandler phy hport dedis =
      (host.portPass phy hport).disconnectIsrHandler := by
    simp only [PortHost.otgIsrHandler, mask, runs, if_true]
  rw [after]
  simp only [Orderly, PortHost.polled, PortHost.disconnectIsrHandler, same, enable]
  constructor
  · intro detaches
    refine ⟨settled, fun _ => ?_⟩
    by_cases idle : host.curHostState = .idle
    · exact .inr (.inl idle)
    · cases known : host.enableAfter hport with
      | false => exact .inl rfl
      | true => exact .inr (.inr (by simpa [known] using detaches idle))
  · intro ⟨_, orderly⟩ busy
    rcases orderly runs with disabled | idle | detached
    · simp [disabled, busy]
    · exact absurd idle busy
    · simp [detached]

theorem port_events (phy : Phy) :
    (∀ port : Port, (hostPortIsrHandler phy port).Lawful port ↔ port.Settled) ∧
    (∀ (labels : List PortLabel) (host : PortHost),
      Run (portStep phy) Orderly (PortHost.start phy) labels host →
      host.disconnected = true → host.curHostState ≠ .idle → host.polled = .deviceDetached) ∧
    (∀ (host after : PortHost) (hport dedis : Bool),
      portStep phy host (.isr hport dedis) = some after →
      ((hport && host.hportMask) = true → host.port.Settled) →
      (dedis && host.dedisAfter hport) = true →
      ((after.curHostState ≠ .idle → after.polled = .deviceDetached) ↔
        Orderly host (.isr hport dedis))) := by
  refine ⟨hostPortIsrHandler_lawful_iff phy, fun _ _ run => detached_after_disconnect run, ?_⟩
  intro host after hport dedis taken settled runs
  simp only [portStep] at taken
  split at taken
  · obtain rfl := Option.some.inj taken
    exact otgIsrHandler_polled_iff phy settled runs
  · cases taken

/-- A full-speed device is plugged in and enabled. -/
def pluggedLabels : List PortLabel :=
  [.hardware 0x1003, .isr true false, .poll .idle, .poll .idle, .hardware 0x2100D,
    .isr true false]

theorem plugged_accepted :
    (execute (portStep .utmi) Orderly (PortHost.start .utmi) pluggedLabels).isSome = true := by
  decide +kernel

def pluggedHost : PortHost :=
  final (portStep .utmi) Orderly (PortHost.start .utmi) pluggedLabels plugged_accepted

/-- It is pulled out, and the enable change comes with the disconnect. -/
def pulledLabels : List PortLabel := pluggedLabels ++ [.hardware 0x1008, .isr true true]

theorem pulled_accepted :
    (execute (portStep .utmi) Orderly (PortHost.start .utmi) pulledLabels).isSome = true := by
  decide +kernel

def pulledHost : PortHost :=
  final (portStep .utmi) Orderly (PortHost.start .utmi) pulledLabels pulled_accepted

theorem pulledHost_detached :
    (hostPortIsrHandler .utmi pluggedHost.port).Lawful pluggedHost.port ∧
    pulledHost.polled = .deviceDetached ∧
    ∀ after, portStep .utmi pluggedHost (.isr false true) = some after →
      ¬ (after.curHostState ≠ .idle → after.polled = .deviceDetached) :=
  ⟨((port_events .utmi).1 _).mpr (by decide +kernel),
    (port_events .utmi).2.1 pulledLabels pulledHost (Run.final _ _ _ _ _) (by decide +kernel)
      (by decide +kernel),
    fun after taken => mt ((port_events .utmi).2.2 pluggedHost after false true taken
      (by decide +kernel) (by decide +kernel)).mp (by decide +kernel)⟩

/-- The disconnect comes before the enable change. -/
def missedLabels : List PortLabel := pluggedLabels ++ [.isr false true]

theorem missed_accepted :
    (execute (portStep .utmi) free (PortHost.start .utmi) missedLabels).isSome = true := by
  decide +kernel

def missedHost : PortHost :=
  final (portStep .utmi) free (PortHost.start .utmi) missedLabels missed_accepted

theorem disconnect_missed :
    (¬ ∀ (phy : Phy) (port : Port), (hostPortIsrHandler phy port).Lawful port) ∧
    ¬ ∀ (phy : Phy) (labels : List PortLabel) (host : PortHost),
      Run (portStep phy) free (PortHost.start phy) labels host →
      host.disconnected = true → host.curHostState ≠ .idle →
      host.polled = .deviceDetached := by
  constructor
  · intro lawful
    -- PCINTFLG, PEN and PENCHG are set together
    have settled := (hostPortIsrHandler_lawful_iff .utmi _).mp
      (lawful .utmi ⟨0x2100F, .mhz48, 0, false, false, false⟩)
    exact absurd settled (by decide)
  · intro detaches
    have run : Run (portStep .utmi) free (PortHost.start .utmi) missedLabels missedHost :=
      Run.final _ _ _ _ _
    exact absurd (detaches _ _ _ run (by decide +kernel) (by decide +kernel)) (by decide +kernel)

end ApmSdk.Usbh
