import ApmSdk.Lib.Runs
import ApmSdk.Usbd.Transfer

set_option autoImplicit false

/-!
# Control transfers of the OTG device

Endpoint 0 of `usbd_core.c`: the functions that start the stages of a control transfer, and the
two that the completions of its packets run.
-/

namespace ApmSdk.Otg

open Runs Chunks
open Usbd (Ptr CtrlBuf packetCount)

inductive CtrlState where
  | inData
  | inStatus
  | outData
  | outStatus
  | stall
  deriving DecidableEq, Repr

/-- The calls of `USB_OTG_EnableInEpTransfer` and `USB_OTG_EnableOutEpTransfer` for endpoint 0
and of the two status handlers. -/
inductive Call where
  | enableIn (len : Nat)
  | enableOut
  | txStatusHandler
  | rxStatusHandler
  deriving DecidableEq, Repr

/-- Endpoint 0. `loaded` says that the packet it is to send is in its TxFIFO; `calls` records
what was called since the last SETUP. -/
structure ControlEp (Obj : Type) where
  ctrlState : CtrlState
  inBuf : CtrlBuf Obj
  outBuf : CtrlBuf Obj
  loaded : Bool
  emptyInt : Bool
  outArmed : Bool
  calls : List Call

section

variable {Obj : Type}

def ControlEp.enableInEpTransfer (dev : ControlEp Obj) (len : Nat) : ControlEp Obj :=
  { dev with loaded := len = 0, calls := dev.calls ++ [.enableIn len] }

def ControlEp.enableOutEpTransfer (dev : ControlEp Obj) : ControlEp Obj :=
  { dev with outArmed := true, calls := dev.calls ++ [.enableOut] }

def ControlEp.ctrlRxStatus (dev : ControlEp Obj) : ControlEp Obj :=
  ControlEp.enableOutEpTransfer { dev with calls := dev.calls ++ [.rxStatusHandler] }

def ControlEp.ctrlTxStatus (dev : ControlEp Obj) : ControlEp Obj :=
  ControlEp.enableInEpTransfer { dev with calls := dev.calls ++ [.txStatusHandler] } 0

def ControlEp.ctrlOutData (dev : ControlEp Obj) (buf : Ptr Obj) (len : Nat) : ControlEp Obj :=
  { { dev with
      outBuf := { dev.outBuf with
        pBuf := some buf
        bufLen := len
        packNum := packetCount len dev.outBuf.maxPackSize } }.enableOutEpTransfer with
    ctrlState := .outData }

def ControlEp.ctrlInData (dev : ControlEp Obj) (buf : Ptr Obj) (len reqLen : Nat) :
    ControlEp Obj :=
  let dev := { dev with
    inBuf := { dev.inBuf with
      pBuf := some buf
      bufLen := len
      packNum := packetCount len dev.inBuf.maxPackSize
      -- only ever set here, also when an earlier transfer has left it set
      zeroPackFill := dev.inBuf.zeroPackFill ||
        decide (len < reqLen ∧ len % dev.inBuf.maxPackSize = 0) } }
  if len ≠ 0 then
    { dev.enableInEpTransfer (min len dev.inBuf.maxPackSize) with
      emptyInt := true
      ctrlState := .inData }
  else dev.ctrlTxStatus

def ControlEp.ctrlOutProcess (dev : ControlEp Obj) : ControlEp Obj :=
  if dev.ctrlState = .outData then
    if dev.outBuf.packNum ≠ 0 then dev.enableOutEpTransfer else dev.ctrlTxStatus
  else dev

def ControlEp.ctrlInProcess (dev : ControlEp Obj) : ControlEp Obj :=
  if dev.ctrlState = .inData then
    if dev.inBuf.packNum ≠ 0 then
      { dev.enableInEpTransfer (min dev.inBuf.bufLen dev.inBuf.maxPackSize) with emptyInt := true }
    else if dev.inBuf.zeroPackFill then
      { dev.enableInEpTransfer 0 with inBuf := { dev.inBuf with zeroPackFill := false } }
    else dev.ctrlRxStatus
  else dev

def ControlEp.pushDataToTxFIFO (dev : ControlEp Obj) (txFifoAvailable : Nat) : ControlEp Obj :=
  match dev.inBuf.pBuf with
  | none => dev
  | some pBuf =>
      let len := min dev.inBuf.bufLen dev.inBuf.maxPackSize
      if dev.inBuf.bufLen ≠ 0 ∧ len ≤ 4 * txFifoAvailable then
        { dev with
          inBuf := { dev.inBuf with
            pBuf := some (pBuf.add len)
            bufLen := dev.inBuf.bufLen - len
            packNum := (dev.inBuf.packNum + 255) % 256 }
          loaded := true
          emptyInt := false }
      else dev

-- `USBD_InEndpointIsrHandler` for a completed packet.
def ControlEp.inComplete (dev : ControlEp Obj) (txFifoAvailable : Nat) : ControlEp Obj :=
  let dev := { dev with emptyInt := false }.ctrlInProcess
  -- TXFE is raised while the FIFO has room, whether its interrupt is enabled or not
  if 0 < txFifoAvailable then dev.pushDataToTxFIFO txFifoAvailable else dev

-- A packet of `byteCount` bytes is taken out of the RxFIFO, then its completion is handled.
def ControlEp.outComplete (dev : ControlEp Obj) (byteCount : Nat) : ControlEp Obj :=
  let dev := { dev with outArmed := false }
  match dev.outBuf.pBuf with
  | none => dev.ctrlOutProcess
  | some pBuf =>
      if byteCount ≠ 0 then
        { dev with
          outBuf := { dev.outBuf with
            pBuf := some (pBuf.add byteCount)
            bufLen := (dev.outBuf.bufLen + (4294967296 - byteCount)) % 4294967296
            packNum := (dev.outBuf.packNum + 255) % 256
            xferCnt := byteCount } }.ctrlOutProcess
      else dev.ctrlOutProcess

/-! ## Transfers -/

/-- What the device does for a SETUP: nothing but a stall, `USBD_CtrlTxStatus`,
`USBD_CtrlInData` or `USBD_CtrlOutData`. The lengths of a control transfer have 16 bits. -/
inductive Transfer (Obj : Type) where
  | idle
  | noData
  | inData (buf : Ptr Obj) (len wLength : BitVec 16)
  | outData (buf : Ptr Obj) (len : BitVec 16)

def ControlEp.setup (dev : ControlEp Obj) : Transfer Obj → ControlEp Obj
  | .idle => dev
  | .noData => dev.ctrlTxStatus
  | .inData buf len wLength => dev.ctrlInData buf len.toNat wLength.toNat
  | .outData buf len => dev.ctrlOutData buf len.toNat

/-- An IN transfer that ends with a full packet before the host has all it asked for. -/
def OwesZero (maxPackSize len wLength : Nat) : Prop :=
  len < wLength ∧ 0 < len ∧ len % maxPackSize = 0

instance (maxPackSize len wLength : Nat) : Decidable (OwesZero maxPackSize len wLength) := by
  unfold OwesZero; infer_instance

def inStatus : List Call := [.txStatusHandler, .enableIn 0]
def outStatus : List Call := [.rxStatusHandler, .enableOut]

/-- What a transfer must call, at the SETUP and after each of its packets: the packets of the
data stage, a zero-length packet where one is owed, and one status stage in the direction
opposite to the data. -/
def Transfer.stages (maxPackSize : Nat) : Transfer Obj → List (List Call)
  | .idle => []
  | .noData => [inStatus]
  | .inData _ len wLength =>
      if wLength = 0 then [inStatus]
      else
        (List.range (pieces maxPackSize len.toNat)).map
            (fun index => [.enableIn (min (len.toNat - index * maxPackSize) maxPackSize)]) ++
          (if OwesZero maxPackSize len.toNat wLength.toNat then [[.enableIn 0]] else []) ++
          [outStatus]
  | .outData _ len =>
      List.replicate (pieces maxPackSize len.toNat) [.enableOut] ++ [inStatus]

/-- The packet that the host transfers next is an IN packet. -/
def Transfer.IsIn (maxPackSize : Nat) (transfer : Transfer Obj) (packets : Nat) : Prop :=
  match transfer with
  | .idle => False
  | .noData => True
  | .inData _ _ wLength =>
      wLength = 0 ∨ packets + 1 < (transfer.stages maxPackSize).length
  | .outData _ len => pieces maxPackSize len.toNat ≤ packets

instance (maxPackSize : Nat) (transfer : Transfer Obj) (packets : Nat) :
    Decidable (transfer.IsIn maxPackSize packets) := by
  unfold Transfer.IsIn; split <;> infer_instance

-- The bytes of the OUT packet after `packets` others.
def Transfer.outCount (maxPackSize : Nat) (packets : Nat) : Transfer Obj → Nat
  | .outData _ len => min (len.toNat - packets * maxPackSize) maxPackSize
  | _ => 0

/-- Endpoint 0 and the transfer in progress, with the packets of it that are complete. -/
structure ControlRun (Obj : Type) where
  dev : ControlEp Obj
  transfer : Transfer Obj
  packets : Nat

inductive ControlLabel (Obj : Type) where
  | setup (transfer : Transfer Obj)
  | push (txFifoAvailable : Nat)
  | packet (txFifoAvailable : Nat)

def controlStep (maxPackSize : Nat) (run : ControlRun Obj) :
    ControlLabel Obj → Option (ControlRun Obj)
  | .setup transfer =>
      some {
        dev := { run.dev with calls := [] }.setup transfer
        transfer := transfer
        packets := 0 }
  | .push txFifoAvailable =>
      if run.dev.emptyInt ∧ 0 < txFifoAvailable then
        some { run with dev := run.dev.pushDataToTxFIFO txFifoAvailable }
      else none
  | .packet txFifoAvailable =>
      if run.packets < (run.transfer.stages maxPackSize).length then
        if run.transfer.IsIn maxPackSize run.packets then
          if run.dev.loaded then
            some { run with
              dev := run.dev.inComplete txFifoAvailable
              packets := run.packets + 1 }
          else none
        else if run.dev.outArmed then
          some { run with
            dev := run.dev.outComplete (run.transfer.outCount maxPackSize run.packets)
            packets := run.packets + 1 }
        else none
      else none

-- `g_usbDev` is zero, so `ctrlState` is the first state of the enumeration.
def ControlRun.started (maxPackSize : Nat) : ControlRun Obj where
  dev := {
    ctrlState := .inData
    inBuf := CtrlBuf.reset maxPackSize
    outBuf := CtrlBuf.reset maxPackSize
    loaded := false
    emptyInt := false
    outArmed := false
    calls := [] }
  transfer := .idle
  packets := 0

/-- The calls since the last SETUP are those of the stages that have begun. -/
def ControlRun.Orderly (maxPackSize : Nat) (run : ControlRun Obj) : Prop :=
  run.dev.calls = ((run.transfer.stages maxPackSize).take (run.packets + 1)).flatten

/-- The number of packets that are left does not look like none to a counter of 8 bits. -/
def Counted (maxPackSize len packets : Nat) : Prop :=
  packets + 1 < pieces maxPackSize len → (pieces maxPackSize len - (packets + 1)) % 256 ≠ 0

instance (maxPackSize len packets : Nat) : Decidable (Counted maxPackSize len packets) := by
  unfold Counted; infer_instance

/-- What a step must find. -/
def Settled (maxPackSize : Nat) (run : ControlRun Obj) : ControlLabel Obj → Prop
  | .setup (.inData _ len wLength) => len = 0 ↔ wLength = 0
  | .setup (.outData _ len) => len ≠ 0
  | .setup _ => True
  | .push _ => True
  | .packet _ =>
      match run.transfer with
      | .idle => True
      | .noData => run.dev.ctrlState ≠ .inData
      | .inData _ len wLength =>
          if wLength = 0 then run.dev.ctrlState ≠ .inData
          else Counted maxPackSize len.toNat run.packets ∧
            (run.packets + 1 = pieces maxPackSize len.toNat →
              (run.dev.inBuf.zeroPackFill = true ↔
                OwesZero maxPackSize len.toNat wLength.toNat))
      | .outData _ len => Counted maxPackSize len.toNat run.packets

instance (maxPackSize : Nat) (run : ControlRun Obj) (label : ControlLabel Obj) :
    Decidable (Settled maxPackSize run label) := by
  unfold Settled
  split
  · infer_instance
  · infer_instance
  · infer_instance
  · infer_instance
  · split <;> infer_instance

/-! ## The stages of a transfer -/

theorem lt_pieces_iff {size : Nat} (positive : 0 < size) {count length : Nat} :
    count < pieces size length ↔ count * size < length := by
  constructor
  · intro few
    by_contra enough
    have bound := pieces_le positive (Nat.le_of_not_lt enough)
    omega
  · exact pieces_of_mul_lt positive

section Stages

variable {maxPackSize : Nat} {buf : Ptr Obj} {len wLength : BitVec 16}

theorem stage_data (asked : wLength ≠ 0) {index : Nat}
    (data : index < pieces maxPackSize len.toNat) :
    ((Transfer.inData buf len wLength).stages maxPackSize)[index]? =
      some [.enableIn (min (len.toNat - index * maxPackSize) maxPackSize)] := by
  simp only [Transfer.stages, if_neg asked, List.append_assoc]
  rw [List.getElem?_append_left (by simpa using data), List.getElem?_map,
    List.getElem?_range data]
  rfl

theorem stage_zero (asked : wLength ≠ 0)
    (owes : OwesZero maxPackSize len.toNat wLength.toNat) :
    ((Transfer.inData buf len wLength).stages maxPackSize)[pieces maxPackSize len.toNat]? =
      some [.enableIn 0] := by
  simp only [Transfer.stages, if_neg asked, if_pos owes, List.append_assoc]
  rw [List.getElem?_append_right (by simp)]
  simp

theorem stage_status (asked : wLength ≠ 0) {index : Nat}
    (last : index = pieces maxPackSize len.toNat +
      if OwesZero maxPackSize len.toNat wLength.toNat then 1 else 0) :
    ((Transfer.inData buf len wLength).stages maxPackSize)[index]? = some outStatus := by
  simp only [Transfer.stages, if_neg asked, last]
  rw [List.getElem?_append_right]
  · split <;> simp
  · split <;> simp

theorem stages_length (asked : wLength ≠ 0) :
    ((Transfer.inData buf len wLength).stages maxPackSize).length =
      pieces maxPackSize len.toNat +
        (if OwesZero maxPackSize len.toNat wLength.toNat then 1 else 0) + 1 := by
  simp only [Transfer.stages, if_neg asked]
  split <;> simp

theorem outStage_data {index : Nat} (data : index < pieces maxPackSize len.toNat) :
    ((Transfer.outData buf len).stages maxPackSize)[index]? = some [.enableOut] := by
  simp only [Transfer.stages]
  rw [List.getElem?_append_left (by simpa using data), List.getElem?_replicate, if_pos data]

theorem outStage_status :
    ((Transfer.outData buf len).stages maxPackSize)[pieces maxPackSize len.toNat]? =
      some inStatus := by
  simp only [Transfer.stages]
  rw [List.getElem?_append_right (by simp)]
  simp

/-- A transfer has at most one status stage, and a transfer that is answered exactly one. -/
theorem stages_status (transfer : Transfer Obj) (answered : transfer.stages maxPackSize ≠ []) :
    (transfer.stages maxPackSize).flatten.count .txStatusHandler +
      (transfer.stages maxPackSize).flatten.count .rxStatusHandler = 1 := by
  cases transfer with
  | idle => exact absurd rfl answered
  | noData => rfl
  | inData buf len wLength =>
    by_cases asked : wLength = 0
    · simp [Transfer.stages, asked, inStatus]
    · have data (call : Call) (handler : ∀ count, call ≠ .enableIn count) :
          ((List.range (pieces maxPackSize len.toNat)).map fun index =>
            [Call.enableIn (min (len.toNat - index * maxPackSize) maxPackSize)]).flatten.count
              call = 0 := by
        rw [List.count_eq_zero]
        simpa using fun _ _ => handler _
      simp only [Transfer.stages, if_neg asked, List.flatten_append, List.count_append,
        data .txStatusHandler nofun, data .rxStatusHandler nofun]
      split <;> simp [outStatus]
  | outData buf len =>
    simp [Transfer.stages, inStatus, List.count_replicate]

end Stages

/-! ## Runs -/

section Steps

variable {maxPackSize : Nat}

/-- An IN data packet is armed and waits to be pushed, or is in the FIFO. -/
def InFlight (maxPackSize : Nat) (dev : ControlEp Obj) (len packets : Nat) : Prop :=
  dev.inBuf.pBuf.isSome = true ∧
  (dev.loaded = false ∧ dev.inBuf.bufLen = len - packets * maxPackSize ∧
      dev.inBuf.packNum = (pieces maxPackSize len - packets) % 256 ∨
    dev.loaded = true ∧ dev.emptyInt = false ∧
      dev.inBuf.bufLen = len - (packets + 1) * maxPackSize ∧
      dev.inBuf.packNum = (pieces maxPackSize len - (packets + 1)) % 256)

/-- The data stage of an IN transfer. -/
structure InStage (maxPackSize : Nat) (dev : ControlEp Obj) (len packets : Nat) : Prop where
  ctrlState : dev.ctrlState = .inData
  flying : packets < pieces maxPackSize len → InFlight maxPackSize dev len packets
  finished : pieces maxPackSize len ≤ packets → dev.inBuf.bufLen = 0 ∧ dev.inBuf.packNum = 0 ∧
    dev.inBuf.zeroPackFill = false

structure OutStage (maxPackSize : Nat) (dev : ControlEp Obj) (len packets : Nat) : Prop where
  ctrlState : dev.ctrlState = .outData
  buffer : dev.outBuf.pBuf.isSome = true
  left : packets ≤ pieces maxPackSize len →
    dev.outBuf.packNum = (pieces maxPackSize len - packets) % 256

/-- What the state of endpoint 0 has to do with its transfer. -/
def ControlRun.InStep (maxPackSize : Nat) (run : ControlRun Obj) : Prop :=
  match run.transfer with
  | .idle => True
  | .noData => True
  | .inData _ len wLength => wLength ≠ 0 →
      len ≠ 0 ∧ InStage maxPackSize run.dev len.toNat run.packets
  | .outData _ len => len ≠ 0 ∧ OutStage maxPackSize run.dev len.toNat run.packets

structure ControlRun.Inv (maxPackSize : Nat) (run : ControlRun Obj) : Prop where
  inSize : run.dev.inBuf.maxPackSize = maxPackSize
  outSize : run.dev.outBuf.maxPackSize = maxPackSize
  orderly : run.Orderly maxPackSize
  inStep : run.InStep maxPackSize

theorem toNat_ne_zero {width : Nat} {value : BitVec width} (nonzero : value ≠ 0) :
    0 < value.toNat := by
  apply Nat.pos_of_ne_zero
  intro zero
  exact nonzero (BitVec.eq_of_toNat_eq (by simpa using zero))

theorem packetCount_short {len : BitVec 16} (narrow : maxPackSize < 65536) :
    packetCount len.toNat maxPackSize = pieces maxPackSize len.toNat % 256 := by
  have short := len.isLt
  have unwrapped : (len.toNat + (maxPackSize - 1)) % 4294967296 =
      len.toNat + (maxPackSize - 1) := Nat.mod_eq_of_lt (by omega)
  rw [packetCount, unwrapped, pieces]

/-! ### Pushing -/

@[simp]
theorem push_calls (dev : ControlEp Obj) (txFifoAvailable : Nat) :
    (dev.pushDataToTxFIFO txFifoAvailable).calls = dev.calls := by
  unfold ControlEp.pushDataToTxFIFO
  split
  · rfl
  · dsimp only
    split <;> rfl

@[simp]
theorem push_ctrlState (dev : ControlEp Obj) (txFifoAvailable : Nat) :
    (dev.pushDataToTxFIFO txFifoAvailable).ctrlState = dev.ctrlState := by
  unfold ControlEp.pushDataToTxFIFO
  split
  · rfl
  · dsimp only
    split <;> rfl

@[simp]
theorem push_outBuf (dev : ControlEp Obj) (txFifoAvailable : Nat) :
    (dev.pushDataToTxFIFO txFifoAvailable).outBuf = dev.outBuf := by
  unfold ControlEp.pushDataToTxFIFO
  split
  · rfl
  · dsimp only
    split <;> rfl

@[simp]
theorem push_inSize (dev : ControlEp Obj) (txFifoAvailable : Nat) :
    (dev.pushDataToTxFIFO txFifoAvailable).inBuf.maxPackSize = dev.inBuf.maxPackSize := by
  unfold ControlEp.pushDataToTxFIFO
  split
  · rfl
  · dsimp only
    split <;> rfl

theorem push_nothing {dev : ControlEp Obj} (txFifoAvailable : Nat)
    (nothing : dev.inBuf.bufLen = 0) : dev.pushDataToTxFIFO txFifoAvailable = dev := by
  unfold ControlEp.pushDataToTxFIFO
  split
  · rfl
  · simp [nothing]

/-- A packet that waits to be pushed is pushed or still waits. -/
theorem InFlight.push {dev : ControlEp Obj} {len packets : Nat} (txFifoAvailable : Nat)
    (size : dev.inBuf.maxPackSize = maxPackSize) (data : packets < pieces maxPackSize len)
    (flying : InFlight maxPackSize dev len packets) (waits : dev.loaded = false) :
    InFlight maxPackSize (dev.pushDataToTxFIFO txFifoAvailable) len packets := by
  obtain ⟨buffer, ⟨_, bytes, count⟩ | ⟨loaded, _⟩⟩ := flying
  · obtain ⟨pBuf, pointer⟩ := Option.isSome_iff_exists.mp buffer
    simp only [ControlEp.pushDataToTxFIFO, pointer, size]
    split
    · refine ⟨rfl, .inr ⟨rfl, rfl, ?_, ?_⟩⟩
      · simp only [bytes, Nat.succ_mul]
        omega
      · simp only [count]
        omega
    · exact ⟨buffer, .inl ⟨waits, bytes, count⟩⟩
  · rw [waits] at loaded
    cases loaded

theorem InStage.push {dev : ControlEp Obj} {len packets : Nat} (txFifoAvailable : Nat)
    (size : dev.inBuf.maxPackSize = maxPackSize) (stage : InStage maxPackSize dev len packets)
    (waits : packets < pieces maxPackSize len → dev.loaded = false) :
    InStage maxPackSize (dev.pushDataToTxFIFO txFifoAvailable) len packets := by
  by_cases data : packets < pieces maxPackSize len
  · refine ⟨by rw [push_ctrlState]; exact stage.ctrlState, fun _ => ?_, fun finished => ?_⟩
    · exact (stage.flying data).push txFifoAvailable size data (waits data)
    · omega
  · rw [push_nothing txFifoAvailable (stage.finished (by omega)).1]
    exact stage

/-! ### SETUP -/

theorem orderly_setup {dev : ControlEp Obj} {transfer : Transfer Obj} :
    ControlRun.Orderly maxPackSize { dev := dev, transfer := transfer, packets := 0 } ↔
      dev.calls = ((transfer.stages maxPackSize)[0]?).getD [] := by
  unfold ControlRun.Orderly
  cases transfer.stages maxPackSize <;> simp

theorem ctrlInData_calls {dev : ControlEp Obj} (fresh : dev.calls = []) (buf : Ptr Obj)
    (len wLength : Nat) : (dev.ctrlInData buf len wLength).calls =
      if len = 0 then inStatus else [.enableIn (min len dev.inBuf.maxPackSize)] := by
  unfold ControlEp.ctrlInData
  split
  · next nonempty => simp [ControlEp.enableInEpTransfer, fresh, nonempty]
  · next empty =>
    simp [ControlEp.ctrlTxStatus, ControlEp.enableInEpTransfer, fresh, inStatus,
      not_not.mp empty]

theorem setup_orderly_iff {dev : ControlEp Obj} (positive : 0 < maxPackSize)
    (size : dev.inBuf.maxPackSize = maxPackSize) (fresh : dev.calls = [])
    (transfer : Transfer Obj) :
    ControlRun.Orderly maxPackSize
        { dev := dev.setup transfer, transfer := transfer, packets := 0 } ↔
      match transfer with
      | .inData _ len wLength => len = 0 ↔ wLength = 0
      | .outData _ len => len ≠ 0
      | _ => True := by
  rw [orderly_setup]
  cases transfer with
  | idle => simp [ControlEp.setup, Transfer.stages, fresh]
  | noData =>
    simp [ControlEp.setup, Transfer.stages, ControlEp.ctrlTxStatus, ControlEp.enableInEpTransfer,
      fresh, inStatus]
  | inData buf len wLength =>
    simp only [ControlEp.setup, ctrlInData_calls fresh, size]
    by_cases asked : wLength = 0
    · have first : ((Transfer.inData buf len wLength).stages maxPackSize)[0]? =
          some inStatus := by
        simp only [Transfer.stages, if_pos asked]
        rfl
      rw [first, iff_true_right asked]
      by_cases none : len = 0
      · rw [none]
        exact iff_of_true rfl rfl
      · rw [if_neg (toNat_ne_zero none).ne']
        exact iff_of_false nofun none
    · rw [iff_false_right asked]
      by_cases none : len = 0
      · subst none
        have first : ((Transfer.inData buf 0 wLength).stages maxPackSize)[0]? = some outStatus :=
          stage_status asked (by simp [pieces_zero positive, OwesZero])
        rw [first]
        exact iff_of_false nofun (not_not_intro rfl)
      · have some : 0 < pieces maxPackSize len.toNat :=
          (lt_pieces_iff positive).mpr (by simpa using toNat_ne_zero none)
        rw [if_neg (toNat_ne_zero none).ne', stage_data asked some]
        exact iff_of_true (by simp) none
  | outData buf len =>
    have calls : (dev.setup (.outData buf len)).calls = [.enableOut] := by
      simp [ControlEp.setup, ControlEp.ctrlOutData, ControlEp.enableOutEpTransfer, fresh]
    rw [calls]
    by_cases none : len = 0
    · subst none
      have first : ((Transfer.outData buf 0).stages maxPackSize)[pieces maxPackSize
          (0 : BitVec 16).toNat]? = some inStatus := outStage_status
      rw [show pieces maxPackSize (0 : BitVec 16).toNat = 0 from pieces_zero positive] at first
      rw [first]
      exact iff_of_false nofun (not_not_intro rfl)
    · have some : 0 < pieces maxPackSize len.toNat :=
        (lt_pieces_iff positive).mpr (by simpa using toNat_ne_zero none)
      rw [outStage_data some]
      exact iff_of_true rfl none

theorem setup_inStep {dev : ControlEp Obj} (positive : 0 < maxPackSize)
    (narrow : maxPackSize < 65536) (inSize : dev.inBuf.maxPackSize = maxPackSize)
    (outSize : dev.outBuf.maxPackSize = maxPackSize) {transfer : Transfer Obj}
    (settled : match transfer with
      | .inData _ len wLength => len = 0 ↔ wLength = 0
      | .outData _ len => len ≠ 0
      | _ => True) :
    ControlRun.InStep maxPackSize
      { dev := dev.setup transfer, transfer := transfer, packets := 0 } := by
  cases transfer with
  | idle => trivial
  | noData => trivial
  | inData buf len wLength =>
    intro asked
    have nonempty : len ≠ 0 := mt settled.mp asked
    have bytes := toNat_ne_zero nonempty
    have packets : 0 < pieces maxPackSize len.toNat := (lt_pieces_iff positive).mpr (by simpa)
    have first : min len.toNat maxPackSize ≠ 0 := by omega
    refine ⟨nonempty, ?_, fun _ => ?_, fun none => ?_⟩
    · simp [ControlEp.setup, ControlEp.ctrlInData, bytes.ne']
    · simp [ControlEp.setup, ControlEp.ctrlInData, bytes.ne', ControlEp.enableInEpTransfer,
        InFlight, inSize, packetCount_short narrow, first]
    · exact absurd none (Nat.not_le_of_gt packets)
  | outData buf len =>
    refine ⟨settled, rfl, rfl, fun _ => ?_⟩
    simp [ControlEp.setup, ControlEp.ctrlOutData, ControlEp.enableOutEpTransfer, outSize,
      packetCount_short narrow]

theorem setup_sizes (dev : ControlEp Obj) (transfer : Transfer Obj) :
    (dev.setup transfer).inBuf.maxPackSize = dev.inBuf.maxPackSize ∧
      (dev.setup transfer).outBuf.maxPackSize = dev.outBuf.maxPackSize := by
  cases transfer with
  | idle => exact ⟨rfl, rfl⟩
  | noData => exact ⟨rfl, rfl⟩
  | inData buf len wLength =>
    simp only [ControlEp.setup, ControlEp.ctrlInData]
    split <;> exact ⟨rfl, rfl⟩
  | outData buf len => exact ⟨rfl, rfl⟩

/-! ### Packets -/

theorem orderly_next {run : ControlRun Obj} {after : ControlEp Obj} (new : List Call)
    (orderly : run.Orderly maxPackSize) (calls : after.calls = run.dev.calls ++ new) :
    ControlRun.Orderly maxPackSize
        { run with dev := after, packets := run.packets + 1 } ↔
      new = ((run.transfer.stages maxPackSize)[run.packets + 1]?).getD [] := by
  have longer : (run.transfer.stages maxPackSize).take (run.packets + 1 + 1) =
      (run.transfer.stages maxPackSize).take (run.packets + 1) ++
        (run.transfer.stages maxPackSize)[run.packets + 1]?.toList := List.take_add_one
  unfold ControlRun.Orderly at orderly ⊢
  dsimp only
  rw [calls, orderly, longer, List.flatten_append, List.append_cancel_left_eq]
  cases (run.transfer.stages maxPackSize)[run.packets + 1]? <;> simp

theorem inComplete_idle {dev : ControlEp Obj} (state : dev.ctrlState ≠ .inData)
    (txFifoAvailable : Nat) : (dev.inComplete txFifoAvailable).calls = dev.calls ∧
      (dev.inComplete txFifoAvailable).ctrlState = dev.ctrlState ∧
      (dev.inComplete txFifoAvailable).outBuf = dev.outBuf := by
  unfold ControlEp.inComplete ControlEp.ctrlInProcess
  simp only [if_neg state]
  split <;> simp

theorem inComplete_calls {dev : ControlEp Obj} (state : dev.ctrlState = .inData)
    (txFifoAvailable : Nat) : (dev.inComplete txFifoAvailable).calls = dev.calls ++
      if dev.inBuf.packNum ≠ 0 then [.enableIn (min dev.inBuf.bufLen dev.inBuf.maxPackSize)]
      else if dev.inBuf.zeroPackFill then [.enableIn 0] else outStatus := by
  have process : (ControlEp.ctrlInProcess { dev with emptyInt := false }).calls = dev.calls ++
      if dev.inBuf.packNum ≠ 0 then [.enableIn (min dev.inBuf.bufLen dev.inBuf.maxPackSize)]
      else if dev.inBuf.zeroPackFill then [.enableIn 0] else outStatus := by
    unfold ControlEp.ctrlInProcess
    simp only [if_pos state]
    split
    · rfl
    · split
      · rfl
      · simp [ControlEp.ctrlRxStatus, ControlEp.enableOutEpTransfer, outStatus]
  unfold ControlEp.inComplete
  dsimp only
  split
  · rw [push_calls, process]
  · exact process

theorem inComplete_sizes (dev : ControlEp Obj) (txFifoAvailable : Nat) :
    (dev.inComplete txFifoAvailable).inBuf.maxPackSize = dev.inBuf.maxPackSize ∧
      (dev.inComplete txFifoAvailable).outBuf.maxPackSize = dev.outBuf.maxPackSize := by
  have process : (ControlEp.ctrlInProcess { dev with emptyInt := false }).inBuf.maxPackSize =
        dev.inBuf.maxPackSize ∧
      (ControlEp.ctrlInProcess { dev with emptyInt := false }).outBuf = dev.outBuf := by
    unfold ControlEp.ctrlInProcess
    split
    · split
      · exact ⟨rfl, rfl⟩
      · split <;> exact ⟨rfl, rfl⟩
    · exact ⟨rfl, rfl⟩
  unfold ControlEp.inComplete
  dsimp only
  split
  · rw [push_inSize, push_outBuf, process.2]
    exact ⟨process.1, rfl⟩
  · rw [process.2]
    exact ⟨process.1, rfl⟩

theorem InStage.process {dev : ControlEp Obj} {len packets : Nat} (txFifoAvailable : Nat)
    (size : dev.inBuf.maxPackSize = maxPackSize)
    (stage : InStage maxPackSize (ControlEp.ctrlInProcess { dev with emptyInt := false }) len
      packets)
    (waits : packets < pieces maxPackSize len →
      (ControlEp.ctrlInProcess { dev with emptyInt := false }).loaded = false) :
    InStage maxPackSize (dev.inComplete txFifoAvailable) len packets := by
  have same : (ControlEp.ctrlInProcess { dev with emptyInt := false }).inBuf.maxPackSize =
      maxPackSize := by
    rw [← size]
    exact (inComplete_sizes dev 0).1
  unfold ControlEp.inComplete
  dsimp only
  split
  · exact stage.push txFifoAvailable same waits
  · exact stage

/-- A data packet that is not the last is followed by the next one. -/
theorem InStage.next {dev : ControlEp Obj} {len packets : Nat} (positive : 0 < maxPackSize)
    (size : dev.inBuf.maxPackSize = maxPackSize) (stage : InStage maxPackSize dev len packets)
    (loaded : dev.loaded = true) (more : packets + 1 < pieces maxPackSize len)
    (counted : Counted maxPackSize len packets) (txFifoAvailable : Nat) :
    InStage maxPackSize (dev.inComplete txFifoAvailable) len (packets + 1) := by
  obtain ⟨buffer, ⟨waits, _⟩ | ⟨_, _, bytes, count⟩⟩ := stage.flying (by omega)
  · rw [loaded] at waits
    cases waits
  · have left : dev.inBuf.packNum ≠ 0 := by
      rw [count]
      exact counted more
    have offset := (lt_pieces_iff positive).mp more
    have process : ControlEp.ctrlInProcess { dev with emptyInt := false } =
        { dev with
          emptyInt := true
          loaded := false
          calls := dev.calls ++ [.enableIn (min dev.inBuf.bufLen dev.inBuf.maxPackSize)] } := by
      have nonempty : min dev.inBuf.bufLen dev.inBuf.maxPackSize ≠ 0 := by
        rw [bytes, size]
        omega
      simp [ControlEp.ctrlInProcess, stage.ctrlState, left, ControlEp.enableInEpTransfer, nonempty]
    apply InStage.process txFifoAvailable size
    · rw [process]
      exact ⟨stage.ctrlState, fun _ => ⟨buffer, .inl ⟨rfl, bytes, count⟩⟩, fun finished => by omega⟩
    · intro _
      rw [process]

/-- After the last data packet nothing is left. -/
theorem InStage.finish {dev : ControlEp Obj} {len packets : Nat}
    (size : dev.inBuf.maxPackSize = maxPackSize) (ctrlState : dev.ctrlState = .inData)
    (finished : pieces maxPackSize len ≤ packets + 1) (bytes : dev.inBuf.bufLen = 0)
    (count : dev.inBuf.packNum = 0) (txFifoAvailable : Nat) :
    InStage maxPackSize (dev.inComplete txFifoAvailable) len (packets + 1) := by
  apply InStage.process txFifoAvailable size
  · cases owed : dev.inBuf.zeroPackFill with
    | true =>
      refine ⟨?_, fun data => by omega, fun _ => ?_⟩
      · simp [ControlEp.ctrlInProcess, ctrlState, count, owed, ControlEp.enableInEpTransfer]
      · simp [ControlEp.ctrlInProcess, ctrlState, count, owed, ControlEp.enableInEpTransfer, bytes]
    | false =>
      refine ⟨?_, fun data => by omega, fun _ => ?_⟩
      · simp [ControlEp.ctrlInProcess, ctrlState, count, owed, ControlEp.ctrlRxStatus,
          ControlEp.enableOutEpTransfer]
      · simp [ControlEp.ctrlInProcess, ctrlState, count, owed, ControlEp.ctrlRxStatus,
          ControlEp.enableOutEpTransfer, bytes]
  · intro data
    omega

/-- The bytes and the packets that are left when the last data packet is in the FIFO. -/
theorem InStage.last {dev : ControlEp Obj} {len packets : Nat} (positive : 0 < maxPackSize)
    (stage : InStage maxPackSize dev len packets) (loaded : dev.loaded = true)
    (last : pieces maxPackSize len ≤ packets + 1) :
    dev.inBuf.bufLen = 0 ∧ dev.inBuf.packNum = 0 := by
  by_cases data : packets < pieces maxPackSize len
  · obtain ⟨_, ⟨waits, _⟩ | ⟨_, _, bytes, count⟩⟩ := stage.flying data
    · rw [loaded] at waits
      cases waits
    · have covered := mt (lt_pieces_iff positive).mpr (Nat.not_lt_of_le last)
      constructor
      · rw [bytes]
        omega
      · rw [count, Nat.sub_eq_zero_of_le last]
  · exact ⟨(stage.finished (by omega)).1, (stage.finished (by omega)).2.1⟩

section InData

variable {run : ControlRun Obj} {buf : Ptr Obj} {len wLength : BitVec 16}

theorem inData_in_iff (positive : 0 < maxPackSize) (inv : run.Inv maxPackSize)
    (transfer : run.transfer = .inData buf len wLength) (asked : wLength ≠ 0)
    (loaded : run.dev.loaded = true)
    (isIn : run.packets < pieces maxPackSize len.toNat +
      if OwesZero maxPackSize len.toNat wLength.toNat then 1 else 0) (txFifoAvailable : Nat) :
    ControlRun.Orderly maxPackSize { run with
        dev := run.dev.inComplete txFifoAvailable, packets := run.packets + 1 } ↔
      Counted maxPackSize len.toNat run.packets ∧
        (run.packets + 1 = pieces maxPackSize len.toNat →
          (run.dev.inBuf.zeroPackFill = true ↔ OwesZero maxPackSize len.toNat wLength.toNat)) := by
  have inStep := inv.inStep
  simp only [ControlRun.InStep, transfer] at inStep
  obtain ⟨nonempty, stage⟩ := inStep asked
  rw [orderly_next _ inv.orderly (inComplete_calls stage.ctrlState txFifoAvailable), transfer,
    inv.inSize]
  rcases Nat.lt_trichotomy (run.packets + 1) (pieces maxPackSize len.toNat) with
    more | last | finished
  · -- the counter decides whether the next packet is armed
    obtain ⟨_, ⟨waits, _⟩ | ⟨_, _, bytes, count⟩⟩ := stage.flying (by omega)
    · rw [loaded] at waits
      cases waits
    · have offset := (lt_pieces_iff positive).mp more
      rw [stage_data asked more, bytes, count]
      by_cases left : (pieces maxPackSize len.toNat - (run.packets + 1)) % 256 = 0
      · apply iff_of_false
        · rw [if_neg (not_not_intro left)]
          split
          · simp
            omega
          · simp [outStatus]
        · rintro ⟨counted, _⟩
          exact counted more left
      · rw [if_pos left]
        exact iff_of_true rfl ⟨fun _ => left, fun last => by omega⟩
  · -- the flag decides whether a zero-length packet is armed
    have finished := (stage.last positive loaded (by omega)).2
    rw [if_neg (not_not_intro finished)]
    have counted : Counted maxPackSize len.toNat run.packets := fun more => by omega
    rw [and_iff_right counted, imp_iff_right last]
    by_cases owes : OwesZero maxPackSize len.toNat wLength.toNat
    · rw [last, stage_zero asked owes]
      cases run.dev.inBuf.zeroPackFill <;> simp [owes, outStatus]
    · rw [stage_status asked (by simp [owes, last])]
      cases run.dev.inBuf.zeroPackFill <;> simp [owes, outStatus]
  · -- the zero-length packet is complete
    have owes : OwesZero maxPackSize len.toNat wLength.toNat := by
      by_contra none
      rw [if_neg none] at isIn
      omega
    rw [if_pos owes] at isIn
    have finished := stage.finished (by omega)
    rw [if_neg (not_not_intro finished.2.1), finished.2.2,
      stage_status asked (by rw [if_pos owes]; omega)]
    exact iff_of_true rfl ⟨fun more => by omega, fun last => by omega⟩

theorem inData_in_stage (positive : 0 < maxPackSize) (inv : run.Inv maxPackSize)
    (transfer : run.transfer = .inData buf len wLength) (asked : wLength ≠ 0)
    (loaded : run.dev.loaded = true) (counted : Counted maxPackSize len.toNat run.packets)
    (txFifoAvailable : Nat) :
    InStage maxPackSize (run.dev.inComplete txFifoAvailable) len.toNat (run.packets + 1) := by
  have inStep := inv.inStep
  simp only [ControlRun.InStep, transfer] at inStep
  obtain ⟨_, stage⟩ := inStep asked
  by_cases more : run.packets + 1 < pieces maxPackSize len.toNat
  · exact stage.next positive inv.inSize loaded more counted txFifoAvailable
  · have finished := stage.last positive loaded (by omega)
    exact .finish inv.inSize stage.ctrlState (by omega) finished.1 finished.2 txFifoAvailable

end InData

theorem outComplete_zero {dev : ControlEp Obj} (state : dev.ctrlState ≠ .outData) :
    dev.outComplete 0 = { dev with outArmed := false } := by
  unfold ControlEp.outComplete ControlEp.ctrlOutProcess
  dsimp only
  split <;> simp [state]

theorem outComplete_data {dev : ControlEp Obj} {byteCount : Nat}
    (state : dev.ctrlState = .outData) (buffer : dev.outBuf.pBuf.isSome = true)
    (some : byteCount ≠ 0) :
    (dev.outComplete byteCount).calls = dev.calls ++
        (if (dev.outBuf.packNum + 255) % 256 ≠ 0 then [.enableOut] else inStatus) ∧
      (dev.outComplete byteCount).ctrlState = .outData ∧
      (dev.outComplete byteCount).outBuf.pBuf.isSome = true ∧
      (dev.outComplete byteCount).outBuf.packNum = (dev.outBuf.packNum + 255) % 256 := by
  obtain ⟨pBuf, pointer⟩ := Option.isSome_iff_exists.mp buffer
  unfold ControlEp.outComplete ControlEp.ctrlOutProcess
  simp only [pointer, if_pos some, if_pos state]
  split
  · exact ⟨rfl, state, rfl, rfl⟩
  · refine ⟨?_, state, rfl, rfl⟩
    simp [ControlEp.ctrlTxStatus, ControlEp.enableInEpTransfer, inStatus]

theorem outComplete_sizes (dev : ControlEp Obj) (byteCount : Nat) :
    (dev.outComplete byteCount).inBuf.maxPackSize = dev.inBuf.maxPackSize ∧
      (dev.outComplete byteCount).outBuf.maxPackSize = dev.outBuf.maxPackSize := by
  have process (dev : ControlEp Obj) : dev.ctrlOutProcess.inBuf = dev.inBuf ∧
      dev.ctrlOutProcess.outBuf = dev.outBuf := by
    unfold ControlEp.ctrlOutProcess
    split
    · split <;> exact ⟨rfl, rfl⟩
    · exact ⟨rfl, rfl⟩
  unfold ControlEp.outComplete
  dsimp only
  split
  · rw [(process _).1, (process _).2]
    exact ⟨rfl, rfl⟩
  · split
    · rw [(process _).1, (process _).2]
      exact ⟨rfl, rfl⟩
    · rw [(process _).1, (process _).2]
      exact ⟨rfl, rfl⟩

section Packet

variable {run : ControlRun Obj}

/-- A status packet of a transfer without data. -/
theorem noData_iff (inv : run.Inv maxPackSize)
    (stages : run.transfer.stages maxPackSize = [inStatus]) (txFifoAvailable : Nat) :
    ControlRun.Orderly maxPackSize { run with
        dev := run.dev.inComplete txFifoAvailable, packets := run.packets + 1 } ↔
      run.dev.ctrlState ≠ .inData := by
  by_cases state : run.dev.ctrlState = .inData
  · rw [orderly_next _ inv.orderly (inComplete_calls state txFifoAvailable), stages]
    apply iff_of_false
    · split
      · simp
      · split <;> simp [outStatus]
    · exact not_not_intro state
  · rw [orderly_next [] inv.orderly (by simp [inComplete_idle state]), stages]
    exact iff_of_true (by simp) state

theorem inData_out (inv : run.Inv maxPackSize) {buf : Ptr Obj} {len wLength : BitVec 16}
    (transfer : run.transfer = .inData buf len wLength) (asked : wLength ≠ 0)
    (last : run.packets + 1 = pieces maxPackSize len.toNat +
      (if OwesZero maxPackSize len.toNat wLength.toNat then 1 else 0) + 1) :
    ControlRun.Inv maxPackSize { run with
      dev := run.dev.outComplete 0, packets := run.packets + 1 } := by
  have inStep := inv.inStep
  simp only [ControlRun.InStep, transfer] at inStep
  obtain ⟨nonempty, stage⟩ := inStep asked
  rw [outComplete_zero (by simp [stage.ctrlState])]
  have beyond : (run.transfer.stages maxPackSize)[run.packets + 1]? = none := by
    rw [List.getElem?_eq_none_iff, transfer, stages_length asked, last]
  refine ⟨inv.inSize, inv.outSize, ?_, ?_⟩
  · rw [orderly_next [] inv.orderly (by simp), beyond]
    rfl
  · simp only [ControlRun.InStep, transfer]
    intro _
    refine ⟨nonempty, stage.ctrlState, fun data => ?_, fun _ => stage.finished ?_⟩
    · split at last <;> omega
    · split at last <;> omega

theorem outData_out (positive : 0 < maxPackSize) (inv : run.Inv maxPackSize) {buf : Ptr Obj}
    {len : BitVec 16} (transfer : run.transfer = .outData buf len)
    (data : run.packets < pieces maxPackSize len.toNat) :
    (ControlRun.Orderly maxPackSize { run with
        dev := run.dev.outComplete (run.transfer.outCount maxPackSize run.packets)
        packets := run.packets + 1 } ↔ Counted maxPackSize len.toNat run.packets) ∧
      ControlRun.InStep maxPackSize { run with
        dev := run.dev.outComplete (run.transfer.outCount maxPackSize run.packets)
        packets := run.packets + 1 } := by
  have inStep := inv.inStep
  simp only [ControlRun.InStep, transfer] at inStep
  obtain ⟨nonempty, stage⟩ := inStep
  have offset := (lt_pieces_iff positive).mp data
  have some : run.transfer.outCount maxPackSize run.packets ≠ 0 := by
    rw [transfer, Transfer.outCount]
    omega
  obtain ⟨calls, state, buffer, count⟩ := outComplete_data stage.ctrlState stage.buffer some
  have left := stage.left data.le
  have next : (run.dev.outBuf.packNum + 255) % 256 =
      (pieces maxPackSize len.toNat - (run.packets + 1)) % 256 := by omega
  constructor
  · rw [orderly_next _ inv.orderly calls, next, transfer]
    by_cases more : run.packets + 1 < pieces maxPackSize len.toNat
    · rw [outStage_data more]
      by_cases counted : (pieces maxPackSize len.toNat - (run.packets + 1)) % 256 = 0
      · rw [if_neg (not_not_intro counted)]
        exact iff_of_false (by simp [inStatus]) fun all => all more counted
      · rw [if_pos counted]
        exact iff_of_true rfl fun _ => counted
    · have last : run.packets + 1 = pieces maxPackSize len.toNat := by omega
      rw [last, outStage_status, Nat.sub_self]
      exact iff_of_true rfl fun more' => by omega
  · simp only [ControlRun.InStep, transfer] at count state buffer ⊢
    refine ⟨nonempty, state, buffer, fun _ => ?_⟩
    rw [← next]
    exact count

theorem outData_in (inv : run.Inv maxPackSize) {buf : Ptr Obj} {len : BitVec 16}
    (transfer : run.transfer = .outData buf len)
    (last : run.packets = pieces maxPackSize len.toNat) (txFifoAvailable : Nat) :
    ControlRun.Inv maxPackSize { run with
      dev := run.dev.inComplete txFifoAvailable, packets := run.packets + 1 } := by
  have inStep := inv.inStep
  simp only [ControlRun.InStep, transfer] at inStep
  obtain ⟨nonempty, stage⟩ := inStep
  have notIn : run.dev.ctrlState ≠ .inData := by simp [stage.ctrlState]
  have idle := inComplete_idle notIn txFifoAvailable
  have sizes := inComplete_sizes run.dev txFifoAvailable
  have beyond : (run.transfer.stages maxPackSize)[run.packets + 1]? = none := by
    rw [List.getElem?_eq_none_iff, transfer]
    simp [Transfer.stages, last]
  refine ⟨sizes.1.trans inv.inSize, sizes.2.trans inv.outSize, ?_, ?_⟩
  · rw [orderly_next [] inv.orderly (by simp [idle.1]), beyond]
    rfl
  · simp only [ControlRun.InStep, transfer]
    refine ⟨nonempty, idle.2.1.trans stage.ctrlState, ?_, fun early => by omega⟩
    rw [idle.2.2]
    exact stage.buffer

end Packet

theorem ControlRun.Inv.started (maxPackSize : Nat) :
    ControlRun.Inv maxPackSize (ControlRun.started maxPackSize : ControlRun Obj) :=
  ⟨rfl, rfl, rfl, trivial⟩

theorem ControlRun.Inv.setup {run : ControlRun Obj} (positive : 0 < maxPackSize)
    (narrow : maxPackSize < 65536) (inv : run.Inv maxPackSize) {transfer : Transfer Obj}
    (settled : Settled maxPackSize run (.setup transfer)) :
    ControlRun.Inv maxPackSize {
      dev := { run.dev with calls := [] }.setup transfer
      transfer := transfer
      packets := 0 } := by
  have sizes := setup_sizes { run.dev with calls := [] } transfer
  refine ⟨sizes.1.trans inv.inSize, sizes.2.trans inv.outSize, ?_, ?_⟩
  · apply (setup_orderly_iff positive (by exact inv.inSize) rfl transfer).mpr
    cases transfer <;> exact settled
  · apply setup_inStep positive narrow (by exact inv.inSize) (by exact inv.outSize)
    cases transfer <;> exact settled

theorem ControlRun.Inv.push {run : ControlRun Obj} (inv : run.Inv maxPackSize)
    (waits : run.dev.emptyInt = true) (txFifoAvailable : Nat) :
    ControlRun.Inv maxPackSize
      { run with dev := run.dev.pushDataToTxFIFO txFifoAvailable } := by
  refine ⟨?_, ?_, ?_, ?_⟩
  · rw [push_inSize]
    exact inv.inSize
  · rw [push_outBuf]
    exact inv.outSize
  · unfold ControlRun.Orderly
    rw [push_calls]
    exact inv.orderly
  · have inStep := inv.inStep
    unfold ControlRun.InStep at inStep ⊢
    cases transfer : run.transfer with
    | idle => trivial
    | noData => trivial
    | inData buf len wLength =>
      simp only [transfer] at inStep ⊢
      intro asked
      obtain ⟨nonempty, stage⟩ := inStep asked
      refine ⟨nonempty, stage.push txFifoAvailable inv.inSize fun data => ?_⟩
      obtain ⟨_, ⟨loaded, _⟩ | ⟨_, disabled, _⟩⟩ := stage.flying data
      · exact loaded
      · rw [waits] at disabled
        cases disabled
    | outData buf len =>
      simp only [transfer] at inStep ⊢
      obtain ⟨nonempty, state, buffer, left⟩ := inStep
      exact ⟨nonempty, by rwa [push_ctrlState], by rwa [push_outBuf], by rwa [push_outBuf]⟩

theorem settled_noData {run : ControlRun Obj} (transfer : run.transfer = .noData)
    (txFifoAvailable : Nat) : Settled maxPackSize run (.packet txFifoAvailable) ↔
      run.dev.ctrlState ≠ .inData := by
  simp only [Settled, transfer]

theorem settled_inData {run : ControlRun Obj} {buf : Ptr Obj} {len wLength : BitVec 16}
    (transfer : run.transfer = .inData buf len wLength) (txFifoAvailable : Nat) :
    Settled maxPackSize run (.packet txFifoAvailable) ↔
      if wLength = 0 then run.dev.ctrlState ≠ .inData
      else Counted maxPackSize len.toNat run.packets ∧
        (run.packets + 1 = pieces maxPackSize len.toNat →
          (run.dev.inBuf.zeroPackFill = true ↔
            OwesZero maxPackSize len.toNat wLength.toNat)) := by
  simp only [Settled, transfer]

theorem settled_outData {run : ControlRun Obj} {buf : Ptr Obj} {len : BitVec 16}
    (transfer : run.transfer = .outData buf len) (txFifoAvailable : Nat) :
    Settled maxPackSize run (.packet txFifoAvailable) ↔
      Counted maxPackSize len.toNat run.packets := by
  simp only [Settled, transfer]

theorem controlStep_push {run next : ControlRun Obj} {txFifoAvailable : Nat}
    (taken : controlStep maxPackSize run (.push txFifoAvailable) = some next) :
    run.dev.emptyInt = true ∧
      next = { run with dev := run.dev.pushDataToTxFIFO txFifoAvailable } := by
  simp only [controlStep] at taken
  split at taken
  · next enabled => exact ⟨enabled.1, (Option.some.inj taken).symm⟩
  · cases taken

theorem controlStep_packet {run next : ControlRun Obj} {txFifoAvailable : Nat}
    (taken : controlStep maxPackSize run (.packet txFifoAvailable) = some next) :
    run.packets < (run.transfer.stages maxPackSize).length ∧
      ((run.transfer.IsIn maxPackSize run.packets ∧ run.dev.loaded = true ∧
          next = { run with
            dev := run.dev.inComplete txFifoAvailable, packets := run.packets + 1 }) ∨
        (¬ run.transfer.IsIn maxPackSize run.packets ∧
          next = { run with
            dev := run.dev.outComplete (run.transfer.outCount maxPackSize run.packets)
            packets := run.packets + 1 })) := by
  simp only [controlStep] at taken
  split at taken
  · next outstanding =>
    refine ⟨outstanding, ?_⟩
    split at taken
    · next isIn =>
      split at taken
      · next loaded => exact .inl ⟨isIn, loaded, (Option.some.inj taken).symm⟩
      · cases taken
    · next isOut =>
      split at taken
      · exact .inr ⟨isOut, (Option.some.inj taken).symm⟩
      · cases taken
  · cases taken

/-- The only packet of a transfer without data stage. -/
theorem status_spec {run : ControlRun Obj} (inv : run.Inv maxPackSize) (txFifoAvailable : Nat)
    (stages : run.transfer.stages maxPackSize = [inStatus])
    (inStep : ControlRun.InStep maxPackSize { run with
      dev := run.dev.inComplete txFifoAvailable, packets := run.packets + 1 }) :
    (ControlRun.Orderly maxPackSize { run with
        dev := run.dev.inComplete txFifoAvailable, packets := run.packets + 1 } ↔
      run.dev.ctrlState ≠ .inData) ∧
    (run.dev.ctrlState ≠ .inData → ControlRun.Inv maxPackSize { run with
      dev := run.dev.inComplete txFifoAvailable, packets := run.packets + 1 }) := by
  have sizes := inComplete_sizes run.dev txFifoAvailable
  have status := noData_iff inv stages txFifoAvailable
  exact ⟨status, fun settled => ⟨sizes.1.trans inv.inSize, sizes.2.trans inv.outSize,
    status.mpr settled, inStep⟩⟩

theorem inData_spec {run next : ControlRun Obj} (positive : 0 < maxPackSize)
    (inv : run.Inv maxPackSize) {buf : Ptr Obj} {len wLength : BitVec 16}
    (transfer : run.transfer = .inData buf len wLength) (asked : wLength ≠ 0)
    {txFifoAvailable : Nat}
    (taken : controlStep maxPackSize run (.packet txFifoAvailable) = some next) :
    (next.Orderly maxPackSize ↔ Settled maxPackSize run (.packet txFifoAvailable)) ∧
      (Settled maxPackSize run (.packet txFifoAvailable) → next.Inv maxPackSize) := by
  obtain ⟨outstanding, place⟩ := controlStep_packet taken
  have length : ((Transfer.inData buf len wLength).stages maxPackSize).length =
      pieces maxPackSize len.toNat +
        (if OwesZero maxPackSize len.toNat wLength.toNat then 1 else 0) + 1 :=
    stages_length asked
  simp only [transfer, Transfer.IsIn, length, asked, false_or] at outstanding place
  rw [settled_inData transfer, if_neg asked]
  rcases place with ⟨isIn, loaded, rfl⟩ | ⟨isOut, rfl⟩
  · have sizes := inComplete_sizes run.dev txFifoAvailable
    have iff := inData_in_iff positive inv transfer asked loaded (by omega) txFifoAvailable
    rw [transfer] at iff
    refine ⟨iff, fun settled => ⟨sizes.1.trans inv.inSize, sizes.2.trans inv.outSize,
      iff.mpr settled, ?_⟩⟩
    have inStep := inv.inStep
    simp only [ControlRun.InStep, transfer] at inStep ⊢
    intro _
    exact ⟨(inStep asked).1, inData_in_stage positive inv transfer asked loaded settled.1
      txFifoAvailable⟩
  · have after := inData_out inv transfer asked (by omega)
    have settled : Counted maxPackSize len.toNat run.packets := fun more => by omega
    rw [transfer] at after
    exact ⟨iff_of_true after.orderly ⟨settled, fun last => by omega⟩, fun _ => after⟩

theorem outData_spec {run next : ControlRun Obj} (positive : 0 < maxPackSize)
    (inv : run.Inv maxPackSize) {buf : Ptr Obj} {len : BitVec 16}
    (transfer : run.transfer = .outData buf len) {txFifoAvailable : Nat}
    (taken : controlStep maxPackSize run (.packet txFifoAvailable) = some next) :
    (next.Orderly maxPackSize ↔ Settled maxPackSize run (.packet txFifoAvailable)) ∧
      (Settled maxPackSize run (.packet txFifoAvailable) → next.Inv maxPackSize) := by
  obtain ⟨outstanding, place⟩ := controlStep_packet taken
  have length : (run.transfer.stages maxPackSize).length = pieces maxPackSize len.toNat + 1 := by
    simp [transfer, Transfer.stages]
  have isIn : run.transfer.IsIn maxPackSize run.packets ↔
      pieces maxPackSize len.toNat ≤ run.packets := by simp only [Transfer.IsIn, transfer]
  rw [length] at outstanding
  rw [isIn] at place
  rw [settled_outData transfer]
  rcases place with ⟨isIn, -, rfl⟩ | ⟨isOut, rfl⟩
  · have after := outData_in inv transfer (by omega) txFifoAvailable
    exact ⟨iff_of_true after.orderly fun more => by omega, fun _ => after⟩
  · have spec := outData_out positive inv transfer (by omega)
    have sizes := outComplete_sizes run.dev (run.transfer.outCount maxPackSize run.packets)
    exact ⟨spec.1, fun settled => ⟨sizes.1.trans inv.inSize, sizes.2.trans inv.outSize,
      spec.1.mpr settled, spec.2⟩⟩

/-- A packet keeps the calls in order exactly when the step is settled. -/
theorem packet_spec {run next : ControlRun Obj} (positive : 0 < maxPackSize)
    (inv : run.Inv maxPackSize) {txFifoAvailable : Nat}
    (taken : controlStep maxPackSize run (.packet txFifoAvailable) = some next) :
    (next.Orderly maxPackSize ↔ Settled maxPackSize run (.packet txFifoAvailable)) ∧
      (Settled maxPackSize run (.packet txFifoAvailable) → next.Inv maxPackSize) := by
  cases transfer : run.transfer with
  | idle =>
    have outstanding := (controlStep_packet taken).1
    simp [transfer, Transfer.stages] at outstanding
  | noData =>
    obtain ⟨-, ⟨-, -, rfl⟩ | ⟨isOut, -⟩⟩ := controlStep_packet taken
    · rw [settled_noData transfer]
      apply status_spec inv
      · rw [transfer, Transfer.stages]
      · simp only [ControlRun.InStep, transfer]
    · rw [transfer] at isOut
      exact absurd trivial isOut
  | inData buf len wLength =>
    by_cases asked : wLength = 0
    · obtain ⟨-, ⟨-, -, rfl⟩ | ⟨isOut, -⟩⟩ := controlStep_packet taken
      · rw [settled_inData transfer, if_pos asked]
        apply status_spec inv
        · rw [transfer, Transfer.stages, if_pos asked]
        · simp [ControlRun.InStep, transfer, asked]
      · rw [transfer] at isOut
        exact absurd (.inl asked) isOut
    · exact inData_spec positive inv transfer asked taken
  | outData buf len => exact outData_spec positive inv transfer taken

theorem controlStep_orderly_iff {run next : ControlRun Obj} {label : ControlLabel Obj}
    (positive : 0 < maxPackSize) (inv : run.Inv maxPackSize)
    (taken : controlStep maxPackSize run label = some next) :
    next.Orderly maxPackSize ↔ Settled maxPackSize run label := by
  cases label with
  | setup transfer =>
    obtain rfl := Option.some.inj taken
    rw [setup_orderly_iff positive (by exact inv.inSize) rfl]
    cases transfer <;> rfl
  | push txFifoAvailable =>
    obtain ⟨waits, rfl⟩ := controlStep_push taken
    exact iff_of_true (inv.push waits txFifoAvailable).orderly trivial
  | packet txFifoAvailable => exact (packet_spec positive inv taken).1

theorem controlStep_inv {run next : ControlRun Obj} {label : ControlLabel Obj}
    (positive : 0 < maxPackSize) (narrow : maxPackSize < 65536) (inv : run.Inv maxPackSize)
    (settled : Settled maxPackSize run label)
    (taken : controlStep maxPackSize run label = some next) : next.Inv maxPackSize := by
  cases label with
  | setup transfer =>
    obtain rfl := Option.some.inj taken
    exact inv.setup positive narrow settled
  | push txFifoAvailable =>
    obtain ⟨waits, rfl⟩ := controlStep_push taken
    exact inv.push waits txFifoAvailable
  | packet txFifoAvailable => exact (packet_spec positive inv taken).2 settled

/-- In a run of settled steps the calls for the transfer in progress are those of its stages,
and the next step keeps that exactly when it is settled. -/
theorem orderly_iff_settled (positive : 0 < maxPackSize) (narrow : maxPackSize < 65536)
    {labels : List (ControlLabel Obj)} {run : ControlRun Obj}
    (reached : Run (controlStep maxPackSize) (Settled maxPackSize)
      (ControlRun.started maxPackSize) labels run) :
    run.Orderly maxPackSize ∧ ∀ label next, controlStep maxPackSize run label = some next →
      (next.Orderly maxPackSize ↔ Settled maxPackSize run label) := by
  have inv : run.Inv maxPackSize := by
    apply reached.invariant (ControlRun.Inv maxPackSize) (ControlRun.Inv.started maxPackSize)
    intro before label after held settled taken
    exact controlStep_inv positive narrow held settled taken
  refine ⟨inv.orderly, ?_⟩
  intro label next taken
  exact controlStep_orderly_iff positive inv taken

end Steps

end

-- `SET_LINE_CODING` and its status stage, then a request without data.
def lineCoding : List (ControlLabel Unit) :=
  [.setup (.outData ⟨(), 0⟩ 7), .packet 1, .packet 1, .setup .noData]

theorem lineCoding_accepted :
    (execute (controlStep 64) (Settled 64) (ControlRun.started 64) lineCoding).isSome = true := by
  decide +kernel

def afterLineCoding : ControlRun Unit :=
  final (controlStep 64) (Settled 64) (ControlRun.started 64) lineCoding lineCoding_accepted

theorem afterLineCoding_packet :
    (controlStep 64 afterLineCoding (.packet 1)).isSome = true := by
  decide +kernel

theorem lineCoding_orderly :
    ((controlStep 64 afterLineCoding (.packet 1)).get afterLineCoding_packet).Orderly 64 :=
  ((orderly_iff_settled (by decide) (by decide) (Run.final (controlStep 64) (Settled 64) _ _
    lineCoding_accepted)).2 _ _ (Option.some_get afterLineCoding_packet).symm).mpr
    (by decide +kernel)

def firstRequest : List (ControlLabel Unit) := [.setup .noData, .packet 1]

theorem firstRequest_accepted :
    (execute (controlStep 64) free (ControlRun.started 64) firstRequest).isSome = true := by
  decide +kernel

/-- The first request without data is answered with two status stages. -/
theorem noData_two_statuses :
    ¬ ∀ (maxPackSize : Nat) (labels : List (ControlLabel Unit)) (run : ControlRun Unit),
      0 < maxPackSize → maxPackSize < 65536 →
      Run (controlStep maxPackSize) free (ControlRun.started maxPackSize) labels run →
      run.Orderly maxPackSize := by
  intro orderly
  have run := Run.final (controlStep 64) free (ControlRun.started 64) _ firstRequest_accepted
  have status := orderly 64 _ _ (by decide) (by decide) run
  unfold ControlRun.Orderly at status
  exact absurd status (by decide +kernel)

end ApmSdk.Otg
