import ApmSdk.Lib.Runs
import Mathlib.Data.Finset.Insert
import Mathlib.Data.Finset.Card

set_option autoImplicit false

/-!
# The mode bits of the flash controller

The operations of `apm32f10x_fmc.c` on CTRL2, for any status that the flash shows while they wait.
-/

namespace ApmSdk.StdPeriph

open Runs

-- The mode bits of FMC_CTRL2.
inductive ModeBit where
  | pg
  | pageera
  | massera
  | obp
  | obe
  deriving DecidableEq, Repr

-- `FMC_STATUS_T`.
inductive FmcStatus where
  | busy
  | errorPg
  | errorWrp
  | complete
  | timeout
  deriving DecidableEq, Repr

structure FmcSts where
  busyf : Bool
  pef : Bool
  wpef : Bool
  deriving DecidableEq, Repr

/-! ## Waiting -/

-- `FMC_ReadStatus`.
def FmcSts.readStatus (sts : FmcSts) : FmcStatus :=
  if sts.busyf then .busy
  else if sts.pef then .errorPg
  else if sts.wpef then .errorWrp
  else .complete

/-- The loop of `FMC_WaitForLastOperation`: what is left of `timeOut`, and the status. -/
def waitLoop (polls : Nat → FmcSts) : (timeOut poll : Nat) → FmcStatus → Nat × FmcStatus
  | 0, _, status => (0, status)
  | timeOut + 1, poll, status =>
      if status = .busy then waitLoop polls timeOut (poll + 1) (polls poll).readStatus
      else (timeOut + 1, status)

def waitForLastOperation (timeOut : Nat) (polls : Nat → FmcSts) : FmcStatus :=
  let ended := waitLoop polls timeOut 1 (polls 0).readStatus
  if ended.1 = 0 then .timeout else ended.2

/-! ## The operations -/

/-- The flash is started by STA, or by the write of a half word. -/
inductive FlashAction where
  | sta
  | write (address : BitVec 32) (data : BitVec 16)
  deriving DecidableEq, Repr

structure FlashStart where
  modes : Finset ModeBit
  action : FlashAction
  deriving DecidableEq

/-- The mode bits that are set, ADDR, READPROT of OBCS, and the starts of the flash so far. -/
structure Fmc where
  modes : Finset ModeBit
  addr : BitVec 32
  readProt : Bool
  starts : List FlashStart
  deriving DecidableEq

-- The addresses of `OB->RDP`, `OB->USER` and `OB->WRP0`.
def obRdp : BitVec 32 := 0x1FFFF800
def obUser : BitVec 32 := 0x1FFFF802
def obWrp0 : BitVec 32 := 0x1FFFF808

-- `FMC_UserConfig_T`.
structure FmcUserConfig where
  iwdtSet : BitVec 32
  stopSet : BitVec 32
  stdbySet : BitVec 32
  deriving DecidableEq, Repr

/-- The results of the calls of `FMC_WaitForLastOperation` inside an operation. -/
abbrev Waits := Nat → FmcStatus

namespace Fmc

def set (fmc : Fmc) (bit : ModeBit) : Fmc := { fmc with modes := insert bit fmc.modes }

def clear (fmc : Fmc) (bit : ModeBit) : Fmc := { fmc with modes := fmc.modes.erase bit }

def start (fmc : Fmc) (action : FlashAction) : Fmc :=
  { fmc with starts := fmc.starts ++ [⟨fmc.modes, action⟩] }

/-- What the two erasures have in common. -/
def erase (bit : ModeBit) (address : Fmc → Fmc) (waits : Waits) (fmc : Fmc) : Fmc × FmcStatus :=
  if waits 0 = .complete then (((address (fmc.set bit)).start .sta).clear bit, waits 1)
  else (fmc, waits 0)

def erasePage (pageAddr : BitVec 32) : Waits → Fmc → Fmc × FmcStatus :=
  erase .pageera fun fmc => { fmc with addr := pageAddr }

def eraseAllPage : Waits → Fmc → Fmc × FmcStatus := erase .massera id

/-- The option bytes are erased and RDP is written; `failed` is the bit that is cleared when the
erasure ends in an error. -/
def rewriteReadOut (rdp : BitVec 16) (failed : ModeBit) (waits : Waits) (fmc : Fmc) :
    Fmc × FmcStatus :=
  if waits 0 = .complete then
    let fmc := (fmc.set .obe).start .sta
    if waits 1 = .complete then
      let fmc := ((fmc.clear .obe).set .obp).start (.write obRdp rdp)
      (if waits 2 = .timeout then fmc else fmc.clear .obp, waits 2)
    else (if waits 1 = .timeout then fmc else fmc.clear failed, waits 1)
  else (fmc, waits 0)

-- OBP, not OBE, is cleared when the erasure fails.
def eraseOptionBytes (waits : Waits) (fmc : Fmc) : Fmc × FmcStatus :=
  fmc.rewriteReadOut (if fmc.readProt then 0x00 else 0xA5) .obp waits

def enableReadOutProtection (waits : Waits) (fmc : Fmc) : Fmc × FmcStatus :=
  fmc.rewriteReadOut 0x00 .obe waits

def disableReadOutProtection (waits : Waits) (fmc : Fmc) : Fmc × FmcStatus :=
  fmc.rewriteReadOut 0xA5 .obe waits

def programWord (address data : BitVec 32) (waits : Waits) (fmc : Fmc) : Fmc × FmcStatus :=
  if waits 0 = .complete then
    let fmc := (fmc.set .pg).start (.write address (data.setWidth 16))
    if waits 1 = .complete then
      ((fmc.start (.write (address + 2) ((data >>> 16).setWidth 16))).clear .pg, waits 2)
    else (fmc.clear .pg, waits 1)
  else (fmc, waits 0)

def programHalfWord (address : BitVec 32) (data : BitVec 16) (waits : Waits) (fmc : Fmc) :
    Fmc × FmcStatus :=
  if waits 0 = .complete then (((fmc.set .pg).start (.write address data)).clear .pg, waits 1)
  else (fmc, waits 0)

/-- What the two functions have in common that clear OBP only after a time-out. -/
def programOption (address : BitVec 32) (data : BitVec 16) (waits : Waits) (fmc : Fmc) :
    Fmc × FmcStatus :=
  if waits 0 = .complete then
    let fmc := (fmc.set .obp).start (.write address data)
    (if waits 1 = .timeout then fmc.clear .obp else fmc, waits 1)
  else (fmc, waits 0)

def programOptionByteData (address : BitVec 32) (data : BitVec 8) :
    Waits → Fmc → Fmc × FmcStatus :=
  programOption address (data.setWidth 16)

def configUserOptionByte (user : FmcUserConfig) : Waits → Fmc → Fmc × FmcStatus :=
  programOption obUser ((user.iwdtSet ||| user.stopSet ||| user.stdbySet ||| 0xF8).setWidth 16)

/-- `FMC_EnableWriteProtection` between two of its four writes: `next` is the next wait. -/
structure Protecting where
  fmc : Fmc
  status : FmcStatus
  next : Nat

-- `WPP0_Data` to `WPP3_Data`.
def wppData (page : BitVec 32) (index : Nat) : BitVec 16 :=
  (((~~~page) >>> (8 * index)) &&& 0xFF).setWidth 16

-- The first write has no test of the status, which is `complete` there.
def protectByte (page : BitVec 32) (waits : Waits) (protecting : Protecting) (index : Nat) :
    Protecting :=
  if protecting.status = .complete ∧ wppData page index ≠ 0xFF then
    ⟨protecting.fmc.start (.write (obWrp0 + BitVec.ofNat 32 (2 * index)) (wppData page index)),
      waits protecting.next, protecting.next + 1⟩
  else protecting

def enableWriteProtection (page : BitVec 32) (waits : Waits) (fmc : Fmc) : Fmc × FmcStatus :=
  if waits 0 = .complete then
    let written := [0, 1, 2, 3].foldl (protectByte page waits) ⟨fmc.set .obp, .complete, 1⟩
    (if written.status = .timeout then written.fmc else written.fmc.clear .obp, written.status)
  else (fmc, waits 0)

end Fmc

/-! ## The system -/

inductive FmcOp where
  | erasePage (pageAddr : BitVec 32)
  | eraseAllPage
  | eraseOptionBytes
  | programWord (address data : BitVec 32)
  | programHalfWord (address : BitVec 32) (data : BitVec 16)
  | programOptionByteData (address : BitVec 32) (data : BitVec 8)
  | enableWriteProtection (page : BitVec 32)
  | enableReadOutProtection
  | disableReadOutProtection
  | configUserOptionByte (user : FmcUserConfig)
  deriving DecidableEq, Repr

def FmcOp.perform : FmcOp → Waits → Fmc → Fmc × FmcStatus
  | .erasePage pageAddr => Fmc.erasePage pageAddr
  | .eraseAllPage => Fmc.eraseAllPage
  | .eraseOptionBytes => Fmc.eraseOptionBytes
  | .programWord address data => Fmc.programWord address data
  | .programHalfWord address data => Fmc.programHalfWord address data
  | .programOptionByteData address data => Fmc.programOptionByteData address data
  | .enableWriteProtection page => Fmc.enableWriteProtection page
  | .enableReadOutProtection => Fmc.enableReadOutProtection
  | .disableReadOutProtection => Fmc.disableReadOutProtection
  | .configUserOptionByte user => Fmc.configUserOptionByte user

/-- A call, with what every poll of every wait inside it reads. -/
structure FmcCall where
  op : FmcOp
  polls : Nat → Nat → FmcSts

def FmcCall.waits (call : FmcCall) : Waits :=
  fun index => waitForLastOperation 0x000B0000 (call.polls index)

/-- What a call has returned, and the mode bits that it has left. -/
structure FmcReport where
  status : FmcStatus
  modes : Finset ModeBit
  deriving DecidableEq

structure FmcRun where
  fmc : Fmc
  reports : List FmcReport
  deriving DecidableEq

namespace FmcRun

-- All mode bits are clear.
def initial (addr : BitVec 32) (readProt : Bool) : FmcRun := ⟨⟨∅, addr, readProt, []⟩, []⟩

def step (run : FmcRun) (call : FmcCall) : Option FmcRun :=
  let done := call.op.perform call.waits run.fmc
  some ⟨done.1, run.reports ++ [⟨done.2, done.1.modes⟩]⟩

/-! ## What has to hold -/

/-- A call that does not time out leaves no mode bit, and without a time-out each start of the
flash has exactly one. -/
structure Hygienic (run : FmcRun) : Prop where
  left : ∀ report ∈ run.reports, report.status ≠ .timeout → report.modes = ∅
  starts : (∀ report ∈ run.reports, report.status ≠ .timeout) →
    ∀ start ∈ run.fmc.starts, start.modes.card = 1

end FmcRun

-- The waits of an operation when none but the last goes wrong.
def FmcOp.waitCount : FmcOp → Nat
  | .erasePage _ | .eraseAllPage | .programHalfWord _ _ | .programOptionByteData _ _
  | .configUserOptionByte _ => 2
  | .eraseOptionBytes | .enableReadOutProtection | .disableReadOutProtection
  | .programWord _ _ => 3
  | .enableWriteProtection page =>
      1 + ([0, 1, 2, 3].filter fun index => Fmc.wppData page index ≠ 0xFF).length

/-- The first wait that does not end in `FMC_STATUS_COMPLETE` is a time-out. -/
def FmcOp.TimesOut (waits : Waits) (op : FmcOp) : Prop :=
  ∃ last < op.waitCount, waits last = .timeout ∧ ∀ earlier < last, waits earlier = .complete

/-- The branches that clear the wrong bit, or under the inverted condition. -/
def FmcOp.Defective (waits : Waits) : FmcOp → Prop
  | .eraseOptionBytes => waits 1 ≠ .complete
  | .programOptionByteData _ _ | .configUserOptionByte _ => True
  | .erasePage _ | .eraseAllPage | .programWord _ _ | .programHalfWord _ _
  | .enableWriteProtection _ | .enableReadOutProtection | .disableReadOutProtection => False

/-- The mode bits that an operation clears on its way. -/
def FmcOp.cleared (waits : Waits) : FmcOp → Finset ModeBit
  | .erasePage _ => {.pageera}
  | .eraseAllPage => {.massera}
  | .programWord _ _ | .programHalfWord _ _ => {.pg}
  | .enableWriteProtection _ => {.obp}
  | .eraseOptionBytes | .enableReadOutProtection | .disableReadOutProtection =>
      if waits 1 = .complete then {.obe, .obp} else {.obe}
  | .programOptionByteData _ _ | .configUserOptionByte _ => ∅

/-- The call times out, or it takes no such branch and clears all that is left set before. -/
def FmcRun.Meets (run : FmcRun) (call : FmcCall) : Prop :=
  call.op.TimesOut call.waits ∨
  (call.waits 0 ≠ .complete ∧ run.fmc.modes = ∅) ∨
  (call.waits 0 = .complete ∧ ¬ call.op.Defective call.waits ∧
    run.fmc.modes ⊆ call.op.cleared call.waits)

/-! ## What an operation returns -/

-- What `count` waits come to, each but the first made after the completion of the one before.
def outcome (waits : Waits) : Nat → FmcStatus
  | 0 => .complete
  | count + 1 => if outcome waits count = .complete then waits count else outcome waits count

section Outcome

variable {waits : Waits} {count : Nat}

theorem outcome_complete :
    outcome waits count = .complete ↔ ∀ wait < count, waits wait = .complete := by
  induction count with
  | zero => simp [outcome]
  | succ count ih =>
    rw [outcome]
    by_cases before : outcome waits count = .complete
    · rw [if_pos before, Nat.forall_lt_succ_right]
      exact (and_iff_right (ih.mp before)).symm
    · rw [if_neg before, Nat.forall_lt_succ_right]
      exact iff_of_false before fun all => before (ih.mpr all.1)

theorem outcome_timeout : outcome waits count = .timeout ↔
    ∃ last < count, waits last = .timeout ∧ ∀ earlier < last, waits earlier = .complete := by
  induction count with
  | zero => simp [outcome]
  | succ count ih =>
    rw [outcome]
    by_cases before : outcome waits count = .complete
    · rw [if_pos before]
      have all := outcome_complete.mp before
      constructor
      · intro late
        exact ⟨count, Nat.lt_succ_self count, late, all⟩
      · rintro ⟨last, below, late, -⟩
        by_cases same : last = count
        · exact same ▸ late
        · rw [all last (by omega)] at late
          cases late
    · rw [if_neg before, ih]
      constructor
      · rintro ⟨last, below, rest⟩
        exact ⟨last, Nat.lt_succ_of_lt below, rest⟩
      · rintro ⟨last, below, late, all⟩
        refine ⟨last, ?_, late, all⟩
        by_contra beyond
        have same : last = count := by omega
        exact before (outcome_complete.mpr (same ▸ all))

end Outcome

namespace Fmc

variable {waits : Waits} {fmc : Fmc}

/-! ## The writes of `FMC_EnableWriteProtection` -/

/-- After some of the writes. -/
structure Written (waits : Waits) (fmc : Fmc) (count : Nat) (protecting : Protecting) : Prop where
  modes : protecting.fmc.modes = fmc.modes
  starts : ∀ start ∈ protecting.fmc.starts, start ∈ fmc.starts ∨ start.modes = fmc.modes
  status : protecting.status = outcome waits (1 + count)
  next : protecting.status = .complete → protecting.next = 1 + count

theorem Written.protectByte {count : Nat} {protecting : Protecting}
    (written : Written waits fmc count protecting) (page : BitVec 32) (index : Nat) :
    Written waits fmc (count + if wppData page index ≠ 0xFF then 1 else 0)
      (Fmc.protectByte page waits protecting index) := by
  by_cases data : wppData page index ≠ 0xFF
  · rw [if_pos data]
    by_cases done : protecting.status = .complete
    · rw [Fmc.protectByte, if_pos ⟨done, data⟩]
      refine ⟨written.modes, ?_, ?_, fun _ => ?_⟩
      · intro start member
        rcases List.mem_append.mp member with old | new
        · exact written.starts start old
        · rw [List.mem_singleton.mp new]
          exact .inr written.modes
      · have before := written.status.symm.trans done
        rw [← Nat.add_assoc, outcome, if_pos before, written.next done]
      · exact congrArg (· + 1) (written.next done)
    · rw [Fmc.protectByte, if_neg fun both => done both.1]
      refine ⟨written.modes, written.starts, ?_, fun now => absurd now done⟩
      rw [← Nat.add_assoc, outcome, if_neg (written.status ▸ done)]
      exact written.status
  · rw [if_neg data, Fmc.protectByte, if_neg fun both => data both.2]
    exact written

theorem Written.all {count : Nat} {protecting : Protecting}
    (written : Written waits fmc count protecting) (page : BitVec 32) (indices : List Nat) :
    Written waits fmc (count + (indices.filter fun index => wppData page index ≠ 0xFF).length)
      (indices.foldl (Fmc.protectByte page waits) protecting) := by
  induction indices generalizing count protecting with
  | nil => exact written
  | cons index rest ih =>
    have next := ih (written.protectByte page index)
    by_cases data : wppData page index ≠ 0xFF
    · rw [List.filter_cons_of_pos (by simpa using data), List.length_cons]
      rw [if_pos data, Nat.add_assoc, Nat.add_comm 1] at next
      exact next
    · rw [List.filter_cons_of_neg (by simpa using data)]
      rw [if_neg data, Nat.add_zero] at next
      exact next

theorem enableWriteProtection_written (fmc : Fmc) (page : BitVec 32)
    (started : waits 0 = .complete) :
    ∃ protecting, Written waits (fmc.set .obp)
      ([0, 1, 2, 3].filter fun index => wppData page index ≠ 0xFF).length protecting ∧
      fmc.enableWriteProtection page waits =
        (if protecting.status = .timeout then protecting.fmc else protecting.fmc.clear .obp,
          protecting.status) := by
  have first : Written waits (fmc.set .obp) 0 ⟨fmc.set .obp, .complete, 1⟩ :=
    ⟨rfl, fun _ member => .inl member, by simp [outcome, started], fun _ => rfl⟩
  have all := first.all page [0, 1, 2, 3]
  rw [Nat.zero_add] at all
  exact ⟨_, all, by rw [enableWriteProtection, if_pos started]⟩

/-! ## The families -/

theorem erase_eq_empty (modes : Finset ModeBit) (bit : ModeBit) :
    (insert bit modes).erase bit = ∅ ↔ modes ⊆ {bit} := by
  rw [Finset.erase_insert_eq_erase, Finset.erase_eq_empty_iff, Finset.subset_singleton_iff]

theorem erase_status (bit : ModeBit) (address : Fmc → Fmc) :
    (fmc.erase bit address waits).2 = outcome waits 2 := by
  by_cases started : waits 0 = .complete <;> simp [erase, outcome, started]

theorem programOption_status (address : BitVec 32) (data : BitVec 16) :
    (fmc.programOption address data waits).2 = outcome waits 2 := by
  by_cases started : waits 0 = .complete <;> simp [programOption, outcome, started]

theorem rewriteReadOut_status (rdp : BitVec 16) (failed : ModeBit) :
    (fmc.rewriteReadOut rdp failed waits).2 = outcome waits 3 := by
  by_cases started : waits 0 = .complete
  · by_cases erased : waits 1 = .complete <;> simp [rewriteReadOut, outcome, started, erased]
  · simp [rewriteReadOut, outcome, started]

theorem rewriteReadOut_erased (rdp : BitVec 16) (failed : ModeBit) (started : waits 0 = .complete)
    (erased : waits 1 = .complete) (ended : waits 2 ≠ .timeout) :
    (fmc.rewriteReadOut rdp failed waits).1.modes = ∅ ↔ fmc.modes ⊆ {.obe, .obp} := by
  simp only [rewriteReadOut, started, erased, ended, if_true, if_false, clear, set, start]
  rw [erase_eq_empty, Finset.erase_insert_eq_erase, Finset.subset_insert_iff]

theorem rewriteReadOut_left (rdp : BitVec 16) (started : waits 0 = .complete)
    (ended : outcome waits 3 ≠ .timeout) :
    (fmc.rewriteReadOut rdp .obe waits).1.modes = ∅ ↔
      fmc.modes ⊆ if waits 1 = .complete then {.obe, .obp} else {.obe} := by
  by_cases erased : waits 1 = .complete
  · have kept : waits 2 ≠ .timeout := by simpa [outcome, started, erased] using ended
    rw [rewriteReadOut_erased rdp .obe started erased kept, if_pos erased]
  · have kept : waits 1 ≠ .timeout := by simpa [outcome, started, erased] using ended
    rw [if_neg erased, ← erase_eq_empty]
    simp only [rewriteReadOut, started, erased, kept, if_true, if_false, clear, set, start]

theorem eraseOptionBytes_failed (fmc : Fmc) (started : waits 0 = .complete)
    (failed : waits 1 ≠ .complete) : .obe ∈ (fmc.eraseOptionBytes waits).1.modes := by
  by_cases late : waits 1 = .timeout <;>
    simp [eraseOptionBytes, rewriteReadOut, started, failed, late, clear, set, start]

end Fmc

theorem FmcOp.perform_status (op : FmcOp) (waits : Waits) (fmc : Fmc) :
    (op.perform waits fmc).2 = outcome waits op.waitCount := by
  cases op with
  | erasePage pageAddr => exact Fmc.erase_status _ _
  | eraseAllPage => exact Fmc.erase_status _ _
  | eraseOptionBytes => exact Fmc.rewriteReadOut_status _ _
  | programWord address data =>
    by_cases started : waits 0 = .complete
    · by_cases first : waits 1 = .complete <;>
        simp [perform, Fmc.programWord, waitCount, outcome, started, first]
    · simp [perform, Fmc.programWord, waitCount, outcome, started]
  | programHalfWord address data =>
    by_cases started : waits 0 = .complete <;>
      simp [perform, Fmc.programHalfWord, waitCount, outcome, started]
  | programOptionByteData address data => exact Fmc.programOption_status _ _
  | enableWriteProtection page =>
    by_cases started : waits 0 = .complete
    · obtain ⟨protecting, written, performed⟩ := fmc.enableWriteProtection_written page started
      rw [perform, performed]
      exact written.status
    · have refused : ∀ count, outcome waits (1 + count) = waits 0 := by
        intro count
        induction count with
        | zero => simp [outcome]
        | succ count ih => rw [← Nat.add_assoc, outcome, ih, if_neg started]
      rw [waitCount, refused]
      simp [perform, Fmc.enableWriteProtection, started]
  | enableReadOutProtection => exact Fmc.rewriteReadOut_status _ _
  | disableReadOutProtection => exact Fmc.rewriteReadOut_status _ _
  | configUserOptionByte user => exact Fmc.programOption_status _ _

theorem FmcOp.perform_refused (op : FmcOp) {waits : Waits} (fmc : Fmc)
    (refused : waits 0 ≠ .complete) : (op.perform waits fmc).1 = fmc := by
  cases op <;>
    simp [perform, Fmc.erasePage, Fmc.eraseAllPage, Fmc.erase, Fmc.eraseOptionBytes,
      Fmc.enableReadOutProtection, Fmc.disableReadOutProtection, Fmc.rewriteReadOut,
      Fmc.programWord, Fmc.programHalfWord, Fmc.programOptionByteData, Fmc.configUserOptionByte,
      Fmc.programOption, Fmc.enableWriteProtection, refused]

theorem FmcOp.timesOut_iff (op : FmcOp) (waits : Waits) (fmc : Fmc) :
    (op.perform waits fmc).2 = .timeout ↔ op.TimesOut waits := by
  rw [op.perform_status waits fmc, outcome_timeout]
  rfl

/-- What an operation that has begun and has not timed out leaves set. -/
theorem FmcOp.perform_left (op : FmcOp) {waits : Waits} (fmc : Fmc)
    (started : waits 0 = .complete) (ended : outcome waits op.waitCount ≠ .timeout) :
    (op.perform waits fmc).1.modes = ∅ ↔ ¬ op.Defective waits ∧ fmc.modes ⊆ op.cleared waits := by
  cases op with
  | erasePage pageAddr =>
    simp [perform, Fmc.erasePage, Fmc.erase, started, Fmc.clear, Fmc.set, Fmc.start, Defective,
      cleared, Finset.erase_eq_empty_iff]
  | eraseAllPage =>
    simp [perform, Fmc.eraseAllPage, Fmc.erase, started, Fmc.clear, Fmc.set, Fmc.start, Defective,
      cleared, Finset.erase_eq_empty_iff]
  | programHalfWord address data =>
    simp [perform, Fmc.programHalfWord, started, Fmc.clear, Fmc.set, Fmc.start, Defective,
      cleared, Finset.erase_eq_empty_iff]
  | programWord address data =>
    by_cases first : waits 1 = .complete <;>
      simp [perform, Fmc.programWord, started, first, Fmc.clear, Fmc.set, Fmc.start, Defective,
        cleared, Finset.erase_eq_empty_iff]
  | programOptionByteData address data =>
    have kept : waits 1 ≠ .timeout := by simpa [waitCount, outcome, started] using ended
    simp [perform, Fmc.programOptionByteData, Fmc.programOption, started, kept, Fmc.set,
      Fmc.start, Defective]
  | configUserOptionByte user =>
    have kept : waits 1 ≠ .timeout := by simpa [waitCount, outcome, started] using ended
    simp [perform, Fmc.configUserOptionByte, Fmc.programOption, started, kept, Fmc.set,
      Fmc.start, Defective]
  | enableWriteProtection page =>
    obtain ⟨protecting, written, performed⟩ := fmc.enableWriteProtection_written page started
    have kept : protecting.status ≠ .timeout := by
      rw [written.status]
      exact ended
    rw [perform, performed, if_neg kept]
    simp [Fmc.clear, written.modes, Fmc.set, Finset.erase_eq_empty_iff, Defective, cleared]
  | eraseOptionBytes =>
    by_cases erased : waits 1 = .complete
    · have kept : waits 2 ≠ .timeout := by simpa [waitCount, outcome, started, erased] using ended
      rw [perform, Fmc.eraseOptionBytes, Fmc.rewriteReadOut_erased _ _ started erased kept]
      simp [Defective, cleared, erased]
    · have left := fmc.eraseOptionBytes_failed started erased
      exact iff_of_false (Finset.ne_empty_of_mem left) fun right => right.1 erased
  | enableReadOutProtection =>
    rw [perform, Fmc.enableReadOutProtection, Fmc.rewriteReadOut_left _ started ended]
    simp [Defective, cleared]
  | disableReadOutProtection =>
    rw [perform, Fmc.disableReadOutProtection, Fmc.rewriteReadOut_left _ started ended]
    simp [Defective, cleared]

/-! ## The starts of the flash -/

namespace Fmc

def Single (before after : Fmc) : Prop :=
  ∀ start ∈ after.starts, start ∈ before.starts ∨ start.modes.card = 1

variable {waits : Waits} {before fmc : Fmc}

theorem single_refl (fmc : Fmc) : Single fmc fmc := fun _ member => .inl member

theorem Single.start (single : Single before fmc) (one : fmc.modes.card = 1)
    (action : FlashAction) : Single before (fmc.start action) := by
  intro start member
  rcases List.mem_append.mp member with old | new
  · exact single start old
  · rw [List.mem_singleton.mp new]
    exact .inr one

-- `set` and `clear` leave the starts as they are.
theorem Single.clear (single : Single before fmc) (bit : ModeBit) :
    Single before (fmc.clear bit) := single

theorem Single.set (single : Single before fmc) (bit : ModeBit) :
    Single before (fmc.set bit) := single

theorem single_set (fmc : Fmc) (bit : ModeBit) : Single fmc (fmc.set bit) :=
  (single_refl fmc).set bit

theorem card_set (none : fmc.modes = ∅) (bit : ModeBit) : (fmc.set bit).modes.card = 1 := by
  rw [set, none]
  rfl

theorem erase_single (none : fmc.modes = ∅) (bit : ModeBit) {address : Fmc → Fmc}
    (modes : (address (fmc.set bit)).modes = (fmc.set bit).modes)
    (starts : (address (fmc.set bit)).starts = fmc.starts) :
    Single fmc (fmc.erase bit address waits).1 := by
  have addressed : Single fmc (address (fmc.set bit)) := by
    intro start member
    rw [starts] at member
    exact .inl member
  by_cases started : waits 0 = .complete
  · rw [erase, if_pos started]
    exact (addressed.start (modes ▸ card_set none bit) .sta).clear bit
  · rw [erase, if_neg started]
    exact single_refl fmc

theorem programOption_single (none : fmc.modes = ∅) (address : BitVec 32) (data : BitVec 16) :
    Single fmc (fmc.programOption address data waits).1 := by
  have begun := (single_set fmc .obp).start (card_set none .obp) (.write address data)
  by_cases started : waits 0 = .complete
  · rw [programOption, if_pos started]
    by_cases late : waits 1 = .timeout
    · simpa only [late, if_true] using begun.clear .obp
    · simpa only [late, if_false] using begun
  · rw [programOption, if_neg started]
    exact single_refl fmc

theorem rewriteReadOut_single (none : fmc.modes = ∅) (rdp : BitVec 16) (failed : ModeBit) :
    Single fmc (fmc.rewriteReadOut rdp failed waits).1 := by
  have begun := (single_set fmc .obe).start (card_set none .obe) .sta
  by_cases started : waits 0 = .complete
  · rw [rewriteReadOut, if_pos started]
    by_cases erased : waits 1 = .complete
    · have second : ((((fmc.set .obe).start .sta).clear .obe).set .obp).modes.card = 1 := by
        simp [set, clear, Fmc.start, none]
      have written := ((begun.clear .obe).set .obp).start second (.write obRdp rdp)
      simp only [erased, if_true]
      by_cases late : waits 2 = .timeout
      · simpa only [late, if_true] using written
      · simpa only [late, if_false] using written.clear .obp
    · simp only [erased, if_false]
      by_cases late : waits 1 = .timeout
      · simpa only [late, if_true] using begun
      · simpa only [late, if_false] using begun.clear failed
  · rw [rewriteReadOut, if_neg started]
    exact single_refl fmc

theorem programWord_single (none : fmc.modes = ∅) (address data : BitVec 32) :
    Single fmc (fmc.programWord address data waits).1 := by
  have begun := (single_set fmc .pg).start (card_set none .pg) (.write address (data.setWidth 16))
  by_cases started : waits 0 = .complete
  · rw [programWord, if_pos started]
    by_cases first : waits 1 = .complete
    · simp only [first, if_true]
      exact (begun.start (card_set none .pg) _).clear .pg
    · simp only [first, if_false]
      exact begun.clear .pg
  · rw [programWord, if_neg started]
    exact single_refl fmc

theorem enableWriteProtection_single (none : fmc.modes = ∅) (page : BitVec 32) :
    Single fmc (fmc.enableWriteProtection page waits).1 := by
  by_cases started : waits 0 = .complete
  · obtain ⟨protecting, written, performed⟩ := fmc.enableWriteProtection_written page started
    have single : Single fmc protecting.fmc := by
      intro start member
      rcases written.starts start member with old | new
      · exact .inl old
      · rw [new]
        exact .inr (card_set none .obp)
    rw [performed]
    by_cases late : protecting.status = .timeout
    · simpa only [late, if_true] using single
    · simpa only [late, if_false] using single.clear .obp
  · rw [enableWriteProtection, if_neg started]
    exact single_refl fmc

end Fmc

theorem FmcOp.perform_single (op : FmcOp) (waits : Waits) {fmc : Fmc} (none : fmc.modes = ∅) :
    Fmc.Single fmc (op.perform waits fmc).1 := by
  cases op with
  | erasePage pageAddr => exact Fmc.erase_single none .pageera rfl rfl
  | eraseAllPage => exact Fmc.erase_single none .massera rfl rfl
  | eraseOptionBytes => exact Fmc.rewriteReadOut_single none _ _
  | programWord address data => exact Fmc.programWord_single none address data
  | programHalfWord address data =>
    have begun := (Fmc.single_set fmc .pg).start (Fmc.card_set none .pg) (.write address data)
    by_cases started : waits 0 = .complete
    · rw [perform, Fmc.programHalfWord, if_pos started]
      exact begun.clear .pg
    · rw [perform, Fmc.programHalfWord, if_neg started]
      exact Fmc.single_refl fmc
  | programOptionByteData address data => exact Fmc.programOption_single none _ _
  | enableWriteProtection page => exact Fmc.enableWriteProtection_single none page
  | enableReadOutProtection => exact Fmc.rewriteReadOut_single none _ _
  | disableReadOutProtection => exact Fmc.rewriteReadOut_single none _ _
  | configUserOptionByte user => exact Fmc.programOption_single none _ _

/-! ## The runs -/

namespace FmcRun

variable {run : FmcRun}

/-- A call leaves what it has to exactly when it meets the condition. -/
theorem meets_iff (call : FmcCall) :
    run.Meets call ↔ ((call.op.perform call.waits run.fmc).2 ≠ .timeout →
      (call.op.perform call.waits run.fmc).1.modes = ∅) := by
  rw [Meets, ← call.op.timesOut_iff call.waits run.fmc]
  by_cases late : (call.op.perform call.waits run.fmc).2 = .timeout
  · exact iff_of_true (.inl late) fun ended => absurd late ended
  · rw [or_iff_right late, imp_iff_right late]
    by_cases started : call.waits 0 = .complete
    · rw [call.op.perform_left run.fmc started (call.op.perform_status _ _ ▸ late)]
      simp [started]
    · rw [call.op.perform_refused run.fmc started]
      simp [started]

-- The first half of what has to hold.
def Clean (run : FmcRun) : Prop :=
  ∀ report ∈ run.reports, report.status ≠ .timeout → report.modes = ∅

theorem step_clean {call : FmcCall} {after : FmcRun} (taken : run.step call = some after) :
    after.Clean ↔ run.Clean ∧ run.Meets call := by
  obtain rfl := Option.some.inj taken
  rw [meets_iff, Clean, Clean]
  simp only [List.mem_append, List.mem_singleton, or_imp, forall_and, forall_eq]

variable {addr : BitVec 32} {readProt : Bool} {calls : List FmcCall}

theorem clean_iff (taken : Run step free (initial addr readProt) calls run) :
    run.Clean ↔ Run step Meets (initial addr readProt) calls run := by
  induction taken with
  | nil => exact iff_of_true (fun _ none => absurd none List.not_mem_nil) .nil
  | snoc before _ step ih =>
    rw [step_clean step, ih]
    constructor
    · rintro ⟨earlier, meets⟩
      exact earlier.snoc meets step
    · intro whole
      obtain ⟨middle, earlier, meets, last⟩ := whole.unsnoc
      have same := (earlier.weaken fun _ _ _ => trivial).unique before
      exact ⟨same ▸ earlier, same ▸ meets⟩

/-- Without time-outs, the bits are clear between the calls of a clean run. -/
theorem clean_starts (taken : Run step free (initial addr readProt) calls run)
    (clean : run.Clean) (ended : ∀ report ∈ run.reports, report.status ≠ .timeout) :
    run.fmc.modes = ∅ ∧ ∀ start ∈ run.fmc.starts, start.modes.card = 1 := by
  induction taken with
  | nil => exact ⟨rfl, fun _ none => absurd none List.not_mem_nil⟩
  | @snoc _ before _ call _ _ step ih =>
    obtain rfl := Option.some.inj step
    have earlier := ih (fun report member => clean report (List.mem_append_left _ member))
      fun report member => ended report (List.mem_append_left _ member)
    have last : FmcReport.mk (call.op.perform call.waits before.fmc).2
        (call.op.perform call.waits before.fmc).1.modes ∈
        before.reports ++ [⟨(call.op.perform call.waits before.fmc).2,
          (call.op.perform call.waits before.fmc).1.modes⟩] :=
      List.mem_append_right _ (List.mem_singleton.mpr rfl)
    refine ⟨clean _ last (ended _ last), fun start member => ?_⟩
    rcases call.op.perform_single call.waits earlier.1 start member with old | one
    · exact earlier.2 start old
    · exact one

/-- A run is hygienic exactly when all its calls meet the condition. -/
theorem fmc_hygienic_iff (taken : Run step free (initial addr readProt) calls run) :
    run.Hygienic ↔ Run step Meets (initial addr readProt) calls run := by
  rw [← clean_iff taken]
  exact ⟨fun hygienic => hygienic.left,
    fun clean => ⟨clean, fun ended => (clean_starts taken clean ended).2⟩⟩

-- The flash is never busy.
def idleCall (op : FmcOp) : FmcCall := ⟨op, fun _ _ => ⟨false, false, false⟩⟩

def eraseAndProgram : List FmcCall :=
  [idleCall (.erasePage 0x08004000), idleCall (.programHalfWord 0x08004000 0x1234),
    idleCall .eraseOptionBytes]

instance (waits : Waits) (op : FmcOp) : Decidable (op.TimesOut waits) :=
  inferInstanceAs (Decidable (∃ last < op.waitCount, _ ∧ _))

instance (waits : Waits) (op : FmcOp) : Decidable (op.Defective waits) :=
  match op with
  | .eraseOptionBytes => inferInstanceAs (Decidable (waits 1 ≠ .complete))
  | .programOptionByteData _ _ | .configUserOptionByte _ => instDecidableTrue
  | .erasePage _ | .eraseAllPage | .programWord _ _ | .programHalfWord _ _
  | .enableWriteProtection _ | .enableReadOutProtection | .disableReadOutProtection =>
      instDecidableFalse

instance (run : FmcRun) (call : FmcCall) : Decidable (run.Meets call) :=
  inferInstanceAs (Decidable (_ ∨ _ ∨ _))

theorem eraseAndProgram_accepted :
    (execute step Meets (initial 0 false) eraseAndProgram).isSome = true := by
  decide +kernel

theorem eraseAndProgram_hygienic :
    (final step Meets (initial 0 false) eraseAndProgram eraseAndProgram_accepted).Hygienic :=
  have run := Run.final step Meets (initial 0 false) eraseAndProgram eraseAndProgram_accepted
  (fmc_hygienic_iff (run.weaken fun _ _ _ => trivial)).mpr run

theorem optionByteData_leaves_obp : ¬ ∀ addr readProt calls run,
    Run step free (initial addr readProt) calls run → run.Hygienic := by
  intro always
  have hygienic := always 0 false [idleCall (.programOptionByteData 0x1FFFF804 0x12)] _
    (Run.nil.snoc trivial rfl)
  have left := hygienic.left _ (List.mem_singleton.mpr rfl) (by decide +kernel)
  exact absurd left (by decide +kernel)

end FmcRun

end ApmSdk.StdPeriph
