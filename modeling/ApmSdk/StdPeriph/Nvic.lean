import ApmSdk.Lib.Fields
import Mathlib.Data.Fintype.Basic
import Mathlib.Logic.Function.Basic

set_option autoImplicit false

/-!
# Interrupt priorities

`NVIC_ConfigPriorityGroup`, `NVIC_EnableIRQRequest` and `NVIC_DisableIRQRequest` of the MISC driver,
and the functions of CMSIS that read the same registers.
-/

namespace ApmSdk.StdPeriph.Nvic

-- `NVIC_PRIORITY_GROUP_T`; group `n` has `n` bits for the pre-emption priority.
inductive PriorityGroup where
  | group0
  | group1
  | group2
  | group3
  | group4
  deriving DecidableEq, Repr

def PriorityGroup.value : PriorityGroup → BitVec 32
  | group0 => 0x700
  | group1 => 0x600
  | group2 => 0x500
  | group3 => 0x400
  | group4 => 0x300

def PriorityGroup.bits : PriorityGroup → Nat
  | group0 => 0
  | group1 => 1
  | group2 => 2
  | group3 => 3
  | group4 => 4

abbrev Irq := Fin 240

/-- The registers of the controller; `enabled` is what `ISER` and `ICER` read. -/
structure Registers where
  aircr : BitVec 32
  ip : Irq → BitVec 8
  enabled : Nat → BitVec 32

namespace Registers

-- A write without the key is ignored.
def storeAircr (registers : Registers) (value : BitVec 32) : Registers :=
  if value >>> 16 = 0x05FA then { registers with aircr := value } else registers

def storeIp (registers : Registers) (irq : Irq) (value : BitVec 8) : Registers :=
  { registers with ip := Function.update registers.ip irq value }

-- Writing ones to `ISER` sets, writing ones to `ICER` clears.
def storeIser (registers : Registers) (index : Nat) (value : BitVec 32) : Registers :=
  { registers with
    enabled := Function.update registers.enabled index (registers.enabled index ||| value) }

def storeIcer (registers : Registers) (index : Nat) (value : BitVec 32) : Registers :=
  { registers with
    enabled := Function.update registers.enabled index (registers.enabled index &&& ~~~value) }

end Registers

/-! ## The MISC driver -/

def configPriorityGroup (registers : Registers) (priorityGroup : PriorityGroup) : Registers :=
  registers.storeAircr (0x05FA0000 ||| priorityGroup.value)

def enableIRQRequest (registers : Registers) (irq : Irq)
    (preemptionPriority subPriority : BitVec 8) : Registers :=
  let priorityGrp := registers.aircr &&& 0x700
  let (registers, tempPrePri, tempSubPri) :=
    if priorityGrp = PriorityGroup.group0.value then (registers, 0, 4)
    else if priorityGrp = PriorityGroup.group1.value then (registers, 1, 3)
    else if priorityGrp = PriorityGroup.group2.value then (registers, 2, 2)
    else if priorityGrp = PriorityGroup.group3.value then (registers, 3, 1)
    else if priorityGrp = PriorityGroup.group4.value then (registers, 4, 0)
    else (configPriorityGroup registers .group0, 0, 4)
  let tempPrePri := 4 - tempPrePri
  let tempSubPri := 4 - tempSubPri
  let tempPriority : BitVec 32 := preemptionPriority.setWidth 32 <<< tempPrePri
  let tempPriority := tempPriority ||| (subPriority.setWidth 32 &&& ((0x0f : BitVec 32) >>> tempSubPri))
  let tempPriority := tempPriority <<< 4
  let registers := registers.storeIp irq (tempPriority.setWidth 8)
  registers.storeIser (irq.val >>> 5) ((1 : BitVec 32) <<< (irq.val &&& 0x1F))

def disableIRQRequest (registers : Registers) (irq : Irq) : Registers :=
  registers.storeIcer (irq.val >>> 5) ((1 : BitVec 32) <<< (irq.val &&& 0x1F))

/-! ## CMSIS -/

-- `__NVIC_PRIO_BITS`.
def prioBits : Nat := 4

def getPriorityGrouping (registers : Registers) : BitVec 32 := (registers.aircr &&& 0x700) >>> 8

def getEnableIRQ (registers : Registers) (irq : Irq) : Nat :=
  if registers.enabled (irq.val >>> 5) &&& ((1 : BitVec 32) <<< (irq.val &&& 0x1F)) ≠ 0 then 1 else 0

def getPriority (registers : Registers) (irq : Irq) : BitVec 32 :=
  (registers.ip irq).setWidth 32 >>> (8 - prioBits)

def preemptPriorityBits (priorityGroup : BitVec 32) : Nat :=
  let priorityGroupTmp := (priorityGroup &&& 0x07).toNat
  if 7 - priorityGroupTmp > prioBits then prioBits else 7 - priorityGroupTmp

def subPriorityBits (priorityGroup : BitVec 32) : Nat :=
  let priorityGroupTmp := (priorityGroup &&& 0x07).toNat
  if priorityGroupTmp + prioBits < 7 then 0 else priorityGroupTmp + prioBits - 7

-- The pre-emption priority and the subpriority.
def decodePriority (priority priorityGroup : BitVec 32) : BitVec 32 × BitVec 32 :=
  ((priority >>> subPriorityBits priorityGroup) &&&
      ((1 : BitVec 32) <<< preemptPriorityBits priorityGroup - 1),
    priority &&& ((1 : BitVec 32) <<< subPriorityBits priorityGroup - 1))

/-! ## What is asked for -/

/-- What an interrupt was asked to have, and the group that was then in force. -/
structure Request where
  group : PriorityGroup
  preemption : BitVec 8
  sub : BitVec 8

-- The pre-emption priority and the subpriority, of as many bits as the group has for them.
def Request.levels (request : Request) : Nat × Nat :=
  (request.preemption.toNat % 2 ^ request.group.bits, request.sub.toNat % 2 ^ (4 - request.group.bits))

inductive Call where
  | configPriorityGroup (priorityGroup : PriorityGroup)
  | enableIRQRequest (irq : Irq) (preemptionPriority subPriority : BitVec 8)
  | disableIRQRequest (irq : Irq)

def Call.run (registers : Registers) : Call → Registers
  | configPriorityGroup group => Nvic.configPriorityGroup registers group
  | enableIRQRequest irq preemption sub => Nvic.enableIRQRequest registers irq preemption sub
  | disableIRQRequest irq => Nvic.disableIRQRequest registers irq

structure Asked where
  group : Option PriorityGroup
  request : Irq → Option Request
  enabled : Irq → Bool

-- An interrupt that is enabled before a group was chosen chooses group 0.
def Call.note (asked : Asked) : Call → Asked
  | configPriorityGroup group => { asked with group := some group }
  | enableIRQRequest irq preemption sub =>
      let group := asked.group.getD .group0
      { group := some group
        request := Function.update asked.request irq (some ⟨group, preemption, sub⟩)
        enabled := Function.update asked.enabled irq true }
  | disableIRQRequest irq => { asked with enabled := Function.update asked.enabled irq false }

def Asked.initial : Asked := ⟨none, fun _ => none, fun _ => false⟩

-- The controller after a reset.
def Registers.initial : Registers := ⟨0, fun _ => 0, fun _ => 0⟩

/-! ## The byte -/

/-- What `IP` holds for a request. -/
def Request.byte (request : Request) : Nat :=
  16 * (request.levels.1 * 2 ^ (4 - request.group.bits) + request.levels.2)

theorem PriorityGroup.bits_le (group : PriorityGroup) : group.bits ≤ 4 := by
  cases group <;> decide

/-- Shifted into place, the two priorities do not overlap. -/
theorem priority_toNat (preemption sub : BitVec 8) {bits : Nat} (few : bits ≤ 4) :
    (preemption.setWidth 32 <<< (4 - bits) |||
      (sub.setWidth 32 &&& ((0x0f : BitVec 32) >>> bits))).toNat =
        preemption.toNat * 2 ^ (4 - bits) + sub.toNat % 2 ^ (4 - bits) := by
  have mask : ((0x0f : BitVec 32) >>> bits).toNat = 2 ^ (4 - bits) - 1 := by
    obtain rfl | rfl | rfl | rfl | rfl :
      bits = 0 ∨ bits = 1 ∨ bits = 2 ∨ bits = 3 ∨ bits = 4 := by omega
    all_goals rfl
  have wide : 2 ^ (4 - bits) ≤ 2 ^ 4 := Nat.pow_le_pow_right (by decide) (by omega)
  have room : preemption.toNat * 2 ^ (4 - bits) < 2 ^ 32 :=
    Nat.lt_of_le_of_lt (Nat.mul_le_mul (Nat.le_of_lt preemption.isLt) wide) (by decide)
  have low : sub.toNat % 2 ^ (4 - bits) < 2 ^ (4 - bits) := Nat.mod_lt _ (Nat.two_pow_pos _)
  rw [BitVec.toNat_or, BitVec.toNat_and, mask, BitVec.toNat_shiftLeft,
    BitVec.toNat_setWidth_of_le (by decide), BitVec.toNat_setWidth_of_le (by decide),
    Nat.and_two_pow_sub_one_eq_mod, Nat.shiftLeft_eq, Nat.mod_eq_of_lt room, ← Nat.shiftLeft_eq,
    ← Nat.shiftLeft_add_eq_or_of_lt low]

theorem byte_toNat (group : PriorityGroup) (preemption sub : BitVec 8) :
    (((preemption.setWidth 32 <<< (4 - group.bits) |||
      (sub.setWidth 32 &&& ((0x0f : BitVec 32) >>> group.bits))) <<< 4).setWidth 8).toNat =
        (Request.mk group preemption sub).byte := by
  rw [BitVec.toNat_setWidth, BitVec.toNat_shiftLeft, priority_toNat preemption sub group.bits_le,
    Nat.shiftLeft_eq, Request.byte, Request.levels]
  cases group
  all_goals
    simp only [PriorityGroup.bits, Nat.reduceSub, Nat.reducePow]
    omega

/-! ## The registers follow -/

theorem storeAircr_key (registers : Registers) (group : PriorityGroup) :
    configPriorityGroup registers group =
      { registers with aircr := 0x05FA0000 ||| group.value } := by
  have key : (0x05FA0000 ||| group.value) >>> 16 = 0x05FA := by cases group <;> decide
  rw [configPriorityGroup, Registers.storeAircr, if_pos key]

def PriorityGroup.all : List PriorityGroup := [group0, group1, group2, group3, group4]

/-- The group in force, if one of the five is. -/
def groupOf (aircr : BitVec 32) : Option PriorityGroup :=
  PriorityGroup.all.find? fun group => aircr &&& 0x700 = group.value

theorem groupOf_written (group : PriorityGroup) :
    groupOf (0x05FA0000 ||| group.value) = some group := by
  cases group <;> decide

theorem groupOf_eq_some {aircr : BitVec 32} {group : PriorityGroup}
    (chosen : groupOf aircr = some group) : aircr &&& 0x700 = group.value := by
  simpa using List.find?_some chosen

/-- What `NVIC_EnableIRQRequest` does once a group is in force. -/
def request (registers : Registers) (group : PriorityGroup) (irq : Irq)
    (preemption sub : BitVec 8) : Registers :=
  (registers.storeIp irq (((preemption.setWidth 32 <<< (4 - group.bits) |||
    (sub.setWidth 32 &&& ((0x0f : BitVec 32) >>> group.bits))) <<< 4).setWidth 8)).storeIser
      (irq.val >>> 5) ((1 : BitVec 32) <<< (irq.val &&& 0x1F))

theorem enableIRQRequest_eq (registers : Registers) (irq : Irq) (preemption sub : BitVec 8) :
    enableIRQRequest registers irq preemption sub =
      match groupOf registers.aircr with
      | some group => request registers group irq preemption sub
      | none => request (configPriorityGroup registers .group0) .group0 irq preemption sub := by
  cases chosen : groupOf registers.aircr with
  | some group =>
    have bits := groupOf_eq_some chosen
    unfold enableIRQRequest
    cases group <;> simp +decide only [bits, if_true, if_false, request, PriorityGroup.bits]
  | none =>
    have other : ∀ group, group ∈ PriorityGroup.all → registers.aircr &&& 0x700 ≠ group.value := by
      intro group among same
      have absent := List.find?_eq_none.mp chosen group among
      exact absent (decide_eq_true same)
    have zero := other .group0 (by decide)
    have one := other .group1 (by decide)
    have two := other .group2 (by decide)
    have three := other .group3 (by decide)
    have four := other .group4 (by decide)
    simp only [enableIRQRequest, zero, one, two, three, four, if_false, request, PriorityGroup.bits,
      Nat.sub_self]

/-! ### The enable bits -/

def isEnabled (registers : Registers) (irq : Irq) : Bool :=
  (registers.enabled (irq.val >>> 5)).getLsbD (irq.val &&& 0x1F)

theorem and_31_lt (irq : Irq) : irq.val &&& 0x1F < 32 := Nat.and_lt_two_pow (n := 5) _ (by decide)

theorem irq_eq_of_parts {first second : Irq} (index : first.val >>> 5 = second.val >>> 5)
    (bit : first.val &&& 0x1F = second.val &&& 0x1F) : first = second := by
  apply Fin.ext
  have low (value : Nat) : value &&& 0x1F = value % 32 := Nat.and_two_pow_sub_one_eq_mod value 5
  simp only [Nat.shiftRight_eq_div_pow] at index
  rw [low, low] at bit
  omega

theorem getLsbD_bit (bit position : Nat) (within : position < 32) :
    ((1 : BitVec 32) <<< bit).getLsbD position = decide (position = bit) := by
  rw [BitVec.getLsbD_shiftLeft]
  by_cases below : position < bit
  next =>
    have other : position ≠ bit := by omega
    simp [below, other]
  next =>
    have one : (1 : BitVec 32).getLsbD (position - bit) = decide (position - bit = 0) := by
      simp [BitVec.getLsbD_one]
    simp only [within, below, one, decide_true, decide_false, Bool.not_false, Bool.true_and]
    exact decide_eq_decide.mpr (by omega)

theorem isEnabled_storeIser (registers : Registers) (irq other : Irq) :
    isEnabled (registers.storeIser (irq.val >>> 5) ((1 : BitVec 32) <<< (irq.val &&& 0x1F))) other =
      (decide (other = irq) || isEnabled registers other) := by
  simp only [isEnabled, Registers.storeIser]
  by_cases index : other.val >>> 5 = irq.val >>> 5
  next =>
    rw [index, Function.update_self, BitVec.getLsbD_or, getLsbD_bit _ _ (and_31_lt other), Bool.or_comm]
    by_cases same : other = irq
    next => simp [same]
    next =>
      have apart : other.val &&& 0x1F ≠ irq.val &&& 0x1F := fun bit => same (irq_eq_of_parts index bit)
      simp [same, apart]
  next =>
    have apart : other ≠ irq := fun same => index (same ▸ rfl)
    rw [Function.update_of_ne index]
    simp [apart]

theorem isEnabled_storeIcer (registers : Registers) (irq other : Irq) :
    isEnabled (registers.storeIcer (irq.val >>> 5) ((1 : BitVec 32) <<< (irq.val &&& 0x1F))) other =
      (!decide (other = irq) && isEnabled registers other) := by
  simp only [isEnabled, Registers.storeIcer]
  by_cases index : other.val >>> 5 = irq.val >>> 5
  next =>
    rw [index, Function.update_self, BitVec.getLsbD_and, BitVec.getLsbD_not,
      getLsbD_bit _ _ (and_31_lt other), Bool.and_comm]
    by_cases same : other = irq
    next => simp [same]
    next =>
      have apart : other.val &&& 0x1F ≠ irq.val &&& 0x1F := fun bit => same (irq_eq_of_parts index bit)
      simp [same, apart, and_31_lt other]
  next =>
    have apart : other ≠ irq := fun same => index (same ▸ rfl)
    rw [Function.update_of_ne index]
    simp [apart]

/-! ### Over all calls -/

structure Follows (registers : Registers) (asked : Asked) : Prop where
  group : groupOf registers.aircr = asked.group
  byte : ∀ irq request, asked.request irq = some request → (registers.ip irq).toNat = request.byte
  enabled : ∀ irq, isEnabled registers irq = asked.enabled irq

theorem Follows.request {registers : Registers} {asked : Asked} (follows : Follows registers asked)
    {group : PriorityGroup} (chosen : groupOf registers.aircr = some group) (irq : Irq)
    (preemption sub : BitVec 8) :
    Follows (Nvic.request registers group irq preemption sub)
      { group := some group
        request := Function.update asked.request irq (some ⟨group, preemption, sub⟩)
        enabled := Function.update asked.enabled irq true } where
  group := chosen
  byte other wanted noted := by
    by_cases same : other = irq
    next =>
      subst same
      simp only [Function.update_self] at noted
      obtain rfl := Option.some.inj noted
      simp only [Nvic.request, Registers.storeIp, Registers.storeIser, Function.update_self]
      exact byte_toNat group preemption sub
    next =>
      simp only [Function.update_of_ne same] at noted
      simp only [Nvic.request, Registers.storeIp, Registers.storeIser, Function.update_of_ne same]
      exact follows.byte other wanted noted
  enabled other := by
    rw [Nvic.request, isEnabled_storeIser]
    by_cases same : other = irq
    next => simp [same]
    next =>
      simp only [Function.update_of_ne same, ← follows.enabled other]
      simp [same, isEnabled, Registers.storeIp]

theorem Follows.run {registers : Registers} {asked : Asked} (follows : Follows registers asked)
    (call : Call) : Follows (call.run registers) (call.note asked) := by
  cases call with
  | configPriorityGroup group =>
    simp only [Call.run, Call.note, storeAircr_key]
    exact ⟨groupOf_written group, follows.byte, follows.enabled⟩
  | enableIRQRequest irq preemption sub =>
    simp only [Call.run, Call.note, enableIRQRequest_eq]
    have known := follows.group
    cases chosen : groupOf registers.aircr with
    | some group =>
      rw [chosen] at known
      rw [← known]
      exact follows.request chosen irq preemption sub
    | none =>
      rw [chosen] at known
      rw [← known, storeAircr_key]
      have written : Follows { registers with aircr := 0x05FA0000 ||| PriorityGroup.group0.value }
          { asked with group := some .group0 } :=
        ⟨groupOf_written .group0, follows.byte, follows.enabled⟩
      exact written.request (groupOf_written .group0) irq preemption sub
  | disableIRQRequest irq =>
    refine ⟨follows.group, follows.byte, fun other => ?_⟩
    simp only [Call.run, Call.note, disableIRQRequest, isEnabled_storeIcer, follows.enabled]
    by_cases same : other = irq
    next => simp [same]
    next => simp [same]

theorem follows_initial : Follows .initial .initial where
  group := by decide
  byte _ _ noted := by cases noted
  enabled _ := by simp [isEnabled, Registers.initial, Asked.initial]

theorem follows_foldl (calls : List Call) :
    Follows (calls.foldl Call.run .initial) (calls.foldl Call.note .initial) := by
  have any : ∀ registers asked, Follows registers asked →
      Follows (calls.foldl Call.run registers) (calls.foldl Call.note asked) := by
    induction calls with
    | nil => exact fun _ _ follows => follows
    | cons call rest ih => exact fun _ _ follows => ih _ _ (follows.run call)
  exact any _ _ follows_initial

/-! ## What CMSIS reads -/

theorem bits_of_group {registers : Registers} {group : PriorityGroup}
    (chosen : groupOf registers.aircr = some group) :
    preemptPriorityBits (getPriorityGrouping registers) = group.bits ∧
      subPriorityBits (getPriorityGrouping registers) = 4 - group.bits := by
  rw [getPriorityGrouping, groupOf_eq_some chosen]
  cases group <;> decide

theorem one_shiftLeft_sub_one {bits : Nat} (few : bits ≤ 4) :
    ((1 : BitVec 32) <<< bits - 1).toNat = 2 ^ bits - 1 := by
  obtain rfl | rfl | rfl | rfl | rfl :
    bits = 0 ∨ bits = 1 ∨ bits = 2 ∨ bits = 3 ∨ bits = 4 := by omega
  all_goals rfl

theorem Request.levels_lt (request : Request) :
    request.levels.1 < 2 ^ request.group.bits ∧ request.levels.2 < 2 ^ (4 - request.group.bits) :=
  ⟨Nat.mod_lt _ (Nat.two_pow_pos _), Nat.mod_lt _ (Nat.two_pow_pos _)⟩

theorem getPriority_toNat {registers : Registers} {irq : Irq} {request : Request}
    (byte : (registers.ip irq).toNat = request.byte) :
    (getPriority registers irq).toNat =
      request.levels.1 * 2 ^ (4 - request.group.bits) + request.levels.2 := by
  rw [getPriority, BitVec.toNat_ushiftRight, BitVec.toNat_setWidth_of_le (by decide), byte,
    Request.byte, Nat.shiftRight_eq_div_pow, prioBits]
  exact Nat.mul_div_cancel_left _ (by decide)

theorem decodePriority_of_byte {registers : Registers} {irq : Irq} {request : Request}
    (chosen : groupOf registers.aircr = some request.group)
    (byte : (registers.ip irq).toNat = request.byte) :
    (decodePriority (getPriority registers irq) (getPriorityGrouping registers)).map
      BitVec.toNat BitVec.toNat = request.levels := by
  obtain ⟨preempt, sub⟩ := bits_of_group chosen
  obtain ⟨high, low⟩ := request.levels_lt
  have value := getPriority_toNat byte
  have few := request.group.bits_le
  have first : (getPriority registers irq >>> (4 - request.group.bits) &&&
      ((1 : BitVec 32) <<< request.group.bits - 1)).toNat = request.levels.1 := by
    rw [BitVec.toNat_and, BitVec.toNat_ushiftRight, one_shiftLeft_sub_one few, value,
      Nat.and_two_pow_sub_one_eq_mod, Nat.shiftRight_eq_div_pow, Nat.mul_comm,
      Nat.mul_add_div (Nat.two_pow_pos _), Nat.div_eq_of_lt low, Nat.add_zero, Nat.mod_eq_of_lt high]
  have second : (getPriority registers irq &&&
      ((1 : BitVec 32) <<< (4 - request.group.bits) - 1)).toNat = request.levels.2 := by
    rw [BitVec.toNat_and, one_shiftLeft_sub_one (Nat.sub_le 4 _), value,
      Nat.and_two_pow_sub_one_eq_mod, Nat.mul_comm, Nat.mul_add_mod, Nat.mod_eq_of_lt low]
  rw [decodePriority, preempt, sub, Prod.map, first, second]

theorem getEnableIRQ_eq (registers : Registers) (irq : Irq) :
    getEnableIRQ registers irq = if isEnabled registers irq then 1 else 0 := by
  have twoPow : (1 : BitVec 32) <<< (irq.val &&& 0x1F) = BitVec.twoPow 32 (irq.val &&& 0x1F) := by
    rw [BitVec.twoPow_eq]
    rfl
  have read := Fields.and_twoPow_ne_zero (registers.enabled (irq.val >>> 5)) (and_31_lt irq)
  rw [getEnableIRQ, twoPow, isEnabled]
  by_cases set : (registers.enabled (irq.val >>> 5)).getLsbD (irq.val &&& 0x1F) = true
  next => rw [if_pos (read.mpr set), if_pos set]
  next => rw [if_neg (mt read.mp set), if_neg set]

/-- What was last asked for an interrupt is what CMSIS reads, as far as the group in force is that
of the request. -/
theorem cmsis_reads_what_was_asked (calls : List Call) (irq : Irq) :
    let registers := calls.foldl Call.run .initial
    let asked := calls.foldl Call.note .initial
    getEnableIRQ registers irq = (if asked.enabled irq then 1 else 0) ∧
    ∀ request, asked.request irq = some request → asked.group = some request.group →
      (decodePriority (getPriority registers irq) (getPriorityGrouping registers)).map
        BitVec.toNat BitVec.toNat = request.levels := by
  intro registers asked
  have follows : Follows registers asked := follows_foldl calls
  constructor
  next => rw [getEnableIRQ_eq, follows.enabled]
  next =>
    intro request noted force
    exact decodePriority_of_byte (follows.group.trans force) (follows.byte irq request noted)

-- Two interrupts under group 2, the first of them more urgent.
def twoRequests : List Call :=
  [.configPriorityGroup .group2, .enableIRQRequest 37 1 3, .enableIRQRequest 38 2 0]

theorem cmsis_reads_what_was_asked_two :
    let registers := twoRequests.foldl Call.run .initial
    getEnableIRQ registers 37 = 1 ∧
      (decodePriority (getPriority registers 37) (getPriorityGrouping registers)).map
        BitVec.toNat BitVec.toNat = (1, 3) := by
  obtain ⟨enabled, decoded⟩ := cmsis_reads_what_was_asked twoRequests 37
  refine ⟨enabled.trans (by simp [twoRequests, Call.note, Asked.initial]), ?_⟩
  exact decoded ⟨.group2, 1, 3⟩ (by simp [twoRequests, Call.note, Asked.initial])
    (by simp [twoRequests, Call.note, Asked.initial])

/-! ## Who pre-empts whom -/

-- The bits of a priority above the binary point that `PRIGROUP` sets.
def groupPriority (registers : Registers) (irq : Irq) : Nat :=
  (registers.ip irq).toNat >>> ((getPriorityGrouping registers).toNat + 1)

/-- How the processor compares: by group priority whether to pre-empt, by the whole priority
whom to serve first. Between equal priorities the exception numbers decide, which are not part of
this. -/
def preempts (registers : Registers) (first second : Irq) : Prop :=
  groupPriority registers first < groupPriority registers second

def servedBefore (registers : Registers) (first second : Irq) : Prop :=
  (registers.ip first).toNat < (registers.ip second).toNat

theorem grouping_toNat {registers : Registers} {group : PriorityGroup}
    (chosen : groupOf registers.aircr = some group) :
    (getPriorityGrouping registers).toNat + 1 = 4 + (4 - group.bits) := by
  rw [getPriorityGrouping, groupOf_eq_some chosen]
  cases group <;> decide

theorem groupPriority_of_byte {registers : Registers} {irq : Irq} {request : Request}
    (chosen : groupOf registers.aircr = some request.group)
    (byte : (registers.ip irq).toNat = request.byte) :
    groupPriority registers irq = request.levels.1 := by
  obtain ⟨high, low⟩ := request.levels_lt
  rw [groupPriority, grouping_toNat chosen, byte, Request.byte, Nat.shiftRight_eq_div_pow,
    Nat.pow_add, ← Nat.div_div_eq_div_mul]
  have whole : 16 * (request.levels.1 * 2 ^ (4 - request.group.bits) + request.levels.2) / 2 ^ 4 =
      request.levels.1 * 2 ^ (4 - request.group.bits) + request.levels.2 :=
    Nat.mul_div_cancel_left _ (by decide)
  rw [whole, Nat.mul_comm, Nat.mul_add_div (Nat.two_pow_pos _), Nat.div_eq_of_lt low, Nat.add_zero]

theorem digits_lt_iff {scale high low high' low' : Nat} (small : low < scale)
    (small' : low' < scale) :
    high * scale + low < high' * scale + low' ↔ high < high' ∨ high = high' ∧ low < low' := by
  obtain less | rfl | more := Nat.lt_trichotomy high high'
  next =>
    have room := Nat.mul_le_mul_right scale (Nat.succ_le_of_lt less)
    rw [Nat.succ_mul] at room
    exact iff_of_true (by omega) (.inl less)
  next => simp
  next =>
    have room := Nat.mul_le_mul_right scale (Nat.succ_le_of_lt more)
    rw [Nat.succ_mul] at room
    exact iff_of_false (by omega) (by omega)

/-- Of two interrupts asked for under the group in force, one pre-empts the other by its
pre-emption priority, and is served before it by the two priorities in their order. -/
theorem preempts_as_asked (calls : List Call) {first second : Irq} {one other : Request}
    (noted : (calls.foldl Call.note .initial).request first = some one)
    (notedToo : (calls.foldl Call.note .initial).request second = some other)
    (force : (calls.foldl Call.note .initial).group = some one.group)
    (forceToo : (calls.foldl Call.note .initial).group = some other.group) :
    (preempts (calls.foldl Call.run .initial) first second ↔ one.levels.1 < other.levels.1) ∧
    (servedBefore (calls.foldl Call.run .initial) first second ↔
      one.levels.1 < other.levels.1 ∨
        one.levels.1 = other.levels.1 ∧ one.levels.2 < other.levels.2) := by
  have follows := follows_foldl calls
  have byte := follows.byte first one noted
  have byteToo := follows.byte second other notedToo
  have same : one.group = other.group := Option.some.inj (force.symm.trans forceToo)
  constructor
  next =>
    rw [preempts, groupPriority_of_byte (follows.group.trans force) byte,
      groupPriority_of_byte (follows.group.trans forceToo) byteToo]
  next =>
    have low := one.levels_lt.2
    have lowToo := other.levels_lt.2
    rw [servedBefore, byte, byteToo, Request.byte, Request.byte,
      Nat.mul_lt_mul_left (by decide : 0 < 16)]
    rw [same] at low ⊢
    exact digits_lt_iff low lowToo

theorem preempts_as_asked_two : preempts (twoRequests.foldl Call.run .initial) 37 38 ∧
    servedBefore (twoRequests.foldl Call.run .initial) 37 38 := by
  obtain ⟨preempts, served⟩ :=
    @preempts_as_asked twoRequests 37 38 ⟨.group2, 1, 3⟩ ⟨.group2, 2, 0⟩
      (by simp [twoRequests, Call.note, Asked.initial])
      (by simp [twoRequests, Call.note, Asked.initial])
      (by simp [twoRequests, Call.note, Asked.initial])
      (by simp [twoRequests, Call.note, Asked.initial])
  exact ⟨preempts.mpr (by decide), served.mpr (.inl (by decide))⟩

end ApmSdk.StdPeriph.Nvic
