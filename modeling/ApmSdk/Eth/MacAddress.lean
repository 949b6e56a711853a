import ApmSdk.Lib.Fields
import ApmSdk.Lib.Runs
import Mathlib.Logic.Function.Basic

set_option autoImplicit false

/-!
# MAC address filter

The functions on the registers of the MAC addresses, and what the registers of an address hold
after a sequence of their calls.
-/

namespace ApmSdk.Eth.MacFilter

open Fields Runs

/-! ## The registers -/

-- `ETH_MAC_ADDRESS_T`.
inductive MacAddress where
  | address0
  | address1
  | address2
  | address3
  deriving DecidableEq, Repr

def MacAddress.offset : MacAddress → Nat
  | .address0 => 0x00
  | .address1 => 0x08
  | .address2 => 0x10
  | .address3 => 0x18

-- The words of the MAC by their offset from `ETH_MAC_BASE`.
abbrev Registers := Nat → BitVec 32

def hbase : Nat := 0x40
def lbase : Nat := 0x44

-- `ETH_MAC_ADDR_HBASE + macAddr`.
def high (macAddr : MacAddress) : Nat := hbase + macAddr.offset

-- `ETH_MAC_ADDR_LBASE + macAddr`.
def low (macAddr : MacAddress) : Nat := lbase + macAddr.offset

@[simp]
theorem high_ne_low (a b : MacAddress) : high a ≠ low b := by
  cases a <;> cases b <;> decide

@[simp]
theorem low_ne_high (a b : MacAddress) : low a ≠ high b := (high_ne_low b a).symm

@[simp]
theorem high_inj (a b : MacAddress) : high a = high b ↔ a = b := by
  cases a <;> cases b <;> decide

@[simp]
theorem low_inj (a b : MacAddress) : low a = low b ↔ a = b := by
  cases a <;> cases b <;> decide

-- `ETH_MAC_ADDRESSFILTER_T`.
inductive AddressFilter where
  | sa
  | da
  deriving DecidableEq, Repr

def AddressFilter.value : AddressFilter → BitVec 32
  | .sa => 0
  | .da => BitVec.twoPow 32 30

-- A combination of `ETH_MAC_ADDRESSMASK_BYTE1` to `ETH_MAC_ADDRESSMASK_BYTE6`.
abbrev MaskBytes := BitVec 6

def MaskBytes.value (maskByte : MaskBytes) : BitVec 32 := maskByte.setWidth 32 <<< 24

/-! ## The functions -/

def configMacAddress (registers : Registers) (macAddr : MacAddress) (addr : Vector (BitVec 8) 6) :
    Registers :=
  let temp := addr[5].setWidth 32 <<< 8 ||| addr[4].setWidth 32
  let registers := Function.update registers (high macAddr) temp
  let temp := addr[3].setWidth 32 <<< 24 ||| addr[2].setWidth 32 <<< 16 |||
    addr[1].setWidth 32 <<< 8 ||| addr[0].setWidth 32
  Function.update registers (low macAddr) temp

def readMacAddress (registers : Registers) (macAddr : MacAddress) : Vector (BitVec 8) 6 :=
  let upper := registers (high macAddr)
  let lower := registers (low macAddr)
  #v[(lower &&& 0xFF).setWidth 8, (lower >>> 8 &&& 0xFF).setWidth 8,
    (lower >>> 16 &&& 0xFF).setWidth 8, (lower >>> 24 &&& 0xFF).setWidth 8,
    (upper &&& 0xFF).setWidth 8, (upper >>> 8 &&& 0xFF).setWidth 8]

def enableMacAddressPerfectFilter (registers : Registers) (macAddr : MacAddress) : Registers :=
  let temp := 0
  let registers := Function.update registers (high macAddr)
    (registers (high macAddr) ||| BitVec.twoPow 32 31)
  -- The register is not read back into `temp`.
  Function.update registers (high macAddr) temp

def disableMacAddressPerfectFilter (registers : Registers) (macAddr : MacAddress) : Registers :=
  let temp := 0
  let registers := Function.update registers (high macAddr)
    (registers (high macAddr) &&& ~~~BitVec.twoPow 32 31)
  Function.update registers (high macAddr) temp

def configMacAddressFilter (registers : Registers) (macAddr : MacAddress)
    (filter : AddressFilter) : Registers :=
  if filter = .sa then
    Function.update registers (high macAddr) (registers (high macAddr) ||| AddressFilter.sa.value)
  else
    Function.update registers (high macAddr) (registers (high macAddr) ||| AddressFilter.da.value)

def configMacAddressMaskBytesFilter (registers : Registers) (macAddr : MacAddress)
    (maskByte : MaskBytes) : Registers :=
  let registers := Function.update registers (high macAddr)
    (registers (high macAddr) &&& ~~~0x3F000000)
  let temp := registers (high macAddr)
  let registers := Function.update registers (high macAddr) temp
  let registers := Function.update registers (high macAddr)
    (registers (high macAddr) ||| maskByte.value)
  let temp := registers (high macAddr)
  Function.update registers (high macAddr) temp

/-! ## Bytes of the words -/

theorem byte_eq_field (word : BitVec 32) (shift : Nat) :
    (word >>> shift &&& 0xFF).setWidth 8 = field word shift 8 := by
  have mask : (0xFF : BitVec 32) = ones 32 8 <<< 0 := by decide
  apply BitVec.eq_of_getLsbD_eq
  intro bit inside
  rw [mask, BitVec.getLsbD_setWidth, BitVec.getLsbD_and,
    getLsbD_ones_shiftLeft _ _ (by omega), BitVec.getLsbD_ushiftRight, field,
    BitVec.getLsbD_extractLsb']
  simp [inside]

theorem readMacAddress_eq (registers : Registers) (macAddr : MacAddress) :
    readMacAddress registers macAddr =
      #v[field (registers (low macAddr)) 0 8, field (registers (low macAddr)) 8 8,
        field (registers (low macAddr)) 16 8, field (registers (low macAddr)) 24 8,
        field (registers (high macAddr)) 0 8, field (registers (high macAddr)) 8 8] := by
  have first (word : BitVec 32) : (word &&& 0xFF).setWidth 8 = field word 0 8 := by
    simpa using byte_eq_field word 0
  simp only [readMacAddress, byte_eq_field (registers (low macAddr)),
    byte_eq_field (registers (high macAddr)), first (registers (low macAddr)),
    first (registers (high macAddr))]

theorem getLsbD_byte_shiftLeft (byte : BitVec 8) (shift : Nat) {bit : Nat} (within : bit < 32) :
    (byte.setWidth 32 <<< shift).getLsbD bit =
      (decide (shift ≤ bit) && byte.getLsbD (bit - shift)) := by
  by_cases above : shift ≤ bit
  · simp [within, above, Nat.not_lt.mpr above]
  · simp [above, Nat.lt_of_not_le above]

-- `(uint32_t)addr[3] << 24 | (uint32_t)addr[2] << 16 | (uint32_t)addr[1] << 8 | addr[0]`.
def packed (first second third fourth : BitVec 8) : BitVec 32 :=
  fourth.setWidth 32 <<< 24 ||| third.setWidth 32 <<< 16 ||| second.setWidth 32 <<< 8 |||
    first.setWidth 32

theorem getLsbD_packed (first second third fourth : BitVec 8) {bit : Nat} (within : bit < 32) :
    (packed first second third fourth).getLsbD bit =
      (decide (24 ≤ bit) && fourth.getLsbD (bit - 24) ||
        decide (16 ≤ bit) && third.getLsbD (bit - 16) ||
        decide (8 ≤ bit) && second.getLsbD (bit - 8) || first.getLsbD bit) := by
  have last : (first.setWidth 32).getLsbD bit = first.getLsbD bit := by simp [within]
  rw [packed, BitVec.getLsbD_or, BitVec.getLsbD_or, BitVec.getLsbD_or,
    getLsbD_byte_shiftLeft _ _ within, getLsbD_byte_shiftLeft _ _ within,
    getLsbD_byte_shiftLeft _ _ within, last]

theorem field_packed (first second third fourth : BitVec 8) :
    field (packed first second third fourth) 0 8 = first ∧
      field (packed first second third fourth) 8 8 = second ∧
      field (packed first second third fourth) 16 8 = third ∧
      field (packed first second third fourth) 24 8 = fourth := by
  refine ⟨?_, ?_, ?_, ?_⟩
  all_goals
    apply BitVec.eq_of_getLsbD_eq
    intro bit inside
    have beyond : ¬8 ≤ bit ∧ ¬16 ≤ bit ∧ ¬24 ≤ bit ∧ ¬16 ≤ 8 + bit ∧ ¬24 ≤ 8 + bit ∧
        ¬24 ≤ 16 + bit := by omega
    rw [field, BitVec.getLsbD_extractLsb', getLsbD_packed _ _ _ _ (by omega)]
    simp (disch := omega) [inside, beyond, BitVec.getLsbD_of_ge]

/-! ## What a call leaves -/

section Left

variable (registers : Registers) (macAddr : MacAddress)

/-- The address is in the low word and in the lower half of the high one. -/
theorem readMacAddress_congr {other : Registers} (lower : other (low macAddr) = registers (low macAddr))
    (upper : ∀ bit < 16, (other (high macAddr)).getLsbD bit =
      (registers (high macAddr)).getLsbD bit) :
    readMacAddress other macAddr = readMacAddress registers macAddr := by
  have half (offset : Nat) (inside : offset + 8 ≤ 16) :
      field (other (high macAddr)) offset 8 = field (registers (high macAddr)) offset 8 := by
    apply BitVec.eq_of_getLsbD_eq
    intro bit below
    simp only [field, BitVec.getLsbD_extractLsb', upper (offset + bit) (by omega)]
  rw [readMacAddress_eq, readMacAddress_eq, lower, half 0 (by decide), half 8 (by decide)]

theorem configMacAddress_high (addr : Vector (BitVec 8) 6) :
    configMacAddress registers macAddr addr (high macAddr) = packed addr[4] addr[5] 0 0 := by
  simp [configMacAddress, packed]

theorem configMacAddress_low (addr : Vector (BitVec 8) 6) :
    configMacAddress registers macAddr addr (low macAddr) =
      packed addr[0] addr[1] addr[2] addr[3] := by
  simp [configMacAddress, packed]

theorem readMacAddress_configMacAddress (addr : Vector (BitVec 8) 6) :
    readMacAddress (configMacAddress registers macAddr addr) macAddr = addr := by
  obtain ⟨zeroth, first, second, third⟩ := field_packed addr[0] addr[1] addr[2] addr[3]
  obtain ⟨fourth, fifth, -⟩ := field_packed addr[4] addr[5] 0 0
  rw [readMacAddress_eq, configMacAddress_high, configMacAddress_low, zeroth, first, second, third,
    fourth, fifth]
  apply Vector.ext
  intro index inside
  match index, inside with
  | 0, _ | 1, _ | 2, _ | 3, _ | 4, _ | 5, _ => rfl

theorem readMacAddress_clear :
    readMacAddress (Function.update registers (high macAddr) 0) macAddr =
        readMacAddress registers macAddr ↔
      (readMacAddress registers macAddr)[4] = 0 ∧ (readMacAddress registers macAddr)[5] = 0 := by
  have none (offset : Nat) : field (0 : BitVec 32) offset 8 = 0 := by
    simp [field]
  rw [readMacAddress_eq, readMacAddress_eq, Function.update_of_ne (low_ne_high _ _),
    Function.update_self, none, none]
  have ends (zeroth first second third fourth fifth : BitVec 8) :
      #v[zeroth, first, second, third, 0, 0] = #v[zeroth, first, second, third, fourth, fifth] ↔
        0 = fourth ∧ 0 = fifth := by simp
  exact (ends ..).trans (and_congr eq_comm eq_comm)

theorem enable_eq : enableMacAddressPerfectFilter registers macAddr =
    Function.update registers (high macAddr) 0 := by
  simp [enableMacAddressPerfectFilter]

theorem disable_eq : disableMacAddressPerfectFilter registers macAddr =
    Function.update registers (high macAddr) 0 := by
  simp [disableMacAddressPerfectFilter]

theorem filter_eq (filter : AddressFilter) : configMacAddressFilter registers macAddr filter =
    Function.update registers (high macAddr) (registers (high macAddr) ||| filter.value) := by
  cases filter <;> simp [configMacAddressFilter]

theorem mask_eq (maskByte : MaskBytes) :
    configMacAddressMaskBytesFilter registers macAddr maskByte =
      Function.update registers (high macAddr)
        (place (registers (high macAddr)) 24 6 (maskByte.setWidth 32)) := by
  have mask : (ones 32 6 <<< 24 : BitVec 32) = 0x3F000000 := by decide
  simp [configMacAddressMaskBytesFilter, place, mask, MaskBytes.value]

end Left

/-! ## Sequences of calls -/

-- An address with filter bits.
abbrev FilterAddress := {macAddr : MacAddress // macAddr ≠ .address0}

inductive Call where
  | configMacAddress (macAddr : FilterAddress) (addr : Vector (BitVec 8) 6)
  | enablePerfectFilter (macAddr : FilterAddress)
  | disablePerfectFilter (macAddr : FilterAddress)
  | configFilter (macAddr : FilterAddress) (filter : AddressFilter)
  | configMaskBytes (macAddr : FilterAddress) (maskByte : MaskBytes)
  deriving DecidableEq, Repr

def Call.macAddr : Call → FilterAddress
  | configMacAddress macAddr _ => macAddr
  | enablePerfectFilter macAddr => macAddr
  | disablePerfectFilter macAddr => macAddr
  | configFilter macAddr _ => macAddr
  | configMaskBytes macAddr _ => macAddr

def Call.run (registers : Registers) : Call → Registers
  | configMacAddress macAddr addr => MacFilter.configMacAddress registers macAddr addr
  | enablePerfectFilter macAddr => enableMacAddressPerfectFilter registers macAddr
  | disablePerfectFilter macAddr => disableMacAddressPerfectFilter registers macAddr
  | configFilter macAddr filter => configMacAddressFilter registers macAddr filter
  | configMaskBytes macAddr maskByte => configMacAddressMaskBytesFilter registers macAddr maskByte

/-- What the last calls have asked for an address. -/
structure Asked where
  addr : Option (Vector (BitVec 8) 6)
  enabled : Option Bool
  filter : Option AddressFilter
  maskByte : Option MaskBytes
  deriving DecidableEq, Repr

def Asked.note (asked : Asked) : Call → Asked
  | .configMacAddress _ addr => { asked with addr := some addr }
  | .enablePerfectFilter _ => { asked with enabled := some true }
  | .disablePerfectFilter _ => { asked with enabled := some false }
  | .configFilter _ filter => { asked with filter := some filter }
  | .configMaskBytes _ maskByte => { asked with maskByte := some maskByte }

/-- The registers, with what has been asked for each address. -/
structure Filter where
  registers : Registers
  asked : FilterAddress → Asked

def Filter.start (registers : Registers) : Filter :=
  ⟨registers, fun _ => ⟨none, none, none, none⟩⟩

def Filter.call (filter : Filter) (call : Call) : Filter where
  registers := call.run filter.registers
  asked := Function.update filter.asked call.macAddr ((filter.asked call.macAddr).note call)

@[simp]
theorem Filter.call_registers (filter : Filter) (call : Call) :
    (filter.call call).registers = call.run filter.registers := rfl

@[simp]
theorem Filter.call_asked_self (filter : Filter) (call : Call) :
    (filter.call call).asked call.macAddr = (filter.asked call.macAddr).note call := by
  simp [Filter.call]

theorem Filter.call_asked_apart (filter : Filter) (call : Call) {macAddr : FilterAddress}
    (apart : macAddr ≠ call.macAddr) : (filter.call call).asked macAddr = filter.asked macAddr := by
  simp [Filter.call, apart]

structure Held (asked : Asked) (registers : Registers) (macAddr : MacAddress) : Prop where
  addr : ∀ addr ∈ asked.addr, readMacAddress registers macAddr = addr
  enabled : ∀ on ∈ asked.enabled, (registers (high macAddr)).getLsbD 31 = on
  filter : ∀ filter ∈ asked.filter,
    (registers (high macAddr)).getLsbD 30 = decide (filter = .da)
  maskByte : ∀ maskByte ∈ asked.maskByte, field (registers (high macAddr)) 24 6 = maskByte

def Filter.Right (filter : Filter) : Prop :=
  ∀ macAddr : FilterAddress, Held (filter.asked macAddr) filter.registers macAddr

/-- The filter type and the mask asked for are those of a register that is zero. -/
def Asked.Plain (asked : Asked) : Prop :=
  asked.filter ≠ some .da ∧ ∀ maskByte ∈ asked.maskByte, maskByte = 0

-- What a call needs to leave what has been asked for.
def Filter.Fine (filter : Filter) : Call → Prop
  | .configMacAddress macAddr _ =>
      (filter.asked macAddr).enabled ≠ some true ∧ (filter.asked macAddr).Plain
  | .enablePerfectFilter _ => False
  | .disablePerfectFilter macAddr =>
      (∀ addr ∈ (filter.asked macAddr).addr, addr[4] = 0 ∧ addr[5] = 0) ∧
        (filter.asked macAddr).Plain
  | .configFilter macAddr .sa => (filter.registers (high macAddr)).getLsbD 30 = false
  | .configFilter _ .da => True
  | .configMaskBytes _ _ => True

/-! ## One call -/

section Step

variable {asked : Asked} {registers : Registers} {macAddr : MacAddress}

theorem plain_iff {word : BitVec 32} (clear : ∀ bit, 16 ≤ bit → word.getLsbD bit = false) :
    ((∀ filter ∈ asked.filter, word.getLsbD 30 = decide (filter = .da)) ∧
        ∀ maskByte ∈ asked.maskByte, field word 24 6 = maskByte) ↔ asked.Plain := by
  have none : field word 24 6 = 0 := by
    apply BitVec.eq_of_getLsbD_eq
    intro bit inside
    simp [field, clear (24 + bit) (by omega)]
  rw [none, clear 30 (by decide), Asked.Plain]
  apply and_congr
  · cases asked.filter <;> simp
  · exact forall₂_congr fun _ _ => eq_comm

theorem held_configMacAddress (addr : Vector (BitVec 8) 6) :
    Held { asked with addr := some addr } (configMacAddress registers macAddr addr) macAddr ↔
      asked.enabled ≠ some true ∧ asked.Plain := by
  have clear : ∀ bit, 16 ≤ bit →
      (configMacAddress registers macAddr addr (high macAddr)).getLsbD bit = false := by
    intro bit upper
    by_cases within : bit < 32
    · rw [configMacAddress_high, getLsbD_packed _ _ _ _ within]
      simp (disch := omega) [BitVec.getLsbD_of_ge]
    · exact BitVec.getLsbD_of_ge _ _ (Nat.le_of_not_lt within)
  rw [← plain_iff clear]
  constructor
  · intro held
    refine ⟨?_, held.filter, held.maskByte⟩
    intro on
    have set := held.enabled true on
    rw [clear 31 (by decide)] at set
    cases set
  · rintro ⟨off, filter, maskByte⟩
    refine ⟨?_, ?_, filter, maskByte⟩
    · rintro _ ⟨⟩
      exact readMacAddress_configMacAddress registers macAddr addr
    · intro on wanted
      rw [clear 31 (by decide)]
      cases on with
      | false => rfl
      | true => exact absurd wanted off

theorem not_held_enable :
    ¬Held { asked with enabled := some true } (enableMacAddressPerfectFilter registers macAddr)
      macAddr := by
  intro held
  have set := held.enabled true rfl
  simp [enable_eq] at set

theorem held_disable (held : Held asked registers macAddr) :
    Held { asked with enabled := some false } (disableMacAddressPerfectFilter registers macAddr)
        macAddr ↔
      (∀ addr ∈ asked.addr, addr[4] = 0 ∧ addr[5] = 0) ∧ asked.Plain := by
  have clear : ∀ bit, 16 ≤ bit →
      (disableMacAddressPerfectFilter registers macAddr (high macAddr)).getLsbD bit = false := by
    intro bit _
    simp [disable_eq]
  have address : (∀ addr ∈ asked.addr, addr[4] = 0 ∧ addr[5] = 0) ↔
      ∀ addr ∈ asked.addr,
        readMacAddress (disableMacAddressPerfectFilter registers macAddr) macAddr = addr := by
    refine forall₂_congr fun addr wanted => ?_
    have before := held.addr addr wanted
    subst before
    rw [disable_eq, readMacAddress_clear]
  rw [← plain_iff clear, address]
  constructor
  · intro after
    exact ⟨after.addr, after.filter, after.maskByte⟩
  · rintro ⟨addr, filter, maskByte⟩
    refine ⟨addr, ?_, filter, maskByte⟩
    rintro _ ⟨⟩
    exact clear 31 (by decide)

theorem held_configFilter (held : Held asked registers macAddr) (filter : AddressFilter) :
    Held { asked with filter := some filter } (configMacAddressFilter registers macAddr filter)
        macAddr ↔
      (filter = .sa → (registers (high macAddr)).getLsbD 30 = false) := by
  have bits : ∀ bit, bit ≠ 30 →
      (configMacAddressFilter registers macAddr filter (high macAddr)).getLsbD bit =
        (registers (high macAddr)).getLsbD bit := by
    intro bit other
    cases filter with
    | sa => simp [filter_eq, AddressFilter.value]
    | da => simp [filter_eq, AddressFilter.value, BitVec.getLsbD_twoPow, Ne.symm other]
  have type : (configMacAddressFilter registers macAddr filter (high macAddr)).getLsbD 30 =
      ((registers (high macAddr)).getLsbD 30 || decide (filter = .da)) := by
    cases filter <;> simp [filter_eq, AddressFilter.value]
  constructor
  · rintro after rfl
    have clear := after.filter .sa rfl
    rw [type] at clear
    simpa using clear
  · intro clear
    refine ⟨?_, ?_, ?_, ?_⟩
    · intro addr wanted
      rw [readMacAddress_congr registers macAddr (by simp [filter_eq])
        fun bit below => bits bit (by omega)]
      exact held.addr addr wanted
    · intro on wanted
      rw [bits 31 (by decide)]
      exact held.enabled on wanted
    · rintro _ ⟨⟩
      rw [type]
      cases filter with
      | sa => simpa using clear rfl
      | da => simp
    · intro maskByte wanted
      rw [← held.maskByte maskByte wanted]
      apply BitVec.eq_of_getLsbD_eq
      intro bit inside
      simp only [field, BitVec.getLsbD_extractLsb', bits (24 + bit) (by omega)]

theorem held_configMaskBytes (held : Held asked registers macAddr) (maskByte : MaskBytes) :
    Held { asked with maskByte := some maskByte }
      (configMacAddressMaskBytesFilter registers macAddr maskByte) macAddr := by
  have small : ∀ bit, 6 ≤ bit → (maskByte.setWidth 32).getLsbD bit = false := by
    intro bit above
    simp [BitVec.getLsbD_of_ge maskByte bit above]
  have bits : ∀ bit, bit < 24 ∨ 30 ≤ bit → bit < 32 →
      (configMacAddressMaskBytesFilter registers macAddr maskByte (high macAddr)).getLsbD bit =
        (registers (high macAddr)).getLsbD bit := by
    intro bit outside within
    rw [mask_eq, Function.update_self, getLsbD_place _ _ _ _ small within, if_neg (by omega)]
  refine ⟨?_, ?_, ?_, ?_⟩
  · intro addr wanted
    rw [readMacAddress_congr registers macAddr (by simp [mask_eq])
      fun bit below => bits bit (by omega) (by omega)]
    exact held.addr addr wanted
  · intro on wanted
    rw [bits 31 (by decide) (by decide)]
    exact held.enabled on wanted
  · intro filter wanted
    rw [bits 30 (by decide) (by decide)]
    exact held.filter filter wanted
  · rintro _ ⟨⟩
    rw [mask_eq, Function.update_self, field_place_self _ _ small (by decide)]
    simp

end Step

theorem Call.run_apart (registers : Registers) (call : Call) {other : MacAddress}
    (apart : other ≠ call.macAddr) :
    call.run registers (high other) = registers (high other) ∧
      call.run registers (low other) = registers (low other) := by
  cases call with
  | configMacAddress macAddr addr =>
    simp_all [Call.run, MacFilter.configMacAddress, Call.macAddr]
  | enablePerfectFilter macAddr => simp_all [Call.run, enable_eq, Call.macAddr]
  | disablePerfectFilter macAddr => simp_all [Call.run, disable_eq, Call.macAddr]
  | configFilter macAddr filter => simp_all [Call.run, filter_eq, Call.macAddr]
  | configMaskBytes macAddr maskByte => simp_all [Call.run, mask_eq, Call.macAddr]

theorem Held.congr {asked : Asked} {registers other : Registers} {macAddr : MacAddress}
    (held : Held asked registers macAddr) (upper : other (high macAddr) = registers (high macAddr))
    (lower : other (low macAddr) = registers (low macAddr)) : Held asked other macAddr where
  addr addr wanted := by
    rw [readMacAddress_congr registers macAddr lower fun bit _ => by rw [upper]]
    exact held.addr addr wanted
  enabled on wanted := by rw [upper, held.enabled on wanted]
  filter filter wanted := by rw [upper, held.filter filter wanted]
  maskByte maskByte wanted := by rw [upper, held.maskByte maskByte wanted]

/-! ## Every sequence -/

/-- A call can only take from its own address what has been asked for. -/
theorem Filter.right_call_iff {filter : Filter} (right : filter.Right) (call : Call) :
    (filter.call call).Right ↔
      Held ((filter.asked call.macAddr).note call) (call.run filter.registers) call.macAddr := by
  constructor
  · intro after
    simpa using after call.macAddr
  · intro own macAddr
    by_cases same : macAddr = call.macAddr
    · subst same
      simpa using own
    · have apart : macAddr.val ≠ call.macAddr := fun equal => same (Subtype.ext equal)
      obtain ⟨upper, lower⟩ := call.run_apart filter.registers apart
      rw [filter.call_asked_apart call same]
      exact (right macAddr).congr upper lower

theorem Filter.right_call_iff_fine (filter : Filter) (call : Call) (right : filter.Right) :
    (filter.call call).Right ↔ filter.Fine call := by
  rw [right_call_iff right]
  cases call with
  | configMacAddress macAddr addr => exact held_configMacAddress addr
  | enablePerfectFilter macAddr => exact iff_false_intro not_held_enable
  | disablePerfectFilter macAddr => exact held_disable (right macAddr)
  | configFilter macAddr type =>
    refine (held_configFilter (right macAddr) type).trans ?_
    cases type <;> simp [Filter.Fine]
  | configMaskBytes macAddr maskByte =>
    exact iff_true_intro (held_configMaskBytes (right macAddr) maskByte)

theorem Filter.right_start (registers : Registers) : (Filter.start registers).Right := by
  intro macAddr
  exact ⟨by simp [start], by simp [start], by simp [start], by simp [start]⟩

/-- No call changes another address. The registers hold what has been asked for after every call
of a sequence when each call is fine where it is made, and only then. -/
theorem macFilter_right_iff (registers : Registers) (calls : List Call) :
    (∀ (content : Registers) (call : Call) (other : MacAddress), other ≠ call.macAddr →
      call.run content (high other) = content (high other) ∧
        call.run content (low other) = content (low other)) ∧
    ((∀ earlier, earlier <+: calls →
        (earlier.foldl Filter.call (Filter.start registers)).Right) ↔
      Each Filter.call Filter.Fine (Filter.start registers) calls) :=
  ⟨fun content call _ apart => call.run_apart content apart,
    right_throughout_iff_each Filter.right_call_iff_fine (Filter.right_start registers) calls⟩

theorem enable_leaves_disabled :
    ¬([Call.enablePerfectFilter ⟨.address1, by decide⟩].foldl Filter.call
      (Filter.start fun _ => 0)).Right := by
  intro right
  have set := (right ⟨.address1, by decide⟩).enabled true rfl
  revert set
  decide

end ApmSdk.Eth.MacFilter
