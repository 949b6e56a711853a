import ApmSdk.Usbh.Descriptors

set_option autoImplicit false

/-!
# String descriptors

`USBH_ParseStrDescriptor` as the three string handlers of the enumeration call it, for anything
that a device sends.
-/

namespace ApmSdk.Usbh

open Usbd (Byte)

/-- The variables of `USBH_ParseStrDescriptor`: the memory from `s_stringBuf` on, where `strBuff`
points, the offsets of `DescBuff` read and those of `s_stringBuf` written. -/
structure StringParse where
  stringBuf : Nat → Byte
  strBuff : Nat
  reads : List Nat
  writes : List Nat

namespace StringParse

def read (parse : StringParse) (offset : Nat) : StringParse :=
  { parse with reads := parse.reads ++ [offset] }

-- `*strBuff = value`.
def put (parse : StringParse) (value : Byte) : StringParse :=
  { parse with
    stringBuf := Function.update parse.stringBuf parse.strBuff value
    writes := parse.writes ++ [parse.strBuff] }

/-- The loop from `index`, for at most `fuel` tests. -/
def loop (descBuff : Nat → Byte) : (fuel index : Nat) → StringParse → Option StringParse
  | 0, _, _ => none
  | fuel + 1, index, parse =>
      let parse := parse.read 0
      if index < (descBuff 0).toNat then
        let parse := (parse.read index).put (descBuff index)
        loop descBuff fuel (index + 2) { parse with strBuff := parse.strBuff + 1 }
      else some parse

end StringParse

/-- `USBH_ParseStrDescriptor`; a length of eight bits takes at most 128 tests. -/
def parseStrDescriptor (descBuff stringBuf : Nat → Byte) : Option StringParse :=
  let parse : StringParse := ⟨stringBuf, 0, [1], []⟩
  if descBuff 1 = 3 then (parse.loop descBuff 128 2).map fun parse => parse.put 0
  else some parse

/-! ## The handlers -/

-- `ENUM_GetMFCStringHandler`, `ENUM_GetProductStringHandler` and `ENUM_GetSerialNumStringHandler`.
inductive StringKind where
  | manufacturer
  | product
  | serialNum
  deriving DecidableEq, Repr

/-- `descriptor.stringBuf` and the memory from `s_stringBuf` on. -/
structure StringHost where
  descBuff : Nat → Byte
  stringBuf : Nat → Byte

/-- The transfer stores what the device sends and leaves the rest of the buffer. -/
def StringHost.receive (host : StringHost) (sent : List Byte) : Nat → Byte :=
  fun offset => if offset < sent.length then sent.getD offset 0 else host.descBuff offset

/-- A complete string request: what the parser leaves, and what the callback of the handler is
given. -/
structure StringReport where
  kind : StringKind
  parse : StringParse

def stringComplete (kind : StringKind) (host : StringHost) (sent : List Byte) :
    Option StringReport :=
  (parseStrDescriptor (host.receive sent) host.stringBuf).map fun parse => ⟨kind, parse⟩

-- The size of `s_stringBuf`.
def stringBufSize : Nat := 64

/-- A string as a callback reads it. -/
def text (stringBuf : Nat → Byte) : List Byte :=
  ((List.range stringBufSize).map stringBuf).takeWhile fun char => char ≠ 0

/-! ## What has to hold -/

/-- The string of `host` is parsed in bounds, faithfully and afresh. -/
structure StringReport.Faithful (host : StringHost) (sent : List Byte) (report : StringReport) :
    Prop where
  writes : ∀ offset ∈ report.parse.writes, offset < stringBufSize
  terminated : ∃ offset < stringBufSize, report.parse.stringBuf offset = 0
  reads : ∀ offset ∈ report.parse.reads, offset < sent.length
  chars : host.receive sent 1 = 3 → (host.receive sent 0).toNat % 2 = 0 →
    (host.receive sent 0).toNat ≤ 2 * 63 + 2 →
      (∀ char < ((host.receive sent 0).toNat - 2) / 2,
        report.parse.stringBuf char = host.receive sent (2 + 2 * char)) ∧
      report.parse.stringBuf (((host.receive sent 0).toNat - 2) / 2) = 0
  fresh : host.receive sent 1 ≠ 3 →
    text report.parse.stringBuf ≠ text host.stringBuf ∨ text host.stringBuf = []

/-- The device has sent what is read and the string fits; for another descriptor there is no string
in `s_stringBuf`. -/
structure StringHost.Fitting (host : StringHost) (sent : List Byte) : Prop where
  two : 2 ≤ sent.length
  string : host.receive sent 1 = 3 → (host.receive sent 0).toNat ≤ 128 ∧
    2 * (((host.receive sent 0).toNat - 1) / 2) < sent.length
  other : host.receive sent 1 ≠ 3 → host.stringBuf 0 = 0

/-- A string descriptor as long as it says, for which there is room in both buffers. -/
structure Legible (stringDescMaxLen : Nat) (sent : List Byte) : Prop where
  type : sent[1]? = some 3
  length : (sent.getD 0 0).toNat = sent.length
  small : sent.length ≤ 2 * stringBufSize
  room : sent.length ≤ stringDescMaxLen

theorem Legible.received_type {stringDescMaxLen : Nat} {sent : List Byte}
    (legible : Legible stringDescMaxLen sent) (host : StringHost) : host.receive sent 1 = 3 := by
  obtain ⟨two, -⟩ := List.getElem?_eq_some_iff.mp legible.type
  rw [StringHost.receive, if_pos two, List.getD_eq_getElem?_getD, legible.type, Option.getD_some]

/-- Whatever the buffers held. -/
theorem Legible.fitting {stringDescMaxLen : Nat} {sent : List Byte}
    (legible : Legible stringDescMaxLen sent) (host : StringHost) : host.Fitting sent := by
  obtain ⟨two, -⟩ := List.getElem?_eq_some_iff.mp legible.type
  have length : (host.receive sent 0).toNat = sent.length := by
    rw [StringHost.receive, if_pos (by omega)]
    exact legible.length
  have small := legible.small
  refine ⟨two, fun _ => ?_, fun other => absurd (legible.received_type host) other⟩
  rw [length]
  unfold stringBufSize at small
  omega

/-! ## The loop -/

-- The characters that the loop takes.
def charCount (descBuff : Nat → Byte) : Nat := ((descBuff 0).toNat - 1) / 2

/-- The parse after `count` characters; that the length is read at every test is left out. -/
structure StringParse.After (descBuff stringBuf : Nat → Byte) (count : Nat) (parse : StringParse) :
    Prop where
  strBuff : parse.strBuff = count
  stored : ∀ char, parse.stringBuf char =
    if char < count then descBuff (2 + 2 * char) else stringBuf char
  reads : ∀ offset, offset ≠ 0 →
    (offset ∈ parse.reads ↔ offset = 1 ∨ ∃ char < count, offset = 2 + 2 * char)
  writes : parse.writes = List.range count

namespace StringParse

variable {descBuff stringBuf : Nat → Byte} {parse : StringParse}

theorem After.read_zero {count : Nat} (after : parse.After descBuff stringBuf count) :
    (parse.read 0).After descBuff stringBuf count where
  strBuff := after.strBuff
  stored := after.stored
  reads := by
    intro offset nonzero
    rw [read, List.mem_append, List.mem_singleton, or_iff_left nonzero]
    exact after.reads offset nonzero
  writes := after.writes

theorem After.next {count : Nat} (after : parse.After descBuff stringBuf count) :
    After descBuff stringBuf (count + 1)
      { (parse.read (2 + 2 * count)).put (descBuff (2 + 2 * count)) with
        strBuff := parse.strBuff + 1 } where
  strBuff := congrArg (· + 1) after.strBuff
  stored := by
    intro char
    dsimp only [put, read]
    rw [after.strBuff]
    by_cases last : char = count
    · subst last
      rw [Function.update_self, if_pos (Nat.lt_succ_self char)]
    · have same : char < count + 1 ↔ char < count := by omega
      rw [Function.update_of_ne last, after.stored]
      simp only [same]
  reads := by
    intro offset nonzero
    dsimp only [put, read]
    rw [List.mem_append, List.mem_singleton, after.reads offset nonzero]
    constructor
    · rintro ((one | ⟨char, below, same⟩) | last)
      · exact .inl one
      · exact .inr ⟨char, by omega, same⟩
      · exact .inr ⟨count, by omega, last⟩
    · rintro (one | ⟨char, below, same⟩)
      · exact .inl (.inl one)
      · by_cases last : char = count
        · exact .inr (last ▸ same)
        · exact .inl (.inr ⟨char, by omega, same⟩)
  writes := by
    dsimp only [put, read]
    rw [after.writes, after.strBuff, List.range_succ]

theorem loop_after {fuel count : Nat} (after : parse.After descBuff stringBuf count)
    (within : count ≤ charCount descBuff) (enough : charCount descBuff < count + fuel) :
    ∃ final, loop descBuff fuel (2 + 2 * count) parse = some final ∧
      final.After descBuff stringBuf (charCount descBuff) := by
  induction fuel generalizing parse count with
  | zero => omega
  | succ fuel ih =>
    rw [loop]
    dsimp only
    by_cases more : count < charCount descBuff
    · have test : 2 + 2 * count < (descBuff 0).toNat := by
        unfold charCount at more
        omega
      rw [if_pos test]
      exact ih after.read_zero.next more (by omega)
    · have test : ¬ 2 + 2 * count < (descBuff 0).toNat := by
        unfold charCount at more
        omega
      have last : count = charCount descBuff := by omega
      exact ⟨parse.read 0, if_neg test, last ▸ after.read_zero⟩

theorem start_after (descBuff stringBuf : Nat → Byte) :
    After descBuff stringBuf 0 ⟨stringBuf, 0, [1], []⟩ :=
  ⟨rfl, fun _ => rfl, fun _ _ => by simp, rfl⟩

end StringParse

open StringParse

theorem charCount_lt (descBuff : Nat → Byte) : charCount descBuff < 128 := by
  have small := (descBuff 0).toNat_lt
  unfold charCount
  omega

theorem parse_string {descBuff : Nat → Byte} (type : descBuff 1 = 3) (stringBuf : Nat → Byte) :
    ∃ parse : StringParse, parse.After descBuff stringBuf (charCount descBuff) ∧
      parseStrDescriptor descBuff stringBuf = some (parse.put 0) := by
  have enough : charCount descBuff < 0 + 128 := by
    rw [Nat.zero_add]
    exact charCount_lt descBuff
  obtain ⟨parse, ended, after⟩ :=
    loop_after (start_after descBuff stringBuf) (Nat.zero_le _) enough
  refine ⟨parse, after, ?_⟩
  rw [parseStrDescriptor, if_pos type, ended]
  rfl

theorem text_eq_nil (stringBuf : Nat → Byte) : text stringBuf = [] ↔ stringBuf 0 = 0 := by
  have first : List.range stringBufSize = 0 :: (List.range 63).map Nat.succ :=
    List.range_succ_eq_map
  rw [text, first, List.map_cons]
  by_cases zero : stringBuf 0 = 0
  · simp [zero]
  · simp [zero]

/-! ## The reports -/

variable (kind : StringKind) {host : StringHost} {sent : List Byte}

theorem report_string (type : host.receive sent 1 = 3) :
    ∃ parse : StringParse,
      parse.After (host.receive sent) host.stringBuf (charCount (host.receive sent)) ∧
      stringComplete kind host sent = some ⟨kind, parse.put 0⟩ := by
  obtain ⟨parse, after, parsed⟩ := parse_string type host.stringBuf
  exact ⟨parse, after, by rw [stringComplete, parsed]; rfl⟩

theorem report_other (type : host.receive sent 1 ≠ 3) :
    stringComplete kind host sent = some ⟨kind, ⟨host.stringBuf, 0, [1], []⟩⟩ := by
  rw [stringComplete, parseStrDescriptor, if_neg type]
  rfl

theorem StringParse.After.put_stored {descBuff stringBuf : Nat → Byte} {parse : StringParse}
    {count : Nat} (after : parse.After descBuff stringBuf count) (value : Byte) :
    (parse.put value).stringBuf count = value := by
  rw [StringParse.put, after.strBuff]
  exact Function.update_self ..

theorem string_faithful_iff (type : host.receive sent 1 = 3) {parse : StringParse}
    (after : parse.After (host.receive sent) host.stringBuf (charCount (host.receive sent))) :
    StringReport.Faithful host sent ⟨kind, parse.put 0⟩ ↔ host.Fitting sent := by
  have writes : (parse.put 0).writes = List.range (charCount (host.receive sent) + 1) := by
    rw [StringParse.put, after.writes, after.strBuff, List.range_succ]
  constructor
  · intro faithful
    have one : 1 < sent.length :=
      faithful.reads 1 ((after.reads 1 (by decide)).mpr (.inl rfl))
    have last : charCount (host.receive sent) < 64 :=
      faithful.writes _ (by rw [writes]; exact List.self_mem_range_succ)
    refine ⟨one, fun _ => ⟨by unfold charCount at last; omega, ?_⟩, fun other => absurd type other⟩
    by_cases none : charCount (host.receive sent) = 0
    · unfold charCount at none
      omega
    · have final : 2 + 2 * (charCount (host.receive sent) - 1) < sent.length :=
        faithful.reads _ ((after.reads _ (by omega)).mpr (.inr ⟨_, by omega, rfl⟩))
      unfold charCount at none final
      omega
  · intro fitting
    obtain ⟨short, arrived⟩ := fitting.string type
    have last : charCount (host.receive sent) < 64 := by
      unfold charCount
      omega
    refine ⟨?_, ⟨_, last, after.put_stored 0⟩, ?_, ?_, fun other => absurd type other⟩
    · intro offset member
      rw [writes, List.mem_range] at member
      exact Nat.lt_of_lt_of_le member last
    · intro offset member
      have two := fitting.two
      by_cases zero : offset = 0
      · omega
      · rcases (after.reads offset zero).mp member with rfl | ⟨char, below, rfl⟩
        · exact two
        · unfold charCount at below
          omega
    · intro _ even _
      have count : ((host.receive sent 0).toNat - 2) / 2 = charCount (host.receive sent) := by
        unfold charCount
        omega
      rw [count]
      refine ⟨fun char below => ?_, after.put_stored 0⟩
      rw [StringParse.put, after.strBuff]
      dsimp only
      rw [Function.update_of_ne (Nat.ne_of_lt below), after.stored, if_pos below]

theorem other_faithful_iff (type : host.receive sent 1 ≠ 3) :
    StringReport.Faithful host sent ⟨kind, ⟨host.stringBuf, 0, [1], []⟩⟩ ↔
      host.Fitting sent := by
  constructor
  · intro faithful
    refine ⟨faithful.reads 1 (List.mem_singleton.mpr rfl), fun string => absurd string type, ?_⟩
    intro _
    rcases faithful.fresh type with changed | empty
    · exact absurd rfl changed
    · exact (text_eq_nil _).mp empty
  · intro fitting
    have empty := fitting.other type
    refine ⟨fun _ member => absurd member List.not_mem_nil, ⟨0, by decide, empty⟩, ?_,
      fun string => absurd string type, fun _ => .inr ((text_eq_nil _).mpr empty)⟩
    intro offset member
    rw [List.mem_singleton.mp member]
    exact fitting.two

theorem Legible.faithful {stringDescMaxLen : Nat} (legible : Legible stringDescMaxLen sent)
    (kind : StringKind) (host : StringHost) :
    ∃ report, stringComplete kind host sent = some report ∧ report.Faithful host sent := by
  have type : host.receive sent 1 = 3 := legible.received_type host
  obtain ⟨parse, after, completed⟩ := report_string kind type
  exact ⟨_, completed, (string_faithful_iff kind type after).mpr (legible.fitting host)⟩

/-- A string is handled as it has to be exactly when the bytes that are read have arrived, it fits
into `s_stringBuf`, or, for another descriptor, there was no string before. -/
theorem string_faithful_exact (kind : StringKind) (host : StringHost) (sent : List Byte) :
    (∃ report, stringComplete kind host sent = some report ∧ report.Faithful host sent) ↔
      host.Fitting sent := by
  by_cases type : host.receive sent 1 = 3
  · obtain ⟨parse, after, completed⟩ := report_string kind type
    rw [completed]
    simp only [Option.some.injEq, exists_eq_left', string_faithful_iff kind type after]
  · simp only [report_other kind type, Option.some.injEq, exists_eq_left',
      other_faithful_iff kind type]

-- A device that names a string of 255 bytes and sends all of them.
def longString : List Byte := 255 :: 3 :: List.replicate 253 0x41

theorem longString_overruns : ¬ ∀ kind host sent, ∃ report,
    stringComplete kind host sent = some report ∧ report.Faithful host sent := by
  intro always
  obtain ⟨report, completed, faithful⟩ := always .product ⟨fun _ => 0, fun _ => 0⟩ longString
  have type : StringHost.receive ⟨fun _ => 0, fun _ => 0⟩ longString 1 = 3 := by
    decide +kernel
  obtain ⟨parse, after, parsed⟩ := report_string .product type
  obtain rfl := Option.some.inj (parsed.symm.trans completed)
  have fitting := (string_faithful_iff .product type after).mp faithful
  exact absurd (fitting.string type).1 (by decide +kernel)

end ApmSdk.Usbh
