import ApmSdk.Lib.Orbit
import ApmSdk.Usbh.Survival

set_option autoImplicit false

/-!
# Parsing a configuration

`USBH_ParseCfgDesc` with the bytes it reads and the table it writes, and for which contents of the
buffer it ends inside its arrays.
-/

namespace ApmSdk.Usbh

open Orbit
open Usbd (Byte)

/-- The variables of `USBH_ParseCfgDesc`, the offsets of `parseBuf` read so far and the entries of
`interface[]` and `epDesc[]` written. -/
structure Parse where
  parser : Parser
  configuration : Nat → Byte
  interfaces : Nat → Interface
  reads : List Nat
  accesses : List Access

namespace Parse

-- `USBH_CopyBuffer` from the descriptor at `parseIndex`.
def copied (parse : Parse) (len : Nat) : List Nat :=
  (List.range len).map (parse.parser.parseIndex + ·)

def interfaceDesc (limits : Limits) (parse : Parse) : Parse :=
  let parser := parse.parser
  if parser.itfIndex < limits.interfaceDescMaxNum then
    let itf := parse.interfaces parser.itfIndex
    { parse with
      interfaces := Function.update parse.interfaces parser.itfIndex
        { itf with itfDesc := copyBuffer itf.itfDesc parser.desc 9 }
      reads := parse.reads ++ parse.copied 9
      accesses := parse.accesses ++ [.itf parser.itfIndex]
      parser := { parser with itfIndex := (parser.itfIndex + 1) % 256, epIndex := 0 } }
  else parse

def endpointDesc (limits : Limits) (parse : Parse) : Parse :=
  let parser := parse.parser
  if 0 < parser.itfIndex ∧ parser.itfIndex < limits.interfaceDescMaxNum ∧
      parser.epIndex < limits.endpointDescMaxNum then
    let itf := parse.interfaces (parser.itfIndex - 1)
    let epDesc := copyBuffer (itf.epDesc parser.epIndex) parser.desc 7
    { parse with
      interfaces := Function.update parse.interfaces (parser.itfIndex - 1)
        { itf with epDesc := Function.update itf.epDesc parser.epIndex epDesc }
      reads := parse.reads ++ parse.copied 7
      accesses := parse.accesses ++ [.itf (parser.itfIndex - 1), .endpoint parser.epIndex]
      parser := { parser with epIndex := (parser.epIndex + 1) % 256 } }
  else parse

-- The `switch` on the type.
def dispatch (limits : Limits) (parse : Parse) : Parse :=
  if parse.parser.desc 1 = 4 then parse.interfaceDesc limits
  else if parse.parser.desc 1 = 5 then parse.endpointDesc limits
  else parse

/-- One round of the loop up to its last test. -/
def round (limits : Limits) (parse : Parse) : Parse :=
  let index := parse.parser.parseIndex
  let subLen := (parse.parser.desc 0).toNat
  let next := dispatch limits { parse with reads := parse.reads ++ [index, index + 1] }
  { next with parser := { next.parser with parseIndex := (index + subLen) % 2 ^ 16 } }

/-- The loop, for at most `fuel` rounds. -/
def loop (limits : Limits) : Nat → Parse → Option Parse
  | 0, _ => none
  | fuel + 1, parse =>
      if parse.parser.parseIndex < parse.parser.totalLen then
        let next := parse.round limits
        if next.parser.totalLen < next.parser.parseIndex + 7 then some next
        else loop limits fuel next
      else some parse

/-- Up to the loop; `old` is what `configuration` held, `interfaces` what the table holds. -/
def start (parseBuf : Nat → Byte) (old : Nat → Byte) (interfaces : Nat → Interface) : Parse where
  parser := ⟨parseBuf, 9, 0, 0⟩
  configuration := copyBuffer old parseBuf 9
  interfaces := interfaces
  reads := [3, 2] ++ List.range 9
  accesses := []

end Parse

-- What `USBH_ParseCfgDesc` leaves, if `fuel` rounds are enough for it to return.
def parseCfgDesc (limits : Limits) (fuel : Nat) (parseBuf old : Nat → Byte)
    (interfaces : Nat → Interface) : Option Parse :=
  (Parse.start parseBuf old interfaces).loop limits fuel

/-! ## What has to hold -/

-- `CFG_DESC_MAX_LEN` is the size of `cfgDescBuf`.
structure Parse.InBounds (limits : Limits) (cfgDescMaxLen : Nat) (parse : Parse) : Prop where
  reads : ∀ offset ∈ parse.reads, offset < min parse.parser.totalLen cfgDescMaxLen
  writes : ∀ access ∈ parse.accesses, access.Sound limits

/-! ## The chain of descriptors -/

namespace Chain

section

variable (parseBuf : Nat → Byte)

def totalLen : Nat := (parseBuf 3).toNat <<< 8 ||| (parseBuf 2).toNat

theorem totalLen_eq : totalLen parseBuf = (parseBuf 2).toNat + 256 * (parseBuf 3).toNat := by
  rw [totalLen, ← Nat.shiftLeft_add_eq_or_of_lt (parseBuf 2).toNat_lt, Nat.shiftLeft_eq]
  omega

/-- The descriptor after the one at `offset`, unless fewer than seven bytes are left. -/
def next (offset : Nat) : Option Nat :=
  let next := (offset + (parseBuf offset).toNat) % 2 ^ 16
  if totalLen parseBuf < next + 7 then none else some next

def first : Option Nat := if 9 < totalLen parseBuf then some 9 else none

-- Where the descriptor with this number begins.
def offset : Nat → Option Nat := orbit (next parseBuf) (first parseBuf)

def typeOf (count : Nat) : Option Byte := (offset parseBuf count).map fun at_ => parseBuf (at_ + 1)

/-- The interface descriptors among the first ones. -/
def interfacesBefore : Nat → Nat
  | 0 => 0
  | count + 1 => if typeOf parseBuf count = some 4 then interfacesBefore count + 1
      else interfacesBefore count

/-- The endpoint descriptors since the last interface descriptor. -/
def endpointsBefore : Nat → Nat
  | 0 => 0
  | count + 1 =>
      if typeOf parseBuf count = some 4 then 0
      else if typeOf parseBuf count = some 5 then endpointsBefore count + 1
      else endpointsBefore count

/-- How many bytes of the descriptor have to be there: all that the table takes of it where it has
room for it, and otherwise its length and its type. -/
def needed (limits : Limits) (count : Nat) : Nat :=
  if typeOf parseBuf count = some 4 ∧ interfacesBefore parseBuf count < limits.interfaceDescMaxNum
  then 9
  else if typeOf parseBuf count = some 5 ∧ 0 < interfacesBefore parseBuf count ∧
      interfacesBefore parseBuf count < limits.interfaceDescMaxNum ∧
      endpointsBefore parseBuf count < limits.endpointDescMaxNum then 7
  else 2

/-- The lengths lead from descriptor to descriptor without coming to one twice, and what is needed
of each lies inside the configuration and the buffer. -/
structure Linked (limits : Limits) (cfgDescMaxLen : Nat) : Prop where
  header : 9 ≤ min (totalLen parseBuf) cfgDescMaxLen
  once : Once (next parseBuf) (first parseBuf)
  inside : ∀ count at_, offset parseBuf count = some at_ →
    at_ + needed parseBuf limits count ≤ min (totalLen parseBuf) cfgDescMaxLen

end

end Chain

-- The indices of the table are `uint8_t`.
structure Limits.Narrow (limits : Limits) : Prop where
  interfaces : limits.interfaceDescMaxNum < 256
  endpoints : limits.endpointDescMaxNum < 256

/-! ## The table of the earlier model -/

theorem Bus.parseRound_round (limits : Limits) (bus : Bus) (parse : Parse)
    (same : bus.interfaces = parse.interfaces) :
    (bus.parseRound limits parse.parser).interfaces = (parse.round limits).interfaces ∧
      (bus.parseRound limits parse.parser).phase =
        if (parse.round limits).parser.totalLen < (parse.round limits).parser.parseIndex + 7
        then .enum else .parsing (parse.round limits).parser := by
  unfold Bus.parseRound Parse.round Parse.dispatch Bus.parseInterface Bus.parseEndpoint
    Parse.interfaceDesc Parse.endpointDesc
  dsimp only
  split
  · split
    · exact ⟨by rw [same], rfl⟩
    · exact ⟨same, rfl⟩
  · split
    · split
      · exact ⟨by rw [same], rfl⟩
      · exact ⟨same, rfl⟩
    · exact ⟨same, rfl⟩

/-! ## One round -/

namespace Parse

open Chain

variable {limits : Limits} {parseBuf : Nat → Byte} {count : Nat} {parse : Parse}

/-- The variables after `count` rounds, and what these have read and written. -/
structure Follows (limits : Limits) (parseBuf : Nat → Byte) (count : Nat) (parse : Parse) :
    Prop where
  buf : parse.parser.parseBuf = parseBuf
  itfIndex : parse.parser.itfIndex =
    min (interfacesBefore parseBuf count) limits.interfaceDescMaxNum
  epIndex : parse.parser.itfIndex < limits.interfaceDescMaxNum → 0 < parse.parser.itfIndex →
    parse.parser.epIndex = min (endpointsBefore parseBuf count) limits.endpointDescMaxNum
  reads : ∀ at_, at_ ∈ parse.reads ↔ at_ < 9 ∨ ∃ i < count, ∃ begin_,
    offset parseBuf i = some begin_ ∧ begin_ ≤ at_ ∧ at_ < begin_ + needed parseBuf limits i
  writes : ∀ access ∈ parse.accesses, access.Sound limits

/-- Before the test of the loop. -/
structure Stands (limits : Limits) (parseBuf : Nat → Byte) (count : Nat) (parse : Parse) : Prop
    extends Follows limits parseBuf count parse where
  offset : Chain.offset parseBuf count =
    if parse.parser.parseIndex < totalLen parseBuf then some parse.parser.parseIndex else none

theorem start_stands (parseBuf old : Nat → Byte) (interfaces : Nat → Interface) :
    (start parseBuf old interfaces).Stands limits parseBuf 0 where
  buf := rfl
  itfIndex := (Nat.zero_min _).symm
  epIndex := fun _ positive => absurd positive (Nat.lt_irrefl 0)
  reads := by
    intro at_
    have early : at_ ∈ (start parseBuf old interfaces).reads ↔ at_ < 9 := by
      simp only [start, List.mem_append, List.mem_cons, List.mem_range, List.not_mem_nil, or_false]
      omega
    simp [early]
  writes := by simp [start]
  offset := rfl

theorem mem_copied (len at_ : Nat) : at_ ∈ parse.copied len ↔
    parse.parser.parseIndex ≤ at_ ∧ at_ < parse.parser.parseIndex + len := by
  simp only [copied, List.mem_map, List.mem_range]
  constructor
  · rintro ⟨i, small, rfl⟩
    omega
  · rintro ⟨from_, below⟩
    exact ⟨at_ - parse.parser.parseIndex, by omega, by omega⟩

theorem round_parseIndex : (parse.round limits).parser.parseIndex =
    (parse.parser.parseIndex + (parse.parser.desc 0).toNat) % 2 ^ 16 := rfl

/-- The reads of a round are those of the descriptor it is at. -/
theorem Follows.mem_reads {reads : List Nat} {begin_ : Nat}
    (follows : parse.Follows limits parseBuf count) (here : offset parseBuf count = some begin_)
    (more : ∀ at_, at_ ∈ reads ↔
      at_ ∈ parse.reads ∨ begin_ ≤ at_ ∧ at_ < begin_ + needed parseBuf limits count) (at_ : Nat) :
    at_ ∈ reads ↔ at_ < 9 ∨ ∃ i < count + 1, ∃ begin_, offset parseBuf i = some begin_ ∧
      begin_ ≤ at_ ∧ at_ < begin_ + needed parseBuf limits i := by
  rw [more, follows.reads]
  constructor
  · rintro ((early | ⟨i, before, met⟩) | last)
    · exact .inl early
    · exact .inr ⟨i, by omega, met⟩
    · exact .inr ⟨count, by omega, begin_, here, last⟩
  · rintro (early | ⟨i, before, there, met, inside⟩)
    · exact .inl (.inl early)
    · by_cases last : i = count
      · subst last
        obtain rfl := Option.some.inj (here.symm.trans met)
        exact .inr inside
      · exact .inl (.inr ⟨i, by omega, there, met, inside⟩)

theorem Follows.typed (follows : parse.Follows limits parseBuf count)
    (here : offset parseBuf count = some parse.parser.parseIndex) :
    typeOf parseBuf count = some (parse.parser.desc 1) := by
  rw [typeOf, here, Option.map_some, ← follows.buf]
  rfl

-- A round that stores nothing.
def passed (parse : Parse) : Parse :=
  { parse with
    reads := parse.reads ++ [parse.parser.parseIndex, parse.parser.parseIndex + 1]
    parser := { parse.parser with
      parseIndex := (parse.parser.parseIndex + (parse.parser.desc 0).toNat) % 2 ^ 16 } }

theorem Follows.passed (follows : parse.Follows limits parseBuf count)
    (here : offset parseBuf count = some parse.parser.parseIndex)
    (size : needed parseBuf limits count = 2)
    (itfIndex : parse.parser.itfIndex =
      min (interfacesBefore parseBuf (count + 1)) limits.interfaceDescMaxNum)
    (epIndex : parse.parser.itfIndex < limits.interfaceDescMaxNum → 0 < parse.parser.itfIndex →
      parse.parser.epIndex =
        min (endpointsBefore parseBuf (count + 1)) limits.endpointDescMaxNum) :
    parse.passed.Follows limits parseBuf (count + 1) where
  buf := follows.buf
  itfIndex := itfIndex
  epIndex := epIndex
  reads := by
    refine follows.mem_reads here fun at_ => ?_
    simp only [Parse.passed, List.mem_append, List.mem_cons, List.not_mem_nil, or_false, size]
    refine or_congr_right ?_
    omega
  writes := follows.writes

theorem round_interface (narrow : limits.Narrow) (follows : parse.Follows limits parseBuf count)
    (here : offset parseBuf count = some parse.parser.parseIndex) (type : parse.parser.desc 1 = 4) :
    (parse.round limits).Follows limits parseBuf (count + 1) := by
  have typed : typeOf parseBuf count = some 4 := (follows.typed here).trans (congrArg some type)
  have itfIndex := follows.itfIndex
  have narrow := narrow.interfaces
  by_cases room : parse.parser.itfIndex < limits.interfaceDescMaxNum
  · have few : interfacesBefore parseBuf count < limits.interfaceDescMaxNum := by omega
    have size : needed parseBuf limits count = 9 := if_pos ⟨typed, few⟩
    have round : parse.round limits = { parse with
        interfaces := Function.update parse.interfaces parse.parser.itfIndex
          { parse.interfaces parse.parser.itfIndex with
            itfDesc := copyBuffer (parse.interfaces parse.parser.itfIndex).itfDesc
              parse.parser.desc 9 }
        reads := parse.reads ++ [parse.parser.parseIndex, parse.parser.parseIndex + 1] ++
          parse.copied 9
        accesses := parse.accesses ++ [.itf parse.parser.itfIndex]
        parser := { parse.parser with
          itfIndex := (parse.parser.itfIndex + 1) % 256
          epIndex := 0
          parseIndex := (parse.parser.parseIndex + (parse.parser.desc 0).toNat) % 2 ^ 16 } } := by
      simp only [Parse.round, dispatch, interfaceDesc, type, room, if_true]
      rfl
    rw [round]
    constructor
    · exact follows.buf
    · simp only [interfacesBefore, typed, if_true]
      omega
    · intro _ _
      simp [endpointsBefore, typed]
    · refine follows.mem_reads here fun at_ => ?_
      simp only [List.mem_append, mem_copied, List.mem_cons, List.not_mem_nil, or_false, size,
        or_assoc]
      refine or_congr_right ?_
      omega
    · intro access member
      rcases List.mem_append.mp member with earlier | last
      · exact follows.writes access earlier
      · rw [List.mem_singleton.mp last]
        exact room
  · have many : ¬ interfacesBefore parseBuf count < limits.interfaceDescMaxNum := by omega
    have size : needed parseBuf limits count = 2 := by simp [needed, typed, many]
    have round : parse.round limits = parse.passed := by
      simp only [Parse.round, dispatch, interfaceDesc, type, room, if_true, if_false, passed]
    rw [round]
    refine follows.passed here size ?_ fun below => absurd below room
    simp only [interfacesBefore, typed, if_true]
    omega

theorem round_endpoint (narrow : limits.Narrow) (follows : parse.Follows limits parseBuf count)
    (here : offset parseBuf count = some parse.parser.parseIndex) (type : parse.parser.desc 1 = 5) :
    (parse.round limits).Follows limits parseBuf (count + 1) := by
  have typed : typeOf parseBuf count = some 5 := (follows.typed here).trans (congrArg some type)
  have itfIndex := follows.itfIndex
  have narrow := narrow.endpoints
  have interfaces : interfacesBefore parseBuf (count + 1) = interfacesBefore parseBuf count := by
    simp [interfacesBefore, typed]
  have endpoints : endpointsBefore parseBuf (count + 1) = endpointsBefore parseBuf count + 1 := by
    simp [endpointsBefore, typed]
  by_cases room : 0 < parse.parser.itfIndex ∧ parse.parser.itfIndex < limits.interfaceDescMaxNum ∧
      parse.parser.epIndex < limits.endpointDescMaxNum
  · obtain ⟨some_, few, free⟩ := room
    have epIndex := follows.epIndex few some_
    have size : needed parseBuf limits count = 7 := by
      rw [needed, if_neg (by simp [typed]), if_pos ⟨typed, by omega, by omega, by omega⟩]
    have round : parse.round limits = { parse with
        interfaces := Function.update parse.interfaces (parse.parser.itfIndex - 1)
          { parse.interfaces (parse.parser.itfIndex - 1) with
            epDesc := Function.update (parse.interfaces (parse.parser.itfIndex - 1)).epDesc
              parse.parser.epIndex (copyBuffer ((parse.interfaces
                (parse.parser.itfIndex - 1)).epDesc parse.parser.epIndex) parse.parser.desc 7) }
        reads := parse.reads ++ [parse.parser.parseIndex, parse.parser.parseIndex + 1] ++
          parse.copied 7
        accesses := parse.accesses ++
          [.itf (parse.parser.itfIndex - 1), .endpoint parse.parser.epIndex]
        parser := { parse.parser with
          epIndex := (parse.parser.epIndex + 1) % 256
          parseIndex := (parse.parser.parseIndex + (parse.parser.desc 0).toNat) % 2 ^ 16 } } := by
      simp only [Parse.round, dispatch, endpointDesc, type, some_, few, free]
      rfl
    rw [round]
    constructor
    · exact follows.buf
    · rw [interfaces]
      exact itfIndex
    · intro _ _
      simp only [endpoints]
      omega
    · refine follows.mem_reads here fun at_ => ?_
      simp only [List.mem_append, mem_copied, List.mem_cons, List.not_mem_nil, or_false, size,
        or_assoc]
      refine or_congr_right ?_
      omega
    · intro access member
      rcases List.mem_append.mp member with earlier | last
      · exact follows.writes access earlier
      · simp only [List.mem_cons, List.not_mem_nil, or_false] at last
        rcases last with rfl | rfl
        · exact Nat.lt_of_le_of_lt (Nat.sub_le _ _) few
        · exact free
  · have size : needed parseBuf limits count = 2 := by
      rw [needed, if_neg (by simp [typed]), if_neg]
      rintro ⟨-, some_, few, free⟩
      have epIndex := follows.epIndex (by omega) (by omega)
      exact room ⟨by omega, by omega, by omega⟩
    have round : parse.round limits = parse.passed := by
      simp only [Parse.round, dispatch, endpointDesc, type, room, if_false]
      rfl
    rw [round]
    refine follows.passed here size (interfaces ▸ itfIndex) fun few some_ => ?_
    have epIndex := follows.epIndex few some_
    have full : ¬ parse.parser.epIndex < limits.endpointDescMaxNum :=
      fun free => room ⟨some_, few, free⟩
    rw [endpoints]
    omega

theorem round_other (follows : parse.Follows limits parseBuf count)
    (here : offset parseBuf count = some parse.parser.parseIndex)
    (notInterface : parse.parser.desc 1 ≠ 4) (notEndpoint : parse.parser.desc 1 ≠ 5) :
    (parse.round limits).Follows limits parseBuf (count + 1) := by
  have typed := follows.typed here
  have size : needed parseBuf limits count = 2 := by
    simp [needed, typed, notInterface, notEndpoint]
  have interfaces : interfacesBefore parseBuf (count + 1) = interfacesBefore parseBuf count := by
    simp [interfacesBefore, typed, notInterface]
  have endpoints : endpointsBefore parseBuf (count + 1) = endpointsBefore parseBuf count := by
    simp [endpointsBefore, typed, notInterface, notEndpoint]
  have round : parse.round limits = parse.passed := by
    simp only [Parse.round, dispatch]
    rw [if_neg notInterface, if_neg notEndpoint]
    rfl
  rw [round]
  exact follows.passed here size (interfaces ▸ follows.itfIndex) (endpoints ▸ follows.epIndex)

theorem round_follows (narrow : limits.Narrow) (follows : parse.Follows limits parseBuf count)
    (here : offset parseBuf count = some parse.parser.parseIndex) :
    (parse.round limits).Follows limits parseBuf (count + 1) := by
  by_cases interface : parse.parser.desc 1 = 4
  · exact round_interface narrow follows here interface
  · by_cases endpoint : parse.parser.desc 1 = 5
    · exact round_endpoint narrow follows here endpoint
    · exact round_other follows here interface endpoint

/-! ## The loop -/

theorem Follows.totalLen (follows : parse.Follows limits parseBuf count) :
    parse.parser.totalLen = Chain.totalLen parseBuf := by
  rw [Parser.totalLen, Chain.totalLen, follows.buf]

theorem offset_round (follows : parse.Follows limits parseBuf count)
    (here : offset parseBuf count = some parse.parser.parseIndex) :
    offset parseBuf (count + 1) =
      if Chain.totalLen parseBuf < (parse.round limits).parser.parseIndex + 7 then none
      else some (parse.round limits).parser.parseIndex := by
  rw [Chain.offset, orbit, ← Chain.offset, here, round_parseIndex, Parser.desc, follows.buf]
  rfl

theorem Stands.here (stands : parse.Stands limits parseBuf count)
    (more : parse.parser.parseIndex < Chain.totalLen parseBuf) :
    Chain.offset parseBuf count = some parse.parser.parseIndex := by
  rw [stands.offset, if_pos more]

theorem Stands.round (narrow : limits.Narrow) (stands : parse.Stands limits parseBuf count)
    (more : parse.parser.parseIndex < Chain.totalLen parseBuf)
    (rest : ¬ Chain.totalLen parseBuf < (parse.round limits).parser.parseIndex + 7) :
    (parse.round limits).Stands limits parseBuf (count + 1) where
  toFollows := round_follows narrow stands.toFollows (stands.here more)
  offset := by
    have inside : (parse.round limits).parser.parseIndex < Chain.totalLen parseBuf := by omega
    rw [offset_round stands.toFollows (stands.here more), if_neg rest, if_pos inside]

theorem loop_ends (narrow : limits.Narrow) {fuel : Nat} {final : Parse}
    (stands : parse.Stands limits parseBuf count) (ended : loop limits fuel parse = some final) :
    ∃ last, offset parseBuf last = none ∧ final.Follows limits parseBuf last := by
  induction fuel generalizing parse count with
  | zero => cases ended
  | succ fuel ih =>
    rw [loop, stands.totalLen] at ended
    by_cases more : parse.parser.parseIndex < Chain.totalLen parseBuf
    · rw [if_pos more] at ended
      have follows := round_follows narrow stands.toFollows (stands.here more)
      dsimp only at ended
      rw [follows.totalLen] at ended
      by_cases useless : Chain.totalLen parseBuf < (parse.round limits).parser.parseIndex + 7
      · rw [if_pos useless] at ended
        obtain rfl := Option.some.inj ended
        exact ⟨count + 1, (offset_round stands.toFollows (stands.here more)).trans
          (if_pos useless), follows⟩
      · rw [if_neg useless] at ended
        exact ih (stands.round narrow more useless) ended
    · rw [if_neg more] at ended
      obtain rfl := Option.some.inj ended
      exact ⟨count, stands.offset.trans (if_neg more), stands.toFollows⟩

theorem loop_returns (narrow : limits.Narrow) {fuel : Nat}
    (stands : parse.Stands limits parseBuf count) (gone : offset parseBuf (count + fuel) = none) :
    ∃ final, loop limits (fuel + 1) parse = some final := by
  induction fuel generalizing parse count with
  | zero =>
    refine ⟨parse, ?_⟩
    by_cases more : parse.parser.parseIndex < Chain.totalLen parseBuf
    · cases (stands.here more).symm.trans gone
    · rw [loop, stands.totalLen, if_neg more]
  | succ fuel ih =>
    rw [loop, stands.totalLen]
    by_cases more : parse.parser.parseIndex < Chain.totalLen parseBuf
    · rw [if_pos more]
      have follows := round_follows narrow stands.toFollows (stands.here more)
      dsimp only
      rw [follows.totalLen]
      by_cases useless : Chain.totalLen parseBuf < (parse.round limits).parser.parseIndex + 7
      · exact ⟨_, if_pos useless⟩
      · rw [if_neg useless]
        have next : count + (fuel + 1) = count + 1 + fuel := by omega
        exact ih (stands.round narrow more useless) (next ▸ gone)
    · exact ⟨_, if_neg more⟩

end Parse

open Chain Parse

theorem offset_lt {parseBuf : Nat → Byte} {count at_ : Nat}
    (met : offset parseBuf count = some at_) : at_ < 2 ^ 16 := by
  cases count with
  | zero =>
    change first parseBuf = some at_ at met
    simp only [first, Option.ite_none_right_eq_some, Option.some.injEq] at met
    omega
  | succ count =>
    change (Chain.offset parseBuf count).bind (next parseBuf) = some at_ at met
    obtain ⟨before, _, stepped⟩ := Option.bind_eq_some_iff.mp met
    simp only [next, Option.ite_none_left_eq_some, Option.some.injEq] at stepped
    rw [← stepped.2]
    exact Nat.mod_lt _ (by decide)

theorem two_le_needed (parseBuf : Nat → Byte) (limits : Limits) (count : Nat) :
    2 ≤ needed parseBuf limits count := by
  unfold needed
  split
  · decide
  · split <;> decide

variable {limits : Limits} {cfgDescMaxLen fuel : Nat} {parseBuf old : Nat → Byte}
  {interfaces : Nat → Interface}

theorem ends_iff : Ends (Chain.next parseBuf) (first parseBuf) ↔
    Once (Chain.next parseBuf) (first parseBuf) :=
  ends_iff_once (Finset.range (2 ^ 16)) fun _ _ met => Finset.mem_range.mpr (offset_lt met)

/-- The guards alone keep the writes inside the table. -/
theorem parse_writes (narrow : limits.Narrow) {final : Parse}
    (ended : parseCfgDesc limits fuel parseBuf old interfaces = some final) :
    ∀ access ∈ final.accesses, access.Sound limits := by
  obtain ⟨_, _, follows⟩ := loop_ends narrow (start_stands parseBuf old interfaces) ended
  exact follows.writes

theorem linked_of_inBounds (narrow : limits.Narrow) {final : Parse}
    (ended : parseCfgDesc limits fuel parseBuf old interfaces = some final)
    (inBounds : final.InBounds limits cfgDescMaxLen) : Linked parseBuf limits cfgDescMaxLen := by
  obtain ⟨last, gone, follows⟩ := loop_ends narrow (start_stands parseBuf old interfaces) ended
  have reads := inBounds.reads
  rw [follows.totalLen] at reads
  refine ⟨?_, ends_iff.mp ⟨last, gone⟩, fun count at_ met => ?_⟩
  · exact reads 8 ((follows.reads 8).mpr (.inl (by decide)))
  · have early : count < last := by
      by_contra late
      have none := orbit_none_of_le gone (Nat.not_lt.mp late)
      cases met.symm.trans none
    have two := two_le_needed parseBuf limits count
    have lastRead := reads (at_ + needed parseBuf limits count - 1)
      ((follows.reads _).mpr (.inr ⟨count, early, at_, met, by omega, by omega⟩))
    omega

/-- A parse that has been carried out and stayed inside. -/
theorem linked_of_parsed (narrow : limits.Narrow) {fuel : Nat} {old : Nat → Byte}
    {interfaces : Nat → Interface}
    (parsed : (parseCfgDesc limits fuel parseBuf old interfaces).isSome = true)
    (reads : ∀ offset ∈ ((parseCfgDesc limits fuel parseBuf old interfaces).get parsed).reads,
      offset < min ((parseCfgDesc limits fuel parseBuf old interfaces).get parsed).parser.totalLen
        cfgDescMaxLen) :
    Linked parseBuf limits cfgDescMaxLen := by
  have ended := (Option.some_get parsed).symm
  exact linked_of_inBounds narrow ended ⟨reads, parse_writes narrow ended⟩

theorem inBounds_of_linked (narrow : limits.Narrow)
    (linked : Linked parseBuf limits cfgDescMaxLen) (old : Nat → Byte)
    (interfaces : Nat → Interface) :
    ∃ fuel final, parseCfgDesc limits fuel parseBuf old interfaces = some final ∧
      final.InBounds limits cfgDescMaxLen := by
  have stands : (start parseBuf old interfaces).Stands limits parseBuf 0 :=
    start_stands parseBuf old interfaces
  obtain ⟨last, gone⟩ := ends_iff.mpr linked.once
  rw [← Nat.zero_add last] at gone
  obtain ⟨final, ended⟩ := loop_returns narrow stands gone
  obtain ⟨_, _, follows⟩ := loop_ends narrow stands ended
  refine ⟨last + 1, final, ended, fun at_ read => ?_, follows.writes⟩
  rw [follows.totalLen]
  rcases (follows.reads at_).mp read with early | ⟨i, _, begin_, met, _, below⟩
  · exact Nat.lt_of_lt_of_le early linked.header
  · exact Nat.lt_of_lt_of_le below (linked.inside i begin_ met)

/-- It returns, inside its arrays, exactly on the contents whose descriptors are linked. -/
theorem parse_in_bounds_iff (limits : Limits) (narrow : limits.Narrow) (cfgDescMaxLen : Nat)
    (parseBuf old : Nat → Byte) (interfaces : Nat → Interface) :
    (∃ fuel final, parseCfgDesc limits fuel parseBuf old interfaces = some final ∧
      final.InBounds limits cfgDescMaxLen) ↔ Linked parseBuf limits cfgDescMaxLen :=
  ⟨fun ⟨_, _, ended, inBounds⟩ => linked_of_inBounds narrow ended inBounds,
    fun linked => inBounds_of_linked narrow linked old interfaces⟩

/-! ## What lies behind the configuration -/

section

variable {other : Nat → Byte}

theorem offset_congr (same : ∀ at_ < totalLen parseBuf, other at_ = parseBuf at_)
    (linked : Linked parseBuf limits cfgDescMaxLen) (count : Nat) :
    offset other count = offset parseBuf count := by
  have nine := linked.header
  have total : totalLen other = totalLen parseBuf := by
    simp only [totalLen, same 2 (by omega), same 3 (by omega)]
  induction count with
  | zero =>
    change first other = first parseBuf
    rw [first, first, total]
  | succ count ih =>
    change (offset other count).bind (Chain.next other) =
      (offset parseBuf count).bind (Chain.next parseBuf)
    rw [ih]
    cases met : offset parseBuf count with
    | none => rfl
    | some at_ =>
      have inside := linked.inside count at_ met
      have two := two_le_needed parseBuf limits count
      simp only [Option.bind_some, Chain.next, same at_ (by omega), total]

theorem typeOf_congr (same : ∀ at_ < totalLen parseBuf, other at_ = parseBuf at_)
    (linked : Linked parseBuf limits cfgDescMaxLen) (count : Nat) :
    typeOf other count = typeOf parseBuf count := by
  unfold typeOf
  rw [offset_congr same linked]
  cases met : offset parseBuf count with
  | none => rfl
  | some at_ =>
    have inside := linked.inside count at_ met
    have two := two_le_needed parseBuf limits count
    rw [Option.map_some, Option.map_some, same (at_ + 1) (by omega)]

theorem before_congr (types : ∀ count, typeOf other count = typeOf parseBuf count) (count : Nat) :
    interfacesBefore other count = interfacesBefore parseBuf count ∧
      endpointsBefore other count = endpointsBefore parseBuf count := by
  induction count with
  | zero => exact ⟨rfl, rfl⟩
  | succ count ih => simp only [interfacesBefore, endpointsBefore, types, ih, and_self]

theorem needed_congr (types : ∀ count, typeOf other count = typeOf parseBuf count) (limits : Limits)
    (count : Nat) : needed other limits count = needed parseBuf limits count := by
  obtain ⟨interfaces, endpoints⟩ := before_congr types count
  simp only [needed, types, interfaces, endpoints]

/-- Only the configuration itself matters, not what lies behind it in the buffer. -/
theorem Chain.Linked.congr (linked : Linked parseBuf limits cfgDescMaxLen)
    (same : ∀ at_ < totalLen parseBuf, other at_ = parseBuf at_) :
    Linked other limits cfgDescMaxLen := by
  have nine := linked.header
  have total : totalLen other = totalLen parseBuf := by
    simp only [totalLen, same 2 (by omega), same 3 (by omega)]
  refine ⟨total ▸ linked.header, fun i j at_ first second => ?_, fun count at_ met => ?_⟩
  · have first : offset other i = some at_ := first
    have second : offset other j = some at_ := second
    rw [offset_congr same linked] at first second
    exact linked.once i j at_ first second
  · rw [offset_congr same linked] at met
    rw [needed_congr (typeOf_congr same linked), total]
    exact linked.inside count at_ met

end

theorem usualLimits_narrow : usualLimits.Narrow := ⟨by decide, by decide⟩

def emptyTable : Nat → Interface := fun _ => ⟨fun _ => 0, fun _ _ => 0⟩

theorem storage_parsed : (parseCfgDesc usualLimits 4
    (fun offset => storageConfiguration.getD offset 0) (fun _ => 0) emptyTable).isSome = true := by
  decide +kernel

def storageParse : Parse := (parseCfgDesc usualLimits 4
  (fun offset => storageConfiguration.getD offset 0) (fun _ => 0) emptyTable).get storage_parsed

theorem storageParse_ended : parseCfgDesc usualLimits 4
    (fun offset => storageConfiguration.getD offset 0) (fun _ => 0) emptyTable =
      some storageParse :=
  (Option.some_get _).symm

theorem storage_linked :
    Linked (fun offset => storageConfiguration.getD offset 0) usualLimits 512 :=
  (parse_in_bounds_iff usualLimits usualLimits_narrow 512 _ (fun _ => 0) emptyTable).mp
    ⟨4, storageParse, storageParse_ended, by decide +kernel,
      parse_writes usualLimits_narrow storageParse_ended⟩

-- The first descriptor after the header has length 0.
def emptyDescriptor : List Byte := [9, 2, 32, 0, 1, 1, 0, 0x80, 50, 0, 4]

theorem empty_descriptor_hangs : ¬ ∀ parseBuf old interfaces,
    ∃ fuel final, parseCfgDesc usualLimits fuel parseBuf old interfaces = some final ∧
      final.InBounds usualLimits 512 := by
  intro always
  obtain ⟨fuel, final, ended, inBounds⟩ :=
    always (fun offset => emptyDescriptor.getD offset 0) (fun _ => 0) emptyTable
  have linked := linked_of_inBounds usualLimits_narrow ended inBounds
  have same := linked.once 0 1 9 (by decide) (by decide)
  cases same

end ApmSdk.Usbh
