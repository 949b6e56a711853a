import ApmSdk.Usbh.ParseCfgDesc
import Mathlib.Data.List.GetD

set_option autoImplicit false

/-!
# What the parser finds in a well-formed configuration

Interface descriptors with their endpoint descriptors among any others, and the table that
`USBH_ParseCfgDesc` makes of them.
-/

namespace ApmSdk.Usbh

open Usbd (Byte)

/-! ## Well-formed configurations -/

/-- A descriptor that begins with its own length; an interface or endpoint descriptor has at least
the fields of the standard. -/
structure Desc where
  bytes : List Byte
  two : 2 ≤ bytes.length
  sized : (bytes.getD 0 0).toNat = bytes.length
  interface : bytes.getD 1 0 = 4 → 9 ≤ bytes.length
  endpoint : bytes.getD 1 0 = 5 → 7 ≤ bytes.length

def Desc.type (desc : Desc) : Byte := desc.bytes.getD 1 0

/-- An interface descriptor and the descriptors up to the next one. -/
structure Block where
  itf : Desc
  rest : List Desc
  isInterface : itf.type = 4
  noInterface : ∀ desc ∈ rest, desc.type ≠ 4

def Block.endpoints (block : Block) : List Desc := block.rest.filter fun desc => desc.type = 5

def Block.descs (block : Block) : List Desc := block.itf :: block.rest

def flat (descs : List Desc) : List Byte := descs.flatMap Desc.bytes

structure CfgSet where
  header : List Byte
  leading : List Desc
  blocks : List Block
  nine : header.length = 9
  noInterface : ∀ desc ∈ leading, desc.type ≠ 4
  total : (header.getD 3 0).toNat <<< 8 ||| (header.getD 2 0).toNat =
    9 + (flat (leading ++ blocks.flatMap Block.descs)).length

def CfgSet.descs (set : CfgSet) : List Desc := set.leading ++ set.blocks.flatMap Block.descs

def CfgSet.bytes (set : CfgSet) : List Byte := set.header ++ flat set.descs

/-- The table has room for the interfaces and for the endpoints of each. -/
structure CfgSet.Roomy (limits : Limits) (set : CfgSet) : Prop where
  interfaces : set.blocks.length ≤ limits.interfaceDescMaxNum
  endpoints : ∀ block ∈ set.blocks, block.endpoints.length ≤ limits.endpointDescMaxNum

-- The received configuration at the start of `cfgDescBuf`.
def CfgSet.Received (set : CfgSet) (parseBuf : Nat → Byte) : Prop :=
  ∀ offset < set.bytes.length, parseBuf offset = set.bytes.getD offset 0

/-- The entry holds the endpoint descriptors in their order. -/
def HoldsEndpoints (itf : Interface) (endpoints : List Desc) : Prop :=
  ∀ epNum (found : epNum < endpoints.length), ∀ offset < 7,
    itf.epDesc epNum offset = endpoints[epNum].bytes.getD offset 0

def HoldsInterface (itf : Interface) (desc : Desc) : Prop :=
  ∀ offset < 9, itf.itfDesc offset = desc.bytes.getD offset 0

/-- What parsing is for. -/
structure Parse.Correct (set : CfgSet) (parse : Parse) : Prop where
  configuration : ∀ offset < 9, parse.configuration offset = set.header.getD offset 0
  interfaces : ∀ itfNum (found : itfNum < set.blocks.length),
    HoldsInterface (parse.interfaces itfNum) set.blocks[itfNum].itf
  endpoints : ∀ itfNum (found : itfNum < set.blocks.length),
    HoldsEndpoints (parse.interfaces itfNum) set.blocks[itfNum].endpoints

/-- The table is not filled to its last interface, or that entry held the endpoint descriptors
before, as it does where there are none. -/
def CfgSet.Spared (limits : Limits) (interfaces : Nat → Interface) (set : CfgSet) : Prop :=
  ∀ itfNum (found : itfNum < set.blocks.length), itfNum + 1 = limits.interfaceDescMaxNum →
    HoldsEndpoints (interfaces itfNum) set.blocks[itfNum].endpoints

/-! ## The table alone -/

structure Table where
  interfaces : Nat → Interface
  itfIndex : Nat
  epIndex : Nat

def Parse.table (parse : Parse) : Table :=
  ⟨parse.interfaces, parse.parser.itfIndex, parse.parser.epIndex⟩

namespace Table

/-- What the `switch` does with a descriptor of these bytes. -/
def visit (limits : Limits) (table : Table) (type : Byte) (desc : Nat → Byte) : Table :=
  if type = 4 then
    if table.itfIndex < limits.interfaceDescMaxNum then
      let itf := table.interfaces table.itfIndex
      ⟨Function.update table.interfaces table.itfIndex
        { itf with itfDesc := copyBuffer itf.itfDesc desc 9 }, (table.itfIndex + 1) % 256, 0⟩
    else table
  else if type = 5 then
    if 0 < table.itfIndex ∧ table.itfIndex < limits.interfaceDescMaxNum ∧
        table.epIndex < limits.endpointDescMaxNum then
      let itf := table.interfaces (table.itfIndex - 1)
      let epDesc := copyBuffer (itf.epDesc table.epIndex) desc 7
      ⟨Function.update table.interfaces (table.itfIndex - 1)
        { itf with epDesc := Function.update itf.epDesc table.epIndex epDesc },
        table.itfIndex, (table.epIndex + 1) % 256⟩
    else table
  else table

def take (limits : Limits) (table : Table) (desc : Desc) : Table :=
  table.visit limits desc.type fun offset => desc.bytes.getD offset 0

def takeAll (limits : Limits) (table : Table) (descs : List Desc) : Table :=
  descs.foldl (take limits) table

theorem visit_congr {limits : Limits} {table : Table} {type : Byte} {first second : Nat → Byte}
    (interface : type = 4 → ∀ offset < 9, first offset = second offset)
    (endpoint : type = 5 → ∀ offset < 7, first offset = second offset) :
    table.visit limits type first = table.visit limits type second := by
  have copied : ∀ (len : Nat) (dest : Nat → Byte), (∀ offset < len, first offset = second offset) →
      copyBuffer dest first len = copyBuffer dest second len := by
    intro len dest same
    funext offset
    by_cases below : offset < len
    · simp only [copyBuffer, below, if_true, same offset below]
    · simp only [copyBuffer, below, if_false]
  unfold visit
  by_cases isInterface : type = 4
  · simp only [if_pos isInterface, copied 9 _ (interface isInterface)]
  · by_cases isEndpoint : type = 5
    · simp only [if_neg isInterface, if_pos isEndpoint, copied 7 _ (endpoint isEndpoint)]
    · simp only [if_neg isInterface, if_neg isEndpoint]

theorem take_other {limits : Limits} {table : Table} {desc : Desc} (interface : desc.type ≠ 4)
    (endpoint : desc.type ≠ 5) : table.take limits desc = table := by
  rw [take, visit, if_neg interface, if_neg endpoint]

end Table

/-! ## The loop over a list of descriptors -/

namespace Parse

variable {limits : Limits} {parse : Parse}

theorem round_table : (parse.round limits).table =
    parse.table.visit limits (parse.parser.desc 1) parse.parser.desc := by
  by_cases interface : parse.parser.desc 1 = 4
  · by_cases room : parse.parser.itfIndex < limits.interfaceDescMaxNum <;>
      simp [Parse.round, dispatch, interfaceDesc, Table.visit, table, interface, room]
  · by_cases endpoint : parse.parser.desc 1 = 5
    · by_cases room : 0 < parse.parser.itfIndex ∧
          parse.parser.itfIndex < limits.interfaceDescMaxNum ∧
          parse.parser.epIndex < limits.endpointDescMaxNum <;>
        simp [Parse.round, dispatch, endpointDesc, Table.visit, table, endpoint, room]
    · simp [Parse.round, dispatch, Table.visit, table, interface, endpoint]

theorem round_frame (limits : Limits) (parse : Parse) :
    (parse.round limits).parser.parseBuf = parse.parser.parseBuf ∧
    (parse.round limits).configuration = parse.configuration := by
  unfold Parse.round dispatch interfaceDesc endpointDesc
  dsimp only
  split
  · split <;> exact ⟨rfl, rfl⟩
  · split
    · split <;> exact ⟨rfl, rfl⟩
    · exact ⟨rfl, rfl⟩

/-- The parser is at the first of the descriptors that are left. -/
structure At (parse : Parse) (rest : List Desc) : Prop where
  position : parse.parser.parseIndex + (flat rest).length = parse.parser.totalLen
  ahead : ∀ offset < (flat rest).length, parse.parser.desc offset = (flat rest).getD offset 0

theorem flat_cons (desc : Desc) (rest : List Desc) :
    flat (desc :: rest) = desc.bytes ++ flat rest := rfl

theorem totalLen_lt (parser : Parser) : parser.totalLen < 2 ^ 16 := by
  have high : (parser.parseBuf 3).toNat <<< 8 < 2 ^ 16 := by
    rw [Nat.shiftLeft_eq]
    have small := (parser.parseBuf 3).toNat_lt
    omega
  have low : (parser.parseBuf 2).toNat < 2 ^ 16 := by
    have small := (parser.parseBuf 2).toNat_lt
    omega
  exact Nat.or_lt_two_pow high low

theorem At.desc {desc : Desc} {rest : List Desc} (here : parse.At (desc :: rest)) {offset : Nat}
    (inside : offset < desc.bytes.length) :
    parse.parser.desc offset = desc.bytes.getD offset 0 := by
  have ahead := here.ahead offset (by rw [flat_cons, List.length_append]; omega)
  rw [ahead, flat_cons, List.getD_append _ _ _ _ inside]

theorem At.type {desc : Desc} {rest : List Desc} (here : parse.At (desc :: rest)) :
    parse.parser.desc 1 = desc.type := here.desc desc.two

theorem At.round_parseIndex {desc : Desc} {rest : List Desc} (here : parse.At (desc :: rest)) :
    (parse.round limits).parser.parseIndex = parse.parser.parseIndex + desc.bytes.length := by
  have position := here.position
  have small := totalLen_lt parse.parser
  have two := desc.two
  rw [flat_cons, List.length_append] at position
  rw [Parse.round_parseIndex, here.desc (by omega), desc.sized]
  exact Nat.mod_eq_of_lt (by omega)

theorem At.round {desc : Desc} {rest : List Desc} (here : parse.At (desc :: rest)) :
    (parse.round limits).At rest := by
  have moved : (parse.round limits).parser.parseIndex =
      parse.parser.parseIndex + desc.bytes.length := here.round_parseIndex
  obtain ⟨buf, -⟩ := round_frame limits parse
  constructor
  · have position := here.position
    rw [flat_cons, List.length_append] at position
    rw [moved, Parser.totalLen, buf, ← Parser.totalLen]
    omega
  · intro offset inside
    have ahead := here.ahead (desc.bytes.length + offset)
      (by rw [flat_cons, List.length_append]; omega)
    rw [Parser.desc, moved, buf, Nat.add_assoc, ← Parser.desc, ahead, flat_cons,
      List.getD_append_right _ _ _ _ (by omega), Nat.add_sub_cancel_left]

theorem At.take {desc : Desc} {rest : List Desc} (here : parse.At (desc :: rest)) :
    (parse.round limits).table = parse.table.take limits desc := by
  rw [round_table, here.type, Table.take]
  refine Table.visit_congr (fun interface offset inside => ?_) fun endpoint offset inside => ?_
  · exact here.desc (Nat.lt_of_lt_of_le inside (desc.interface interface))
  · exact here.desc (Nat.lt_of_lt_of_le inside (desc.endpoint endpoint))

/-- What is left when fewer than seven bytes are has nothing for the table. -/
theorem takeAll_short (table : Table) {rest : List Desc} (short : (flat rest).length < 7) :
    table.takeAll limits rest = table := by
  induction rest with
  | nil => rfl
  | cons desc rest ih =>
    rw [flat_cons, List.length_append] at short
    have other : table.take limits desc = table := by
      refine Table.take_other (fun interface => ?_) fun endpoint => ?_
      · have nine := desc.interface interface
        omega
      · have seven := desc.endpoint endpoint
        omega
    rw [Table.takeAll, List.foldl_cons, other]
    exact ih (by omega)

theorem loop_table {rest : List Desc} (here : parse.At rest) {fuel : Nat}
    (enough : rest.length < fuel) : ∃ final, loop limits fuel parse = some final ∧
      final.table = parse.table.takeAll limits rest ∧
      final.configuration = parse.configuration := by
  induction rest generalizing parse fuel with
  | nil =>
    obtain ⟨fuel, rfl⟩ : ∃ less, fuel = less + 1 := ⟨fuel - 1, by omega⟩
    have position := here.position
    refine ⟨parse, ?_, rfl, rfl⟩
    rw [loop, if_neg (by simp [flat] at position; omega)]
  | cons desc rest ih =>
    obtain ⟨fuel, rfl⟩ : ∃ less, fuel = less + 1 := ⟨fuel - 1, by omega⟩
    have position := here.position
    have two := desc.two
    rw [flat_cons, List.length_append] at position
    obtain ⟨-, configuration⟩ := round_frame limits parse
    have next : (parse.round limits).At rest := here.round
    rw [loop, if_pos (by omega)]
    dsimp only
    by_cases useless : (parse.round limits).parser.totalLen <
        (parse.round limits).parser.parseIndex + 7
    · refine ⟨parse.round limits, if_pos useless, ?_, configuration⟩
      rw [Table.takeAll, List.foldl_cons, ← Table.takeAll, here.take, takeAll_short]
      have left := next.position
      omega
    · obtain ⟨final, ended, table, kept⟩ := ih next (Nat.lt_of_succ_lt_succ enough)
      refine ⟨final, (if_neg useless).trans ended, ?_, kept.trans configuration⟩
      rw [table, here.take, Table.takeAll, Table.takeAll, List.foldl_cons]

theorem loop_unique {first second : Nat} {one other : Parse}
    (left : loop limits first parse = some one) (right : loop limits second parse = some other) :
    one = other := by
  induction first generalizing parse second with
  | zero => cases left
  | succ first ih =>
    cases second with
    | zero => cases right
    | succ second =>
      rw [loop] at left right
      by_cases more : parse.parser.parseIndex < parse.parser.totalLen
      · rw [if_pos more] at left right
        dsimp only at left right
        by_cases useless : (parse.round limits).parser.totalLen <
            (parse.round limits).parser.parseIndex + 7
        · rw [if_pos useless] at left right
          exact Option.some.inj (left.symm.trans right)
        · rw [if_neg useless] at left right
          exact ih left right
      · rw [if_neg more] at left right
        exact Option.some.inj (left.symm.trans right)

end Parse

/-! ## The table of a list of blocks -/

namespace Table

variable {limits : Limits} {table : Table}

theorem take_interface (narrow : limits.Narrow) {desc : Desc} (type : desc.type = 4)
    (room : table.itfIndex < limits.interfaceDescMaxNum) : table.take limits desc =
      ⟨Function.update table.interfaces table.itfIndex
        { table.interfaces table.itfIndex with
          itfDesc := copyBuffer (table.interfaces table.itfIndex).itfDesc
            (fun offset => desc.bytes.getD offset 0) 9 }, table.itfIndex + 1, 0⟩ := by
  have narrow := narrow.interfaces
  have same : (table.itfIndex + 1) % 256 = table.itfIndex + 1 := Nat.mod_eq_of_lt (by omega)
  rw [take, visit, if_pos type, if_pos room, same]

theorem take_endpoint (narrow : limits.Narrow) {desc : Desc} (type : desc.type = 5)
    (some_ : 0 < table.itfIndex) (few : table.itfIndex < limits.interfaceDescMaxNum)
    (free : table.epIndex < limits.endpointDescMaxNum) : table.take limits desc =
      ⟨Function.update table.interfaces (table.itfIndex - 1)
        { table.interfaces (table.itfIndex - 1) with
          epDesc := Function.update (table.interfaces (table.itfIndex - 1)).epDesc table.epIndex
            (copyBuffer ((table.interfaces (table.itfIndex - 1)).epDesc table.epIndex)
              (fun offset => desc.bytes.getD offset 0) 7) },
        table.itfIndex, table.epIndex + 1⟩ := by
  have narrow := narrow.endpoints
  have same : (table.epIndex + 1) % 256 = table.epIndex + 1 := Nat.mod_eq_of_lt (by omega)
  rw [take, visit, if_neg (by rw [type]; decide), if_pos type, if_pos ⟨some_, few, free⟩, same]

theorem takeAll_cons (desc : Desc) (rest : List Desc) :
    table.takeAll limits (desc :: rest) = (table.take limits desc).takeAll limits rest := rfl

theorem takeAll_append (first second : List Desc) :
    table.takeAll limits (first ++ second) =
      (table.takeAll limits first).takeAll limits second :=
  List.foldl_append

/-- Endpoint descriptors before the first interface, and those of the one that fills the table, are
passed over. -/
theorem takeAll_passed {rest : List Desc} (noInterface : ∀ desc ∈ rest, desc.type ≠ 4)
    (outside : table.itfIndex = 0 ∨ table.itfIndex = limits.interfaceDescMaxNum) :
    table.takeAll limits rest = table := by
  induction rest with
  | nil => rfl
  | cons desc rest ih =>
    have passed : table.take limits desc = table := by
      rw [take, visit, if_neg (noInterface desc (List.mem_cons_self ..))]
      by_cases endpoint : desc.type = 5
      · rw [if_pos endpoint, if_neg (by omega)]
      · rw [if_neg endpoint]
    rw [takeAll_cons, passed]
    exact ih fun desc member => noInterface desc (List.mem_cons_of_mem _ member)

/-- The entry of the current interface after the descriptors that follow it. -/
structure Filled (before after : Table) (endpoints : List Desc) : Prop where
  itfIndex : after.itfIndex = before.itfIndex
  others : ∀ itfNum, itfNum + 1 ≠ before.itfIndex →
    after.interfaces itfNum = before.interfaces itfNum
  itfDesc : (after.interfaces (before.itfIndex - 1)).itfDesc =
    (before.interfaces (before.itfIndex - 1)).itfDesc
  earlier : ∀ epNum < before.epIndex, (after.interfaces (before.itfIndex - 1)).epDesc epNum =
    (before.interfaces (before.itfIndex - 1)).epDesc epNum
  stored : ∀ epNum (found : epNum < endpoints.length), ∀ offset < 7,
    (after.interfaces (before.itfIndex - 1)).epDesc (before.epIndex + epNum) offset =
      endpoints[epNum].bytes.getD offset 0

theorem takeAll_filled (narrow : limits.Narrow) {rest : List Desc}
    (noInterface : ∀ desc ∈ rest, desc.type ≠ 4) (some_ : 0 < table.itfIndex)
    (few : table.itfIndex < limits.interfaceDescMaxNum)
    (room : table.epIndex + (rest.filter fun desc => desc.type = 5).length ≤
      limits.endpointDescMaxNum) :
    table.Filled (table.takeAll limits rest) (rest.filter fun desc => desc.type = 5) := by
  induction rest generalizing table with
  | nil => exact ⟨rfl, fun _ _ => rfl, rfl, fun _ _ => rfl, fun _ found => by cases found⟩
  | cons desc rest ih =>
    have noMore : ∀ desc ∈ rest, desc.type ≠ 4 :=
      fun desc member => noInterface desc (List.mem_cons_of_mem _ member)
    by_cases endpoint : desc.type = 5
    · have kept : (desc :: rest).filter (fun desc => desc.type = 5) =
          desc :: rest.filter fun desc => desc.type = 5 :=
        List.filter_cons_of_pos (by simpa using endpoint)
      rw [kept, List.length_cons] at room
      have stored := take_endpoint narrow endpoint some_ few (by omega)
      have filled : (table.take limits desc).Filled ((table.take limits desc).takeAll limits rest)
          (rest.filter fun desc => desc.type = 5) :=
        ih noMore (by rw [stored]; exact some_) (by rw [stored]; exact few)
          (by rw [stored]; dsimp only; omega)
      rw [kept, takeAll_cons]
      rw [stored] at filled ⊢
      obtain ⟨itfIndex, others, itfDesc, earlier, later⟩ := filled
      dsimp only at itfIndex others itfDesc earlier later
      rw [Function.update_self] at itfDesc
      refine ⟨itfIndex, fun itfNum apart => ?_, itfDesc, fun epNum before => ?_,
        fun epNum found offset inside => ?_⟩
      · rw [others itfNum apart, Function.update_of_ne (by omega)]
      · rw [earlier epNum (by omega), Function.update_self]
        dsimp only
        rw [Function.update_of_ne (by omega)]
      · cases epNum with
        | zero =>
          have here := congrFun (earlier table.epIndex (Nat.lt_succ_self _)) offset
          rw [Function.update_self] at here
          dsimp only at here
          rw [Function.update_self, copyBuffer, if_pos inside] at here
          exact here
        | succ epNum =>
          have next : table.epIndex + (epNum + 1) = table.epIndex + 1 + epNum := by omega
          rw [next, later epNum (Nat.lt_of_succ_lt_succ found) offset inside,
            List.getElem_cons_succ]
    · have kept : (desc :: rest).filter (fun desc => desc.type = 5) =
          rest.filter fun desc => desc.type = 5 :=
        List.filter_cons_of_neg (by simpa using endpoint)
      rw [kept] at room ⊢
      rw [takeAll_cons, take_other (noInterface desc (List.mem_cons_self ..)) endpoint]
      exact ih noMore some_ few room

/-- An interface and its endpoints are taken up; the endpoints of the one that fills the table are
not. -/
structure Took (limits : Limits) (before after : Table) (block : Block) : Prop where
  itfIndex : after.itfIndex = before.itfIndex + 1
  others : ∀ itfNum, itfNum ≠ before.itfIndex →
    after.interfaces itfNum = before.interfaces itfNum
  interface : HoldsInterface (after.interfaces before.itfIndex) block.itf
  endpoints : before.itfIndex + 1 < limits.interfaceDescMaxNum →
    HoldsEndpoints (after.interfaces before.itfIndex) block.endpoints
  last : before.itfIndex + 1 = limits.interfaceDescMaxNum →
    (after.interfaces before.itfIndex).epDesc = (before.interfaces before.itfIndex).epDesc

theorem takeAll_block (narrow : limits.Narrow) (block : Block)
    (room : table.itfIndex < limits.interfaceDescMaxNum)
    (endpoints : block.endpoints.length ≤ limits.endpointDescMaxNum) :
    table.Took limits (table.takeAll limits block.descs) block := by
  have stored := take_interface narrow block.isInterface room
  rw [Block.descs, takeAll_cons]
  have copied : ∀ offset < 9, copyBuffer (table.interfaces table.itfIndex).itfDesc
      (fun offset => block.itf.bytes.getD offset 0) 9 offset = block.itf.bytes.getD offset 0 :=
    fun offset inside => if_pos inside
  by_cases few : table.itfIndex + 1 < limits.interfaceDescMaxNum
  · have filled : (table.take limits block.itf).Filled
        ((table.take limits block.itf).takeAll limits block.rest) block.endpoints :=
      takeAll_filled narrow block.noInterface (by rw [stored]; exact Nat.succ_pos _)
        (by rw [stored]; exact few) (by rw [stored, Nat.zero_add]; exact endpoints)
    rw [stored] at filled ⊢
    obtain ⟨itfIndex, others, itfDesc, -, later⟩ := filled
    dsimp only at itfIndex others itfDesc later
    rw [Nat.add_sub_cancel, Function.update_self] at itfDesc
    rw [Nat.add_sub_cancel] at later
    refine ⟨itfIndex, fun itfNum apart => ?_, fun offset inside => ?_, fun _ => ?_, fun full => ?_⟩
    · rw [others itfNum (by omega), Function.update_of_ne apart]
    · rw [itfDesc]
      exact copied offset inside
    · intro epNum found offset inside
      have here := later epNum found offset inside
      rw [Nat.zero_add] at here
      exact here
    · omega
  · have full : table.itfIndex + 1 = limits.interfaceDescMaxNum := by omega
    rw [stored, takeAll_passed block.noInterface (.inr full)]
    refine ⟨rfl, fun itfNum apart => Function.update_of_ne apart _ _, fun offset inside => ?_,
      fun below => absurd below few, fun _ => ?_⟩
    · dsimp only
      rw [Function.update_self]
      exact copied offset inside
    · dsimp only
      rw [Function.update_self]

structure TookAll (limits : Limits) (before after : Table) (blocks : List Block) : Prop where
  itfIndex : after.itfIndex = before.itfIndex + blocks.length
  others : ∀ itfNum, itfNum < before.itfIndex ∨ before.itfIndex + blocks.length ≤ itfNum →
    after.interfaces itfNum = before.interfaces itfNum
  interfaces : ∀ count (found : count < blocks.length),
    HoldsInterface (after.interfaces (before.itfIndex + count)) blocks[count].itf
  endpoints : ∀ count (found : count < blocks.length),
    before.itfIndex + count + 1 < limits.interfaceDescMaxNum →
      HoldsEndpoints (after.interfaces (before.itfIndex + count)) blocks[count].endpoints
  last : ∀ count < blocks.length, before.itfIndex + count + 1 = limits.interfaceDescMaxNum →
    (after.interfaces (before.itfIndex + count)).epDesc =
      (before.interfaces (before.itfIndex + count)).epDesc

theorem takeAll_blocks (narrow : limits.Narrow) (blocks : List Block)
    (room : table.itfIndex + blocks.length ≤ limits.interfaceDescMaxNum)
    (endpoints : ∀ block ∈ blocks, block.endpoints.length ≤ limits.endpointDescMaxNum) :
    table.TookAll limits (table.takeAll limits (blocks.flatMap Block.descs)) blocks := by
  induction blocks generalizing table with
  | nil =>
    exact ⟨rfl, fun _ _ => rfl, fun _ found => absurd found (Nat.not_lt_zero _),
      fun _ found => absurd found (Nat.not_lt_zero _),
      fun _ found => absurd found (Nat.not_lt_zero _)⟩
  | cons block blocks ih =>
    rw [List.length_cons] at room
    rw [List.flatMap_cons, takeAll_append]
    have took : table.Took limits (table.takeAll limits block.descs) block :=
      takeAll_block narrow block (by omega) (endpoints block (List.mem_cons_self ..))
    generalize table.takeAll limits block.descs = middle at took
    have index := took.itfIndex
    have rest : middle.TookAll limits (middle.takeAll limits (blocks.flatMap Block.descs)) blocks :=
      ih (by omega) fun block member => endpoints block (List.mem_cons_of_mem _ member)
    generalize middle.takeAll limits (blocks.flatMap Block.descs) = after at rest
    have here : after.interfaces table.itfIndex = middle.interfaces table.itfIndex :=
      rest.others _ (.inl (by omega))
    have shift : ∀ count, table.itfIndex + (count + 1) = middle.itfIndex + count := by omega
    refine ⟨?_, fun itfNum outside => ?_, fun count found => ?_, fun count found below => ?_,
      fun count found full => ?_⟩
    · rw [rest.itfIndex, index, List.length_cons]
      omega
    · rw [List.length_cons] at outside
      rw [rest.others itfNum (by omega), took.others itfNum (by omega)]
    · cases count with
      | zero => exact here ▸ took.interface
      | succ count =>
        rw [shift]
        exact rest.interfaces count (Nat.lt_of_succ_lt_succ found)
    · cases count with
      | zero => exact here ▸ took.endpoints below
      | succ count =>
        rw [shift] at below ⊢
        exact rest.endpoints count (Nat.lt_of_succ_lt_succ found) below
    · cases count with
      | zero => exact (congrArg Interface.epDesc here).trans (took.last full)
      | succ count =>
        rw [shift] at full ⊢
        rw [rest.last count (Nat.lt_of_succ_lt_succ found) full, took.others _ (by omega)]

end Table

/-! ## The whole configuration -/

section

variable {limits : Limits} {set : CfgSet} {parseBuf old : Nat → Byte}
  {interfaces : Nat → Interface}

theorem CfgSet.Received.header (received : set.Received parseBuf) {offset : Nat}
    (inside : offset < 9) : parseBuf offset = set.header.getD offset 0 := by
  have nine := set.nine
  have below : offset < set.bytes.length := by
    rw [CfgSet.bytes, List.length_append]
    omega
  rw [received offset below, CfgSet.bytes, List.getD_append _ _ _ _ (by omega)]

theorem CfgSet.Received.start_at (received : set.Received parseBuf) :
    (Parse.start parseBuf old interfaces).At set.descs := by
  constructor
  · rw [Parse.start, Parser.totalLen]
    dsimp only
    rw [received.header (by decide), received.header (by decide), set.total, CfgSet.descs]
  · intro offset inside
    have nine := set.nine
    have below : 9 + offset < set.bytes.length := by
      rw [CfgSet.bytes, List.length_append]
      omega
    rw [Parse.start, Parser.desc]
    dsimp only
    rw [received _ below, CfgSet.bytes, List.getD_append_right _ _ _ _ (by omega), nine,
      Nat.add_sub_cancel_left]

/-- What the loop leaves of a well-formed configuration: all of it but the endpoints of the
interface that fills the table. -/
theorem parse_roomy (narrow : limits.Narrow) (roomy : set.Roomy limits)
    (received : set.Received parseBuf) (old : Nat → Byte) (interfaces : Nat → Interface) :
    ∃ fuel final, parseCfgDesc limits fuel parseBuf old interfaces = some final ∧
      final.configuration = copyBuffer old parseBuf 9 ∧
      Table.TookAll limits ⟨interfaces, 0, 0⟩ final.table set.blocks := by
  have here : (Parse.start parseBuf old interfaces).At set.descs := received.start_at
  obtain ⟨final, ended, table, configuration⟩ := Parse.loop_table here (Nat.lt_succ_self _)
  refine ⟨_, final, ended, configuration, ?_⟩
  have begins : (Parse.start parseBuf old interfaces).table = ⟨interfaces, 0, 0⟩ := rfl
  rw [begins, CfgSet.descs, Table.takeAll_append,
    Table.takeAll_passed set.noInterface (.inl rfl)] at table
  rw [table]
  refine Table.takeAll_blocks narrow set.blocks ?_ roomy.endpoints
  rw [Nat.zero_add]
  exact roomy.interfaces

theorem spared_of_correct (narrow : limits.Narrow) (roomy : set.Roomy limits)
    (received : set.Received parseBuf) {fuel : Nat} {final : Parse}
    (ended : parseCfgDesc limits fuel parseBuf old interfaces = some final)
    (correct : final.Correct set) : set.Spared limits interfaces := by
  intro itfNum found full
  obtain ⟨_, other, same, _, took⟩ := parse_roomy narrow roomy received old interfaces
  obtain rfl := Parse.loop_unique ended same
  have kept := took.last itfNum found (by rw [Nat.zero_add]; exact full)
  rw [Nat.zero_add] at kept
  have holds := correct.endpoints itfNum found
  rw [HoldsEndpoints, show (final.interfaces itfNum).epDesc = _ from kept] at holds
  exact holds

theorem correct_of_spared (narrow : limits.Narrow) (roomy : set.Roomy limits)
    (received : set.Received parseBuf) (old : Nat → Byte) (spared : set.Spared limits interfaces) :
    ∃ fuel final, parseCfgDesc limits fuel parseBuf old interfaces = some final ∧
      final.Correct set := by
  obtain ⟨fuel, final, ended, configuration, took⟩ :=
    parse_roomy narrow roomy received old interfaces
  refine ⟨fuel, final, ended, fun offset inside => ?_, fun itfNum found => ?_,
    fun itfNum found => ?_⟩
  · rw [configuration, copyBuffer, if_pos inside, received.header inside]
  · have holds := took.interfaces itfNum found
    rwa [Nat.zero_add] at holds
  · have room := roomy.interfaces
    by_cases full : itfNum + 1 = limits.interfaceDescMaxNum
    · have kept := took.last itfNum found (by rw [Nat.zero_add]; exact full)
      rw [Nat.zero_add] at kept
      rw [HoldsEndpoints, show (final.interfaces itfNum).epDesc = _ from kept]
      exact spared itfNum found full
    · have holds := took.endpoints itfNum found (by rw [Nat.zero_add]; omega)
      rwa [Nat.zero_add] at holds

end

/-- A well-formed configuration is parsed correctly exactly when the endpoints of the interface
that fills the table are not missed. -/
theorem parse_correct_iff (limits : Limits) (narrow : limits.Narrow) (set : CfgSet)
    (roomy : set.Roomy limits) (parseBuf old : Nat → Byte) (interfaces : Nat → Interface)
    (received : set.Received parseBuf) :
    (∃ fuel final, parseCfgDesc limits fuel parseBuf old interfaces = some final ∧
      final.Correct set) ↔ set.Spared limits interfaces :=
  ⟨fun ⟨_, _, ended, correct⟩ => spared_of_correct narrow roomy received ended correct,
    fun spared => correct_of_spared narrow roomy received old spared⟩

def endpointDesc (epAddr : Byte) : Desc where
  bytes := [7, 5, epAddr, 2, 0x40, 0, 0]
  two := by simp
  sized := rfl
  interface := by simp
  endpoint := by simp

def interfaceDesc (number count : Byte) : Desc where
  bytes := [9, 4, number, 0, count, 8, 6, 0x50, 0]
  two := by simp
  sized := rfl
  interface := by simp
  endpoint := by simp

-- The blocks of `storageConfiguration`.
def storageSet : CfgSet where
  header := [9, 2, 32, 0, 1, 1, 0, 0x80, 50]
  leading := []
  blocks := [⟨interfaceDesc 0 2, [endpointDesc 0x81, endpointDesc 0x02], rfl, by decide⟩]
  nine := rfl
  noInterface := by simp
  total := by decide

theorem storageSet_correct : ∃ fuel final,
    parseCfgDesc usualLimits fuel (fun offset => storageSet.bytes.getD offset 0) (fun _ => 0)
      emptyTable = some final ∧ final.Correct storageSet :=
  (parse_correct_iff usualLimits usualLimits_narrow storageSet
    ⟨by decide, by decide⟩ _ (fun _ => 0) emptyTable fun _ _ => rfl).mpr
    fun itfNum found full => absurd found (by rw [Nat.succ.inj full]; decide)

def oneEndpoint (number : Byte) : Block :=
  ⟨interfaceDesc number 1, [endpointDesc (0x81 + number)], rfl, by simp [endpointDesc, Desc.type]⟩

-- Four interfaces fill a table of four.
def fourInterfaces : CfgSet where
  header := [9, 2, 73, 0, 4, 1, 0, 0x80, 50]
  leading := []
  blocks := [oneEndpoint 0, oneEndpoint 1, oneEndpoint 2, oneEndpoint 3]
  nine := rfl
  noInterface := by simp
  total := by decide

theorem last_endpoint_missed : ¬ ∀ (set : CfgSet) (parseBuf old : Nat → Byte)
    (interfaces : Nat → Interface), set.Roomy usualLimits → set.Received parseBuf →
      ∃ fuel final, parseCfgDesc usualLimits fuel parseBuf old interfaces = some final ∧
        final.Correct set := by
  intro always
  have roomy : fourInterfaces.Roomy usualLimits := ⟨by decide, by decide⟩
  obtain ⟨fuel, final, ended, correct⟩ := always fourInterfaces
    (fun offset => fourInterfaces.bytes.getD offset 0) (fun _ => 0) emptyTable roomy fun _ _ => rfl
  have spared := spared_of_correct usualLimits_narrow roomy (fun _ _ => rfl) ended correct
  have first := spared 3 (by decide) rfl 0 (by decide) 0 (by decide)
  exact absurd first (by decide)

end ApmSdk.Usbh
