import ApmSdk.Lib.Slots
import ApmSdk.Usbh.Channel
import ApmSdk.Usbh.Descriptors

set_option autoImplicit false

/-!
# The table of host channels

Allocation, release and lookup of `usbh_channel.c` over any sequence of calls.
-/

namespace ApmSdk.Usbh

open Runs Slots
open Usbd (Byte)

/-- `USBH_XferPipe_T`; `buf` is an address, and `used` says that `channelUsedFlag` is
`USBH_CHANNEL_USED`. -/
structure PipeEntry where
  buf : BitVec 32
  bufLen : BitVec 32
  bufCount : BitVec 32
  enbalePing : Byte
  urbStatus : UrbStatus
  pipeState : PipeState
  pidToggle : Byte
  used : Bool
  epAddr : Byte
  dataPid : Byte
  dir : Byte
  maxPackSize : BitVec 16
  deriving DecidableEq

-- What `USBH_CH_FreeChannel` leaves, and the static initialisation.
def PipeEntry.cleared : PipeEntry :=
  ⟨0, 0, 0, 0, .idle, .ok, 0, false, 0, 0, 0, 0⟩

-- `xferPipe[]`, of `HOST_CHANNEL_NUM` entries.
abbrev Pipes := Nat → PipeEntry

namespace Pipes

def owners (pipes : Pipes) : Nat → Option Byte :=
  fun chNum => if (pipes chNum).used then some (pipes chNum).epAddr else none

-- `USBH_CH_ReadFreeChannelNum`.
def readFreeChannelNum (pipes : Pipes) : Int :=
  match firstFree channelMaxNum pipes.owners with
  | some chNum => chNum
  | none => -1

def allocChannel (pipes : Pipes) (epAddr : Byte) : Pipes × Int :=
  let chNum := pipes.readFreeChannelNum
  if 0 ≤ chNum then
    (Function.update pipes chNum.toNat
      { pipes chNum.toNat with used := true, epAddr := epAddr }, chNum)
  else (pipes, chNum)

def freeChannel (pipes : Pipes) (chNum : Nat) : Pipes :=
  Function.update pipes chNum PipeEntry.cleared

-- `for (i = 0; i < HOST_CHANNEL_NUM; i++)`.
def freeAllChannel (pipes : Pipes) : Pipes :=
  (List.range hostChannelNum).foldl freeChannel pipes

/-- The loop of `USBH_ReadEpAddrChannel` from `chNum`, for at most `fuel` rounds: what it returns
and the entries it looks at. -/
def search (pipes : Pipes) (epAddr : Byte) : (fuel chNum : Nat) → Option (Nat × List Nat)
  | 0, _ => none
  | fuel + 1, chNum =>
      if (pipes chNum).used ∧ (pipes chNum).epAddr = epAddr then some (chNum, [chNum])
      else if channelMaxNum < chNum + 1 then some (0xFF, [chNum])
      else (search pipes epAddr fuel (chNum + 1)).map fun found => (found.1, chNum :: found.2)

-- `channelMaxNum + 1` rounds are enough.
def readEpAddrChannel (pipes : Pipes) (epAddr : Byte) : Option (Nat × List Nat) :=
  pipes.search epAddr (channelMaxNum + 1) 0

end Pipes

inductive ChannelCall where
  | alloc (epAddr : Byte)
  | free (chNum : Nat)
  | freeAll
  | readEpAddr (epAddr : Byte)
  deriving DecidableEq, Repr

/-- The table, with the channels that allocations have returned and that are not freed since. -/
structure ChannelTable where
  xferPipe : Pipes
  live : List (Nat × Byte)

namespace ChannelTable

def numbers (table : ChannelTable) : List Nat := table.live.map Prod.fst

def initial : ChannelTable := ⟨fun _ => PipeEntry.cleared, []⟩

def step (table : ChannelTable) : ChannelCall → Option ChannelTable
  | .alloc epAddr =>
      let alloc := table.xferPipe.allocChannel epAddr
      some ⟨alloc.1, if 0 ≤ alloc.2 then table.live ++ [(alloc.2.toNat, epAddr)] else table.live⟩
  | .free chNum =>
      some ⟨table.xferPipe.freeChannel chNum, table.live.filter fun held => held.1 ≠ chNum⟩
  | .freeAll => some ⟨table.xferPipe.freeAllChannel, []⟩
  | .readEpAddr _ => some table

/-- Only allocated channels are freed. -/
def Admits (table : ChannelTable) (call : ChannelCall) : Prop :=
  ∀ chNum, call = .free chNum → chNum ∈ table.numbers

/-! ## What has to hold -/

structure Distinct (table : ChannelTable) : Prop where
  nodup : table.numbers.Nodup
  below : ∀ chNum ∈ table.numbers, chNum < channelMaxNum

-- An allocation can return the channel.
def Available (pipes : Pipes) (chNum : Nat) : Prop :=
  chNum < channelMaxNum ∧ (pipes chNum).used = false

def Full (table : ChannelTable) : Prop := ∀ chNum < channelMaxNum, chNum ∈ table.numbers

structure AllocRight (table : ChannelTable) (after : Pipes) (returned : Int) : Prop where
  fails_iff : returned = -1 ↔ table.Full
  failed : returned = -1 → after = table.xferPipe
  granted : returned ≠ -1 → ∃ chNum : Nat, returned = chNum ∧ chNum < channelMaxNum ∧
    chNum ∉ table.numbers

structure FreeRight (table : ChannelTable) (after : Pipes) (chNum : Nat) : Prop where
  available : ∀ other, Available after other ↔ other = chNum ∨ Available table.xferPipe other
  others : ∀ other, other ≠ chNum → after other = table.xferPipe other

/-- The lowest allocated channel with the address. -/
def Lowest (table : ChannelTable) (epAddr : Byte) (chNum : Nat) : Prop :=
  (chNum, epAddr) ∈ table.live ∧ ∀ other, (other, epAddr) ∈ table.live → chNum ≤ other

structure ReadRight (table : ChannelTable) (epAddr : Byte) (returned : Nat)
    (consulted : List Nat) : Prop where
  found : returned ≠ 0xFF → table.Lowest epAddr returned
  missing : returned = 0xFF ↔ ∀ chNum, (chNum, epAddr) ∉ table.live
  inside : ∀ chNum ∈ consulted, chNum < channelMaxNum

/-- What a call has to do. -/
def Right (table : ChannelTable) : ChannelCall → Prop
  | .alloc epAddr =>
      table.AllocRight (table.xferPipe.allocChannel epAddr).1
        (table.xferPipe.allocChannel epAddr).2
  | .free chNum => table.FreeRight (table.xferPipe.freeChannel chNum) chNum
  | .freeAll => ∀ chNum < channelMaxNum, Available table.xferPipe.freeAllChannel chNum
  | .readEpAddr epAddr => ∃ returned consulted,
      table.xferPipe.readEpAddrChannel epAddr = some (returned, consulted) ∧
        table.ReadRight epAddr returned consulted

/-- A lookup is for the address of an allocated channel. -/
def Finds (table : ChannelTable) (call : ChannelCall) : Prop :=
  ∀ epAddr, call = .readEpAddr epAddr → ∃ chNum, (chNum, epAddr) ∈ table.live

/-! ## The invariant -/

/-- The flags and addresses of the entries are those of the channels that are held. -/
structure Sound (table : ChannelTable) : Prop extends table.Distinct where
  entries : ∀ chNum epAddr, (chNum, epAddr) ∈ table.live ↔
    (table.xferPipe chNum).used = true ∧ (table.xferPipe chNum).epAddr = epAddr

variable {table : ChannelTable}

theorem initial_sound : initial.Sound :=
  ⟨⟨List.nodup_nil, fun _ member => absurd member List.not_mem_nil⟩,
    fun _ _ => by simp [initial, PipeEntry.cleared]⟩

theorem Sound.mem_numbers (sound : table.Sound) (chNum : Nat) :
    chNum ∈ table.numbers ↔ (table.xferPipe chNum).used = true := by
  simp [numbers, sound.entries]

theorem Sound.owners_none (sound : table.Sound) (chNum : Nat) :
    table.xferPipe.owners chNum = none ↔ chNum ∉ table.numbers := by
  rw [sound.mem_numbers, Pipes.owners]
  cases (table.xferPipe chNum).used <;> simp

theorem readFreeChannelNum_cases (pipes : Pipes) :
    (∃ chNum, pipes.readFreeChannelNum = (chNum : Nat) ∧ chNum < channelMaxNum ∧
      pipes.owners chNum = none) ∨
    (pipes.readFreeChannelNum = -1 ∧ ∀ chNum < channelMaxNum, pipes.owners chNum ≠ none) := by
  unfold Pipes.readFreeChannelNum
  cases found : firstFree channelMaxNum pipes.owners with
  | some chNum => exact .inl ⟨chNum, rfl, firstFree_lt found, firstFree_free found⟩
  | none =>
    refine .inr ⟨rfl, fun chNum below => ?_⟩
    have empty := firstFree_eq_none.mp found
    rw [freeCount, Finset.card_eq_zero] at empty
    intro open_
    have member : chNum ∈ Slots.free channelMaxNum pipes.owners := mem_free.mpr ⟨below, open_⟩
    rw [empty] at member
    simp at member

theorem allocChannel_cases (pipes : Pipes) (epAddr : Byte) :
    (∃ chNum : Nat, chNum < channelMaxNum ∧ pipes.owners chNum = none ∧
      pipes.allocChannel epAddr = (Function.update pipes chNum
        { pipes chNum with used := true, epAddr := epAddr }, (chNum : Int))) ∨
    (pipes.allocChannel epAddr = (pipes, -1) ∧
      ∀ chNum < channelMaxNum, pipes.owners chNum ≠ none) := by
  rcases readFreeChannelNum_cases pipes with ⟨chNum, number, below, open_⟩ | ⟨number, full⟩
  · refine .inl ⟨chNum, below, open_, ?_⟩
    simp only [Pipes.allocChannel, number]
    rw [if_pos (Int.natCast_nonneg chNum), Int.toNat_natCast]
  · refine .inr ⟨?_, full⟩
    simp only [Pipes.allocChannel, number]
    rw [if_neg (by decide)]

theorem freeChannels_below (pipes : Pipes) (count chNum : Nat) :
    (List.range count).foldl Pipes.freeChannel pipes chNum =
      if chNum < count then PipeEntry.cleared else pipes chNum := by
  induction count with
  | zero => simp
  | succ count ih =>
    rw [List.range_succ, List.foldl_append, List.foldl_cons, List.foldl_nil, Pipes.freeChannel]
    by_cases last : chNum = count
    · subst last
      simp
    · have same : chNum < count + 1 ↔ chNum < count := by omega
      rw [Function.update_of_ne last, ih]
      simp only [same]

theorem freeAllChannel_below (pipes : Pipes) {chNum : Nat} (below : chNum < channelMaxNum) :
    pipes.freeAllChannel chNum = PipeEntry.cleared := by
  have inside : chNum < hostChannelNum := Nat.lt_trans below (by decide)
  rw [Pipes.freeAllChannel, freeChannels_below, if_pos inside]

theorem Sound.unused (sound : table.Sound) {chNum : Nat} (beyond : channelMaxNum ≤ chNum) :
    (table.xferPipe chNum).used = false := by
  by_contra set
  have held := (sound.mem_numbers chNum).mpr (by simpa using set)
  exact absurd (sound.below chNum held) (Nat.not_lt.mpr beyond)

theorem Sound.freeAll (sound : table.Sound) (chNum : Nat) :
    (table.xferPipe.freeAllChannel chNum).used = false := by
  by_cases below : chNum < channelMaxNum
  · rw [freeAllChannel_below _ below]
    rfl
  · rw [Pipes.freeAllChannel, freeChannels_below]
    by_cases inside : chNum < hostChannelNum
    · rw [if_pos inside]
      rfl
    · rw [if_neg inside]
      exact sound.unused (Nat.not_lt.mp below)

theorem Sound.alloc (sound : table.Sound) {chNum : Nat} (epAddr : Byte)
    (below : chNum < channelMaxNum) (free : chNum ∉ table.numbers) :
    Sound ⟨Function.update table.xferPipe chNum
      { table.xferPipe chNum with used := true, epAddr := epAddr },
      table.live ++ [(chNum, epAddr)]⟩ where
  nodup := by
    rw [numbers, List.map_append]
    refine List.nodup_append.mpr ⟨sound.nodup, List.nodup_singleton _, ?_⟩
    rintro held old _ last rfl
    rw [List.mem_singleton.mp last] at old
    exact free old
  below := by
    intro held member
    rw [numbers, List.map_append] at member
    rcases List.mem_append.mp member with old | last
    · exact sound.below held old
    · rw [List.mem_singleton.mp last]
      exact below
  entries := by
    intro other address
    rw [List.mem_append, List.mem_singleton, Prod.mk.injEq, sound.entries]
    by_cases same : other = chNum
    · subst same
      have unused : ¬ ((table.xferPipe other).used = true ∧
          (table.xferPipe other).epAddr = address) := fun set =>
        free ((sound.mem_numbers other).mpr set.1)
      simp only [or_iff_right unused, Function.update_self, true_and]
      exact eq_comm
    · simp only [same, false_and, or_false, Function.update_of_ne same]

theorem Sound.free (sound : table.Sound) (chNum : Nat) :
    Sound ⟨table.xferPipe.freeChannel chNum,
      table.live.filter fun held => held.1 ≠ chNum⟩ where
  nodup := sound.nodup.sublist (List.filter_sublist.map _)
  below := fun held member => sound.below held ((List.filter_sublist.map _).subset member)
  entries := by
    intro other address
    rw [List.mem_filter, sound.entries]
    by_cases same : other = chNum
    · subst same
      simp [Pipes.freeChannel, PipeEntry.cleared]
    · simp [Pipes.freeChannel, same]

theorem step_sound {call : ChannelCall} {after : ChannelTable} (sound : table.Sound)
    (taken : table.step call = some after) : after.Sound := by
  cases call with
  | alloc epAddr =>
    obtain rfl := Option.some.inj taken
    rcases allocChannel_cases table.xferPipe epAddr with ⟨chNum, below, open_, alloc⟩ | ⟨alloc, -⟩
    · have nonneg : (0 : Int) ≤ (chNum : Int) := Int.natCast_nonneg chNum
      simp only [alloc, nonneg, if_true, Int.toNat_natCast]
      exact sound.alloc epAddr below ((sound.owners_none chNum).mp open_)
    · have negative : ¬ (0 : Int) ≤ -1 := by decide
      simp only [alloc, negative, if_false]
      exact sound
  | free chNum =>
    obtain rfl := Option.some.inj taken
    exact sound.free chNum
  | freeAll =>
    obtain rfl := Option.some.inj taken
    refine ⟨⟨List.nodup_nil, fun _ member => absurd member List.not_mem_nil⟩, ?_⟩
    intro chNum epAddr
    simp [sound.freeAll]
  | readEpAddr epAddr =>
    obtain rfl := Option.some.inj taken
    exact sound

/-! ## The calls -/

theorem Sound.alloc_right (sound : table.Sound) (epAddr : Byte) :
    table.Right (.alloc epAddr) := by
  rcases allocChannel_cases table.xferPipe epAddr with ⟨chNum, below, open_, alloc⟩ | ⟨alloc, full⟩
  · have free := (sound.owners_none chNum).mp open_
    have granted : (chNum : Int) ≠ -1 := by omega
    rw [Right, alloc]
    exact ⟨⟨fun failed => absurd failed granted, fun all => absurd (all chNum below) free⟩,
      fun failed => absurd failed granted, fun _ => ⟨chNum, rfl, below, free⟩⟩
  · rw [Right, alloc]
    refine ⟨⟨fun _ chNum below => ?_, fun _ => rfl⟩, fun _ => rfl,
      fun granted => absurd rfl granted⟩
    by_contra free
    exact full chNum below ((sound.owners_none chNum).mpr free)

theorem Sound.free_right (sound : table.Sound) {chNum : Nat} (held : chNum ∈ table.numbers) :
    table.Right (.free chNum) := by
  constructor
  · intro other
    by_cases same : other = chNum
    · subst same
      simp [Available, Pipes.freeChannel, PipeEntry.cleared, sound.below other held]
    · simp [Available, Pipes.freeChannel, same]
  · exact fun other apart => Function.update_of_ne apart _ _

/-- The loop stops at the lowest entry that fits, or it looks at all up to `channelMaxNum`. -/
theorem search_cases (pipes : Pipes) (epAddr : Byte) {fuel chNum : Nat}
    (rounds : chNum + fuel = channelMaxNum + 1) (more : 0 < fuel) :
    ∃ returned consulted, pipes.search epAddr fuel chNum = some (returned, consulted) ∧
      (((pipes returned).used = true ∧ (pipes returned).epAddr = epAddr ∧
          chNum ≤ returned ∧ returned ≤ channelMaxNum ∧ (∀ other, chNum ≤ other →
            other < returned → ¬ ((pipes other).used = true ∧ (pipes other).epAddr = epAddr)) ∧
          ∀ other ∈ consulted, other ≤ returned) ∨
        (returned = 0xFF ∧ channelMaxNum ∈ consulted ∧ ∀ other, chNum ≤ other →
          other ≤ channelMaxNum →
            ¬ ((pipes other).used = true ∧ (pipes other).epAddr = epAddr))) := by
  induction fuel generalizing chNum with
  | zero => cases more
  | succ fuel ih =>
    rw [Pipes.search]
    by_cases fits : (pipes chNum).used = true ∧ (pipes chNum).epAddr = epAddr
    · refine ⟨chNum, [chNum], if_pos fits, .inl ⟨fits.1, fits.2, Nat.le_refl _, by omega, ?_, ?_⟩⟩
      · intro other from_ below
        omega
      · intro other member
        rw [List.mem_singleton.mp member]
    · rw [if_neg fits]
      by_cases last : channelMaxNum < chNum + 1
      · have here : chNum = channelMaxNum := by omega
        refine ⟨0xFF, [chNum], if_pos last, .inr ⟨rfl, by rw [here]; simp, ?_⟩⟩
        intro other from_ below
        have same : other = chNum := by omega
        rw [same]
        exact fits
      · rw [if_neg last]
        have left : chNum + 1 + fuel = channelMaxNum + 1 := by omega
        obtain ⟨returned, consulted, found, outcome⟩ := ih left (by omega)
        refine ⟨returned, chNum :: consulted, by rw [found]; rfl, ?_⟩
        have still : ∀ other, chNum ≤ other → other < chNum + 1 →
            ¬ ((pipes other).used = true ∧ (pipes other).epAddr = epAddr) := by
          intro other from_ below
          have same : other = chNum := by omega
          rw [same]
          exact fits
        rcases outcome with ⟨used, address, from_, below, lowest, seen⟩ | ⟨missing, seen, none⟩
        · refine .inl ⟨used, address, by omega, below, fun other first second => ?_, ?_⟩
          · by_cases early : other < chNum + 1
            · exact still other first early
            · exact lowest other (by omega) second
          · intro other member
            rcases List.mem_cons.mp member with rfl | later
            · omega
            · exact seen other later
        · refine .inr ⟨missing, List.mem_cons_of_mem _ seen, fun other first second => ?_⟩
          by_cases early : other < chNum + 1
          · exact still other first early
          · exact none other (by omega) second

theorem Sound.read_right_iff (sound : table.Sound) (epAddr : Byte) :
    table.Right (.readEpAddr epAddr) ↔ ∃ chNum, (chNum, epAddr) ∈ table.live := by
  obtain ⟨returned, consulted, found, outcome⟩ :=
    search_cases table.xferPipe epAddr (Nat.zero_add _) (Nat.succ_pos channelMaxNum)
  have only : ∀ other, (other, epAddr) ∈ table.live → other < channelMaxNum := fun other held =>
    sound.below other (List.mem_map.mpr ⟨_, held, rfl⟩)
  constructor
  · rintro ⟨other, seen, same, right⟩
    obtain ⟨rfl, rfl⟩ := Prod.mk.inj (Option.some.inj (found.symm.trans same))
    rcases outcome with ⟨used, address, -⟩ | ⟨-, last, -⟩
    · exact ⟨returned, (sound.entries _ _).mpr ⟨used, address⟩⟩
    · exact absurd (right.inside _ last) (Nat.lt_irrefl _)
  · rintro ⟨chNum, held⟩
    refine ⟨returned, consulted, found, ?_⟩
    rcases outcome with ⟨used, address, -, -, lowest, seen⟩ | ⟨-, -, none⟩
    · have live : (returned, epAddr) ∈ table.live := (sound.entries _ _).mpr ⟨used, address⟩
      have below := only returned live
      refine ⟨fun _ => ⟨live, fun other held => ?_⟩, ⟨fun missing => ?_, fun missing => ?_⟩, ?_⟩
      · by_contra early
        exact lowest other (Nat.zero_le _) (by omega) ((sound.entries _ _).mp held)
      · rw [missing] at below
        exact absurd below (by decide)
      · exact absurd live (missing returned)
      · exact fun other member => Nat.lt_of_le_of_lt (seen other member) below
    · exact absurd ((sound.entries _ _).mp held)
        (none chNum (Nat.zero_le _) (Nat.le_of_lt (only chNum held)))

theorem Sound.right_iff (sound : table.Sound) {call : ChannelCall} (admitted : table.Admits call) :
    table.Right call ↔ table.Finds call := by
  cases call with
  | alloc epAddr => exact iff_of_true (sound.alloc_right epAddr) fun _ other => by cases other
  | free chNum =>
    exact iff_of_true (sound.free_right (admitted chNum rfl)) fun _ other => by cases other
  | freeAll =>
    exact iff_of_true (fun chNum below => ⟨below, sound.freeAll chNum⟩)
      fun _ other => by cases other
  | readEpAddr epAddr =>
    rw [sound.read_right_iff]
    exact ⟨fun found _ same => ChannelCall.readEpAddr.inj same ▸ found, fun finds => finds _ rfl⟩

/-- In every run the channels stay distinct, and a call does what it has to exactly when it is not
a lookup for an address that no channel has. -/
theorem channel_table_exact {calls : List ChannelCall} {table : ChannelTable}
    (run : Run step Admits initial calls table) :
    table.Distinct ∧ ∀ call, table.Admits call → (table.Right call ↔ table.Finds call) := by
  have sound : table.Sound :=
    run.invariant Sound initial_sound fun _ _ _ sound _ taken => step_sound sound taken
  exact ⟨sound.toDistinct, fun call admitted => sound.right_iff admitted⟩

-- Eight allocations fill the table; the lookup is for the last of them.
def eightCalls : List ChannelCall :=
  [.alloc 0, .alloc 0x80, .alloc 0x81, .alloc 0x02, .alloc 0x83, .alloc 0x04, .free 2,
    .alloc 0x85, .alloc 0x06, .alloc 0x87]

instance (table : ChannelTable) (call : ChannelCall) : Decidable (table.Admits call) :=
  match call with
  | .free chNum => decidable_of_iff (chNum ∈ table.numbers)
      ⟨fun held _ same => ChannelCall.free.inj same ▸ held, fun admitted => admitted _ rfl⟩
  | .alloc _ => isTrue fun _ other => by cases other
  | .freeAll => isTrue fun _ other => by cases other
  | .readEpAddr _ => isTrue fun _ other => by cases other

theorem eightCalls_accepted : (execute step Admits initial eightCalls).isSome = true := by
  decide +kernel

def fullTable : ChannelTable := final step Admits initial eightCalls eightCalls_accepted

theorem fullTable_found : fullTable.Right (.readEpAddr 0x87) :=
  ((channel_table_exact (Run.final step Admits initial eightCalls eightCalls_accepted)).2
    (.readEpAddr 0x87) fun _ other => by cases other).mpr
    fun _ same => ⟨7, by rw [← ChannelCall.readEpAddr.inj same]; decide +kernel⟩

theorem lookup_past_table : ¬ ∀ calls table, Run step Admits initial calls table →
    ∀ call, table.Admits call → table.Right call := by
  intro always
  have right := always [] initial .nil (.readEpAddr 0x81) fun _ other => by cases other
  obtain ⟨chNum, held⟩ := (initial_sound.read_right_iff 0x81).mp right
  cases held

end ChannelTable

end ApmSdk.Usbh
