import ApmSdk.Usbh.Descriptors

set_option autoImplicit false

/-!
# Class initialisation on arbitrary descriptors

The accesses that are in order, and exactly which descriptors and free channels make the
initialisation of a class driver, and the transfers after it, keep to them.
-/

namespace ApmSdk.Usbh

open Runs Slots
open Usbd (Byte)

/-! ## What has to hold -/

def Access.Sound (limits : Limits) : Access → Prop
  | .itf index => index < limits.interfaceDescMaxNum
  | .endpoint index => index < limits.endpointDescMaxNum
  | .channel number holder owner => number < channelMaxNum ∧ owner = some holder
  | .freed number => number < hostChannelNum
  | .division maxPackSize => maxPackSize ≠ 0

namespace Bus

def Sound (limits : Limits) (bus : Bus) : Prop := ∀ access ∈ bus.log, access.Sound limits

def freeChannels (bus : Bus) : Nat := freeCount channelMaxNum bus.owners

-- The number was returned by an allocation for `holder`.
def Holds (bus : Bus) (holder : Holder) (chNum : Nat) : Prop :=
  chNum < channelMaxNum ∧ bus.owners chNum = some holder

/-- The counts do not lead out of the arrays. -/
def CountsFit (limits : Limits) (driver : Driver) (bus : Bus) : Prop :=
  bus.bNumInterfaces ≤ limits.interfaceDescMaxNum ∧
    ∀ itfNum < bus.bNumInterfaces, driver.takes (bus.interfaces itfNum) = true →
      (bus.interfaces itfNum).bNumEndpoints ≤ limits.endpointDescMaxNum

/-- The endpoints of the interfaces that a driver takes, as its loops meet them. -/
def endpoints (driver : Driver) (bus : Bus) : List (Nat → Byte) :=
  (List.range bus.bNumInterfaces).reverse.flatMap fun itfNum =>
    if driver.takes (bus.interfaces itfNum) then
      (List.range (bus.interfaces itfNum).bNumEndpoints).reverse.map
        (bus.interfaces itfNum).epDesc
    else []

/-- The size that is left when MSC has met `seen`, which need not have an endpoint of the
direction. -/
def keptSize (bus : Bus) (dirIn : Bool) (seen : List (Nat → Byte)) : Nat :=
  ((seen.filter fun epDesc => EndpointDesc.isIn epDesc = dirIn).getLast?.map
    EndpointDesc.maxPackSize).getD (bus.data dirIn).epSize

/-- CDC meets a bulk endpoint of the direction, or has a channel for it from a previous
initialisation. -/
def Served (bus : Bus) (dirIn : Bool) (seen : List (Nat → Byte)) : Prop :=
  (∃ epDesc ∈ seen, EndpointDesc.isBulk epDesc = true ∧ EndpointDesc.isIn epDesc = dirIn) ∨
    bus.Holds (.data dirIn) (bus.data dirIn).chNum

def Suits (limits : Limits) (bus : Bus) : Driver → Prop
  | .msc =>
    bus.CountsFit limits .msc ∧ 2 ≤ bus.freeChannels ∧
      ∀ dirIn, bus.keptSize dirIn (bus.endpoints .msc) ≠ 0
  | .cdc =>
    bus.CountsFit limits .cdc ∧
      (bus.endpoints .cdc).countP EndpointDesc.isBulk ≤ bus.freeChannels ∧
      ∀ dirIn, bus.Served dirIn (bus.endpoints .cdc)
  | .hid => 1 ≤ bus.freeChannels

instance (limits : Limits) (driver : Driver) (bus : Bus) :
    Decidable (bus.CountsFit limits driver) :=
  inferInstanceAs (Decidable (_ ∧ _))

instance (bus : Bus) (holder : Holder) (chNum : Nat) : Decidable (bus.Holds holder chNum) :=
  inferInstanceAs (Decidable (_ ∧ _))

instance (bus : Bus) (dirIn : Bool) (seen : List (Nat → Byte)) :
    Decidable (bus.Served dirIn seen) :=
  inferInstanceAs (Decidable (_ ∨ _))

instance (limits : Limits) (bus : Bus) : (driver : Driver) → Decidable (bus.Suits limits driver)
  | .msc => inferInstanceAs (Decidable (_ ∧ _ ∧ _))
  | .cdc => inferInstanceAs (Decidable (_ ∧ _ ∧ _))
  | .hid => inferInstanceAs (Decidable (_ ≤ _))

end Bus

/-! ## The operations -/

namespace Bus

variable {limits : Limits} {driver : Driver} {bus : Bus}

@[simp] theorem sound_access {access : Access} :
    (bus.access access).Sound limits ↔ bus.Sound limits ∧ access.Sound limits := by
  simp [Sound, Bus.access, or_imp, forall_and]

theorem sound_of_log {other : Bus} (same : other.log = bus.log) :
    other.Sound limits ↔ bus.Sound limits := by
  rw [Sound, Sound, same]

theorem freeChannels_of_owners {other : Bus} (same : other.owners = bus.owners) :
    other.freeChannels = bus.freeChannels := by
  rw [freeChannels, same, freeChannels]

theorem holds_of_owners {other : Bus} {holder : Holder} {chNum : Nat}
    (same : other.owners = bus.owners) : other.Holds holder chNum ↔ bus.Holds holder chNum := by
  rw [Holds, same, Holds]

theorem sound_useChannel {holder : Holder} {chNum : Nat} :
    (bus.useChannel holder chNum).Sound limits ↔ bus.Sound limits ∧ bus.Holds holder chNum :=
  sound_access

theorem sound_enableChannelTransfer {transferLen maxPackSize : Nat} :
    (bus.enableChannelTransfer transferLen maxPackSize).Sound limits ↔
      bus.Sound limits ∧ (0 < transferLen → maxPackSize ≠ 0) := by
  unfold enableChannelTransfer
  by_cases moves : 0 < transferLen
  · simp [moves, Access.Sound]
  · simp [moves]

/-! Opening a channel changes its packet size only. -/

section Opening

variable (bus) (chNum maxPackSize : Nat)

@[simp] theorem openChannel_phase : (bus.openChannel chNum maxPackSize).phase = bus.phase := by
  unfold openChannel
  split <;> rfl

@[simp] theorem openChannel_owners : (bus.openChannel chNum maxPackSize).owners = bus.owners := by
  unfold openChannel
  split <;> rfl

@[simp] theorem openChannel_control :
    (bus.openChannel chNum maxPackSize).control = bus.control := by
  unfold openChannel
  split <;> rfl

@[simp] theorem openChannel_maxPackSize :
    (bus.openChannel chNum maxPackSize).maxPackSize = bus.maxPackSize := by
  unfold openChannel
  split <;> rfl

@[simp] theorem openChannel_data : (bus.openChannel chNum maxPackSize).data = bus.data := by
  unfold openChannel
  split <;> rfl

@[simp] theorem openChannel_log : (bus.openChannel chNum maxPackSize).log = bus.log := by
  unfold openChannel
  split <;> rfl

theorem openChannel_size (within : chNum < channelMaxNum) :
    ((bus.openChannel chNum maxPackSize).pipes chNum).maxPackSize = maxPackSize := by
  simp [openChannel, Nat.not_le.mpr within]

theorem openChannel_other {other : Nat} (differs : other ≠ chNum) :
    (bus.openChannel chNum maxPackSize).pipes other = bus.pipes other := by
  unfold openChannel
  split
  · rfl
  · exact Function.update_of_ne differs _ _

end Opening

/-! An allocation succeeds while a channel is free. -/

theorem allocChannel_some {holder : Holder} {epAddr : Byte} {chNum : Nat}
    (found : firstFree channelMaxNum bus.owners = some chNum) :
    bus.allocChannel holder epAddr =
      ({ bus with
          owners := Function.update bus.owners chNum (some holder)
          pipes := Function.update bus.pipes chNum { bus.pipes chNum with epAddr := epAddr } },
        chNum) := by
  simp [allocChannel, found]

theorem allocChannel_none {holder : Holder} {epAddr : Byte} (full : bus.freeChannels = 0) :
    bus.allocChannel holder epAddr = (bus, 0xFF) := by
  simp [allocChannel, firstFree_eq_none.mpr full]

/-- What an allocation leaves to everybody else. -/
structure Grants (before after : Bus) (holder : Holder) : Prop where
  held : ∀ chNum other, before.owners chNum = some other → after.owners chNum = some other
  others : ∀ chNum other, other ≠ holder → after.owners chNum = some other →
    before.owners chNum = some other
  free : after.freeChannels + 1 = before.freeChannels

theorem allocChannel_grants (holder : Holder) (epAddr : Byte) (room : 0 < bus.freeChannels) :
    bus.Grants (bus.allocChannel holder epAddr).1 holder ∧
      (bus.allocChannel holder epAddr).1.Holds holder (bus.allocChannel holder epAddr).2 := by
  obtain ⟨chNum, found⟩ := exists_firstFree room
  rw [allocChannel_some found]
  refine ⟨⟨?_, ?_, freeCount_take holder (firstFree_mem found)⟩,
    firstFree_lt found, by simp⟩
  · intro other owner held
    exact firstFree_update_held found held
  · intro other owner differs held
    by_cases same : other = chNum
    · rw [same] at held
      simp only [Function.update_self, Option.some.injEq] at held
      exact absurd held.symm differs
    · simpa [Function.update_of_ne same] using held

theorem Grants.holds {after : Bus} {holder other : Holder} {chNum : Nat}
    (grants : bus.Grants after holder) (holds : bus.Holds other chNum) :
    after.Holds other chNum :=
  ⟨holds.1, grants.held _ _ holds.2⟩

theorem Grants.held_iff {after : Bus} {holder other : Holder} {chNum : Nat}
    (grants : bus.Grants after holder) (differs : other ≠ holder) :
    after.Holds other chNum ↔ bus.Holds other chNum :=
  ⟨fun holds => ⟨holds.1, grants.others _ _ differs holds.2⟩, grants.holds⟩

theorem sound_allocate {holder : Holder} {epAddr : Byte} {stored : Bus}
    (owners : stored.owners = (bus.allocChannel holder epAddr).1.owners)
    (log : stored.log = bus.log) :
    (stored.useChannel holder (bus.allocChannel holder epAddr).2).Sound limits ↔
      bus.Sound limits ∧ 0 < bus.freeChannels := by
  rw [sound_useChannel, sound_of_log log]
  refine and_congr_right fun _ => ?_
  by_cases room : 0 < bus.freeChannels
  · have granted := (allocChannel_grants holder epAddr room).2
    simpa [Holds, owners, room] using granted
  · have full : bus.freeChannels = 0 := by omega
    simp [Holds, allocChannel_none full, channelMaxNum, full]

section Allocating

variable {dirIn : Bool} {epAddr : Byte}

theorem allocChannel_log {holder : Holder} : (bus.allocChannel holder epAddr).1.log = bus.log := by
  unfold allocChannel
  split <;> rfl

theorem allocChannel_phase {holder : Holder} :
    (bus.allocChannel holder epAddr).1.phase = bus.phase := by
  unfold allocChannel
  split <;> rfl

theorem allocChannel_maxPackSize {holder : Holder} :
    (bus.allocChannel holder epAddr).1.maxPackSize = bus.maxPackSize := by
  unfold allocChannel
  split <;> rfl

theorem allocChannel_control {holder : Holder} :
    (bus.allocChannel holder epAddr).1.control = bus.control := by
  unfold allocChannel
  split <;> rfl

theorem sound_allocData :
    (bus.allocData dirIn epAddr).Sound limits ↔ bus.Sound limits ∧ 0 < bus.freeChannels :=
  sound_allocate rfl allocChannel_log

theorem sound_allocControl :
    (bus.allocControl dirIn).Sound limits ↔ bus.Sound limits ∧ 0 < bus.freeChannels :=
  sound_allocate rfl allocChannel_log

theorem allocData_grants (dirIn : Bool) (epAddr : Byte) (room : 0 < bus.freeChannels) :
    bus.Grants (bus.allocData dirIn epAddr) (.data dirIn) := by
  have granted := (allocChannel_grants (.data dirIn) epAddr room).1
  exact ⟨granted.held, granted.others, granted.free⟩

theorem allocData_holds (dirIn : Bool) (epAddr : Byte) (room : 0 < bus.freeChannels) :
    (bus.allocData dirIn epAddr).Holds (.data dirIn)
      ((bus.allocData dirIn epAddr).data dirIn).chNum := by
  have granted := (allocChannel_grants (.data dirIn) epAddr room).2
  simpa [Holds, allocData, useChannel, Bus.access] using granted

theorem allocControl_grants (dirIn : Bool) (room : 0 < bus.freeChannels) :
    bus.Grants (bus.allocControl dirIn) (.control dirIn) := by
  have granted := (allocChannel_grants (.control dirIn) (if dirIn then 0x80 else 0x00) room).1
  exact ⟨granted.held, granted.others, granted.free⟩

theorem allocControl_holds (dirIn : Bool) (room : 0 < bus.freeChannels) :
    (bus.allocControl dirIn).Holds (.control dirIn) ((bus.allocControl dirIn).control dirIn) := by
  have granted := (allocChannel_grants (.control dirIn) (if dirIn then 0x80 else 0x00) room).2
  simpa [Holds, allocControl, useChannel, Bus.access] using granted

@[simp] theorem allocData_phase : (bus.allocData dirIn epAddr).phase = bus.phase :=
  allocChannel_phase

@[simp] theorem allocData_maxPackSize :
    (bus.allocData dirIn epAddr).maxPackSize = bus.maxPackSize := allocChannel_maxPackSize

@[simp] theorem allocControl_maxPackSize :
    (bus.allocControl dirIn).maxPackSize = bus.maxPackSize := allocChannel_maxPackSize

@[simp] theorem allocData_control : (bus.allocData dirIn epAddr).control = bus.control :=
  allocChannel_control

theorem allocData_epSize {other : Bool} :
    ((bus.allocData dirIn epAddr).data other).epSize = (bus.data other).epSize := by
  by_cases same : other = dirIn
  · simp [allocData, useChannel, Bus.access, same]
  · simp [allocData, useChannel, Bus.access, Function.update_of_ne same]

theorem allocData_other {other : Bool} (differs : other ≠ dirIn) :
    (bus.allocData dirIn epAddr).data other = bus.data other := by
  simp [allocData, useChannel, Bus.access, Function.update_of_ne differs]

theorem allocControl_other {other : Bool} (differs : other ≠ dirIn) :
    (bus.allocControl dirIn).control other = bus.control other := by
  simp [allocControl, useChannel, Bus.access, Function.update_of_ne differs]

theorem allocData_full (full : bus.freeChannels = 0) :
    (bus.allocData dirIn epAddr).owners = bus.owners := by
  simp [allocData, allocChannel_none full, useChannel, Bus.access]

theorem allocData_held {chNum : Nat} {holder : Holder} (held : bus.owners chNum = some holder) :
    (bus.allocData dirIn epAddr).owners chNum = some holder := by
  by_cases room : 0 < bus.freeChannels
  · exact (allocData_grants _ _ room).held _ _ held
  · rw [allocData_full (by omega), held]

end Allocating

/-! ## The loops of the class drivers -/

section Loops

variable {itfAt : Nat → Interface} {epAt : Nat → Nat → Nat → Byte}
  {visit : Nat → Nat → Bus → Bus}

/-- Loops that stay in order had counts that fit. -/
theorem sound_of_visitEndpoints
    (monotone : ∀ itfNum epNum bus, (visit itfNum epNum bus).Sound limits → bus.Sound limits)
    (count : Nat) {bus : Bus}
    (sound : (visitEndpoints driver itfAt visit count bus).Sound limits) :
    bus.Sound limits ∧ count ≤ limits.interfaceDescMaxNum ∧
      ∀ itfNum < count, driver.takes (itfAt itfNum) = true →
        (itfAt itfNum).bNumEndpoints ≤ limits.endpointDescMaxNum := by
  have inner : ∀ (itfNum count : Nat) (bus : Bus),
      (countdown (fun epNum bus =>
        visit itfNum epNum ((bus.access (.itf itfNum)).access (.endpoint epNum)))
        count bus).Sound limits → bus.Sound limits ∧ count ≤ limits.endpointDescMaxNum := by
    intro itfNum count
    induction count with
    | zero => exact fun bus sound => ⟨sound, Nat.zero_le _⟩
    | succ count ih =>
      intro bus sound
      have visited := monotone _ _ _ (ih _ sound).1
      simp only [sound_access, Access.Sound] at visited
      exact ⟨visited.1.1, visited.2⟩
  induction count generalizing bus with
  | zero => exact ⟨sound, Nat.zero_le _, by simp⟩
  | succ count ih =>
    obtain ⟨first, -, fits⟩ := ih sound
    by_cases taken : driver.takes (itfAt count) = true
    · simp only [taken, if_true] at first
      obtain ⟨entered, few⟩ := inner _ _ _ first
      simp only [sound_access, Access.Sound] at entered
      refine ⟨entered.1, entered.2, fun itfNum below takes => ?_⟩
      rcases Nat.lt_succ_iff_lt_or_eq.mp below with earlier | rfl
      · exact fits itfNum earlier takes
      · exact few
    · simp only [taken, Bool.false_eq_true, if_false, sound_access, Access.Sound] at first
      refine ⟨first.1, first.2, fun itfNum below takes => ?_⟩
      rcases Nat.lt_succ_iff_lt_or_eq.mp below with earlier | rfl
      · exact fits itfNum earlier takes
      · exact absurd takes taken

/-- What every visit keeps holds of all the endpoints in the end, if the counts fit. -/
theorem visitEndpoints_seen (Seen : List (Nat → Byte) → Bus → Prop)
    (accessed : ∀ seen bus access, Access.Sound limits access → Seen seen bus →
      Seen seen (bus.access access))
    (visited : ∀ seen bus itfNum epNum, itfNum < limits.interfaceDescMaxNum →
      epNum < limits.endpointDescMaxNum → Seen seen bus →
      Seen (seen ++ [epAt itfNum epNum]) (visit itfNum epNum bus))
    {count : Nat} (few : count ≤ limits.interfaceDescMaxNum)
    (fits : ∀ itfNum < count, driver.takes (itfAt itfNum) = true →
      (itfAt itfNum).bNumEndpoints ≤ limits.endpointDescMaxNum)
    {bus : Bus} (start : Seen [] bus) :
    Seen ((List.range count).reverse.flatMap fun itfNum =>
        if driver.takes (itfAt itfNum) then
          (List.range (itfAt itfNum).bNumEndpoints).reverse.map (epAt itfNum)
        else [])
      (visitEndpoints driver itfAt visit count bus) := by
  have inner : ∀ itfNum < limits.interfaceDescMaxNum, ∀ count ≤ limits.endpointDescMaxNum,
      ∀ seen bus, Seen seen bus →
        Seen (seen ++ (List.range count).reverse.map (epAt itfNum))
          (countdown (fun epNum bus =>
            visit itfNum epNum ((bus.access (.itf itfNum)).access (.endpoint epNum)))
            count bus) := by
    intro itfNum within count
    induction count with
    | zero => simp [countdown]
    | succ count ih =>
      intro bound seen bus start
      have entered := accessed _ _ (.endpoint count) bound (accessed _ _ (.itf itfNum) within start)
      have rest := ih (by omega) _ _ (visited _ _ itfNum count within bound entered)
      simpa [List.range_succ, countdown] using rest
  have outer : ∀ seen bus, Seen seen bus →
      Seen (seen ++ (List.range count).reverse.flatMap fun itfNum =>
          if driver.takes (itfAt itfNum) then
            (List.range (itfAt itfNum).bNumEndpoints).reverse.map (epAt itfNum)
          else [])
        (visitEndpoints driver itfAt visit count bus) := by
    clear start
    induction count with
    | zero => simp [visitEndpoints, countdown]
    | succ count ih =>
      intro seen bus start
      have within : count < limits.interfaceDescMaxNum := by omega
      have entered := accessed _ _ (.itf count) within start
      have first : Seen (seen ++ if driver.takes (itfAt count) then
            (List.range (itfAt count).bNumEndpoints).reverse.map (epAt count) else [])
          (if driver.takes (itfAt count) then
            countdown (fun epNum bus =>
              visit count epNum ((bus.access (.itf count)).access (.endpoint epNum)))
              (itfAt count).bNumEndpoints (bus.access (.itf count))
          else bus.access (.itf count)) := by
        by_cases taken : driver.takes (itfAt count) = true
        · simpa [taken] using inner count within _ (fits count (by omega) taken) _ _ entered
        · simpa [taken] using entered
      have rest := ih (by omega) (fun itfNum below => fits itfNum (by omega)) _ _ first
      simpa [List.range_succ, visitEndpoints, countdown] using rest
  simpa using outer [] bus start

end Loops

section Reading

variable (stray : Nat → Interface)

theorem readInterface_within {itfNum : Nat} (within : itfNum < limits.interfaceDescMaxNum) :
    bus.readInterface limits stray itfNum = bus.interfaces itfNum := if_pos within

theorem countsFit_iff :
    (bus.bNumInterfaces ≤ limits.interfaceDescMaxNum ∧
      ∀ itfNum < bus.bNumInterfaces, driver.takes (bus.readInterface limits stray itfNum) = true →
        (bus.readInterface limits stray itfNum).bNumEndpoints ≤ limits.endpointDescMaxNum) ↔
      bus.CountsFit limits driver := by
  refine and_congr_right fun few => forall₂_congr fun itfNum below => ?_
  rw [readInterface_within stray (by omega)]

theorem endpoints_eq (fits : bus.CountsFit limits driver) :
    ((List.range bus.bNumInterfaces).reverse.flatMap fun itfNum =>
      if driver.takes (bus.readInterface limits stray itfNum) then
        (List.range (bus.readInterface limits stray itfNum).bNumEndpoints).reverse.map
          (bus.readEndpoint limits stray itfNum)
      else []) = bus.endpoints driver := by
  refine List.flatMap_congr fun itfNum listed => ?_
  have below : itfNum < bus.bNumInterfaces := by simpa using listed
  have within : itfNum < limits.interfaceDescMaxNum := by
    have := fits.1
    omega
  rw [readInterface_within stray within]
  by_cases taken : driver.takes (bus.interfaces itfNum) = true
  · simp only [taken, if_true]
    refine List.map_congr_left fun epNum member => ?_
    have few := fits.2 itfNum below taken
    have inside : epNum < limits.endpointDescMaxNum := by
      have : epNum < (bus.interfaces itfNum).bNumEndpoints := by simpa using member
      omega
    simp [readEndpoint, within, inside]
  · simp [taken]

end Reading

/-- The class driver can move data. -/
def Ready (driver : Driver) (bus : Bus) : Prop :=
  ∀ dirIn, (driver = .hid → dirIn = true) →
    bus.Holds (.data dirIn) (bus.data dirIn).chNum ∧
      (driver = .cdc ∨ (bus.pipes (bus.data dirIn).chNum).maxPackSize ≠ 0)

/-! ### MSC -/

structure MscSeen (limits : Limits) (start : Bus) (seen : List (Nat → Byte)) (bus : Bus) :
    Prop where
  sound : bus.Sound limits
  phase : bus.phase = start.phase
  owners : bus.owners = start.owners
  control : bus.control = start.control
  maxPackSize : bus.maxPackSize = start.maxPackSize
  size : ∀ dirIn, (bus.data dirIn).epSize = start.keptSize dirIn seen

theorem keptSize_snoc (start : Bus) (dirIn : Bool) (seen : List (Nat → Byte))
    (epDesc : Nat → Byte) :
    start.keptSize dirIn (seen ++ [epDesc]) =
      if EndpointDesc.isIn epDesc = dirIn then EndpointDesc.maxPackSize epDesc
      else start.keptSize dirIn seen := by
  unfold keptSize
  by_cases same : EndpointDesc.isIn epDesc = dirIn <;> simp [same]

theorem MscSeen.visit {start : Bus} {seen : List (Nat → Byte)} (epDesc : Nat → Byte)
    (held : MscSeen limits start seen bus) :
    MscSeen limits start (seen ++ [epDesc]) (mscEndpoint epDesc bus) where
  sound := held.sound
  phase := held.phase
  owners := held.owners
  control := held.control
  maxPackSize := held.maxPackSize
  size := by
    intro dirIn
    rw [keptSize_snoc]
    by_cases same : EndpointDesc.isIn epDesc = dirIn
    · simp [mscEndpoint, same]
    · have other : dirIn ≠ EndpointDesc.isIn epDesc := fun equal => same equal.symm
      simp [mscEndpoint, Function.update_of_ne other, same, held.size]

theorem mscLoops_seen (stray : Nat → Interface) (sound : bus.Sound limits)
    (fits : bus.CountsFit limits .msc) :
    MscSeen limits bus (bus.endpoints .msc) (bus.mscLoops limits stray) := by
  obtain ⟨few, counts⟩ := (countsFit_iff stray).mpr fits
  rw [← endpoints_eq stray fits]
  refine visitEndpoints_seen (MscSeen limits bus) ?_ ?_ few counts ?_
  · intro seen bus access fine held
    exact { held with sound := sound_access.mpr ⟨held.sound, fine⟩ }
  · intro seen bus itfNum epNum _ _ held
    exact held.visit _
  · exact ⟨sound, rfl, rfl, rfl, rfl, fun dirIn => rfl⟩

/-- The two channels of MSC. -/
def allocBoth (bus : Bus) (addrOut addrIn : Byte) : Bus :=
  (bus.allocData false addrOut).allocData true addrIn

theorem sound_allocBoth {addrOut addrIn : Byte} :
    (bus.allocBoth addrOut addrIn).Sound limits ↔ bus.Sound limits ∧ 2 ≤ bus.freeChannels := by
  rw [allocBoth, sound_allocData, sound_allocData, and_assoc]
  refine and_congr_right fun _ => ?_
  constructor
  · rintro ⟨room, more⟩
    have := (allocData_grants false addrOut room).free
    omega
  · intro two
    have room : 0 < bus.freeChannels := by omega
    have := (allocData_grants false addrOut room).free
    exact ⟨room, by omega⟩

theorem allocBoth_holds {addrOut addrIn : Byte} (room : 2 ≤ bus.freeChannels) (dirIn : Bool) :
    (bus.allocBoth addrOut addrIn).Holds (.data dirIn)
      ((bus.allocBoth addrOut addrIn).data dirIn).chNum := by
  have first : 0 < bus.freeChannels := by omega
  have grants := allocData_grants false addrOut first
  have second : 0 < (bus.allocData false addrOut).freeChannels := by
    have := grants.free
    omega
  cases dirIn with
  | true => exact allocData_holds _ _ second
  | false =>
    rw [allocBoth, allocData_other (by decide : false ≠ true)]
    exact (allocData_grants _ _ second).holds (allocData_holds _ _ first)

theorem mscLoops_fit (limits : Limits) (bus : Bus) (stray : Nat → Interface)
    (sound : (bus.mscLoops limits stray).Sound limits) : bus.CountsFit limits .msc := by
  have monotone : ∀ itfNum epNum (other : Bus),
      (mscEndpoint (bus.readEndpoint limits stray itfNum epNum) other).Sound limits →
        other.Sound limits := fun _ _ _ held => held
  exact (countsFit_iff stray).mp (sound_of_visitEndpoints monotone _ sound).2

/-- Both channels are opened with the sizes kept. -/
def openBoth (bus : Bus) : Bus :=
  (bus.openData false (bus.data false).epSize).openData true (bus.data true).epSize

theorem openBoth_data : bus.openBoth.data = bus.data := by
  simp [openBoth, openData]

theorem openBoth_holds {holder : Holder} {chNum : Nat} :
    bus.openBoth.Holds holder chNum ↔ bus.Holds holder chNum :=
  holds_of_owners (by simp [openBoth, openData])

theorem sound_openBoth : bus.openBoth.Sound limits ↔ bus.Sound limits :=
  sound_of_log (by simp [openBoth, openData])

theorem openBoth_size (holds : ∀ dirIn, bus.Holds (.data dirIn) (bus.data dirIn).chNum)
    (dirIn : Bool) :
    (bus.openBoth.pipes (bus.data dirIn).chNum).maxPackSize = (bus.data dirIn).epSize := by
  have differ : (bus.data false).chNum ≠ (bus.data true).chNum := by
    intro same
    have owner := (holds false).2
    rw [same, (holds true).2] at owner
    cases owner
  cases dirIn with
  | true => simpa [openBoth, openData] using openChannel_size _ _ _ (holds true).1
  | false =>
    rw [openBoth, openData, openData, openChannel_data, openChannel_other _ _ _ differ]
    exact openChannel_size _ _ _ (holds false).1

theorem mscInit_iff (stray : Nat → Interface) (sound : bus.Sound limits) :
    bus.Suits limits .msc ↔
      (bus.mscClassInitHandler limits stray).Sound limits ∧
        (bus.mscClassInitHandler limits stray).Ready .msc := by
  have seen := mscLoops_seen stray sound
  have fit := mscLoops_fit limits bus stray
  have form : ∃ addrOut addrIn, bus.mscClassInitHandler limits stray =
      ((bus.mscLoops limits stray).allocBoth addrOut addrIn).openBoth := ⟨_, _, rfl⟩
  obtain ⟨addrOut, addrIn, form⟩ := form
  rw [form, sound_openBoth, sound_allocBoth]
  generalize bus.mscLoops limits stray = middle at seen fit
  have free (fits : bus.CountsFit limits .msc) : middle.freeChannels = bus.freeChannels :=
    freeChannels_of_owners (seen fits).owners
  have sized (fits : bus.CountsFit limits .msc) (room : 2 ≤ middle.freeChannels) (dirIn : Bool) :
      (((middle.allocBoth addrOut addrIn).openBoth.pipes
        ((middle.allocBoth addrOut addrIn).data dirIn).chNum).maxPackSize) =
        bus.keptSize dirIn (bus.endpoints .msc) := by
    rw [openBoth_size (allocBoth_holds room), allocBoth, allocData_epSize, allocData_epSize,
      (seen fits).size]
  constructor
  · rintro ⟨fits, room, sizes⟩
    rw [← free fits] at room
    refine ⟨⟨(seen fits).sound, room⟩, fun dirIn _ => ?_⟩
    rw [openBoth_data, openBoth_holds, sized fits room]
    exact ⟨allocBoth_holds room dirIn, .inr (sizes dirIn)⟩
  · rintro ⟨⟨looped, room⟩, ready⟩
    have fits := fit looped
    refine ⟨fits, free fits ▸ room, fun dirIn => ?_⟩
    have moves := (ready dirIn (by simp)).2
    rw [openBoth_data, sized fits room] at moves
    simpa using moves

/-! ### CDC -/

structure CdcSeen (limits : Limits) (start : Bus) (seen : List (Nat → Byte)) (bus : Bus) :
    Prop where
  phase : bus.phase = start.phase
  control : bus.control = start.control
  maxPackSize : bus.maxPackSize = start.maxPackSize
  held : ∀ chNum holder, start.owners chNum = some holder → bus.owners chNum = some holder
  sound : bus.Sound limits ↔ seen.countP EndpointDesc.isBulk ≤ start.freeChannels
  free : seen.countP EndpointDesc.isBulk ≤ start.freeChannels →
    bus.freeChannels + seen.countP EndpointDesc.isBulk = start.freeChannels
  served : seen.countP EndpointDesc.isBulk ≤ start.freeChannels → ∀ dirIn,
    bus.Holds (.data dirIn) (bus.data dirIn).chNum ↔ start.Served dirIn seen

theorem served_snoc (start : Bus) (dirIn : Bool) (seen : List (Nat → Byte))
    (epDesc : Nat → Byte) :
    start.Served dirIn (seen ++ [epDesc]) ↔ start.Served dirIn seen ∨
      (EndpointDesc.isBulk epDesc = true ∧ EndpointDesc.isIn epDesc = dirIn) := by
  simp only [Served, List.mem_append, List.mem_singleton, or_and_right, exists_or, exists_eq_left]
  exact or_right_comm

/-- Apart from the sizes, a bulk endpoint is an allocation. -/
theorem cdcEndpoint_bulk (bus : Bus) {epDesc : Nat → Byte} (bulk : EndpointDesc.isBulk epDesc = true) :
    ∃ epAddr : Byte, ∃ alloc : Bus, alloc = bus.allocData (EndpointDesc.isIn epDesc) epAddr ∧
      (cdcEndpoint epDesc bus).phase = alloc.phase ∧
      (cdcEndpoint epDesc bus).owners = alloc.owners ∧
      (cdcEndpoint epDesc bus).control = alloc.control ∧
      (cdcEndpoint epDesc bus).maxPackSize = alloc.maxPackSize ∧
      (cdcEndpoint epDesc bus).log = alloc.log ∧
      ∀ dirIn, ((cdcEndpoint epDesc bus).data dirIn).chNum = (alloc.data dirIn).chNum := by
  refine ⟨EndpointDesc.bEndpointAddress epDesc, _, rfl, ?_⟩
  simp only [cdcEndpoint, bulk, if_true, openData, openChannel_phase, openChannel_owners,
    openChannel_control, openChannel_maxPackSize, openChannel_log, openChannel_data, true_and]
  intro dirIn
  by_cases same : dirIn = EndpointDesc.isIn epDesc
  · simp [same]
  · simp [Function.update_of_ne same]

theorem CdcSeen.visit {start : Bus} {seen : List (Nat → Byte)} (epDesc : Nat → Byte)
    (held : CdcSeen limits start seen bus) :
    CdcSeen limits start (seen ++ [epDesc]) (cdcEndpoint epDesc bus) := by
  cases bulk : EndpointDesc.isBulk epDesc with
  | false =>
    have same : cdcEndpoint epDesc bus = bus := by simp [cdcEndpoint, bulk]
    have count : (seen ++ [epDesc]).countP EndpointDesc.isBulk =
        seen.countP EndpointDesc.isBulk := by simp [bulk]
    rw [same]
    exact ⟨held.phase, held.control, held.maxPackSize, held.held, by rw [count, held.sound],
      by rw [count]; exact held.free, by simpa [count, served_snoc, bulk] using held.served⟩
  | true =>
    have count : (seen ++ [epDesc]).countP EndpointDesc.isBulk =
        seen.countP EndpointDesc.isBulk + 1 := by simp [bulk]
    obtain ⟨epAddr, alloc, rfl, phase, owners, control, size, log, numbers⟩ :=
      cdcEndpoint_bulk bus bulk
    have free := held.free
    have grants : 0 < bus.freeChannels → bus.Grants _ _ :=
      allocData_grants (EndpointDesc.isIn epDesc) epAddr
    constructor
    · rw [phase, allocData_phase, held.phase]
    · rw [control, allocData_control, held.control]
    · rw [size, allocData_maxPackSize, held.maxPackSize]
    · intro chNum holder owned
      rw [owners]
      exact allocData_held (held.held _ _ owned)
    · rw [count, sound_of_log log, sound_allocData, held.sound]
      omega
    · rw [count, freeChannels_of_owners owners]
      intro few
      have granted := (grants (by omega)).free
      omega
    · rw [count]
      intro few dirIn
      have room : 0 < bus.freeChannels := by omega
      rw [served_snoc, holds_of_owners owners, numbers]
      by_cases same : EndpointDesc.isIn epDesc = dirIn
      · subst same
        simpa [bulk] using allocData_holds _ _ room
      · have differs : dirIn ≠ EndpointDesc.isIn epDesc := fun equal => same equal.symm
        rw [allocData_other differs, (grants room).held_iff (by simpa using differs),
          held.served (by omega)]
        simp [same]

theorem cdcInit_seen (stray : Nat → Interface) (sound : bus.Sound limits)
    (fits : bus.CountsFit limits .cdc) :
    CdcSeen limits bus (bus.endpoints .cdc) (bus.cdcClassInitHandler limits stray) := by
  obtain ⟨few, counts⟩ := (countsFit_iff stray).mpr fits
  rw [← endpoints_eq stray fits]
  refine visitEndpoints_seen (CdcSeen limits bus) ?_ ?_ few counts ?_
  · intro seen other access fine held
    exact { held with sound := (sound_access.trans (and_iff_left fine)).trans held.sound }
  · intro seen other itfNum epNum _ _ held
    exact held.visit _
  · exact ⟨rfl, rfl, rfl, fun _ _ owned => owned, by simpa using sound, by simp,
      by simp [Served]⟩

theorem cdcInit_fit (stray : Nat → Interface)
    (sound : (bus.cdcClassInitHandler limits stray).Sound limits) : bus.CountsFit limits .cdc := by
  have monotone : ∀ itfNum epNum (other : Bus),
      (cdcEndpoint (bus.readEndpoint limits stray itfNum epNum) other).Sound limits →
        other.Sound limits := by
    intro itfNum epNum other held
    cases bulk : EndpointDesc.isBulk (bus.readEndpoint limits stray itfNum epNum) with
    | false => simpa [cdcEndpoint, bulk] using held
    | true =>
      obtain ⟨epAddr, alloc, rfl, -, -, -, -, log, -⟩ := cdcEndpoint_bulk other bulk
      rw [sound_of_log log, sound_allocData] at held
      exact held.1
  exact (countsFit_iff stray).mp (sound_of_visitEndpoints monotone _ sound).2

theorem cdcInit_iff (stray : Nat → Interface) (sound : bus.Sound limits) :
    bus.Suits limits .cdc ↔
      (bus.cdcClassInitHandler limits stray).Sound limits ∧
        (bus.cdcClassInitHandler limits stray).Ready .cdc := by
  constructor
  · rintro ⟨fits, few, served⟩
    have seen := cdcInit_seen stray sound fits
    exact ⟨seen.sound.mpr few, fun dirIn _ => ⟨(seen.served few dirIn).mpr (served dirIn), .inl rfl⟩⟩
  · rintro ⟨after, ready⟩
    have fits := cdcInit_fit stray after
    have seen := cdcInit_seen stray sound fits
    have few := seen.sound.mp after
    exact ⟨fits, few, fun dirIn => (seen.served few dirIn).mp (ready dirIn (by simp)).1⟩

/-! ### HID and all of them -/

theorem hidInit_iff (sound : bus.Sound limits) :
    bus.Suits limits .hid ↔ bus.hidInitHandler.Sound limits ∧ bus.hidInitHandler.Ready .hid := by
  have opened : bus.hidInitHandler.Sound limits ↔ bus.Sound limits ∧ 0 < bus.freeChannels :=
    (sound_of_log (openChannel_log _ _ _)).trans sound_allocData
  rw [opened]
  refine ⟨fun room => ⟨⟨sound, room⟩, fun dirIn inward => ?_⟩, fun held => held.1.2⟩
  obtain rfl := inward rfl
  have holds := allocData_holds true 0x81 room
  rw [hidInitHandler, openData, openChannel_data, openChannel_size _ _ _ holds.1]
  exact ⟨(holds_of_owners (openChannel_owners _ _ _)).mpr holds, .inr (by decide)⟩

theorem classInit_iff (driver : Driver) (stray : Nat → Interface) (sound : bus.Sound limits) :
    bus.Suits limits driver ↔
      (bus.classInitHandler limits driver stray).Sound limits ∧
        (bus.classInitHandler limits driver stray).Ready driver := by
  cases driver with
  | msc => exact mscInit_iff stray sound
  | cdc => exact cdcInit_iff stray sound
  | hid => exact hidInit_iff sound

/-- The control channels are there and their packets are not empty. -/
structure Attached (bus : Bus) : Prop where
  size : bus.maxPackSize ≠ 0
  holds : ∀ dirIn, bus.Holds (.control dirIn) (bus.control dirIn)

theorem Attached.of_same {other : Bus} (held : bus.Attached)
    (size : other.maxPackSize = bus.maxPackSize) (control : other.control = bus.control)
    (owners : ∀ chNum holder, bus.owners chNum = some holder → other.owners chNum = some holder) :
    other.Attached := by
  refine ⟨size ▸ held.size, fun dirIn => ?_⟩
  rw [control]
  exact ⟨(held.holds dirIn).1, owners _ _ (held.holds dirIn).2⟩

theorem classInit_attached (driver : Driver) (stray : Nat → Interface) (held : bus.Attached)
    (sound : bus.Sound limits) (suits : bus.Suits limits driver) :
    (bus.classInitHandler limits driver stray).Attached := by
  cases driver with
  | msc =>
    have seen := mscLoops_seen stray sound suits.1
    refine held.of_same ?_ ?_ fun chNum holder owned => ?_
    · simp [classInitHandler, mscClassInitHandler, openData, seen.maxPackSize]
    · simp [classInitHandler, mscClassInitHandler, openData, seen.control]
    · rw [← seen.owners] at owned
      simpa [classInitHandler, mscClassInitHandler, openData] using
        allocData_held (allocData_held owned)
  | cdc =>
    have seen := cdcInit_seen stray sound suits.1
    exact held.of_same seen.maxPackSize seen.control seen.held
  | hid =>
    refine held.of_same ?_ ?_ fun chNum holder owned => ?_
    · simp [classInitHandler, hidInitHandler, openData]
    · simp [classInitHandler, hidInitHandler, openData]
    · simpa [classInitHandler, hidInitHandler, openData] using allocData_held owned

end Bus

end ApmSdk.Usbh
