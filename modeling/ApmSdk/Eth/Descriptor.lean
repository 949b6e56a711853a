import ApmSdk.Lib.OwnedRing

set_option autoImplicit false

/-!
# DMA descriptors of the Ethernet driver

`ETH_DMADescConfig_T` and the two functions that chain a table of them into a ring. A pointer to
a descriptor is its index in the table, and one to a buffer its offset in the buffers.
-/

namespace ApmSdk.Eth

open RingBuffer

structure Desc where
  status : BitVec 32
  controlBufferSize : BitVec 32
  buffer1Addr : Nat
  buffer2NextDescAddr : Nat
  deriving DecidableEq

abbrev Tab := Nat → Desc

-- `ETH_DMATXDESC_OWN` and `ETH_DMARXDESC_OWN`.
def descOwn : BitVec 32 := 0x80000000

def Desc.own (desc : Desc) : Bool := desc.status.getLsbD 31

-- `ETH_MAX_PACKET_SIZE`, of which `ETH_TX_BUF_SIZE` and `ETH_RX_BUF_SIZE` are other names.
def ethMaxPacketSize : Nat := 1524

-- The loop of `ETH_ConfigDMATxDescChain` and `ETH_ConfigDMARxDescChain` up to `i`.
def configChain (desc : Nat → Desc → Desc) : Nat → Tab → Tab
  | 0, tab => tab
  | i + 1, tab => Function.update (configChain desc i tab) i (desc i (configChain desc i tab i))

def chainNext (count i : Nat) : Nat := if i < count - 1 then i + 1 else 0

def configDMATxDesc (txBuffcount i : Nat) (desc : Desc) : Desc :=
  { desc with
    -- `ETH_DMATXDESC_TXCH`
    status := 0x00100000
    buffer1Addr := i * ethMaxPacketSize
    buffer2NextDescAddr := chainNext txBuffcount i }

def configDMARxDesc (rxBuffcount i : Nat) : Desc where
  status := descOwn
  -- `ETH_DMARXDESC_RXCH`
  controlBufferSize := 0x00004000 ||| BitVec.ofNat 32 ethMaxPacketSize
  buffer1Addr := i * ethMaxPacketSize
  buffer2NextDescAddr := chainNext rxBuffcount i

def configDMATxDescChain (tab : Tab) (txBuffcount : Nat) : Tab :=
  configChain (configDMATxDesc txBuffcount) txBuffcount tab

def configDMARxDescChain (tab : Tab) (rxBuffcount : Nat) : Tab :=
  configChain (fun i _ => configDMARxDesc rxBuffcount i) rxBuffcount tab

theorem configChain_apply (desc : Nat → Desc → Desc) (tab : Tab) (count index : Nat) :
    configChain desc count tab index =
      if index < count then desc index (tab index) else tab index := by
  induction count with
  | zero => rfl
  | succ i ih =>
    rw [configChain, Function.update_apply]
    by_cases last : index = i
    · subst last
      rw [if_pos rfl, if_pos (Nat.lt_succ_self _), ih, if_neg (Nat.lt_irrefl _)]
    · rw [if_neg last, ih]
      by_cases earlier : index < i
      · rw [if_pos earlier, if_pos (by omega)]
      · rw [if_neg earlier, if_neg (by omega)]

theorem chainNext_eq {count index : Nat} (inside : index < count) :
    chainNext count index = next count index := by
  unfold chainNext next
  by_cases last : index + 1 = count
  · rw [if_neg (by omega), if_pos last]
  · rw [if_pos (by omega), if_neg last]

/-- What no one writes after the configuration. -/
structure Linked (count : Nat) (tab : Tab) : Prop where
  next : ∀ index, index < count → (tab index).buffer2NextDescAddr = next count index
  buffer : ∀ index, index < count → (tab index).buffer1Addr = index * ethMaxPacketSize

theorem linked_configDMATxDescChain (tab : Tab) (count : Nat) :
    Linked count (configDMATxDescChain tab count) where
  next index inside := by
    rw [configDMATxDescChain, configChain_apply, if_pos inside]
    exact chainNext_eq inside
  buffer index inside := by
    rw [configDMATxDescChain, configChain_apply, if_pos inside]
    rfl

theorem linked_configDMARxDescChain (tab : Tab) (count : Nat) :
    Linked count (configDMARxDescChain tab count) where
  next index inside := by
    rw [configDMARxDescChain, configChain_apply, if_pos inside]
    exact chainNext_eq inside
  buffer index inside := by
    rw [configDMARxDescChain, configChain_apply, if_pos inside]
    rfl

theorem Linked.update {count : Nat} {tab : Tab} (linked : Linked count tab) {index : Nat}
    {desc : Desc} (same : desc.buffer1Addr = (tab index).buffer1Addr ∧
      desc.buffer2NextDescAddr = (tab index).buffer2NextDescAddr) :
    Linked count (Function.update tab index desc) where
  next other inside := by
    rw [Function.update_apply]
    split
    · next it => rw [same.2, ← it, linked.next other inside]
    · exact linked.next other inside
  buffer other inside := by
    rw [Function.update_apply]
    split
    · next it => rw [same.1, ← it, linked.buffer other inside]
    · exact linked.buffer other inside

end ApmSdk.Eth
