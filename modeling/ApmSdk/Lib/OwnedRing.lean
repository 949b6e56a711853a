import ApmSdk.Lib.RingBuffer

set_option autoImplicit false

/-!
# Rings of marked slots

A ring whose slots two parties hand to each other by a mark in the slot itself. The marked slots
are those of a window, which may be the whole ring.
-/

namespace ApmSdk.OwnedRing

open RingBuffer

variable {Item : Type}

structure Window (size : Nat) (slots : Nat → Item) (mark : Item → Bool) (take : Nat)
    (queue : List Item) : Prop where
  inside : take < size
  room : queue.length ≤ size
  items : ∀ index (within : index < queue.length),
    slots ((take + index) % size) = queue[index]
  marked : ∀ item ∈ queue, mark item = true
  unmarked : ∀ index, queue.length ≤ index → index < size →
    mark (slots ((take + index) % size)) = false

section Rules

variable {size take : Nat} {slots : Nat → Item} {mark : Item → Bool} {queue : List Item}

theorem Window.positive (window : Window size slots mark take queue) : 0 < size :=
  Nat.lt_of_le_of_lt (Nat.zero_le _) window.inside

theorem Window.mark_iff (window : Window size slots mark take queue) {index : Nat}
    (within : index < size) :
    mark (slots ((take + index) % size)) = true ↔ index < queue.length := by
  constructor
  · intro marked
    by_contra beyond
    have unmarked := window.unmarked index (by omega) within
    exact absurd (marked.symm.trans unmarked) (by decide)
  · intro inside
    rw [window.items index inside]
    exact window.marked _ (List.getElem_mem inside)

theorem Window.empty (inside : take < size) (none : ∀ index, index < size →
    mark (slots index) = false) : Window size slots mark take [] where
  inside := inside
  room := Nat.zero_le _
  items _ within := absurd within (Nat.not_lt_zero _)
  marked _ member := nomatch member
  unmarked _ _ within := none _ (Nat.mod_lt _ (Nat.lt_of_le_of_lt (Nat.zero_le _) within))

theorem Window.push (window : Window size slots mark take queue) {item : Item}
    (marked : mark item = true) (spare : queue.length < size) :
    Window size (Function.update slots ((take + queue.length) % size) item) mark take
      (queue ++ [item]) where
  inside := window.inside
  room := by
    rw [List.length_append, List.length_singleton]
    exact spare
  items index within := by
    rw [List.length_append, List.length_singleton] at within
    by_cases older : index < queue.length
    · have apart := @mod_ne_of_lt size take index queue.length older (by omega)
      rw [Function.update_of_ne apart, window.items index older, List.getElem_append_left older]
    · obtain rfl : index = queue.length := by omega
      rw [Function.update_self, List.getElem_concat_length rfl]
  marked other member := by
    rcases List.mem_append.mp member with older | newest
    · exact window.marked other older
    · rw [List.mem_singleton.mp newest]
      exact marked
  unmarked index beyond within := by
    rw [List.length_append, List.length_singleton] at beyond
    have apart := @mod_ne_of_lt size take queue.length index (by omega) (by omega)
    rw [Function.update_of_ne apart.symm]
    exact window.unmarked index (by omega) within

theorem Window.front {item : Item} (window : Window size slots mark take (item :: queue)) :
    slots take = item := by
  have first := window.items 0 (Nat.succ_pos _)
  rw [Nat.add_zero, Nat.mod_eq_of_lt window.inside] at first
  exact first

theorem Window.pop {item released : Item} (window : Window size slots mark take (item :: queue))
    (unmarked : mark released = false) :
    Window size (Function.update slots take released) mark (next size take) queue := by
  have room := window.room
  rw [List.length_cons] at room
  have self : (take + 0) % size = take := Nat.mod_eq_of_lt window.inside
  have shift (index : Nat) : (next size take + index) % size = (take + (index + 1)) % size := by
    rw [next_eq window.inside, Nat.mod_add_mod, Nat.add_assoc, Nat.add_comm 1 index]
  constructor
  case inside =>
    rw [next_eq window.inside]
    exact Nat.mod_lt _ window.positive
  case room => omega
  case items =>
    intro index within
    have apart := @mod_ne_of_lt size take 0 (index + 1) (by omega) (by omega)
    rw [self] at apart
    rw [shift, Function.update_of_ne apart.symm, window.items (index + 1) (by simpa using within),
      List.getElem_cons_succ]
  case marked => exact fun other member => window.marked other (List.mem_cons_of_mem _ member)
  case unmarked =>
    intro index beyond within
    rw [shift]
    by_cases last : index + 1 = size
    · rw [last, Nat.add_mod_right, Nat.mod_eq_of_lt window.inside, Function.update_self]
      exact unmarked
    · have apart := @mod_ne_of_lt size take 0 (index + 1) (by omega) (by omega)
      rw [self] at apart
      rw [Function.update_of_ne apart.symm]
      exact window.unmarked (index + 1) (by rw [List.length_cons]; omega) (by omega)

end Rules

end ApmSdk.OwnedRing
