import Mathlib.Data.List.Basic

set_option autoImplicit false

/-!
# Framed queues

A queue of words that holds frames: a header, which says how many words follow, and its
payload. A reader that takes the header and a wrong number of words reads a payload word as
the next header.
-/

namespace ApmSdk.Frames

variable {Header Word : Type}

structure Framing (Header Word : Type) where
  encode : Header → Word
  decode : Word → Header
  size : Header → Nat
  /-- The headers that the writer makes. -/
  valid : Header → Prop
  decode_encode : ∀ header, decode (encode header) = header

structure Frame (framing : Framing Header Word) where
  header : Header
  payload : List Word
  valid : framing.valid header
  sized : payload.length = framing.size header

variable {framing : Framing Header Word}

def Frame.words (frame : Frame framing) : List Word :=
  framing.encode frame.header :: frame.payload

/-- The queue holds whole frames. -/
def Framed (framing : Framing Header Word) (queue : List Word) : Prop :=
  ∃ frames : List (Frame framing), frames.flatMap Frame.words = queue

/-- The header at the front, its payload and the rest of the queue. -/
def Framing.pop (framing : Framing Header Word) : List Word → Option (Header × List Word × List Word)
  | [] => none
  | word :: rest =>
      let size := framing.size (framing.decode word)
      some (framing.decode word, rest.take size, rest.drop size)

theorem Framed.nil : Framed framing [] := ⟨[], rfl⟩

theorem Framed.append (frame : Frame framing) {queue : List Word} (framed : Framed framing queue) :
    Framed framing (queue ++ frame.words) := by
  obtain ⟨frames, rfl⟩ := framed
  exact ⟨frames ++ [frame], by simp⟩

theorem Framed.front {queue : List Word} (framed : Framed framing queue) (nonempty : queue ≠ []) :
    ∃ (frame : Frame framing) (rest : List Word),
      queue = frame.words ++ rest ∧ Framed framing rest := by
  obtain ⟨frames, rfl⟩ := framed
  cases frames with
  | nil => exact absurd rfl nonempty
  | cons frame rest => exact ⟨frame, rest.flatMap Frame.words, rfl, rest, rfl⟩

theorem pop_words (frame : Frame framing) (rest : List Word) :
    framing.pop (frame.words ++ rest) = some (frame.header, frame.payload, rest) := by
  simp [Frame.words, Framing.pop, framing.decode_encode, ← frame.sized]

end ApmSdk.Frames
