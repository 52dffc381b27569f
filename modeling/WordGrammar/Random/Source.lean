/-
Sources of random words.

A source hands out 32-bit words one after the other, and knows how many
it has left: it may be long, but it ends. That bound is what lets a draw
that rejects words be a total function. A source with nothing left hands
out nothing.
-/
namespace WordGrammar

/-- A state from which random 32-bit words can be taken. -/
class WordSource (σ : Type) where
  /-- The next word and the state after it. -/
  next? : σ → Option (UInt32 × σ)
  /-- How many words are left. -/
  left : σ → Nat
  /-- Taking a word leaves fewer. -/
  left_next : ∀ {s : σ} {w : UInt32} {s' : σ},
    next? s = some (w, s') → left s' < left s

/-- A prepared list of words, and after it a number of zeros. -/
structure Script where
  words : List UInt32
  zeros : Nat
  deriving DecidableEq

namespace Script

/-- The next prepared word, or a zero. -/
def next? : Script → Option (UInt32 × Script)
  | ⟨w :: words, zeros⟩ => some (w, ⟨words, zeros⟩)
  | ⟨[], zeros + 1⟩ => some (0, ⟨[], zeros⟩)
  | ⟨[], 0⟩ => none

/-- How many words are left. -/
def left (s : Script) : Nat := s.words.length + s.zeros

instance : WordSource Script where
  next? := next?
  left := left
  left_next := by
    intro s w s' h
    rcases s with ⟨_ | ⟨w, words⟩, _ | zeros⟩ <;> cases h
      <;> simp [left]

end Script

end WordGrammar
