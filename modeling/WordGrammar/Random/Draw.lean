/-
Random choices.

A `Draw` is a decision tree: it is settled, or it asks for an item out of
a number of items, or for a coin, and goes on with the answer. What can
come of it is the set of its leaves, whatever the random words are. `run`
answers the questions from a source: an item by multiplying a word into
the range and rejecting the words that would favour some items, a coin by
the top bit of two words.
-/
import WordGrammar.Random.Source

namespace WordGrammar

/-- A computation that makes random choices. -/
inductive Draw (α : Type)
  /-- No more choices. -/
  | done (value : α)
  /-- Choose among `more + 1` items. -/
  | choose (more : Nat) (next : Fin (more + 1) → Draw α)
  /-- Toss a coin. -/
  | flip (next : Bool → Draw α)

namespace Draw

variable {α β : Type}

/-- Goes on with the value that comes of a draw. -/
def bind : Draw α → (α → Draw β) → Draw β
  | done value, f => f value
  | choose more next, f => choose more fun i => (next i).bind f
  | flip next, f => flip fun b => (next b).bind f

instance : Monad Draw where
  pure := done
  bind := bind

/-- An item of a list; none if the list is empty. -/
def pick? : List α → Draw (Option α)
  | [] => done none
  | item :: rest => choose rest.length fun i => done (item :: rest)[i]?

/-- A coin. -/
def coin : Draw Bool := flip done

-- ==================================================== answering from a source

variable {σ : Type} [WordSource σ]

/-- The largest low half of a product that is accepted for `n` items: one
less than the greatest `n * 2 ^ k` of 32 bits. -/
def zone (n : Nat) : Nat := (n <<< (31 - n.log2)) - 1

/-- An index below `more + 1`. Words are taken until the low half of
their product with the number of items is in the zone; the high half is
the index. -/
def index? (more : Nat) (s : σ) : Option (Fin (more + 1) × σ) :=
  match _hnext : WordSource.next? s with
  | none => none
  | some (w, s') =>
      let product := w.toNat * (more + 1)
      if product % UInt32.size ≤ zone (more + 1) then
        some (⟨product / UInt32.size, by
          have hw : w.toNat < UInt32.size := w.toNat_lt
          exact Nat.div_lt_of_lt_mul
            (Nat.mul_lt_mul_of_pos_right hw (Nat.succ_pos _))⟩, s')
      else index? more s'
termination_by WordSource.left s
decreasing_by exact WordSource.left_next _hnext

/-- A coin: whether the number of two words, low half first, is below the
middle of its range. -/
def toss? (s : σ) : Option (Bool × σ) := do
  let (low, s) ← WordSource.next? s
  let (high, s) ← WordSource.next? s
  pure (2 * (low.toNat + UInt32.size * high.toNat) < UInt64.size, s)

/-- The outcome of a draw with a source; none if the source ends before
the draw is settled. -/
def run : Draw α → σ → Option (α × σ)
  | done value, s => some (value, s)
  | choose more next, s =>
      match index? more s with
      | none => none
      | some (i, s) => (next i).run s
  | flip next, s =>
      match toss? s with
      | none => none
      | some (b, s) => (next b).run s

end Draw

end WordGrammar
