/-
The ChaCha stream with eight rounds as a source of random words.

A key of eight words and a 64-bit block counter determine blocks of
sixteen words; the stream is the words of the blocks in order. `ofSeed`
stretches a 64-bit seed to a key. The stream ends when the counter has
run through all its values.
-/
import WordGrammar.Random.Source

namespace WordGrammar

namespace ChaCha

/-- Sixteen words. -/
abbrev Block := Vector UInt32 16

/-- A word with its bits moved up around the end. -/
def rotate (w : UInt32) (n : UInt32) : UInt32 :=
  (w <<< n) ||| (w >>> (32 - n))

/-- Mixes four words of a block. -/
def quarterRound (x : Block) (a b c d : Fin 16) : Block :=
  let va := x[a] + x[b]
  let vd := rotate (x[d] ^^^ va) 16
  let vc := x[c] + vd
  let vb := rotate (x[b] ^^^ vc) 12
  let va := va + vb
  let vd := rotate (vd ^^^ va) 8
  let vc := vc + vd
  let vb := rotate (vb ^^^ vc) 7
  (((x.set a va).set b vb).set c vc).set d vd

/-- Mixes the columns and then the diagonals of a block. -/
def doubleRound (x : Block) : Block :=
  let x := quarterRound x 0 4 8 12
  let x := quarterRound x 1 5 9 13
  let x := quarterRound x 2 6 10 14
  let x := quarterRound x 3 7 11 15
  let x := quarterRound x 0 5 10 15
  let x := quarterRound x 1 6 11 12
  let x := quarterRound x 2 7 8 13
  quarterRound x 3 4 9 14

/-- The block before mixing: four constants, the key, the block counter
and the number of the stream, which is zero. -/
def initial (key : Vector UInt32 8) (counter : Nat) : Block :=
  #v[0x61707865, 0x3320646e, 0x79622d32, 0x6b206574,
    key[0], key[1], key[2], key[3], key[4], key[5], key[6], key[7],
    UInt32.ofNat counter, UInt32.ofNat (counter / UInt32.size), 0, 0]

/-- The block of a counter: four double rounds, added to what they
started from. -/
def block (key : Vector UInt32 8) (counter : Nat) : Block :=
  let start := initial key counter
  let mixed := doubleRound (doubleRound (doubleRound (doubleRound start)))
  Vector.zipWith (· + ·) mixed start

end ChaCha

/-- A stream: its key, the counter of the next block, and the words of
the current block that have not been handed out. -/
structure KeyStream where
  key : Vector UInt32 8
  counter : Nat
  pending : List UInt32
  deriving DecidableEq

namespace KeyStream

/-- How many values the block counter has. -/
def blockCount : Nat := UInt64.size

/-- The next word of the stream. -/
def next? (s : KeyStream) : Option (UInt32 × KeyStream) :=
  match s.pending with
  | w :: pending => some (w, { s with pending })
  | [] =>
      if s.counter < blockCount then
        let block := ChaCha.block s.key s.counter
        some (block[0], ⟨s.key, s.counter + 1, block.toList.drop 1⟩)
      else none

/-- How many words are left. -/
def left (s : KeyStream) : Nat :=
  s.pending.length + 16 * (blockCount - s.counter)

theorem left_next {s : KeyStream} {w : UInt32} {s' : KeyStream}
    (h : s.next? = some (w, s')) : s'.left < s.left := by
  unfold next? at h
  split at h
  · rename_i hpending
    cases h
    simp [left, hpending]
  · rename_i hpending
    split at h
    · cases h
      simp only [left, hpending, List.length_drop, Vector.length_toList,
        List.length_nil]
      omega
    · cases h

instance : WordSource KeyStream where
  next? := next?
  left := left
  left_next := left_next

/-- The words of a key made from a seed: the seed runs through a linear
congruence, and each value gives a word by shifts and a rotation that
depends on its top bits. -/
def keyWords : Nat → UInt64 → List UInt32
  | 0, _ => []
  | n + 1, s =>
      let s := s * 6364136223846793005 + 11634580027462260723
      let x := (((s >>> 18) ^^^ s) >>> 27).toUInt32
      let turn := (s >>> 59).toUInt32
      let word := (x >>> turn) ||| (x <<< ((32 - turn) % 32))
      word :: keyWords n s

theorem length_keyWords (n : Nat) (s : UInt64) :
    (keyWords n s).length = n := by
  induction n generalizing s with
  | zero => rfl
  | succ n ih => simp [keyWords, ih]

/-- The stream of a seed, from its start. -/
def ofSeed (seed : UInt64) : KeyStream where
  key := ⟨(keyWords 8 seed).toArray, by
    rw [List.size_toArray, length_keyWords]⟩
  counter := 0
  pending := []

end KeyStream

end WordGrammar
