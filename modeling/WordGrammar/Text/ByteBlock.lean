/-
The encodings of sets of characters, byte for byte.

In UTF-8 a character is one to four bytes. A block is a list of byte
ranges, one for every byte of an encoding; its characters are those whose
bytes lie each in its own range, in all combinations. A range of codes
falls into a few blocks: the codes of one length, and of those first the
rest of a unit, then whole units, then the beginning of a unit, where a
unit is what the last one, two or three bytes can tell apart.

`ByteTree` arranges the blocks of a set by what they begin with.
-/
import WordGrammar.Text.CodeSet

namespace WordGrammar.Text

/-- The bytes from `first` to `last`, both included. -/
structure ByteRange where
  first : UInt8
  last : UInt8
  deriving DecidableEq, Repr, Inhabited

/-- For every byte of an encoding the range that it lies in. -/
abbrev ByteBlock := List ByteRange

namespace CodeRange

/-- The greatest codes of one, two and three bytes. -/
def lengthLimits : List Nat := [0x7F, 0x7FF, 0xFFFF]

/-- How many codes the last one, two and three bytes tell apart. -/
def units : List Nat := [0x40, 0x1000, 0x40000]

/-- The parts of a range that lie on either side of some limits. -/
def cutAfter (r : CodeRange) : List Nat → List CodeRange
  | [] => [r]
  | limit :: limits =>
      if r.first ≤ limit && limit < r.last then
        ⟨r.first, limit⟩ :: cutAfter ⟨limit + 1, r.last⟩ limits
      else cutAfter r limits

/-- The parts of a range that are whole units or lie within one, for some
ascending sizes of a unit. -/
def cutUnits (r : CodeRange) : List Nat → List CodeRange
  | [] => [r]
  | unit :: units =>
      if r.first / unit = r.last / unit then [r]
      else
        let first := (r.first + unit - 1) / unit * unit
        let last := (r.last + 1) / unit * unit
        let head :=
          if r.first < first then [⟨r.first, first - 1⟩] else []
        let tail := if last ≤ r.last then [⟨last, r.last⟩] else []
        let middle :=
          if first < last then cutUnits ⟨first, last - 1⟩ units else []
        head ++ middle ++ tail

/-- The block of a range whose ends differ in no more than whole
units. -/
def block (r : CodeRange) : ByteBlock :=
  List.zipWith ByteRange.mk (String.utf8EncodeChar (Char.ofNat r.first))
    (String.utf8EncodeChar (Char.ofNat r.last))

/-- The blocks of a range, in ascending order. -/
def blocks (r : CodeRange) : List ByteBlock :=
  (r.cutAfter lengthLimits).flatMap fun part =>
    if part.last < 0x80 then [part.block]
    else (part.cutUnits units).map block

end CodeRange

/-- The blocks of a set, in ascending order. -/
def CodeSet.blocks (s : CodeSet) : List ByteBlock :=
  s.ranges.toList.flatMap CodeRange.blocks

/-- The ways to read an encoding: by a byte of some range and on below,
or one of the other ways. Below the last byte there is no way. -/
inductive ByteTree
  | nil
  | cons (range : ByteRange) (below rest : ByteTree)

namespace ByteTree

/-- Adds a block in front; it shares the first way as far as it begins in
the same way. -/
def add : ByteBlock → ByteTree → ByteTree
  | [], tree => tree
  | range :: block, cons range' below rest =>
      if range = range' then cons range (add block below) rest
      else cons range (add block nil) (cons range' below rest)
  | range :: block, nil => cons range (add block nil) nil

/-- The tree of some blocks. -/
def ofBlocks (blocks : List ByteBlock) : ByteTree :=
  blocks.foldr add nil

end ByteTree

end WordGrammar.Text
