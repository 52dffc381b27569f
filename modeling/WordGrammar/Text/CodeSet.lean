/-
Sets of characters as ranges of codes.

A set is kept in one form only: ascending ranges with a gap between any
two of them, and without the codes from 0xD800 to 0xDFFF, which belong to
no character. So equal sets are equal values, membership is a bisection,
and the operations work on the ranges and never on single characters.

Tables of character properties are written as text: a range is two codes
in hexadecimal with a hyphen between them, or one code, and blanks stand
between ranges.
-/
namespace WordGrammar.Text

/-- The codes from `first` to `last`, both included. -/
structure CodeRange where
  first : Nat
  last : Nat
  deriving DecidableEq, Repr, Inhabited

/-- The greatest code of a character. -/
def lastCode : Nat := 0x10FFFF

/-- The codes that belong to no character. -/
def codeGap : CodeRange := ⟨0xD800, 0xDFFF⟩

namespace CodeRange

/-- A range without the codes that belong to no character. -/
def clip (r : CodeRange) : List CodeRange :=
  [⟨r.first, min r.last (codeGap.first - 1)⟩,
    ⟨max r.first (codeGap.last + 1), r.last⟩].filter
      fun part => part.first ≤ part.last

/-- Adds a range in front of ascending ranges, none of which starts
before it, and takes in those that it meets. -/
def prepend (r : CodeRange) : List CodeRange → List CodeRange
  | [] => [r]
  | next :: rest =>
      if next.first ≤ r.last + 1 then
        prepend ⟨r.first, max r.last next.last⟩ rest
      else r :: next :: rest

/-- The ranges between ascending ranges, from the code `start` on. -/
def gapsFrom (start : Nat) : List CodeRange → List CodeRange
  | [] => if start ≤ lastCode then [⟨start, lastCode⟩] else []
  | r :: rest =>
      if start < r.first then
        ⟨start, r.first - 1⟩ :: gapsFrom (r.last + 1) rest
      else gapsFrom (r.last + 1) rest

end CodeRange

/-- A set of characters; `ofRanges` makes one in its normal form. -/
structure CodeSet where
  ranges : Array CodeRange
  deriving DecidableEq, Repr, Inhabited

namespace CodeSet

/-- Ranges in ascending order, joined where they meet. -/
def joined (ranges : List CodeRange) : List CodeRange :=
  (ranges.mergeSort fun a b => a.first ≤ b.first).foldr
    (fun r rest => r.prepend rest) []

/-- The set of the codes in some ranges, in any order. -/
def ofRanges (ranges : List CodeRange) : CodeSet :=
  ⟨(joined (ranges.flatMap CodeRange.clip)).toArray⟩

/-- No character. -/
def empty : CodeSet := ⟨#[]⟩

/-- The characters from one to another, both included. -/
def range (first last : Char) : CodeSet :=
  ofRanges [⟨first.toNat, last.toNat⟩]

/-- One character. -/
def singleton (c : Char) : CodeSet := ⟨#[⟨c.toNat, c.toNat⟩]⟩

/-- The characters of some ranges. -/
def ofPairs (pairs : List (Char × Char)) : CodeSet :=
  ofRanges (pairs.map fun (first, last) => ⟨first.toNat, last.toNat⟩)

/-- All characters. -/
def all : CodeSet := ofRanges [⟨0, lastCode⟩]

/-- Whether one of the ranges from `low` up to but not including `high`
holds the code. -/
def holdsBetween (ranges : Array CodeRange) (code low high : Nat) : Bool :=
  if low < high then
    let middle := (low + high) / 2
    match ranges[middle]? with
    | none => false
    | some r =>
        if code < r.first then holdsBetween ranges code low middle
        else if r.last < code then
          holdsBetween ranges code (middle + 1) high
        else true
  else false
termination_by high - low

/-- Membership. -/
def contains (s : CodeSet) (c : Char) : Bool :=
  holdsBetween s.ranges c.toNat 0 s.ranges.size

/-- What is in one of the sets. -/
def unions (sets : List CodeSet) : CodeSet :=
  ofRanges (sets.flatMap fun s => s.ranges.toList)

/-- What is in either set. -/
def union (a b : CodeSet) : CodeSet := unions [a, b]

/-- What is not in the set. -/
def compl (s : CodeSet) : CodeSet :=
  ⟨(CodeRange.gapsFrom 0 (joined (codeGap :: s.ranges.toList))).toArray⟩

/-- What is in both sets. -/
def inter (a b : CodeSet) : CodeSet := (union a.compl b.compl).compl

/-- What is in the first set and not in the second. -/
def diff (a b : CodeSet) : CodeSet := (union a.compl b).compl

/-- What is in exactly one of the sets. -/
def symmDiff (a b : CodeSet) : CodeSet := (union a b).diff (inter a b)

/-- Whether all members are below 128. -/
def isAscii (s : CodeSet) : Bool := s.ranges.all fun r => r.last < 128

/-- The only member, if there is just one. -/
def single? (s : CodeSet) : Option Char :=
  match s.ranges.toList with
  | [r] => if r.first = r.last then some (Char.ofNat r.first) else none
  | _ => none

end CodeSet

-- ===================================================== tables as text

/-- The value of a hexadecimal digit. -/
def hexValue? (c : Char) : Option Nat :=
  if c.isDigit then some (c.toNat - '0'.toNat)
  else if 'a' ≤ c && c ≤ 'f' then some (c.toNat - 'a'.toNat + 10)
  else if 'A' ≤ c && c ≤ 'F' then some (c.toNat - 'A'.toNat + 10)
  else none

/-- What has been read of a table: the finished ranges, newest first, the
first code of the current range if its hyphen has been read, and the code
that the last digits make. -/
structure TableScan where
  ranges : List CodeRange := []
  first : Option Nat := none
  code : Option Nat := none

namespace TableScan

/-- Ends the current range, if there is one. -/
def finish (s : TableScan) : TableScan :=
  match s.code with
  | none => s
  | some last =>
      { ranges := ⟨s.first.getD last, last⟩ :: s.ranges
        first := none
        code := none }

/-- Reads one character. -/
def step (s : TableScan) (c : Char) : TableScan :=
  match hexValue? c with
  | some digit => { s with code := some (16 * s.code.getD 0 + digit) }
  | none =>
      if c = '-' then { s with first := s.code, code := none }
      else s.finish

end TableScan

/-- The set that a table lists. -/
def CodeSet.ofTable (table : String) : CodeSet :=
  ofRanges (table.foldl TableScan.step {}).finish.ranges

end WordGrammar.Text
