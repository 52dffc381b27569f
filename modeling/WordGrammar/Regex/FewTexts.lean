/-
Expressions that are a choice between a few texts.

If all beginnings of an expression are whole, its matches are known: to
search for them is to search for the texts, and no machine is needed. The
expression must then be free of conditions and captures, which the texts
say nothing of, and it must match something.

Beginnings also serve to find the places where a match is worth trying,
and for that they are chosen so that the search for them is fast. If fewer
or shorter ones are better for that, the expression is not taken for a
choice between texts, even if it is one.
-/
import WordGrammar.Regex.Beginning

namespace WordGrammar.Regex

namespace Beginning

-- ============================================================ choosing

/-- What two texts begin with. -/
def commonBytes : List UInt8 → List UInt8 → List UInt8
  | a :: as, b :: bs => if a = b then a :: commonBytes as bs else []
  | _, _ => []

/-- What all beginnings begin with. -/
def sharedBytes : List Beginning → List UInt8
  | [] => []
  | b :: bs => bs.foldl (fun shared b => commonBytes shared b.bytes) b.bytes

/-- The shortest of the beginnings that a text begins with. -/
def shortestCovering? (bytes : List UInt8) (bs : List Beginning) :
    Option Beginning :=
  (bs.filter fun b => b.bytes.isPrefixOf bytes).foldl
    (fun found b => match found with
      | none => some b
      | some a => if b.bytes.length < a.bytes.length then some b else some a)
    none

/-- Adds a beginning to those that are preferred to it, unless it begins
with one of them. Unless `keepWhole`, that one then counts as started. -/
def addUncovered (keepWhole : Bool) (kept : List Beginning)
    (b : Beginning) : List Beginning :=
  match shortestCovering? b.bytes kept with
  | none => kept ++ [b]
  | some a =>
      if keepWhole then kept
      else kept.map fun c => if c = a then c.toStarted else c

/-- The beginnings that do not begin with a preferred one. -/
def uncovered (keepWhole : Bool) (bs : List Beginning) : List Beginning :=
  bs.foldl (addUncovered keepWhole) []

/-- Pairs of a length in bytes and a number: beginnings are cut to the
length if there are more of them than the number. -/
def attempts : List (Nat × Nat) :=
  [(5, 10), (4, 10), (3, 64), (2, 64), (1, 10)]

/-- Beginnings after some attempts to make do with fewer and shorter ones,
as long as there are too many. -/
def shortened : List (Nat × Nat) → List Beginning → List Beginning
  | [], bs => bs
  | (bytes, count) :: rest, bs =>
      if bs.length ≤ count then bs
      else shortened rest (uncovered false (bs.map (cutTo bytes)))

-- ============================================================= judging

/-- The characters of ASCII with which many texts begin. -/
def common : List Char :=
  "\n\r (),-./0129:_abcdefghilmnoprstuvxy|".toList

/-- The characters of ASCII that are found almost anywhere. -/
def ubiquitous : List Char := [' ', 'e', 't']

/-- Whether a byte seldom begins a text. -/
def isRare (byte : UInt8) : Bool :=
  byte.toNat < 128 && !common.contains (Char.ofNat byte.toNat)

/-- Whether a byte is found almost anywhere. -/
def isUbiquitous (byte : UInt8) : Bool :=
  128 ≤ byte.toNat || ubiquitous.contains (Char.ofNat byte.toNat)

/-- Whether a beginning is found almost anywhere. -/
def isUseless (b : Beginning) : Bool :=
  match b.bytes with
  | [] => true
  | [byte] => isUbiquitous byte
  | _ => false

/-- Whether shortened beginnings are worth searching for. -/
def areWorthwhile (bs : List Beginning) : Bool :=
  bs.length ≤ 64 && bs.all fun b => !b.isUseless && 3 ≤ b.bytes.length

/-- The texts of beginnings, if all of them are whole. -/
def wholeTexts? (bs : List Beginning) : Option (List (List Char)) :=
  bs.mapM fun
    | whole text => some text
    | started _ => none

/-- The beginnings that are searched for, given those that do not begin
with a preferred one. If there were several to choose from and what they
share is short and begins with a rare byte, that byte is searched for. If
what they share is long, or if they are too many to be searched for at
once, what they share is searched for. Otherwise they are shortened, but
whole ones stay as they are unless the shorter ones are worthwhile. -/
def searched (several : Bool) (bs : List Beginning) : List Beginning :=
  let shared := sharedBytes bs
  if several && shared.length ≤ 3 && shared.head?.any isRare then
    merge (bs.map (cutTo 1))
  else
    let fast := bs.length ≤ 16 && bs.all isWhole
    let bs :=
      if 4 < shared.length || (1 < shared.length && !fast) then
        merge (bs.map (cutTo shared.length))
      else bs
    let shorter := shortened attempts bs
    if bs.all isWhole && !areWorthwhile shorter then bs else shorter

end Beginning

/-- The texts between which the choice is, if all beginnings are whole and
stay so. -/
def Beginnings.texts? : Beginnings → Option (List (List Char))
  | unknown => none
  | among [] => none
  | among bs =>
      if bs.any fun b => b.bytes.isEmpty then none
      else
        Beginning.wholeTexts? (Beginning.searched (1 < bs.length)
          (Beginning.uncovered true bs))

namespace Expr

mutual

/-- Whether an expression is free of conditions and captures. -/
def isPlain : Expr → Bool
  | empty | literal _ | set _ => true
  | look _ | capture _ _ => false
  | concat es | alternation es => allPlain es
  | repetition body _ _ _ => body.isPlain

/-- Whether some expressions are free of conditions and captures. -/
def allPlain : List Expr → Bool
  | [] => true
  | e :: es => e.isPlain && allPlain es

end

/-- The texts between which an expression is a choice, earlier ones by
preference, if they are few. -/
def fewTexts? (e : Expr) : Option (List (List Char)) :=
  if e.isPlain then e.beginnings.texts? else none

end Expr

end WordGrammar.Regex
