/-
Regular expressions as terms.

An expression denotes what it matches at a point of a text. All flags
have been resolved: a set already ignores case if it should, an assertion
already knows which line ends count, and a repetition knows whether it
prefers more or fewer turns. Captures are numbered from 1; number 0 is
the whole match and has no node.

Expressions are kept in a simple form, which `sequence`, `choice`,
`repeated` and `ofSet` take care of: texts next to each other are one
text, nothing stands in a sequence for nothing, alternatives of single
characters are a set, and what all alternatives begin with is written
once in front of them.
-/
import WordGrammar.Regex.NamedSet

namespace WordGrammar.Regex

open Text

/-- A condition on the point between two characters. -/
inductive Look
  /-- Nothing comes before. -/
  | textStart
  /-- Nothing comes after. -/
  | textEnd
  /-- The text or a line starts; `crlf` lets a carriage return end a
  line too, alone or with a line feed. -/
  | lineStart (crlf : Bool)
  /-- The text or a line ends. -/
  | lineEnd (crlf : Bool)
  /-- Exactly one neighbour belongs to a word; `ascii` restricts words to
  ASCII, here and below. -/
  | wordBoundary (ascii : Bool)
  /-- Both neighbours or none belong to a word. -/
  | notWordBoundary (ascii : Bool)
  /-- A word starts. -/
  | wordStart (ascii : Bool)
  /-- A word ends. -/
  | wordEnd (ascii : Bool)
  /-- No word reaches up to here. -/
  | wordStartHalf (ascii : Bool)
  /-- No word goes on from here. -/
  | wordEndHalf (ascii : Bool)
  deriving DecidableEq, Repr

/-- Whether a character belongs to a word. -/
def inWord (ascii : Bool) (c : Option Char) : Bool :=
  c.any fun c =>
    if ascii || c.toNat < 128 then c.isAlphanum || c == '_'
    else wordSet.contains c

/-- Whether the condition holds between two neighbours, either of which
may be missing. -/
def Look.holds (look : Look) (before after : Option Char) : Bool :=
  match look with
  | textStart => before.isNone
  | textEnd => after.isNone
  | lineStart false => before.all (· == '\n')
  | lineStart true =>
      before.all fun c => c == '\n' || (c == '\r' && after != some '\n')
  | lineEnd false => after.all (· == '\n')
  | lineEnd true =>
      after.all fun c => c == '\r' || (c == '\n' && before != some '\r')
  | wordBoundary ascii => inWord ascii before != inWord ascii after
  | notWordBoundary ascii => inWord ascii before == inWord ascii after
  | wordStart ascii => !inWord ascii before && inWord ascii after
  | wordEnd ascii => inWord ascii before && !inWord ascii after
  | wordStartHalf ascii => !inWord ascii before
  | wordEndHalf ascii => !inWord ascii after

/-- A regular expression. -/
inductive Expr
  /-- Matches nothing, anywhere. -/
  | empty
  /-- Matches some text, which is not empty. -/
  | literal (text : List Char)
  /-- Matches one character of a set. -/
  | set (set : CodeSet)
  /-- Matches nothing where a condition holds. -/
  | look (look : Look)
  /-- Matches one after the other. -/
  | concat (parts : List Expr)
  /-- Matches any of some branches, earlier ones by preference. -/
  | alternation (branches : List Expr)
  /-- Matches `least` turns and up to `most`, without a bound if there is
  none; `greedy` prefers more turns. -/
  | repetition (body : Expr) (least : Nat) (most : Option Nat)
      (greedy : Bool)
  /-- Matches like its body and notes where. -/
  | capture (index : Nat) (body : Expr)

namespace Expr

-- ============================================================ equality

mutual

/-- Whether two expressions are written alike. -/
def same : Expr → Expr → Bool
  | empty, empty => true
  | literal a, literal b => a == b
  | set a, set b => a == b
  | look a, look b => a == b
  | concat a, concat b => sameAll a b
  | alternation a, alternation b => sameAll a b
  | repetition a least most greedy, repetition b least' most' greedy' =>
      least == least' && most == most' && greedy == greedy' && a.same b
  | capture i a, capture j b => i == j && a.same b
  | _, _ => false

/-- Whether two lists hold expressions that are written alike. -/
def sameAll : List Expr → List Expr → Bool
  | [], [] => true
  | a :: as, b :: bs => a.same b && sameAll as bs
  | _, _ => false

end

-- ============================================================= lengths

/-- The bytes that a text takes. -/
def byteSize (text : List Char) : Nat :=
  text.foldl (fun n c => n + c.utf8Size) 0

/-- The least of some lengths, unknown if one of them is. -/
def leastOf (a b : Option Nat) : Option Nat := do pure (min (← a) (← b))

/-- The greatest of some lengths, unknown if one of them is. -/
def greatestOf (a b : Option Nat) : Option Nat :=
  do pure (max (← a) (← b))

/-- The sum of some lengths, unknown if one of them is. -/
def sumOf (a b : Option Nat) : Option Nat := do pure ((← a) + (← b))

mutual

/-- A lower bound on the bytes of any match; none is known of what can
never match. -/
def shortest? : Expr → Option Nat
  | empty | look _ => some 0
  | literal text => some (byteSize text)
  | set s => s.ranges[0]?.map fun r => (Char.ofNat r.first).utf8Size
  | concat parts => shortestSum parts (some 0)
  | alternation [] => none
  | alternation (e :: es) => shortestOf es e.shortest?
  | repetition body least _ _ => body.shortest?.map (· * least)
  | capture _ body => body.shortest?

/-- The sum of the lower bounds of some parts and another one. -/
def shortestSum : List Expr → Option Nat → Option Nat
  | [], bound => bound
  | e :: es, bound => shortestSum es (sumOf bound e.shortest?)

/-- The least of the lower bounds of some branches and another one. -/
def shortestOf : List Expr → Option Nat → Option Nat
  | [], bound => bound
  | e :: es, bound => shortestOf es (leastOf bound e.shortest?)

end

mutual

/-- An upper bound on the bytes of any match; none if there is no bound,
and of what can never match. -/
def longest? : Expr → Option Nat
  | empty | look _ => some 0
  | literal text => some (byteSize text)
  | set s => s.ranges.back?.map fun r => (Char.ofNat r.last).utf8Size
  | concat parts => longestSum parts (some 0)
  | alternation [] => none
  | alternation (e :: es) => longestOf es e.longest?
  | repetition body _ most _ => do pure ((← body.longest?) * (← most))
  | capture _ body => body.longest?

/-- The sum of the upper bounds of some parts and another one. -/
def longestSum : List Expr → Option Nat → Option Nat
  | [], bound => bound
  | e :: es, bound => longestSum es (sumOf bound e.longest?)

/-- The greatest of the upper bounds of some branches and another one. -/
def longestOf : List Expr → Option Nat → Option Nat
  | [], bound => bound
  | e :: es, bound => longestOf es (greatestOf bound e.longest?)

end

-- ========================================================= simple form

/-- One character of a set. -/
def ofSet (s : CodeSet) : Expr :=
  match s.single? with
  | some c => literal [c]
  | none => set s

/-- The parts of an expression as a member of a sequence. -/
def asParts : Expr → List Expr
  | empty => []
  | concat parts => parts
  | e => [e]

/-- Puts an expression in front of a sequence; texts become one text. -/
def prependPart : Expr → List Expr → List Expr
  | literal a, literal b :: rest => literal (a ++ b) :: rest
  | e, rest => e :: rest

/-- One expression after the other. -/
def sequence (parts : List Expr) : Expr :=
  match (parts.flatMap asParts).foldr prependPart [] with
  | [] => empty
  | [e] => e
  | parts => concat parts

/-- The branches of an expression as a member of a choice. -/
def asBranches : Expr → List Expr
  | alternation branches => branches
  | e => [e]

/-- The set of the characters that are the branches, if all branches are
single characters. -/
def charactersOf? (branches : List Expr) : Option CodeSet :=
  (branches.mapM fun
    | literal [c] => some (⟨c.toNat, c.toNat⟩ : CodeRange)
    | _ => none).map CodeSet.ofRanges

/-- The union of the sets that are the branches, if all branches are
sets. -/
def setsOf? (branches : List Expr) : Option CodeSet :=
  (branches.mapM fun
    | set s => some s
    | _ => none).map CodeSet.unions

/-- The texts between which a choice is, if all branches are texts. -/
def textsOf? (branches : List Expr) : Option (List (List Char)) :=
  branches.mapM fun
    | literal text => some text
    | _ => none

/-- What two sequences begin with. -/
def commonPrefix : List Expr → List Expr → List Expr
  | a :: as, b :: bs => if a.same b then a :: commonPrefix as bs else []
  | _, _ => []

/-- What all branches begin with, if all are sequences. -/
def sharedPrefix (branches : List Expr) : List Expr :=
  let sequences := branches.mapM fun
    | concat parts => some parts
    | _ => none
  match sequences with
  | some (first :: rest) => rest.foldl commonPrefix first
  | _ => []

/-- A branch without its first parts. -/
def withoutPrefix (count : Nat) : Expr → Expr
  | concat parts => sequence (parts.drop count)
  | e => e

/-- A choice between expressions, earlier ones by preference. Taking out
a shared beginning makes the branches shorter, so `fuel` need not exceed
their length. -/
def choiceWithin (branches : List Expr) : Nat → Expr
  | 0 => alternation branches
  | fuel + 1 =>
      match branches.flatMap asBranches with
      | [e] => e
      | branches =>
          match charactersOf? branches, setsOf? branches with
          | some s, _ => ofSet s
          | none, some s => ofSet s
          | none, none =>
              match sharedPrefix branches with
              | [] => alternation branches
              | shared =>
                  sequence (shared ++ [choiceWithin
                    (branches.map (withoutPrefix shared.length)) fuel])

mutual

/-- How many expressions an expression is made of. -/
def weight : Expr → Nat
  | concat es | alternation es => weightSum es 1
  | repetition e _ _ _ | capture _ e => e.weight + 1
  | _ => 1

/-- The weight of some expressions and another one. -/
def weightSum : List Expr → Nat → Nat
  | [], n => n
  | e :: es, n => weightSum es (n + e.weight)

end

/-- A choice between expressions, earlier ones by preference. -/
def choice (branches : List Expr) : Expr :=
  choiceWithin branches (weightSum branches 1)

/-- Turns of an expression. A body that only matches nothing is never
taken more than once. -/
def repeated (body : Expr) (least : Nat) (most : Option Nat)
    (greedy : Bool) : Expr :=
  let (least, most) :=
    if body.longest? = some 0 then
      (min least 1, some (min (most.getD 1) 1))
    else (least, most)
  if most = some 0 then empty
  else if least = 1 && most = some 1 then body
  else repetition body least most greedy

end Expr

end WordGrammar.Regex
