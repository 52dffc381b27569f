/-
How large a machine an expression needs.

A regular expression stands for two machines: one reads a text forward
and finds where a match ends, the other reads backward from there and
finds where it starts. Both have to fit into a fixed number of bytes, or
the expression is refused. Only the forward machine knows of captures.

An expression that is nothing but a choice between very many texts needs
no machine.
-/
import WordGrammar.Regex.Expr
import WordGrammar.Regex.Machine.Size

namespace WordGrammar.Regex

namespace Expr

open Machine

-- ============================================================ anchoring

mutual

/-- Whether every match is known to start with a condition, reading in
some direction. -/
def startsWith (look : Look) (direction : Direction) : Expr → Bool
  | .look l => l == look
  | .concat parts =>
      match direction with
      | .forward => firstStarts look parts
      | .backward => lastStarts look false parts
  | .alternation branches => allStart look direction branches
  | .repetition body least _ _ =>
      0 < least && body.startsWith look direction
  | .capture _ body => body.startsWith look direction
  | _ => false

/-- Whether, reading forward, a part is known to start with a condition
before a part that can match some text has ended. -/
def firstStarts (look : Look) : List Expr → Bool
  | [] => false
  | e :: es =>
      e.startsWith look .forward
        || (e.longest? == some 0 && firstStarts look es)

/-- Whether the same is known reading backward, if it is or is not known
of the parts in front. -/
def lastStarts (look : Look) (known : Bool) : List Expr → Bool
  | [] => known
  | e :: es =>
      lastStarts look
        (e.startsWith look .backward
          || (e.longest? == some 0 && known)) es

/-- Whether all branches are known to start with a condition. -/
def allStart (look : Look) (direction : Direction) : List Expr → Bool
  | [] => true
  | e :: es => e.startsWith look direction && allStart look direction es

end

/-- Whether all matches are known to be where the reading starts. -/
def isAnchored (direction : Direction) (e : Expr) : Bool :=
  match direction with
  | .forward => e.startsWith .textStart .forward
  | .backward => e.startsWith .textEnd .backward

-- ================================================================ parts

/-- What a choice adds: a fork after the first two branches, which leads
to all of them, and a state where they end. -/
def choicePart (branches : List Part) : Part :=
  .all (branches.take 2
    ++ [.states 2, ⟨.addPlainWays branches.length⟩]
    ++ branches.drop 2)

/-- What a repetition adds. -/
def repetitionPart (body : Part) (mayBeEmpty : Bool) (least : Nat)
    (most : Option Nat) : Part :=
  match least, most with
  | 0, none =>
      if mayBeEmpty then .all [body, .fork, .fork, .states 1]
      else .all [.fork, body]
  | 0, some 1 => .all [.fork, body, .states 1]
  | least, none => .all [body.copies least, .fork]
  | least, some most =>
      let first := if least = 0 then .states 1 else body.copies least
      if least = most then first
      else
        let optional : Part := .all [.fork, body]
        .all [first, .states 1, optional.copies (most - least)]

mutual

/-- What an expression adds to a machine. -/
def part (direction : Direction) : Expr → Part
  | empty | look _ => .states 1
  | literal text => .states (byteSize text)
  | set s => .ofSet direction s
  | concat parts =>
      let parts := partsOf direction [] parts
      match direction with
      | .forward => .all parts.reverse
      | .backward => .all parts
  | alternation branches =>
      match textsOf? branches with
      | some texts => .ofTexts direction texts
      | none => choicePart (partsOf direction [] branches).reverse
  | repetition body least most _ =>
      repetitionPart (body.part direction)
        (body.shortest?.all (· == 0)) least most
  | capture _ body =>
      match direction with
      | .forward => .all [.states 1, body.part direction, .states 1]
      | .backward => body.part direction

/-- What some expressions add, the last of them first, in front of some
parts. -/
def partsOf (direction : Direction) (parts : List Part) :
    List Expr → List Part
  | [] => parts
  | e :: es => partsOf direction (e.part direction :: parts) es

end

-- ============================================================ the whole

/-- What leads to an expression: a loop that reads any byte, unless all
matches are where the reading starts. -/
def approach (direction : Direction) (e : Expr) : Part :=
  if e.isAnchored direction then .states 1
  else .all [.fork, .states 1, ⟨.addReading 1⟩]

/-- The size of an expression's machine. It ends with a state for the
match, and the whole match is a capture. -/
def machineSize (direction : Direction) (e : Expr) : Size :=
  (Part.all [e.approach direction, (capture 0 e).part direction,
    .states 1]).add {}

/-- From so many texts on a choice between texts needs no machine. -/
def manyTexts : Nat := 3000

/-- Whether an expression is a choice between very many texts. -/
def isManyTexts : Expr → Bool
  | alternation branches =>
      manyTexts ≤ branches.length && (textsOf? branches).isSome
  | _ => false

/-- Whether both machines of an expression are small enough. -/
def fits (e : Expr) : Bool :=
  e.isManyTexts
    || (!(e.machineSize .forward).exceeds
      && !(e.machineSize .backward).exceeds)

end Expr

end WordGrammar.Regex
