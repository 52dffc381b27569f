/-
Replacement templates.

A template is text in which `$name` and `${name}` stand for a capture and
`$$` for a dollar sign. A name that reads as a number is the number of a
capture, any other name is looked up; what is unknown or took no part in
the match contributes nothing. A dollar sign that opens none of these
stands for itself.
-/
import WordGrammar.Text.Decimal

namespace WordGrammar.Regex

/-- How a template names a capture. -/
inductive CaptureName
  | number (n : Nat)
  | name (name : String)
  deriving DecidableEq, Repr

/-- A name that is a number means the capture with that number. -/
def CaptureName.ofText (cs : List Char) : CaptureName :=
  match Text.readUnsigned? Text.limit64 cs with
  | some n => .number n
  | none => .name (String.ofList cs)

/-- A piece of a template. -/
inductive TemplatePiece
  | character (c : Char)
  | capture (name : CaptureName)
  deriving DecidableEq, Repr

/-- A character of a name that is not in braces. -/
def isBareNameCharacter (c : Char) : Bool := c.isAlphanum || c == '_'

/-- What a dollar sign opens: the piece, and how many characters after
the dollar sign it takes. -/
def dollarPiece (rest : List Char) : TemplatePiece × Nat :=
  match rest with
  | '$' :: _ => (.character '$', 1)
  | '\x7b' :: inside =>
      let name := inside.takeWhile (· ≠ '\x7d')
      if name.length < inside.length then
        (.capture (.ofText name), name.length + 2)
      else (.character '$', 0)
  | _ =>
      let name := rest.takeWhile isBareNameCharacter
      if name = [] then (.character '$', 0)
      else (.capture (.ofText name), name.length)

/-- The pieces of a template. -/
def templatePieces : List Char → List TemplatePiece
  | [] => []
  | c :: rest =>
      if c = '$' then
        let (piece, used) := dollarPiece rest
        piece :: templatePieces (rest.drop used)
      else .character c :: templatePieces rest
termination_by cs => cs.length
decreasing_by all_goals simp only [List.length_drop, List.length_cons]; omega

/-- What a piece puts into the text, given the text of each capture. -/
def TemplatePiece.fill (captured : CaptureName → List Char) :
    TemplatePiece → List Char
  | character c => [c]
  | capture name => captured name

/-- A template with its captures filled in. -/
def fillTemplate (pieces : List TemplatePiece)
    (captured : CaptureName → List Char) : List Char :=
  pieces.flatMap (·.fill captured)

end WordGrammar.Regex
