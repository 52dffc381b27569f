/-
The state in which a regular expression is read.

The text is read from left to right with a stack of the groups that are
open. What a flag changes holds until its group ends, across `|` too, so
every open group remembers the flags outside it. With the flag `x`,
blanks and comments between the parts of the syntax are skipped.
-/
import WordGrammar.Regex.Expr
import WordGrammar.Regex.Fault
import WordGrammar.Text.Blank

namespace WordGrammar.Regex

open Text

/-- What the flags `i m s U u R x` are set to. -/
structure Flags where
  caseless : Bool := false
  multiLine : Bool := false
  dotAll : Bool := false
  swapGreed : Bool := false
  unicode : Bool := true
  crlf : Bool := false
  verbose : Bool := false
  deriving DecidableEq, Repr

/-- A part of a sequence: what it matches, whether a repetition may
follow, and how deeply constructs are nested in it. -/
structure Item where
  expr : Expr
  repeatable : Bool := true
  height : Nat := 0

/-- An open group: its flags and parts so far, and where it goes when it
is closed. Lists hold the newest part first. -/
structure Frame where
  /-- The flags outside the group. -/
  outerFlags : Flags
  /-- The number of the capture, if the group is one. -/
  capture : Option Nat
  /-- The finished alternatives outside. -/
  outerAlternatives : List Item
  /-- The sequence that the group is a part of. -/
  outerSequence : List Item

/-- Everything that reading keeps track of. -/
structure Reading where
  rest : List Char
  /-- The length of the whole text. -/
  length : Nat
  flags : Flags := {}
  captures : Nat := 0
  names : List (String × Nat) := []
  frames : List Frame := []
  alternatives : List Item := []
  sequence : List Item := []

/-- A step of reading. -/
abbrev Reader := StateT Reading (Except Fault)

namespace Reader

/-- Gives up. -/
def fail {α : Type} (fault : Fault) : Reader α := throw fault

/-- The next character, which stays unread. -/
def peek : Reader (Option Char) := do return (← get).rest.head?

/-- Steps over one character. -/
def skip : Reader Unit :=
  modify fun r => { r with rest := r.rest.drop 1 }

/-- Steps over some text if it comes next. -/
def accept (text : String) : Reader Bool := do
  let r ← get
  if text.toList.isPrefixOf r.rest then
    set { r with rest := r.rest.drop text.length }
    return true
  else return false

/-- A text without the blanks and the comments that the flag `x` lets
stand at its start. -/
def withoutLayout (fuel : Nat) (cs : List Char) : List Char :=
  match fuel with
  | 0 => cs
  | fuel + 1 =>
      match cs.dropWhile isBlank with
      | '#' :: comment =>
          withoutLayout fuel ((comment.dropWhile (· ≠ '\n')).drop 1)
      | cs => cs

/-- Steps over layout where the flag `x` allows it. -/
def skipLayout : Reader Unit :=
  modify fun r =>
    if r.flags.verbose then
      { r with rest := withoutLayout (r.length + 1) r.rest }
    else r

/-- Steps over one character and the layout after it. -/
def skipAndLayout : Reader Unit := do
  skip
  skipLayout

/-- The character after the next one, beyond any layout. A comment that
does not end at once counts as a character. -/
def peekSecond : Reader (Option Char) := do
  let r ← get
  let after := r.rest.drop 1
  if r.flags.verbose then
    match after.dropWhile isBlank with
    | '#' :: comment => return (comment.dropWhile isBlank).head?
    | cs => return cs.head?
  else return after.head?

/-- How many steps a loop may make that reads a character in each of
them. -/
def fuel : Reader Nat := do return (← get).length + 1

end Reader

open Reader

end WordGrammar.Regex
