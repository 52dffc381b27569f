/-
Reading a regular expression.

The parts of a sequence are collected until their group or the text ends;
a repetition takes the part before it. The result is an expression with
all flags resolved, and the names of its captures.
-/
import WordGrammar.Regex.Class
import WordGrammar.Text.Character
import WordGrammar.Text.Decimal

namespace WordGrammar.Regex

open Text Reader

-- ========================================================= repetitions

/-- Adds a part to the current sequence. -/
def pushItem (item : Item) : Reader Unit :=
  modify fun r => { r with sequence := item :: r.sequence }

/-- Adds an expression without parts of its own. -/
def pushExpr (expr : Expr) : Reader Unit := pushItem { expr }

/-- Takes the part that a repetition applies to. -/
def popRepeatable : Reader Item := do
  let r ← get
  match r.sequence with
  | item :: rest =>
      if item.repeatable then
        set { r with sequence := rest }
        return item
      else fail .repetitionMissing
  | [] => fail .repetitionMissing

/-- Puts a repetition in place of its body. -/
def pushRepetition (item : Item) (least : Nat) (most : Option Nat)
    (greedy : Bool) : Reader Unit := do
  let flags := (← get).flags
  pushItem {
    expr := .repeated item.expr least most (greedy != flags.swapGreed)
    height := item.height + 1 }

/-- Reads `?`, `*` or `+`, with a `?` after it for the lazy form. -/
def uncounted (least : Nat) (most : Option Nat) : Reader Unit := do
  let item ← popRepeatable
  skip
  let lazy := (← peek) == some '?'
  if lazy then skip
  pushRepetition item least most (!lazy)

/-- Reads the digits of a count. -/
def countDigits (digits : List Char) : Nat → Reader (List Char)
  | 0 => return digits.reverse
  | fuel + 1 => do
      match ← peek with
      | some c =>
          if c.isDigit then
            skipAndLayout
            countDigits (c :: digits) fuel
          else return digits.reverse
      | none => return digits.reverse

/-- Steps over blanks, which a count may have around it. -/
def skipBlanks : Reader Unit :=
  modify fun r => { r with rest := r.rest.dropWhile isBlank }

/-- Reads a count; none if there are no digits. It has to fit in 32
bits. -/
def count? : Reader (Option Nat) := do
  skipBlanks
  let digits ← countDigits [] (← fuel)
  skipBlanks
  skipLayout
  if digits = [] then return none
  match readUnsigned? UInt32.size digits with
  | some n => return some n
  | none => fail .countInvalid

/-- A count that has to be there. -/
def needCount : Option Nat → Reader Nat
  | some n => return n
  | none => fail .countEmpty

/-- Reads a count between braces, with a `?` after it for the lazy
form. -/
def counted : Reader Unit := do
  let item ← popRepeatable
  skipAndLayout
  if (← peek).isNone then fail .countUnclosed
  let first ← count?
  let (least, most) ←
    if (← peek) == some ',' then do
      skipAndLayout
      if (← peek).isNone then fail .countUnclosed
      if (← peek) == some '\x7d' then do
        let least ← needCount first
        pure (least, none)
      else do
        let least ← needCount first
        let most ← needCount (← count?)
        pure (least, some most)
    else do
      let exactly ← needCount first
      pure (exactly, some exactly)
  if (← peek) != some '\x7d' then fail .countUnclosed
  skipAndLayout
  let lazy := (← peek) == some '?'
  if lazy then skip
  if most.any (· < least) then fail .countOutOfOrder
  pushRepetition item least most (!lazy)

-- ============================================================= groups

/-- The flags with one of them set or cleared. -/
def Flags.change? (flags : Flags) (letter : Char) (on : Bool) :
    Option Flags :=
  match letter with
  | 'i' => some { flags with caseless := on }
  | 'm' => some { flags with multiLine := on }
  | 's' => some { flags with dotAll := on }
  | 'U' => some { flags with swapGreed := on }
  | 'u' => some { flags with unicode := on }
  | 'R' => some { flags with crlf := on }
  | 'x' => some { flags with verbose := on }
  | _ => none

/-- Reads flags up to `:` or `)`, which stays unread. `seen` holds the
letters and the minus sign read so far, newest first. -/
def flagLetters (flags : Flags) (seen : List Char) :
    Nat → Reader (Flags × List Char)
  | 0 => fail .flagUnfinished
  | fuel + 1 => do
      match ← peek with
      | none => fail .flagUnfinished
      | some c =>
          if c = ':' || c = ')' then
            if seen.head? = some '-' then fail .flagDangling
            else return (flags, seen)
          else if seen.contains c then fail .flagDuplicate
          else if c = '-' then
            skip
            flagLetters flags (c :: seen) fuel
          else
            match flags.change? c (!seen.contains '-') with
            | none => fail .flagUnknown
            | some flags =>
                skip
                flagLetters flags (c :: seen) fuel

/-- A character that may stand in a capture's name. -/
def isNameCharacter (first : Bool) (c : Char) : Bool :=
  c = '_' || (if first then isAlphabetic c
    else c = '.' || c = '[' || c = ']' || isAlphanumeric c)

/-- Reads a capture's name and the `>` after it. -/
def captureName (number : Nat) : Reader Unit := do
  let r ← get
  let name := r.rest.takeWhile (· ≠ '>')
  let valid := match name with
    | [] => true
    | c :: cs => isNameCharacter true c && cs.all (isNameCharacter false)
  if !valid then fail .groupNameInvalid
  else if (r.rest.drop name.length).isEmpty then
    fail .groupNameUnfinished
  else if name = [] then fail .groupNameEmpty
  else
    let name := String.ofList name
    if r.names.any (·.1 == name) then fail .groupNameDuplicate
    else
      set { r with
        rest := r.rest.drop (name.length + 1)
        names := r.names ++ [(name, number)] }

/-- Starts a group with the given flags inside. -/
def pushFrame (capture : Option Nat) (inside : Flags) : Reader Unit :=
  modify fun r =>
    { r with
      frames := ⟨r.flags, capture, r.alternatives, r.sequence⟩ :: r.frames
      flags := inside
      alternatives := []
      sequence := [] }

/-- The number of the next capture. -/
def nextCapture : Reader Nat := do
  let r ← get
  set { r with captures := r.captures + 1 }
  return r.captures + 1

/-- Starts a capture whose name comes next. -/
def namedGroup : Reader Unit := do
  let number ← nextCapture
  captureName number
  pushFrame (some number) (← get).flags

/-- Reads the start of a group, or flags for the rest of the current one;
the opening parenthesis comes next. -/
def openGroup : Reader Unit := do
  skip
  skipLayout
  let rest := (← get).rest
  if ["?=", "?!", "?<=", "?<!"].any fun p => p.toList.isPrefixOf rest then
    fail .lookaround
  else if ← accept "?P<" then namedGroup
  else if ← accept "?<" then namedGroup
  else if ← accept "?" then
    if (← peek).isNone then fail .groupUnclosed
    let (flags, seen) ← flagLetters (← get).flags [] (← fuel)
    let closing ← peek
    skip
    if closing = some ')' then
      if seen = [] then fail .repetitionMissing
      modify fun r => { r with flags }
      pushItem { expr := .empty, repeatable := false }
    else pushFrame none flags
  else
    let number ← nextCapture
    pushFrame (some number) (← get).flags

/-- A sequence as one part. -/
def sequenceItem (items : List Item) : Item :=
  match items with
  | [] => { expr := .empty }
  | [item] => item
  | items => {
      expr := .sequence (items.reverse.map Item.expr)
      height := (items.map Item.height).foldl max 0 + 1 }

/-- Some alternatives, the last of them a sequence, as one part. -/
def groupItem (alternatives sequence : List Item) : Item :=
  match alternatives with
  | [] => sequenceItem sequence
  | _ =>
      let items := sequenceItem sequence :: alternatives
      { expr := .choice (items.reverse.map Item.expr)
        height := (items.map Item.height).foldl max 0 + 1 }

/-- Ends the current alternative; the bar comes next. -/
def nextAlternative : Reader Unit := do
  skip
  modify fun r =>
    { r with
      alternatives := sequenceItem r.sequence :: r.alternatives
      sequence := [] }

/-- Ends the innermost group; the closing parenthesis comes next. -/
def closeGroup : Reader Unit := do
  let r ← get
  match r.frames with
  | [] => fail .groupUnopened
  | frame :: frames =>
      let body := groupItem r.alternatives r.sequence
      let expr := match frame.capture with
        | some number => .capture number body.expr
        | none => body.expr
      set { r with
        rest := r.rest.drop 1
        flags := frame.outerFlags
        frames
        alternatives := frame.outerAlternatives
        sequence := { expr, height := body.height + 1 }
          :: frame.outerSequence }

-- =========================================================== the whole

/-- What a character matches under the flags. -/
def literalExpr (flags : Flags) (c : Char) : Expr :=
  .ofSet (if flags.unicode || c.toNat < 128 then
      flags.withCase (.singleton c)
    else .singleton c)

/-- What a dot matches under the flags. -/
def dotSet (flags : Flags) : CodeSet :=
  if flags.dotAll then .all
  else if flags.crlf then (CodeSet.ofPairs [('\n', '\n'), ('\r', '\r')]).compl
  else (CodeSet.singleton '\n').compl

/-- Reads one part of a sequence that is neither a group, a class nor a
repetition; `c` comes next. -/
def primitive (c : Char) : Reader Unit := do
  let flags := (← get).flags
  match c with
  | '\\' =>
      match ← escape with
      | .literal c => pushExpr (literalExpr flags c)
      | .look look => pushExpr (.look look)
      | .set s => pushExpr (.ofSet s)
  | '.' =>
      skip
      if !flags.unicode then fail .notText
      pushExpr (.set (dotSet flags))
  | '^' =>
      skip
      pushExpr (.look
        (if flags.multiLine then .lineStart flags.crlf else .textStart))
  | '$' =>
      skip
      pushExpr (.look
        (if flags.multiLine then .lineEnd flags.crlf else .textEnd))
  | c =>
      skip
      pushExpr (literalExpr flags c)

/-- Reads parts up to the end of the text. -/
def readAll : Nat → Reader Unit
  | 0 => return ()
  | fuel + 1 => do
      skipLayout
      match ← peek with
      | none => return ()
      | some c =>
          match c with
          | '(' => openGroup
          | ')' => closeGroup
          | '|' => nextAlternative
          | '[' => pushItem (← bracketed)
          | '?' => uncounted 0 (some 1)
          | '*' => uncounted 0 none
          | '+' => uncounted 1 none
          | '\x7b' => counted
          | c => primitive c
          readAll fuel

/-- A regular expression that has been read. -/
structure Syntax where
  expr : Expr
  names : List (String × Nat)

/-- How deeply constructs may be nested. -/
def heightLimit : Nat := 250

/-- Reads a regular expression. -/
def parse (source : String) : Except Fault Syntax := do
  let start : Reading := { rest := source.toList, length := source.length }
  let (_, r) ← (readAll (source.length + 1)).run start
  unless r.frames.isEmpty do throw .groupUnclosed
  let whole := groupItem r.alternatives r.sequence
  if heightLimit < whole.height then throw .nestedTooDeeply
  return ⟨whole.expr, r.names⟩

end WordGrammar.Regex
