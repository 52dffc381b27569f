/-
Escapes of regular expressions: what a backslash and the characters after
it stand for, in a sequence and in a class alike.

Where a construct repeats, its reader takes the number of steps it may
make from the length of the text, every step reading a character.
-/
import WordGrammar.Regex.Reader

namespace WordGrammar.Regex

open Text Reader

/-- A single thing that stands for itself in a sequence or a class. -/
inductive Primitive
  | literal (c : Char)
  | look (look : Look)
  | set (set : CodeSet)

/-- A character that has a meaning in the syntax. -/
def isMeta (c : Char) : Bool :=
  "\\.+*?()|[]\x7b\x7d^$#&-~".toList.contains c

/-- A character that may follow a backslash and stand for itself. -/
def isEscapable (c : Char) : Bool :=
  isMeta c
    || (c.toNat < 128 && !c.isAlphanum && c != '<' && c != '>')

/-- The character with a code, unless no character has it. -/
def characterOf (code : Nat) : Reader Char :=
  if code.isValidChar then return Char.ofNat code
  else fail .escapeHexInvalid

/-- A set, ignoring case if the flags say so. -/
def Flags.withCase (flags : Flags) (set : CodeSet) : CodeSet :=
  if flags.caseless then
    if flags.unicode then set.caseless else set.caselessAscii
  else set

/-- A set, complemented if asked for. Without the flag `u` sets stay
within ASCII, which no complement does. -/
def negatedSet (negated : Bool) (set : CodeSet) : Reader CodeSet := do
  if !negated then return set
  else if (← get).flags.unicode then return set.compl
  else fail .notText

/-- Reads `count` hexadecimal digits, the first of them coming next. -/
def fixedHex (value : Nat) : Nat → Reader Nat
  | 0 => return value
  | count + 1 => do
      match ← peek with
      | none => fail .escapeUnfinished
      | some c =>
          match hexValue? c with
          | none => fail .escapeHexDigit
          | some digit =>
              skipAndLayout
              fixedHex (16 * value + digit) count

/-- Reads hexadecimal digits up to a closing brace; the opening brace or
a digit comes next. -/
def bracedHex (digits value : Nat) : Nat → Reader Char
  | 0 => fail .escapeUnfinished
  | fuel + 1 => do
      skipAndLayout
      match ← peek with
      | none => fail .escapeUnfinished
      | some '\x7d' =>
          skipAndLayout
          if digits = 0 then fail .escapeHexEmpty else characterOf value
      | some c =>
          match hexValue? c with
          | none => fail .escapeHexDigit
          | some digit => bracedHex (digits + 1) (16 * value + digit) fuel

/-- Reads the code of a character after `x`, `u` or `U`, which comes
next. -/
def hexEscape (digits : Nat) : Reader Char := do
  skipAndLayout
  match ← peek with
  | none => fail .escapeUnfinished
  | some '\x7b' => bracedHex 0 0 (← fuel)
  | some _ =>
      let code ← fixedHex 0 digits
      if digits = 2 && 128 ≤ code && !(← get).flags.unicode then
        fail .notText
      else characterOf code

/-- Reads characters up to a closing brace; the opening brace or one of
the characters comes next. -/
def bracedName (name : List Char) : Nat → Reader (List Char)
  | 0 => fail .escapeUnfinished
  | fuel + 1 => do
      skipAndLayout
      match ← peek with
      | none => fail .escapeUnfinished
      | some '\x7d' =>
          skip
          return name.reverse
      | some c => bracedName (c :: name) fuel

/-- Cuts a text at the first occurrence of a separator. -/
def cutAt (separator : List Char) : List Char →
    Option (List Char × List Char)
  | [] => none
  | c :: rest =>
      if separator.isPrefixOf (c :: rest) then
        some ([], (c :: rest).drop separator.length)
      else (cutAt separator rest).map fun (before, after) =>
        (c :: before, after)

/-- The parts of a class name: the name of a property, the value that it
is to have or not to have, if one is given, and whether it is not. -/
def nameParts (name : List Char) : List Char × Option (List Char) × Bool :=
  match cutAt ['!', '='] name with
  | some (property, value) => (property, some value, true)
  | none =>
      match (cutAt [':'] name).orElse fun _ => cutAt ['='] name with
      | some (property, value) => (property, some value, false)
      | none => (name, none, false)

/-- The set that a class name means, and whether the name negates it. -/
def namedClass (name : List Char) : Reader (CodeSet × Bool) := do
  let (property, value, negated) := nameParts name
  let property := looseName (String.ofList property)
  let set? := match value with
    | some value => valueSet? property (looseName (String.ofList value))
    | none => namedSet? property
  match set? with
  | some set => return (set, negated)
  | none => fail .propertyUnknown

/-- Reads a property class; `p` or `P` comes next. -/
def propertyEscape (negated : Bool) : Reader CodeSet := do
  skipAndLayout
  match ← peek with
  | none => fail .escapeUnfinished
  | some c =>
      let name ←
        if c = '\x7b' then bracedName [] (← fuel)
        else if c = '\\' then fail .propertyInvalid
        else do
          skipAndLayout
          pure [c]
      let flags := (← get).flags
      if !flags.unicode then fail .notUnicode
      else
        let (set, opposite) ← namedClass name
        let set := flags.withCase set
        return if negated != opposite then set.compl else set

/-- The set of a one-letter class: digits, blanks or word characters. -/
def shortClass (c : Char) : Reader CodeSet := do
  let unicode := (← get).flags.unicode
  let set : CodeSet := match c.toLower with
    | 'd' => if unicode then digitSet else .range '0' '9'
    | 's' =>
        if unicode then whiteSpace
        else .ofPairs [('\t', '\r'), (' ', ' ')]
    | _ =>
        if unicode then wordSet
        else .ofPairs [('0', '9'), ('A', 'Z'), ('_', '_'), ('a', 'z')]
  negatedSet c.isUpper set

/-- Reads the letters and hyphens of a word boundary's name. -/
def boundaryName (name : List Char) : Nat → Reader (List Char)
  | 0 => return name.reverse
  | fuel + 1 => do
      match ← peek with
      | some c =>
          if c.isAlpha || c = '-' then
            skipAndLayout
            boundaryName (c :: name) fuel
          else return name.reverse
      | none => return name.reverse

/-- Reads what may follow a word boundary: a name between braces. A brace
that opens a count is left alone. -/
def boundary (ascii : Bool) : Reader Look := do
  if (← peek) != some '\x7b' then return .wordBoundary ascii
  let before ← get
  skipAndLayout
  match ← peek with
  | none => fail .boundaryUnclosed
  | some c =>
      if !(c.isAlpha || c = '-') then
        set before
        return .wordBoundary ascii
      let name ← boundaryName [] (← fuel)
      if (← peek) != some '\x7d' then fail .boundaryUnclosed
      skip
      match String.ofList name with
      | "start" => return .wordStart ascii
      | "end" => return .wordEnd ascii
      | "start-half" => return .wordStartHalf ascii
      | "end-half" => return .wordEndHalf ascii
      | _ => fail .boundaryUnknown

/-- Reads an escape; the backslash comes next. -/
def escape : Reader Primitive := do
  skip
  match ← peek with
  | none => fail .escapeUnfinished
  | some c =>
      let ascii := !(← get).flags.unicode
      if c.isDigit then fail .backreference
      else if c = 'x' then return .literal (← hexEscape 2)
      else if c = 'u' then return .literal (← hexEscape 4)
      else if c = 'U' then return .literal (← hexEscape 8)
      else if c = 'p' || c = 'P' then
        return .set (← propertyEscape (c = 'P'))
      else
        skip
        if "dswDSW".toList.contains c then return .set (← shortClass c)
        else if isEscapable c then return .literal c
        else
          match c with
          | 'a' => return .literal '\x07'
          | 'f' => return .literal '\x0c'
          | 't' => return .literal '\t'
          | 'n' => return .literal '\n'
          | 'r' => return .literal '\r'
          | 'v' => return .literal '\x0b'
          | 'A' => return .look .textStart
          | 'z' => return .look .textEnd
          | 'b' => return .look (← boundary ascii)
          | 'B' => return .look (.notWordBoundary ascii)
          | '<' => return .look (.wordStart ascii)
          | '>' => return .look (.wordEnd ascii)
          | _ => fail .escapeUnknown

end WordGrammar.Regex
