/-
Bracketed classes of regular expressions.

A class is a union of characters, ranges, escapes and nested classes;
operators between unions take intersections and differences, from left to
right and all with the same precedence. The nested classes that are open
are kept in a list, innermost first.
-/
import WordGrammar.Regex.Escape

namespace WordGrammar.Regex

open Text Reader

/-- How two operands of a class are combined. -/
inductive SetOperator
  | inter
  | diff
  | symmDiff

/-- The combination of two sets. -/
def SetOperator.apply : SetOperator → CodeSet → CodeSet → CodeSet
  | inter, a, b => a.inter b
  | diff, a, b => a.diff b
  | symmDiff, a, b => a.symmDiff b

/-- A class that is being read: whether it is negated, the operand and
the operator before the current union, and the union's items, newest
first. -/
structure OpenClass where
  negated : Bool
  before : Option (CodeSet × Nat × SetOperator) := none
  items : List (CodeSet × Nat) := []

namespace OpenClass

/-- Adds an item to the current union. -/
def push (cls : OpenClass) (set : CodeSet) (height : Nat := 0) :
    OpenClass :=
  { cls with items := (set, height) :: cls.items }

/-- The current union, and how deeply it is nested. -/
def unionSet (cls : OpenClass) : CodeSet × Nat :=
  match cls.items with
  | [] => (.empty, 0)
  | [(set, height)] => (set, height)
  | items =>
      (.unions (items.map (·.1)), (items.map (·.2)).foldl max 0 + 1)

/-- Everything read so far as one operand. -/
def operand (flags : Flags) (cls : OpenClass) : CodeSet × Nat :=
  let (set, height) := cls.unionSet
  match cls.before with
  | none => (set, height)
  | some (left, leftHeight, op) =>
      (op.apply (flags.withCase left) (flags.withCase set),
        max leftHeight height + 1)

/-- Goes on behind an operator. -/
def operator (flags : Flags) (op : SetOperator) (cls : OpenClass) :
    OpenClass :=
  let (set, height) := cls.operand flags
  { cls with before := some (set, height, op), items := [] }

end OpenClass

/-- A primitive that may stand in a class. -/
def Primitive.asSet : Primitive → Reader CodeSet
  | .literal c => do
      if !(← get).flags.unicode && 128 ≤ c.toNat then fail .notUnicode
      else return .singleton c
  | .set s => return s
  | .look _ => fail .classEscapeInvalid

/-- A primitive that may bound a range. -/
def Primitive.asBound : Primitive → Reader Char
  | .literal c => do
      if !(← get).flags.unicode && 128 ≤ c.toNat then fail .notUnicode
      else return c
  | _ => fail .classRangeLiteral

/-- Reads one character or escape of a class. -/
def classPrimitive : Reader Primitive := do
  match ← peek with
  | some '\\' => escape
  | some c =>
      skip
      return .literal c
  | none => fail .classUnclosed

/-- Reads a character, an escape or a range of a class. -/
def classRange : Reader CodeSet := do
  let first ← classPrimitive
  skipLayout
  match ← peek with
  | none => fail .classUnclosed
  | some c =>
      let second ← peekSecond
      if c ≠ '-' || second = some ']' || second = some '-' then
        first.asSet
      else
        skipAndLayout
        if (← peek).isNone then fail .classUnclosed
        let last ← classPrimitive
        let low ← first.asBound
        let high ← last.asBound
        if low ≤ high then return .range low high
        else fail .classRangeInvalid

/-- Reads an ASCII class such as `[:alpha:]` if one comes next, and
nothing otherwise. -/
def asciiClass? : Reader (Option CodeSet) := do
  let r ← get
  match r.rest with
  | '[' :: ':' :: rest =>
      let (negated, rest) := match rest with
        | '^' :: rest => (true, rest)
        | _ => (false, rest)
      let name := rest.takeWhile (· ≠ ':')
      match rest.drop name.length, asciiSet? (String.ofList name) with
      | ':' :: ']' :: rest, some ascii =>
          let folded := r.flags.withCase ascii
          set { r with rest := rest }
          return some (← negatedSet negated folded)
      | _, _ => return none
  | _ => return none

/-- Reads the hyphens that a class may start with. -/
def leadingHyphens (cls : OpenClass) : Nat → Reader OpenClass
  | 0 => fail .classUnclosed
  | fuel + 1 => do
      match ← peek with
      | none => fail .classUnclosed
      | some '-' =>
          skipAndLayout
          leadingHyphens (cls.push (.singleton '-')) fuel
      | some _ => return cls

/-- Reads the start of a class up to its first ordinary item; the opening
bracket comes next. -/
def openClass : Reader OpenClass := do
  skipAndLayout
  let negated := (← peek) == some '^'
  if negated then skipAndLayout
  let cls ← leadingHyphens ⟨negated, none, []⟩ (← fuel)
  match cls.items, ← peek with
  | [], some ']' =>
      skipAndLayout
      if (← peek).isNone then fail .classUnclosed
      return cls.push (.singleton ']')
  | _, _ => return cls

/-- The set of a class that has been read, and how deeply it is
nested. -/
def closeClass (cls : OpenClass) : Reader (CodeSet × Nat) := do
  let flags := (← get).flags
  let (set, height) := cls.operand flags
  return (← negatedSet cls.negated (flags.withCase set), height + 1)

/-- Reads the items of a class and of the classes it is nested in,
innermost first, up to the outermost closing bracket. -/
def classItems (cls : OpenClass) (outer : List OpenClass) :
    Nat → Reader (CodeSet × Nat)
  | 0 => fail .classUnclosed
  | fuel + 1 => do
      skipLayout
      let flags := (← get).flags
      match (← get).rest with
      | [] => fail .classUnclosed
      | '[' :: _ =>
          match ← asciiClass? with
          | some set => classItems (cls.push set) outer fuel
          | none => classItems (← openClass) (cls :: outer) fuel
      | ']' :: _ =>
          skip
          let (set, height) ← closeClass cls
          match outer with
          | [] => return (set, height)
          | parent :: outer => classItems (parent.push set height) outer fuel
      | '&' :: '&' :: _ =>
          skip
          skip
          classItems (cls.operator flags .inter) outer fuel
      | '-' :: '-' :: _ =>
          skip
          skip
          classItems (cls.operator flags .diff) outer fuel
      | '~' :: '~' :: _ =>
          skip
          skip
          classItems (cls.operator flags .symmDiff) outer fuel
      | _ => classItems (cls.push (← classRange)) outer fuel

/-- Reads a class; the opening bracket comes next. -/
def bracketed : Reader Item := do
  let steps := 2 * (← fuel)
  let cls ← openClass
  let (set, height) ← classItems cls [] steps
  return { expr := .ofSet set, height }

end WordGrammar.Regex
