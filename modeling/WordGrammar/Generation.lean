/-
Generating words.

A word is drawn from an alternative of the entry rule: a reference draws
from the alternatives of its rule, an optional part is drawn and then
kept or dropped by a coin, and a reference of the entry rule to itself
draws another word, nested up to a limit. The drawn word is then passed
through morphology and stripped of its syllable markers, as the options
say; that part involves no chance.
-/
import WordGrammar.Grammar
import WordGrammar.Morphology.Derivation
import WordGrammar.Random.Draw

namespace WordGrammar

/-- What happens to a word after it is drawn, and whether its derivation
is shown. -/
structure Options where
  morphology : Bool := false
  keepSyllables : Bool := false
  debug : Bool := false
  deriving DecidableEq, Repr

/-- A draw that may fail. -/
abbrev Drawing := ExceptT Error Draw

namespace Generation

/-- How often the entry rule may be nested in itself. -/
def depthLimit : Nat := 32

/-- The character between syllables. -/
def syllableMarker : Char := '-'

/-- One of a rule's words. -/
def drawAlternative (table : RuleTable) (id : RuleId) : Drawing String := do
  let alternatives ← liftExcept (table.substitute RuleId.entry.owner id)
  match ← ExceptT.lift (Draw.pick? alternatives) with
  | some word => pure word
  | none => throw (.of (.internal s!"rule {id.text} has no alternatives"))
where
  /-- A result that involves no chance. -/
  liftExcept {α : Type} (e : Except Error α) : Drawing α := ExceptT.mk (pure e)

/-- A word of a pattern, given how to draw one of the entry rule. -/
def drawPattern (table : RuleTable) (entry : Drawing String) :
    Pattern → Drawing String
  | .empty => pure ""
  | .literal text rest => do
      let after ← drawPattern table entry rest
      pure (text ++ after)
  | .reference id rest => do
      let here ← if id.isEntry then entry else drawAlternative table id
      let after ← drawPattern table entry rest
      pure (here ++ after)
  | .optional body rest => do
      let here ← drawPattern table entry body
      let kept ← ExceptT.lift Draw.coin
      let after ← drawPattern table entry rest
      pure ((if kept then here else "") ++ after)

/-- A word of the entry rule, with `levels` levels of nesting left. -/
def drawEntry (table : RuleTable) : Nat → Drawing String
  | 0 => throw (.of (.expansionLimit depthLimit))
  | levels + 1 => do
      let patterns := (table.alternatives? .entry).getD []
      match ← ExceptT.lift (Draw.pick? patterns) with
      | none => throw (.of .emptyGrammar)
      | some source =>
          let pattern ← drawAlternative.liftExcept (Pattern.parse source)
          drawPattern table (drawEntry table levels) pattern

/-- A word before anything is done to it. -/
def drawWord (table : RuleTable) : Draw (Except Error String) :=
  drawEntry table (depthLimit + 1)

/-- A word without its syllable markers. -/
def stripSyllables (word : String) : String :=
  String.ofList (word.toList.filter (· ≠ syllableMarker))

/-- What the options make of a drawn word. -/
def finish (morphology : Morphology) (options : Options)
    (word : String) : Derivation :=
  let derivation : Derivation :=
    if options.morphology && !morphology.isEmpty then
      morphology.derive word
    else ⟨.ok word, []⟩
  { derivation with
    result := derivation.result.map fun word =>
      if options.keepSyllables then word else stripSyllables word }

/-- What the options make of the outcome of a draw. -/
def finishDrawn (morphology : Morphology) (options : Options) :
    Except Error String → Derivation
  | .error e => ⟨.error e, []⟩
  | .ok word => finish morphology options word

/-- The failure of a word that the random words do not suffice for. There is
one because every source ends, so that every draw does. A `KeyStream` would
not have to: after `2 ^ 68` words its block counter could go around and the
same words come again. -/
def usedUp : Error := .of (.internal "the random words are used up")

variable {σ : Type} [WordSource σ]

/-- A word of a grammar and what was seen of its derivation; none if the
source ends first. -/
def generate? (rules : RuleTable) (morphology : Morphology)
    (options : Options) (s : σ) : Option (Derivation × σ) := do
  let (drawn, s) ← (drawWord rules).run s
  pure (finishDrawn morphology options drawn, s)

/-- Words one after the other, going on after failures; fewer than
`count` if the source ends. -/
def generateEach (rules : RuleTable) (morphology : Morphology)
    (options : Options) : Nat → σ → List (Derivation × σ)
  | 0, _ => []
  | count + 1, s =>
      match generate? rules morphology options s with
      | none => []
      | some (derivation, s) =>
          (derivation, s)
            :: generateEach rules morphology options count s

end Generation

end WordGrammar
