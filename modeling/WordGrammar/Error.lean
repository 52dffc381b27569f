/-
Everything that can go wrong, and its wording.

An error is a kind together with an optional place. The kind holds the
facts (which rule, in whose pattern, at which offset); `ErrorKind.message`
is the only function that turns them into words. A place is added where
the failing declaration is known but the kind does not name it.
-/
import WordGrammar.RuleId
import WordGrammar.Text.Quoted

namespace WordGrammar

/-- The kinds of failure. -/
inductive ErrorKind
  /-- A line of a grammar has none of the known forms; `context` is the
  line. -/
  | grammarSyntax (message : String) (line column : Nat) (context : String)
  /-- A rule is referred to and not declared. -/
  | unresolvedReference (id : RuleId) (owner : String)
  /-- A rule is needed compiled and is not. -/
  | uncompiledReference (id : RuleId) (owner : String)
  /-- The entry rule is referred to from outside itself. -/
  | entryRuleReferenced (owner : String)
  /-- Rules refer to each other in a circle; the first is repeated at the
  end. -/
  | cyclicReference (cycle : List RuleId)
  /-- A parenthesis of a pattern has no partner; the offset counts
  bytes. -/
  | malformedGroup (pattern : String) (offset : Nat) (message : String)
  /-- There is no entry rule to start from. -/
  | emptyGrammar
  /-- A sound change's pattern is no regular expression. -/
  | invalidRegex (pattern message : String)
  /-- The entry rule was nested too deeply. -/
  | expansionLimit (limit : Nat)
  /-- A file could not be read. -/
  | unreadable (path message : String)
  /-- A shell command was not understood. -/
  | invalidCommand (message : String)
  /-- Something that should not happen. -/
  | internal (message : String)
  deriving DecidableEq

/-- The rules of a circle, joined by arrows. -/
def cycleText (cycle : List RuleId) : String :=
  " -> ".intercalate (cycle.map RuleId.text)

/-- The wording of a kind of failure. -/
def ErrorKind.message : ErrorKind → String
  | .grammarSyntax message line column _ =>
      s!"syntax error at {line}:{column}: {message}"
  | .unresolvedReference id owner =>
      s!"unresolved reference to rule {id.text} in {owner}"
  | .uncompiledReference id owner =>
      s!"rule {id.text} referenced from {owner} has not been compiled"
  | .entryRuleReferenced owner =>
      s!"{owner} references the entry rule W, which is never expanded ahead of generation"
  | .cyclicReference cycle =>
      s!"cyclic rule reference: {cycleText cycle}"
  | .malformedGroup pattern offset message =>
      s!"malformed optional group in {Text.quoted pattern} at offset {offset}: {message}"
  | .emptyGrammar =>
      "cannot generate words: entry rule W is missing or empty"
  | .invalidRegex pattern message =>
      s!"invalid transformation pattern {Text.quoted pattern}: {message}"
  | .expansionLimit limit =>
      s!"expansion depth limit ({limit}) exceeded"
  | .unreadable path message =>
      s!"failed to read {path}: {message}"
  | .invalidCommand message => s!"invalid command: {message}"
  | .internal message => s!"internal error: {message}"

/-- Whether a grammar's text could not be read as declarations. -/
def ErrorKind.isSyntax : ErrorKind → Bool
  | .grammarSyntax .. => true
  | _ => false

/-- Where something went wrong: a named source, and perhaps a line and a
column in it. -/
structure Place where
  source : Option String := none
  position : Option (Nat × Nat) := none
  deriving DecidableEq

/-- The wording of a place; nothing is said of a position in an unnamed
source. -/
def Place.text (place : Place) : String :=
  match place.source, place.position with
  | some source, some (line, column) => s!"at {source}:{line}:{column}"
  | some source, none => s!"at {source}"
  | none, _ => ""

/-- A failure: its kind, and its place where one was added. -/
structure Error where
  kind : ErrorKind
  place : Option Place := none
  deriving DecidableEq

namespace Error

/-- A failure without a place. -/
def of (kind : ErrorKind) : Error := ⟨kind, none⟩

/-- The same failure at a place. -/
def withPlace (e : Error) (place : Place) : Error :=
  { e with place := some place }

/-- The wording of a failure; the place is not part of it. -/
def message (e : Error) : String := e.kind.message

end Error

end WordGrammar
