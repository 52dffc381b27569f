/-
What a trace records.

An event says what happened; a record adds its number in the trace, the
number of the word it belongs to (0 while a grammar is compiled), and
when it happened.
-/
import WordGrammar.RuleId
import WordGrammar.Text.Quoted

namespace WordGrammar.Trace

/-- Something that happened while a grammar was compiled or a word was
made. -/
inductive Event
  /-- A grammar from a source was compiled. -/
  | grammarLoaded (source : String) (rules changes : Nat)
  /-- A rule was compiled into a number of words. -/
  | ruleCompiled (rule : RuleId) (alternatives : Nat)
  /-- A sound change's pattern was expanded. -/
  | changeCompiled (index : Nat) (expanded : String)
  /-- A sound change had an effect on a word. -/
  | morphologyStep (index : Nat) (before after : String)
  /-- A word was finished. -/
  | wordGenerated (word : String)
  deriving DecidableEq

/-- The types of events. -/
inductive EventType
  | grammarLoaded
  | ruleCompiled
  | changeCompiled
  | morphologyStep
  | wordGenerated
  deriving DecidableEq, Repr

namespace EventType

/-- Every type. -/
def all : List EventType :=
  [grammarLoaded, ruleCompiled, changeCompiled, morphologyStep,
    wordGenerated]

/-- The name of a type. -/
def name : EventType → String
  | grammarLoaded => "grammar-loaded"
  | ruleCompiled => "rule-compiled"
  | changeCompiled => "transformation-compiled"
  | morphologyStep => "morphology-step"
  | wordGenerated => "word-generated"

/-- Whether events of the type happen while a grammar is compiled. -/
def isCompile : EventType → Bool
  | grammarLoaded | ruleCompiled | changeCompiled => true
  | morphologyStep | wordGenerated => false

end EventType

namespace Event

/-- The type of an event. -/
def type : Event → EventType
  | grammarLoaded .. => .grammarLoaded
  | ruleCompiled .. => .ruleCompiled
  | changeCompiled .. => .changeCompiled
  | morphologyStep .. => .morphologyStep
  | wordGenerated .. => .wordGenerated

/-- Whether the event happened while a grammar was compiled. -/
def isCompile (event : Event) : Bool := event.type.isCompile

/-- The wording of an event; sound changes are counted from 1. -/
def text : Event → String
  | grammarLoaded source rules changes =>
      s!"loaded {source}: {rules} rules, {changes} transformations"
  | ruleCompiled rule alternatives =>
      s!"compiled {rule.text} ({alternatives} alternatives)"
  | changeCompiled index expanded =>
      s!"compiled transformation #{index + 1} /{expanded}/"
  | morphologyStep index before after =>
      s!"#{index + 1}: {before} => {after}"
  | wordGenerated word => s!"word {Text.quoted word}"

end Event

/-- An event with its number, its word and the nanoseconds since the
trace began. -/
structure Record where
  id : Nat
  word : Nat
  time : Nat
  event : Event
  deriving DecidableEq

end WordGrammar.Trace
