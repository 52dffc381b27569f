/-
Morphology: the sound changes applied to a word, in order.

A sound change replaces every match of a pattern. It is compiled against a
table of rules, which expands the markers of its pattern and reads the
result as a regular expression; until then it cannot be applied. Two
sound changes count as the same if they are written the same and have
expanded to the same pattern.
-/
import WordGrammar.Morphology.Marker
import WordGrammar.Morphology.Template

namespace WordGrammar

/-- What compilation makes of a sound change. -/
structure CompiledChange where
  expanded : String
  regex : Regex
  template : String

/-- One step of morphology: what to look for and what to put in its
place. -/
structure SoundChange where
  pattern : String
  replacement : String
  compiled : Option CompiledChange := none

namespace SoundChange

/-- The pattern with its markers replaced, once compiled. -/
def expanded? (t : SoundChange) : Option String :=
  t.compiled.map CompiledChange.expanded

/-- Whether the sound change can be applied. -/
def isCompiled (t : SoundChange) : Bool := t.compiled.isSome

/-- The sound change as it is declared, its replacement quoted. -/
def text (t : SoundChange) : String :=
  s!"/{t.pattern}/ > {Text.quoted t.replacement}"

/-- Whether two sound changes are written the same and expanded to the
same. -/
def same (a b : SoundChange) : Bool :=
  a.pattern == b.pattern && a.replacement == b.replacement
    && a.expanded? == b.expanded?

/-- The sound change compiled against a table, on behalf of `owner`. A
compiled one is left as it is. -/
def compile (t : SoundChange) (table : RuleTable) (owner : String) :
    Except Error SoundChange :=
  if t.isCompiled then .ok t
  else do
    let expanded ← replaceMarkers table owner t.pattern
    match Regex.compile expanded with
    | .error fault =>
        .error (.of (.invalidRegex expanded fault.message))
    | .ok regex =>
        let template := String.ofList
          (templateOf t.replacement.toList)
        .ok { t with compiled := some ⟨expanded, regex, template⟩ }

/-- A word with every match replaced. -/
def apply (t : SoundChange) (word : String) : Except Error String :=
  match t.compiled with
  | none =>
      .error (.of (.internal
        s!"transformation /{t.pattern}/ is not compiled"))
  | some c => .ok (c.regex.replaceAll c.template word)

end SoundChange

/-- The sound changes of a grammar, in order of declaration. -/
abbrev Morphology := List SoundChange

namespace Morphology

/-- Whether every sound change can be applied. -/
def isCompiled (morphology : Morphology) : Bool :=
  morphology.all SoundChange.isCompiled

/-- Whether two lists hold the same sound changes. -/
def same (a b : Morphology) : Bool :=
  a.length == b.length && (a.zip b).all fun (x, y) => x.same y

/-- How messages name the sound change at an index; they count from 1. -/
def owner (index : Nat) (pattern : String) : String :=
  s!"transformation #{index + 1} /{pattern}/"

/-- What compiling a list leaves behind: the list, compiled as far as it
went, the events in order, and what came of it. -/
structure Run where
  morphology : Morphology
  events : List CompileEvent
  result : Except Error Unit

/-- Compiles sound changes that are numbered from `index` on, up to the
first failure. -/
def compileFrom (table : RuleTable) (index : Nat) : Morphology → Run
  | [] => ⟨[], [], .ok ()⟩
  | t :: rest =>
      match t.compile table (owner index t.pattern) with
      | .error e => ⟨t :: rest, [], .error e⟩
      | .ok t =>
          let run := compileFrom table (index + 1) rest
          let event := CompileEvent.soundChange index
            (t.expanded?.getD "")
          { run with
            morphology := t :: run.morphology
            events := event :: run.events }

/-- Compiles every sound change against a table. -/
def compile (morphology : Morphology) (table : RuleTable) : Run :=
  compileFrom table 0 morphology

end Morphology

end WordGrammar
