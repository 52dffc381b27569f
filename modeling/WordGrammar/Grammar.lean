/-
Grammars: a compiled table of rules and the sound changes compiled against
it.

A grammar is compiled from source text: the records give a table, in
which the last declaration of a rule counts, and a list of sound changes;
the rules are compiled first, then the sound changes. Every success on the
way is an event. A sound change that fails is named by the place of its
declaration, which errors about rules do not have.
-/
import WordGrammar.Declaration.Parse
import WordGrammar.Morphology

namespace WordGrammar

/-- A compiled grammar. -/
structure Grammar where
  rules : RuleTable := .empty
  morphology : Morphology := []
  order : List RuleId := []

namespace Grammar

/-- Whether there is a rule to start words from. -/
def isReady (grammar : Grammar) : Bool := grammar.rules.hasEntry

/-- What compiling leaves behind: the events in order and what came of
it. -/
structure Run where
  events : List CompileEvent
  result : Except Error Grammar

/-- The table that some records declare. -/
def tableOf (records : List Record) : RuleTable :=
  records.foldl (fun table record =>
    match record with
    | .rule id patterns _ => table.declare id patterns
    | .soundChange .. => table) .empty

/-- The sound changes that some records declare, each with its place. -/
def changesOf (records : List Record) : List (SoundChange × Span) :=
  records.filterMap fun
    | .rule .. => none
    | .soundChange pattern replacement span =>
        some ({ pattern, replacement }, span)

/-- The error of a sound change with the place of the first one that is
not compiled. -/
def placeError (e : Error) (changes : List (SoundChange × Span))
    (compiled : Morphology) : Error :=
  let failed := (compiled.zip changes).find? fun (t, _) => !t.isCompiled
  match failed, e.place with
  | some (_, _, span), none =>
      e.withPlace ⟨some "grammar", some (span.line, span.column)⟩
  | _, _ => e

/-- Compiles records. -/
def ofRecords (records : List Record) : Run :=
  let changes := changesOf records
  let rules := (tableOf records).compileAll
  match rules.result with
  | .error e => ⟨rules.events, .error e⟩
  | .ok order =>
      let morphology :=
        Morphology.compile (changes.map (·.1)) rules.table
      let events := rules.events ++ morphology.events
      match morphology.result with
      | .error e =>
          ⟨events, .error (placeError e changes morphology.morphology)⟩
      | .ok () =>
          ⟨events, .ok ⟨rules.table, morphology.morphology, order⟩⟩

/-- Compiles a grammar from its source text. -/
def compile (source : String) : Run :=
  match Declaration.parse source with
  | .error e => ⟨[], .error e⟩
  | .ok declarations => ofRecords (Record.ofDeclarations declarations)

end Grammar

end WordGrammar
