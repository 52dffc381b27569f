/-
Compiling rules.

Compiling a rule replaces its patterns by the distinct words they expand
to, in order of first appearance, provided every rule they refer to is
compiled already. `compileAll` compiles all rules but the entry rule in
the order of `schedule` and then checks that the entry rule's patterns can
be read, without expanding them. It keeps what it compiled before a
failure, and reports each compiled rule as an event.
-/
import Std.Data.HashSet
import WordGrammar.Pattern.Expand
import WordGrammar.Pattern.Parse
import WordGrammar.RuleTable.Order

namespace WordGrammar

/-- Goes on from the distinct words `kept`, newest first, all of them in
`seen`. -/
def keepUnseen (seen : Std.HashSet String) (kept : List String) :
    List String → List String
  | [] => kept.reverse
  | word :: rest =>
      if seen.contains word then keepUnseen seen kept rest
      else keepUnseen (seen.insert word) (word :: kept) rest

/-- The distinct words of a list, in order of first occurrence. -/
def distinctWords (words : List String) : List String :=
  keepUnseen ∅ [] words

/-- Something that compilation reports when it has succeeded. -/
inductive CompileEvent
  /-- A rule now has this many alternatives. -/
  | rule (id : RuleId) (alternatives : Nat)
  /-- A sound change's pattern now reads as `expanded`. -/
  | soundChange (index : Nat) (expanded : String)
  deriving DecidableEq

namespace RuleTable

/-- The words that `owner` may put in place of a reference to `dep`. -/
def substitute (table : RuleTable) (owner : String) (dep : RuleId) :
    Except Error (List String) :=
  match table.get? dep with
  | none => .error (.of (.unresolvedReference dep owner))
  | some rule =>
      if rule.isCompiled then .ok rule.patterns
      else if dep.isEntry then .error (.of (.entryRuleReferenced owner))
      else .error (.of (.uncompiledReference dep owner))

/-- Reads a pattern and expands it on behalf of `owner`. -/
def expandSource (table : RuleTable) (owner source : String) :
    Except Error (List String) := do
  let pattern ← Pattern.parse source
  pattern.expand (table.substitute owner)

/-- Expands patterns one after the other. -/
def expandSources (table : RuleTable) (owner : String) :
    List String → Except Error (List String)
  | [] => .ok []
  | source :: rest => do
      let here ← table.expandSource owner source
      let after ← table.expandSources owner rest
      .ok (here ++ after)

/-- The table with one rule compiled; a compiled rule is left as it
is. -/
def compile (table : RuleTable) (id : RuleId) : Except Error RuleTable :=
  match table.get? id with
  | none => .error (.of (.unresolvedReference id "the rule table"))
  | some rule =>
      if rule.isCompiled then .ok table
      else do
        let words ← table.expandSources id.owner rule.patterns
        .ok (table.insert id ⟨distinctWords words, .compiled⟩)

/-- Accepts patterns that can all be read. -/
def checkPatterns : List String → Except Error Unit
  | [] => .ok ()
  | source :: rest => do
      let _ ← Pattern.parse source
      checkPatterns rest

/-- Accepts a table whose entry rule has no malformed pattern. -/
def checkEntry (table : RuleTable) : Except Error Unit :=
  checkPatterns ((table.alternatives? .entry).getD [])

/-- What a compilation run leaves behind: the table, the events in order,
and what came of it. -/
structure Run (α : Type) where
  table : RuleTable
  events : List CompileEvent
  result : Except Error α

/-- Compiles rules one after the other, up to the first failure. -/
def compileEach (table : RuleTable) : List RuleId → Run Unit
  | [] => ⟨table, [], .ok ()⟩
  | id :: rest =>
      match table.compile id with
      | .error e => ⟨table, [], .error e⟩
      | .ok table =>
          let count := ((table.alternatives? id).getD []).length
          let run := table.compileEach rest
          { run with events := .rule id count :: run.events }

/-- Compiles every rule but the entry rule and checks the entry rule's
patterns; the result is the order of compilation. -/
def compileAll (table : RuleTable) : Run (List RuleId) :=
  match table.schedule with
  | .error e => ⟨table, [], .error e⟩
  | .ok order =>
      let run := table.compileEach order
      { run with
        result := do
          run.result
          run.table.checkEntry
          .ok order }

end RuleTable

end WordGrammar
