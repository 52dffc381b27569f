/-
Sessions: a grammar that is being worked with.

A session keeps the source text its grammar was compiled from, so that a
declaration can be appended and everything compiled again. Every
operation returns the session after it together with its result and the
lines it shows on the side. An operation that fails leaves the grammar,
its source and its origin as they were; what it compiled before failing
is in the trace all the same.
-/
import WordGrammar.Generation
import WordGrammar.Path
import WordGrammar.Random.KeyStream
import WordGrammar.Trace.Tracer

namespace WordGrammar

open Trace (Event)

/-- A grammar, where it came from, and how words are made of it. -/
structure Session where
  grammar : Grammar := {}
  source : String := ""
  origin : String
  options : Options := {}
  random : KeyStream
  tracer : Tracer := .off 0
  /-- Where relative paths start. -/
  directory : String

/-- Something that is shown on the side. -/
inductive Diagnostic
  /-- A record of the trace. -/
  | trace (shown : Trace.Shown)
  /-- The forms that a word went through. -/
  | derivation (line : String)
  deriving DecidableEq

/-- What an operation leaves behind. -/
structure Turn (α : Type) where
  result : Except Error α
  session : Session
  diagnostics : List Diagnostic := []

namespace Session

/-- How text that came from no file is called. -/
def inlineOrigin : String := "<shell>"

/-- A session without a grammar. -/
def new (random : KeyStream) (directory : String) : Session where
  origin := inlineOrigin
  random := random
  directory := directory

/-- The session with its random words starting over from a seed. -/
def reseed (session : Session) (seed : UInt64) : Session :=
  { session with random := .ofSeed seed }

/-- The session with its clock set. -/
def setClock (session : Session) (clock : Nat) : Session :=
  { session with tracer := { session.tracer with clock } }

/-- The session with events recorded, and what the tracer shows. -/
def trace (session : Session) (events : List Event) :
    Session × List Diagnostic :=
  let (tracer, shown) := session.tracer.recordAll events
  ({ session with tracer }, shown.map .trace)

-- ======================================================== the grammar

/-- Compiles a source text and traces it; the session's grammar stays. -/
def compileTraced (session : Session) (source : String) : Turn Grammar :=
  let run := Grammar.compile source
  let (session, shown) := session.trace (run.events.map Event.ofCompile)
  ⟨run.result, session, shown⟩

/-- Puts a compiled text in place of the grammar. -/
def load (session : Session) (source origin : String) : Turn Unit :=
  let turn := session.compileTraced source
  match turn.result with
  | .error e => ⟨.error e, turn.session, turn.diagnostics⟩
  | .ok grammar =>
      let loaded := Event.grammarLoaded origin grammar.rules.size
        grammar.morphology.length
      let session := { turn.session with grammar, source, origin }
      let (session, shown) := session.trace [loaded]
      ⟨.ok (), session, turn.diagnostics ++ shown⟩

/-- The path of a file as it is read from here. -/
def resolve (session : Session) (path : String) : String :=
  Path.join session.directory path

/-- Loads a file that `read` gives the text of; later relative paths
start from its directory. -/
def loadPath (session : Session) (read : String → Except String String)
    (path : String) : Turn Unit :=
  let resolved := session.resolve path
  match read resolved with
  | .error message =>
      ⟨.error (.of (.unreadable resolved message)), session, []⟩
  | .ok source =>
      let turn := session.load source path
      match turn.result with
      | .error _ => turn
      | .ok () =>
          let directory :=
            (Path.parent? resolved).getD turn.session.directory
          { turn with session := { turn.session with directory } }

/-- The text with a line appended, on a line of its own. -/
def appendLine (source line : String) : String :=
  let cs := source.toList
  let gap := if cs = [] || cs.getLast? = some '\n' then [] else ['\n']
  String.ofList (cs ++ gap ++ Text.trimEnd line.toList ++ ['\n'])

/-- Appends a declaration and compiles everything again. -/
def declare (session : Session) (line : String) : Turn Unit :=
  let source := appendLine session.source line
  let turn := session.compileTraced source
  match turn.result with
  | .error e => ⟨.error e, turn.session, turn.diagnostics⟩
  | .ok grammar =>
      ⟨.ok (), { turn.session with grammar, source }, turn.diagnostics⟩

-- ============================================================== words

/-- Reports a derivation: to the tracer if it is on, as a new word; else
as a chain of forms, if those are wanted. -/
def report (session : Session) (derivation : Derivation) : Turn String :=
  if session.tracer.isOn then
    let steps := derivation.seen.filterMap Event.ofObservation?
    let finished := match derivation.result with
      | .ok word => [Event.wordGenerated word]
      | .error _ => []
    let begun := { session with tracer := session.tracer.beginWord }
    let (session, shown) := begun.trace (steps ++ finished)
    ⟨derivation.result, session, shown⟩
  else
    let lines := if session.options.debug then chainLines derivation.seen
      else []
    ⟨derivation.result, session, lines.map .derivation⟩

/-- Generates a word. -/
def generate (session : Session) : Turn String :=
  match Generation.generate? session.grammar.rules
      session.grammar.morphology session.options session.random with
  | none => ⟨.error Generation.usedUp, session, []⟩
  | some (derivation, random) =>
      { session with random }.report derivation

/-- Generates words up to the first failure, after those in `words`;
both lists hold the newest item first. -/
def generateMore (session : Session) (words : List String)
    (diagnostics : List Diagnostic) : Nat → Turn (List String)
  | 0 => ⟨.ok words.reverse, session, diagnostics.reverse⟩
  | count + 1 =>
      let turn := session.generate
      let diagnostics := turn.diagnostics.reverse ++ diagnostics
      match turn.result with
      | .error e => ⟨.error e, turn.session, diagnostics.reverse⟩
      | .ok word =>
          generateMore turn.session (word :: words) diagnostics count

/-- Generates words up to the first failure. -/
def generateMany (session : Session) (count : Nat) :
    Turn (List String) :=
  session.generateMore [] [] count

/-- Passes a word through morphology, whatever the options say. -/
def transform (session : Session) (word : String) : Turn String :=
  session.report (session.grammar.morphology.derive word)

end Session

end WordGrammar
