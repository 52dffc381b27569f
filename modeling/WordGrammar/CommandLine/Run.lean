/-
A run of the command line.

The grammar file is loaded, then either the shell is opened or words are
written, one after the other with a separator between them and a line end
after the last. A failure ends the run; the words written before it stay
written. The steps below are what an outer layer carries out one by one;
`run` strings them together for inputs that are known beforehand.
-/
import WordGrammar.CommandLine.Options
import WordGrammar.Shell.Conversation

namespace WordGrammar.CommandLine

/-- Something a run does; how long loading took is known to the outer
layer only. -/
inductive Action
  | effect (effect : Effect)
  /-- The time that loading took is reported. -/
  | loadTime
  deriving DecidableEq

/-- The session that a run starts with. -/
def start (settings : Settings) (random : KeyStream)
    (directory : String) : Session :=
  let session := Session.new random directory
  let session := { session with
    options := settings.options
    tracer := if settings.trace then .new .verbose 0 else .off 0 }
  match settings.seed with
  | some seed => session.reseed (UInt64.ofNat seed)
  | none => session

/-- What is shown on the side, as actions. -/
def shown (diagnostics : List Diagnostic) : List Action :=
  diagnostics.map fun d => .effect (.diagnostic d)

/-- A failure, as an action. -/
def failed (e : Error) : Action := .effect (complaintOf e)

/-- The announcement before words are written. -/
def announcement (settings : Settings) : Action :=
  .effect (.complaint
    (if settings.infinite then
      s!"Generating words from {settings.file}\n"
    else s!"Generating {settings.number} words from {settings.file}\n"))

/-- Writes a word, `written` words after the start. -/
def wordText (settings : Settings) (written : Nat) (word : String) :
    String :=
  if written = 0 then word else settings.separator ++ word

/-- How a run ended: the actions in order and the exit code. -/
structure Outcome where
  actions : List Action
  code : Nat
  deriving DecidableEq

/-- Writes up to `count` words, after `written` others; `actions` holds
what was done so far, newest first. An endless run breaks off there, any
other one ends the line. -/
def writeWords (settings : Settings) (session : Session) (written : Nat)
    (actions : List Action) : Nat → Outcome
  | 0 =>
      let last := if settings.infinite then []
        else [Action.effect (.output "\n")]
      ⟨(last ++ actions).reverse, 0⟩
  | count + 1 =>
      let turn := session.generate
      let actions := (shown turn.diagnostics).reverse ++ actions
      match turn.result with
      | .error e => ⟨(failed e :: actions).reverse, 1⟩
      | .ok word =>
          let text := wordText settings written word
          writeWords settings turn.session (written + 1)
            (.effect (.output text) :: actions) count

/-- A run with known surroundings. An endless run is followed for at most
`patience` words. -/
def run (settings : Settings) (random : KeyStream) (directory : String)
    (read : String → Except String String) (lines : List Shell.Input)
    (patience : Nat) : Outcome :=
  let turn := (start settings random directory).loadPath read settings.file
  let before := shown turn.diagnostics
  match turn.result with
  | .error e => ⟨before ++ [failed e], 1⟩
  | .ok () =>
      let before := before ++ [.loadTime]
      if settings.interactive then
        let ending :=
          Shell.converse turn.session read Shell.defaultPrompt lines
        let effects := (Shell.banner ++ ending.effects).map Action.effect
        match ending.result with
        | .ok () => ⟨before ++ effects, 0⟩
        | .error e => ⟨before ++ effects ++ [failed e], 1⟩
      else
        let count := if settings.infinite then patience
          else settings.number
        let outcome := writeWords settings turn.session 0 [] count
        { outcome with
          actions := before ++ announcement settings :: outcome.actions }

end WordGrammar.CommandLine
