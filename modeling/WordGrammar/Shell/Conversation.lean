/-
A conversation with the shell.

The shell asks for a line, carries it out, and prints what comes of it,
until a line says to leave or there are no more lines. What it does to
its surroundings is a list of effects, in order; a failure to read a line
ends the conversation without a farewell.
-/
import WordGrammar.Shell.Backspace
import WordGrammar.Shell.Evaluate

namespace WordGrammar

/-- Something done to the surroundings. -/
inductive Effect
  /-- A text for standard output. -/
  | output (text : String)
  /-- A text for standard error. -/
  | complaint (text : String)
  /-- Something shown on the side, on standard error. -/
  | diagnostic (diagnostic : Diagnostic)
  /-- A line is asked for with a prompt. -/
  | prompt (text : String)
  /-- A line is added to the history. -/
  | history (line : String)
  deriving DecidableEq

/-- The line that reports a failure, in red. -/
def complaintOf (e : Error) : Effect :=
  .complaint s!"\x1b[31mError: {e.message}\x1b[0m\n"

namespace Shell

/-- What comes of asking for a line. -/
inductive Input
  /-- A line, without its ending. -/
  | line (text : String)
  /-- The line was abandoned. -/
  | interrupt
  /-- Nothing could be read. -/
  | failure (message : String)
  deriving DecidableEq, Repr

/-- The lines of a text, each with its ending. -/
def splitLines : List Char → List (List Char)
  | [] => []
  | c :: cs =>
      if c = '\n' then [c] :: splitLines cs
      else
        match splitLines cs with
        | [] => [[c]]
        | line :: lines => (c :: line) :: lines

/-- A line without its ending: a line feed and a carriage return before
it. -/
def withoutEnding (line : List Char) : List Char :=
  match line.reverse with
  | '\n' :: '\r' :: rest => rest.reverse
  | '\n' :: rest => rest.reverse
  | _ => line

/-- The input that comes of a line with its ending. -/
def Input.ofLine (line : List Char) : Input :=
  match applyBackspaces (withoutEnding line) with
  | some line => .line (String.ofList line)
  | none => .failure "a backspace reaches into a character"

/-- The inputs that come of a text read line by line. -/
def Input.ofText (text : String) : List Input :=
  (splitLines text.toList).map Input.ofLine

/-- The prompt that the shell starts with. -/
def defaultPrompt : String := "ws> "

/-- The greeting. -/
def banner : List Effect := [
  .output "\x1b[1;36mWordsmith grammar shell v0.1.0\x1b[0m\n",
  .output "Type declarations to extend the grammar, :help for commands, Ctrl+D to exit.\n\n"]

/-- The farewell. -/
def farewell : List Effect := [.output "\nGoodbye!\n"]

/-- How a conversation goes on after an input. -/
inductive Continuation
  /-- Ask for the next line. -/
  | continue
  /-- Say farewell and end. -/
  | leave
  /-- End with a failure. -/
  | fail (e : Error)

/-- What one input leads to. -/
structure Exchange where
  session : Session
  effects : List Effect
  next : Continuation

/-- Takes an input. A line of blanks is passed over, any other line is
remembered and carried out. -/
def exchange (session : Session) (read : String → Except String String) :
    Input → Exchange
  | .interrupt => ⟨session, [], .continue⟩
  | .failure message => ⟨session, [], .fail (.of (.internal message))⟩
  | .line text =>
      if Text.trim text.toList = [] then ⟨session, [], .continue⟩
      else
        let turn := evaluate session read text
        let before := Effect.history text
          :: turn.diagnostics.map Effect.diagnostic
        match turn.result with
        | .ok (.output text) =>
            ⟨turn.session, before ++ [.output (text ++ "\n")], .continue⟩
        | .ok .nothing => ⟨turn.session, before, .continue⟩
        | .ok .quit => ⟨turn.session, before, .leave⟩
        | .error e => ⟨turn.session, before ++ [complaintOf e], .continue⟩

/-- How a conversation ended. -/
structure Ending where
  result : Except Error Unit
  session : Session
  effects : List Effect

/-- Goes through the inputs, the end of which is the end of the
conversation. -/
def converse (session : Session) (read : String → Except String String)
    (prompt : String) : List Input → Ending
  | [] => ⟨.ok (), session, .prompt prompt :: farewell⟩
  | input :: rest =>
      let step := exchange session read input
      match step.next with
      | .leave =>
          ⟨.ok (), step.session, .prompt prompt :: step.effects ++ farewell⟩
      | .fail e =>
          ⟨.error e, step.session, .prompt prompt :: step.effects⟩
      | .continue =>
          let ending := converse step.session read prompt rest
          { ending with
            effects := .prompt prompt :: step.effects ++ ending.effects }

end Shell

end WordGrammar
