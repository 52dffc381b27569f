/-
Carrying out a line of the shell.

A line changes the session and may give an output. Lines of blanks are
passed over. Files are read through `read`, which stands for the file
system at the time of the line.
-/
import WordGrammar.Session
import WordGrammar.Shell.Command

namespace WordGrammar.Shell

/-- What the shell does after a line. -/
inductive Response
  /-- Print a text and go on. -/
  | output (text : String)
  /-- Go on. -/
  | nothing
  /-- Leave. -/
  | quit
  deriving DecidableEq, Repr

/-- The commands of the shell, below an empty line. -/
def helpText : String := "\n".intercalate [
  "",
  ":load PATH              load a grammar file, replacing the current grammar",
  ":gen [N]                generate N words (default 10)",
  ":rule X                 show rule X",
  ":rules                  list rules and transformations",
  ":morph WORD             run WORD through the transformations",
  ":set NAME on|off        NAME is morphology, syllables, debug, or trace",
  ":seed N                 reseed the generator",
  ":help                   show this help",
  ":quit                   leave the shell",
  "X: a b c                declare or replace a rule",
  "/pattern/ > \"text\"      add a transformation"]

/-- The text of a rule. -/
def describeRule (session : Session) (id : RuleId) : Except Error String :=
  match session.grammar.rules.get? id with
  | none => .error (Command.invalid s!"no rule {id.text}")
  | some rule =>
      let state := match rule.state with
        | .raw => "raw"
        | .compiled => "compiled"
      let alternatives := " ".intercalate rule.patterns
      .ok s!"{id.text}: {alternatives} ({state}, {rule.patterns.length} alternatives)"

/-- The list of rules and sound changes, without blanks at its end. -/
def listRules (session : Session) : String :=
  let rules := session.grammar.rules.toList.map fun (id, rule) =>
    s!"{id.text}: {rule.patterns.length} alternatives"
  let changes := session.grammar.morphology.map SoundChange.text
  match rules ++ changes with
  | [] => "no rules loaded"
  | lines =>
      String.ofList (Text.trimEnd ("\n".intercalate lines).toList)

/-- The session with a switch set. -/
def applySetting (session : Session) (setting : Setting) (on : Bool) :
    Session :=
  let options := session.options
  match setting with
  | .morphology => { session with options := { options with morphology := on } }
  | .syllables =>
      { session with options := { options with keepSyllables := on } }
  | .debug => { session with options := { options with debug := on } }
  | .trace =>
      let clock := session.tracer.clock
      { session with
        tracer := if on then .new .verbose clock else .off clock }

/-- A response that takes no time. -/
def answer (session : Session) (result : Except Error Response) :
    Turn Response := ⟨result, session, []⟩

/-- The turn with its result put into other words. -/
def respond {α : Type} (turn : Turn α) (f : α → Response) :
    Turn Response :=
  ⟨turn.result.map f, turn.session, turn.diagnostics⟩

/-- Carries out a command. -/
def execute (session : Session) (read : String → Except String String) :
    Command → Turn Response
  | .load path =>
      let turn := session.loadPath read path
      let grammar := turn.session.grammar
      respond turn fun () => .output
        s!"loaded {path}: {grammar.rules.size} rules, {grammar.morphology.length} transformations"
  | .generate count =>
      respond (session.generateMany count) fun words =>
        .output ("\n".intercalate words)
  | .showRule id => answer session ((describeRule session id).map .output)
  | .listRules => answer session (.ok (.output (listRules session)))
  | .transform word => respond (session.transform word) .output
  | .set setting on =>
      answer (applySetting session setting on) (.ok .nothing)
  | .seed seed =>
      answer (session.reseed (UInt64.ofNat seed)) (.ok .nothing)
  | .help => answer session (.ok (.output helpText))
  | .quit => answer session (.ok .quit)
  | .declare line =>
      respond (session.declare line) fun () => .nothing

/-- The path of the file that a line reads, if it reads one. -/
def fileOf? (session : Session) (line : String) : Option String :=
  match Command.parse line with
  | .ok (.load path) => some (session.resolve path)
  | _ => none

/-- Carries out a line. -/
def evaluate (session : Session) (read : String → Except String String)
    (line : String) : Turn Response :=
  if Text.trim line.toList = [] then answer session (.ok .nothing)
  else
    match Command.parse line with
    | .error e => answer session (.error e)
    | .ok command => execute session read command

end WordGrammar.Shell
