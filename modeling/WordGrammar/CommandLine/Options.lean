/-
The arguments of the command line.

Arguments are read from left to right and the first one that cannot be
taken decides. A short option may stand in a cluster and takes its value
from the rest of the cluster or from the next argument; a long one takes
it after `=` or from the next argument, which must not look like an
option. After `--` everything is a file. There is exactly one file.
-/
import WordGrammar.Generation
import WordGrammar.Text.Decimal

namespace WordGrammar.CommandLine

/-- What the command line asks for. -/
structure Settings where
  file : String
  number : Nat := 50
  infinite : Bool := false
  compact : Bool := false
  morphology : Bool := false
  keepSyllables : Bool := false
  debug : Bool := false
  trace : Bool := false
  seed : Option Nat := none
  interactive : Bool := false
  deriving DecidableEq, Repr

namespace Settings

/-- What happens to the words. -/
def options (settings : Settings) : Options where
  morphology := settings.morphology
  keepSyllables := settings.keepSyllables
  debug := settings.debug

/-- What stands between two words. -/
def separator (settings : Settings) : String :=
  if settings.compact then "\t" else "\n"

end Settings

/-- Switches that can be given once. -/
inductive Switch
  | infinite
  | compact
  | morphology
  | keepSyllables
  | debug
  | trace
  | interactive
  deriving DecidableEq, Repr

/-- Options that take a number. -/
inductive Valued
  | number
  | seed
  deriving DecidableEq, Repr

/-- What an option is. -/
inductive OptionKind
  | switch (switch : Switch)
  | valued (valued : Valued)
  | version
  | help
  deriving DecidableEq, Repr

/-- The option of a letter. -/
def shortOption? : Char → Option OptionKind
  | 'n' => some (.valued .number)
  | 'i' => some (.switch .infinite)
  | 'c' => some (.switch .compact)
  | 'm' => some (.switch .morphology)
  | 'V' => some .version
  | 'h' => some .help
  | _ => none

/-- The option of a long name. -/
def longOption? : String → Option OptionKind
  | "number" => some (.valued .number)
  | "infinite" => some (.switch .infinite)
  | "compact" => some (.switch .compact)
  | "mutate" => some (.switch .morphology)
  | "keep-syllables" => some (.switch .keepSyllables)
  | "debug" => some (.switch .debug)
  | "trace" => some (.switch .trace)
  | "seed" => some (.valued .seed)
  | "interactive" => some (.switch .interactive)
  | "version" => some .version
  | "help" => some .help
  | _ => none

/-- Why arguments are refused. -/
inductive Refusal
  | unknown (argument : String)
  | repeated (argument : String)
  | valueMissing (argument : String)
  | valueUnexpected (argument : String)
  | valueInvalid (argument value : String)
  | fileMissing
  deriving DecidableEq, Repr

/-- The wording of a refusal. -/
def Refusal.message : Refusal → String
  | unknown argument => s!"unexpected argument '{argument}' found"
  | repeated argument =>
      s!"the argument '{argument}' cannot be used multiple times"
  | valueMissing argument =>
      s!"a value is required for '{argument}' but none was supplied"
  | valueUnexpected argument =>
      s!"unexpected value for '{argument}' found; no more were expected"
  | valueInvalid argument value =>
      s!"invalid value '{value}' for '{argument}'"
  | fileMissing => "the following required arguments were not provided: <FILE>"

/-- Where reading the arguments ends before there are settings. -/
inductive Stop
  | version
  | help
  | refused (refusal : Refusal)
  deriving DecidableEq, Repr

/-- The arguments taken so far. -/
structure Taken where
  file : Option String := none
  number : Option Nat := none
  seed : Option Nat := none
  switches : List Switch := []

namespace Taken

/-- Takes a file. -/
def addFile (taken : Taken) (argument : String) : Except Stop Taken :=
  if taken.file.isSome then .error (.refused (.unknown argument))
  else if argument = "" then .error (.refused (.valueMissing "<FILE>"))
  else .ok { taken with file := some argument }

/-- Takes a switch. -/
def addSwitch (taken : Taken) (name : String) (switch : Switch) :
    Except Stop Taken :=
  if taken.switches.contains switch then .error (.refused (.repeated name))
  else .ok { taken with switches := switch :: taken.switches }

/-- Takes the value of an option. -/
def addValue (taken : Taken) (name : String) (valued : Valued)
    (value : List Char) : Except Stop Taken :=
  match valued, taken.number, taken.seed with
  | .number, some _, _ | .seed, _, some _ =>
      .error (.refused (.repeated name))
  | _, _, _ =>
      match Text.readUnsigned? Text.limit64 value with
      | none =>
          .error (.refused (.valueInvalid name (String.ofList value)))
      | some n =>
          match valued with
          | .number => .ok { taken with number := some n }
          | .seed => .ok { taken with seed := some n }

/-- The settings that the arguments make. -/
def settings (taken : Taken) : Except Stop Settings :=
  match taken.file with
  | none => .error (.refused .fileMissing)
  | some file =>
      let has := taken.switches.contains
      .ok {
        file
        number := taken.number.getD 50
        infinite := has .infinite
        compact := has .compact
        morphology := has .morphology
        keepSyllables := has .keepSyllables
        debug := has .debug
        trace := has .trace
        seed := taken.seed
        interactive := has .interactive }

end Taken

/-- Whether an argument looks like an option; a lone hyphen does not. -/
def looksLikeOption (argument : String) : Bool :=
  match argument.toList with
  | ['-'] => false
  | '-' :: _ => true
  | _ => false

/-- Takes the letters of a cluster. A value that is not in the cluster is
still owed afterwards, with the name of its option. -/
def takeCluster (taken : Taken) :
    List Char → Except Stop (Taken × Option (String × Valued))
  | [] => .ok (taken, none)
  | letter :: rest =>
      let name := "-" ++ String.singleton letter
      match shortOption? letter with
      | none => .error (.refused (.unknown name))
      | some .version => .error .version
      | some .help => .error .help
      | some (.switch switch) => do
          let taken ← taken.addSwitch name switch
          takeCluster taken rest
      | some (.valued valued) =>
          match rest with
          | [] => .ok (taken, some (name, valued))
          | _ => do
              let value := match rest with
                | '=' :: value => value
                | value => value
              let taken ← taken.addValue name valued value
              .ok (taken, none)

/-- Takes a long option, written without its hyphens. -/
def takeLong (taken : Taken) (text : List Char) :
    Except Stop (Taken × Option (String × Valued)) :=
  let key := text.takeWhile (· ≠ '=')
  let value? : Option (List Char) :=
    match text.drop key.length with
    | _ :: value => some value
    | [] => none
  let name := "--" ++ String.ofList key
  match longOption? (String.ofList key), value? with
  | none, _ => .error (.refused (.unknown name))
  | some (.valued valued), some value => do
      let taken ← taken.addValue name valued value
      .ok (taken, none)
  | some (.valued valued), none => .ok (taken, some (name, valued))
  | some _, some _ => .error (.refused (.valueUnexpected name))
  | some (.switch switch), none => do
      let taken ← taken.addSwitch name switch
      .ok (taken, none)
  | some .version, none => .error .version
  | some .help, none => .error .help

/-- Takes the arguments after `--`. -/
def takeFiles (taken : Taken) : List String → Except Stop Taken
  | [] => .ok taken
  | file :: rest => do
      let taken ← taken.addFile file
      takeFiles taken rest

/-- Takes arguments from left to right. `owed` is the option whose value
comes next. -/
def takeArguments (taken : Taken) (owed : Option (String × Valued)) :
    List String → Except Stop Taken
  | [] =>
      match owed with
      | none => .ok taken
      | some (name, _) => .error (.refused (.valueMissing name))
  | argument :: rest =>
      match owed with
      | some (name, valued) =>
          if looksLikeOption argument then
            .error (.refused (.valueMissing name))
          else do
            let taken ← taken.addValue name valued argument.toList
            takeArguments taken none rest
      | none =>
          match argument.toList with
          | ['-', '-'] => takeFiles taken rest
          | '-' :: '-' :: text => do
              let (taken, owed) ← takeLong taken text
              takeArguments taken owed rest
          | '-' :: letter :: letters => do
              let (taken, owed) ← takeCluster taken (letter :: letters)
              takeArguments taken owed rest
          | _ => do
              let taken ← taken.addFile argument
              takeArguments taken none rest

/-- The settings of the command line, or where reading it stopped. -/
def parse (arguments : List String) : Except Stop Settings := do
  let taken ← takeArguments {} none arguments
  taken.settings

/-- The text for a request for help. -/
def helpText : String := "\n".intercalate [
  "Procedural word generator driven by a grammar of character groups",
  "",
  "Usage: wordsmith [OPTIONS] <FILE>",
  "",
  "Arguments:",
  "  <FILE>  Grammar file to load",
  "",
  "Options:",
  "  -n, --number <NUMBER>  Number of words to generate [default: 50]",
  "  -i, --infinite         Generate words until interrupted",
  "  -c, --compact          Separate words with a tab instead of a newline",
  "  -m, --mutate           Apply morphology transformations",
  "      --keep-syllables   Keep '-' syllable markers in the output",
  "      --debug            Print morphology derivations to stderr",
  "      --trace            Record compile events and derivations to stderr",
  "      --seed <SEED>      Seed the generator for reproducible output",
  "      --interactive      Open the grammar shell with the file loaded",
  "  -h, --help             Print help",
  "  -V, --version          Print version",
  ""]

/-- The text for a request for the version. -/
def versionText : String := "wordsmith 0.1.0\n"

end WordGrammar.CommandLine
