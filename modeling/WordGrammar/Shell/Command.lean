/-
What a line of the shell asks for.

A line that starts with a colon is a command: a word and its arguments,
separated by blanks. Any other line is a declaration for the grammar.
-/
import WordGrammar.Error
import WordGrammar.Text.Blank
import WordGrammar.Text.Decimal

namespace WordGrammar.Shell

/-- A switch that a command can set. -/
inductive Setting
  /-- Pass words through morphology. -/
  | morphology
  /-- Keep the syllable markers. -/
  | syllables
  /-- Show derivations. -/
  | debug
  /-- Record compilation and derivations. -/
  | trace
  deriving DecidableEq, Repr

/-- What a line asks for. -/
inductive Command
  | load (path : String)
  | generate (count : Nat)
  | showRule (id : RuleId)
  | listRules
  | transform (word : String)
  | set (setting : Setting) (on : Bool)
  | seed (seed : Nat)
  | help
  | quit
  | declare (line : String)
  deriving DecidableEq

/-- The words of a command that is given no number. -/
def defaultCount : Nat := 10

/-- The switch of a name. -/
def Setting.ofName? : String → Option Setting
  | "morphology" | "mutate" => some .morphology
  | "syllables" => some .syllables
  | "debug" => some .debug
  | "trace" => some .trace
  | _ => none

/-- The position of a switch. -/
def switchValue? : String → Option Bool
  | "on" | "true" | "yes" => some true
  | "off" | "false" | "no" => some false
  | _ => none

namespace Command

/-- A command that is not understood. -/
def invalid (message : String) : Error := .of (.invalidCommand message)

/-- The rule that a word names. -/
def ruleOf? (word : String) : Option RuleId :=
  match word.toList with
  | [c] => RuleId.ofChar? c
  | _ => none

/-- A 64-bit number. -/
def numberOf? (word : String) : Option Nat :=
  Text.readUnsigned? Text.limit64 word.toList

/-- The command that a command word and its arguments make; `line` is
named where they make none. -/
def ofWords (line : String) : List String → Except Error Command
  | [name] =>
      match name with
      | "gen" | "g" => .ok (.generate defaultCount)
      | "rules" => .ok .listRules
      | "help" | "h" | "?" => .ok .help
      | "quit" | "q" | "exit" => .ok .quit
      | _ => unknown
  | [name, argument] =>
      match name with
      | "load" | "l" => .ok (.load argument)
      | "gen" | "g" =>
          match numberOf? argument with
          | some number => .ok (.generate number)
          | none => .error (invalid s!"not a word count: {argument}")
      | "rule" =>
          match ruleOf? argument with
          | some id => .ok (.showRule id)
          | none => .error (invalid s!"not a rule name: {argument}")
      | "morph" | "m" => .ok (.transform argument)
      | "seed" =>
          match numberOf? argument with
          | some number => .ok (.seed number)
          | none => .error (invalid s!"not a seed: {argument}")
      | _ => unknown
  | ["set", name, value] =>
      match Setting.ofName? name with
      | none => .error (invalid s!"unknown setting: {name}")
      | some setting =>
          match switchValue? value with
          | none => .error (invalid s!"expected on or off, got {value}")
          | some on => .ok (.set setting on)
  | _ => unknown
where
  /-- The error for anything else. -/
  unknown : Except Error Command :=
    .error (invalid s!"{line} (type :help for commands)")

/-- Reads a line. -/
def parse (line : String) : Except Error Command :=
  let trimmed := Text.trim line.toList
  match trimmed with
  | ':' :: command =>
      ofWords (String.ofList trimmed)
        ((Text.words command).map String.ofList)
  | _ => .ok (.declare (String.ofList trimmed))

end Command

end WordGrammar.Shell
