/-
Colours for a line of the shell.

Nothing is added to a line but terminal codes: a command's word is
coloured, in a declaration every token by its kind, and within a pattern
the letters that refer to rules are bold. The text between tokens stays
as it is.
-/
import WordGrammar.Token.Scan

namespace WordGrammar.Shell

open Text

/-- A terminal style: the codes between the bracket and the final `m`. -/
structure Style where
  codes : String

namespace Style

/-- The escape character that starts a terminal code. -/
def escape : Char := '\x1b'

/-- The sequence that switches a style on. -/
def on (style : Style) : List Char :=
  escape :: '[' :: style.codes.toList ++ ['m']

/-- The sequence that goes back to plain text. -/
def plain : List Char := [escape, '[', '0', 'm']

/-- A text in a style. -/
def paint (style : Style) (text : List Char) : List Char :=
  style.on ++ text ++ plain

def ruleHead : Style := ⟨"1;36"⟩
def reference : Style := ⟨"1"⟩
def regex : Style := ⟨"35"⟩
def replacement : Style := ⟨"33"⟩
def comment : Style := ⟨"2;3"⟩
def invalid : Style := ⟨"31"⟩
def command : Style := ⟨"36"⟩

end Style

/-- A pattern with its references in bold. -/
def paintPattern (text : List Char) : List Char :=
  text.flatMap fun c =>
    match RuleId.ofChar? c with
    | some _ => Style.reference.paint [c]
    | none => [c]

/-- The text of a token, coloured by its kind. -/
def paintToken (kind : TokenKind) (text : List Char) : List Char :=
  match kind with
  | .head _ => Style.ruleHead.paint text
  | .word _ => paintPattern text
  | .regex _ => Style.regex.paint text
  | .replacement _ => Style.replacement.paint text
  | .comment _ => Style.comment.paint text
  | .invalid _ => Style.invalid.paint text
  | .arrow | .newline | .eof => text

/-- What stands between two offsets of a line; nothing if that is no
stretch of it. -/
def stretch (line : List Char) (start stop : Nat) : List Char :=
  (slice? start stop line).getD []

/-- The line from the offset `cursor` on, with the text of the given tokens
coloured and everything between them as it is. -/
def paintTokens (line : List Char) (cursor : Nat) : List Token → List Char
  | [] => stretch line cursor (utf8Length line)
  | token :: tokens =>
      let { start, stop, .. } := token.span
      stretch line cursor start
        ++ paintToken token.kind (stretch line start stop)
        ++ paintTokens line (max cursor stop) tokens

/-- A line of the shell in colours. -/
def highlight (line : String) : String :=
  let cs := line.toList
  if trim cs = [] then line
  else if cs.head? = some ':' then
    let word := cs.takeWhile (!isBlank ·)
    String.ofList (Style.command.paint word ++ cs.drop word.length)
  else String.ofList (paintTokens cs 0 (tokenize line))

end WordGrammar.Shell
