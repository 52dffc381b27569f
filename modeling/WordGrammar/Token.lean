/-
The tokens of a grammar's source text.

A grammar is read line by line. A token carries what the later stages
need (a rule, a word, an unescaped body) and the span it came from;
`TokenKind.name` is how messages call it. A stretch that is no token is
kept as an `invalid` one with the fault found there, so that scanning
itself never fails.
-/
import WordGrammar.RuleId
import WordGrammar.Span
import WordGrammar.Text.Quoted

namespace WordGrammar

/-- Why a stretch of source is no token. -/
inductive LexicalFault
  /-- The closing slash of a pattern is missing. -/
  | unterminatedPattern
  /-- The closing quote of a replacement is missing. -/
  | unterminatedReplacement
  /-- A line begins like no declaration. -/
  | unknownLine
  /-- A word stands where a sound change goes on with `>` or a quote. -/
  | strayWord (word : String)
  deriving DecidableEq, Repr

/-- The wording of a fault. -/
def LexicalFault.message : LexicalFault → String
  | .unterminatedPattern => "unterminated transformation pattern"
  | .unterminatedReplacement => "unterminated replacement"
  | .unknownLine =>
      "expected a rule declaration, a transformation, or a comment"
  | .strayWord word => s!"unexpected {Text.quoted word} in transformation"

/-- What a token is. -/
inductive TokenKind
  /-- A rule's letter and the colon after it. -/
  | head (id : RuleId)
  /-- One alternative of a rule. -/
  | word (text : String)
  /-- A sound change's pattern, without its slashes. -/
  | regex (body : String)
  /-- The `>` of a sound change. -/
  | arrow
  /-- A sound change's replacement, without its quotes. -/
  | replacement (body : String)
  /-- A comment, without `#` and the blanks around it. -/
  | comment (text : String)
  /-- The end of a line. -/
  | newline
  /-- The end of the source. -/
  | eof
  /-- No token. -/
  | invalid (fault : LexicalFault)
  deriving DecidableEq

/-- What messages call a token. -/
def TokenKind.name : TokenKind → String
  | .head _ => "rule declaration"
  | .word _ => "pattern"
  | .regex _ => "transformation pattern"
  | .arrow => "'>'"
  | .replacement _ => "replacement"
  | .comment _ => "comment"
  | .newline => "end of line"
  | .eof => "end of input"
  | .invalid _ => "error"

/-- Whether a line is over with this token. -/
def TokenKind.endsLine : TokenKind → Bool
  | .newline | .eof => true
  | _ => false

/-- A token and where it stands. -/
structure Token where
  kind : TokenKind
  span : Span
  deriving DecidableEq

end WordGrammar
