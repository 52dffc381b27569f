/-
From tokens to declarations.

A grammar has no structure across lines, so its tokens are first split
into lines, each a list of tokens and the token that ends it. Each line
is then read by itself, and the first line that has none of the known
forms is the one an error names.
-/
import WordGrammar.Declaration
import WordGrammar.Error
import WordGrammar.Token.Scan

namespace WordGrammar

/-- The tokens of one line and the token that ends it. -/
structure TokenLine where
  tokens : List Token
  terminator : Token

namespace TokenLine

/-- Splits tokens into lines. Every list of tokens that `tokenize` makes
ends with a line's end, so nothing is left over. -/
def split : List Token → List TokenLine
  | [] => []
  | token :: rest =>
      if token.kind.endsLine then ⟨[], token⟩ :: split rest
      else
        match split rest with
        | [] => []
        | line :: lines => { line with tokens := token :: line.tokens } :: lines

end TokenLine

namespace Declaration

/-- A syntax error at a span of the source. -/
def syntaxError (source : String) (span : Span) (message : String) : Error :=
  .of (.grammarSyntax message span.line span.column (span.lineText source))

/-- The error for a token that cannot stand where it does. -/
def unexpected (source : String) (token : Token) (message : String) :
    Error :=
  match token.kind with
  | .invalid fault => syntaxError source token.span fault.message
  | _ => syntaxError source token.span message

/-- The error for a token found in place of something else. -/
def expected (source : String) (what : String) (token : Token) : Error :=
  unexpected source token s!"expected {what}, found {token.kind.name}"

/-- What may stand between a declaration and the end of its line: one
comment or nothing. -/
def trailing (source : String) : List Token → Except Error (List Declaration)
  | [] => .ok []
  | token :: rest =>
      match token.kind, rest with
      | .comment text, [] => .ok [.comment text token.span]
      | .comment _, next :: _ => .error (expected source "end of line" next)
      | _, _ => .error (expected source "end of line" token)

/-- The words at the start of a line's tokens, with their spans. -/
def leadingWords : List Token → List (String × Span)
  | ⟨.word text, span⟩ :: rest => (text, span) :: leadingWords rest
  | _ => []

/-- The rule that a head and the tokens after it declare. -/
def ofGroup (source : String) (id : RuleId) (head : Span)
    (rest : List Token) : Except Error (List Declaration) :=
  let words := leadingWords rest
  match words.getLast? with
  | none =>
      .error (syntaxError source head s!"rule {id.text} has no alternatives")
  | some (_, last) => do
      let comments ← trailing source (rest.drop words.length)
      .ok (.group id (words.map (·.1)) (head.through last) :: comments)

/-- The sound change that a pattern and the tokens after it declare. -/
def ofSoundChange (source : String) (pattern : String) (start : Span)
    (rest : List Token) (terminator : Token) :
    Except Error (List Declaration) :=
  match rest with
  | [] => .error (expected source "'>'" terminator)
  | arrow :: rest =>
      if arrow.kind = .arrow then
        match rest with
        | [] => .error (expected source "a quoted replacement" terminator)
        | token :: rest =>
            match token.kind with
            | .replacement body => do
                let comments ← trailing source rest
                .ok (.soundChange pattern body (start.through token.span)
                  :: comments)
            | _ => .error (expected source "a quoted replacement" token)
      else .error (expected source "'>'" arrow)

/-- The declarations of one line. The end of the source is no line of its
own when nothing precedes it. -/
def ofLine (source : String) (line : TokenLine) :
    Except Error (List Declaration) :=
  match line.tokens with
  | [] =>
      if line.terminator.kind = .eof then .ok []
      else .ok [.blank line.terminator.span]
  | first :: rest =>
      match first.kind with
      | .comment text => do
          let comments ← trailing source rest
          .ok (.comment text first.span :: comments)
      | .head id => ofGroup source id first.span rest
      | .regex pattern =>
          ofSoundChange source pattern first.span rest line.terminator
      | _ =>
          .error (unexpected source first s!"unexpected {first.kind.name}")

/-- The declarations of some lines, up to the first one that is none. -/
def ofLines (source : String) :
    List TokenLine → Except Error (List Declaration)
  | [] => .ok []
  | line :: lines => do
      let here ← ofLine source line
      let after ← ofLines source lines
      .ok (here ++ after)

/-- The declarations of a grammar. -/
def parse (source : String) : Except Error (List Declaration) :=
  ofLines source (TokenLine.split (tokenize source))

end Declaration

end WordGrammar
