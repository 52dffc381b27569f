/-
From source text to tokens.

The first token of a line decides how the rest of the line is read: after
a rule's head come words, after a pattern between slashes come `>` and a
quoted replacement. `LineMode` remembers which, and every line ending
resets it.

`Lexeme.read` reads one token at a character that is no inline blank. It
returns the characters it consumes after that first one, always a prefix
of what follows, so a token is never empty and scanning ends. `tokenize`
steps over inline blanks, reads lexemes to the end of the text, and
closes the list with an `eof` token.
-/
import WordGrammar.Text.Blank
import WordGrammar.Token

namespace WordGrammar

open Text

/-- What the rest of a line may hold. -/
inductive LineMode
  /-- Nothing has been read on this line. -/
  | start
  /-- The words of a rule. -/
  | group
  /-- The rest of a sound change. -/
  | soundChange
  deriving DecidableEq, Repr

/-- One lexeme: its kind, the characters after its first one, and the
mode in which the line goes on. -/
structure Lexeme where
  kind : TokenKind
  more : List Char
  mode : LineMode

namespace Lexeme

/-- Reads a body up to the closing `delimiter`. A backslash always pairs
with the character after it: before the delimiter it is dropped, any
other pair is kept as it is. There is no body if the line ends first; the
characters read until then are returned all the same. -/
def delimited (delimiter : Char) :
    List Char → Option (List Char) × List Char
  | [] => (none, [])
  | ['\\'] => (none, ['\\'])
  | '\\' :: d :: rest =>
      if isLineEnd d then (none, ['\\'])
      else
        let (body, used) := delimited delimiter rest
        let pair := if d = delimiter then [d] else ['\\', d]
        (body.map (pair ++ ·), '\\' :: d :: used)
  | c :: rest =>
      if isLineEnd c then (none, [])
      else if c = delimiter then (some [], [c])
      else
        let (body, used) := delimited delimiter rest
        (body.map (c :: ·), c :: used)

example : delimited '/' ['a', '\\', '/', '\\', 'n', '/', 'b']
    = (some ['a', '/', '\\', 'n'], ['a', '\\', '/', '\\', 'n', '/']) := by cbv

/-- The characters up to the end of the line. -/
def toLineEnd (cs : List Char) : List Char :=
  cs.takeWhile (!isLineEnd ·)

/-- The characters up to the next blank. -/
def toBlank (cs : List Char) : List Char :=
  cs.takeWhile (!isBlank ·)

/-- The spaces and tabs before a colon, and the colon; none if something
else comes first. -/
def colon? (cs : List Char) : Option (List Char) :=
  let gap := cs.takeWhile fun c => c = ' ' || c = '\t'
  match cs.drop gap.length with
  | ':' :: _ => some (gap ++ [':'])
  | _ => none

/-- The rule's head that `c` opens, if a colon follows. -/
def head? (c : Char) (cs : List Char) : Option (RuleId × List Char) :=
  match RuleId.ofChar? c, colon? cs with
  | some id, some more => some (id, more)
  | _, _ => none

/-- A line ending; a carriage return takes a line feed along. -/
def newline (c : Char) (cs : List Char) : Lexeme :=
  match c, cs with
  | '\r', '\n' :: _ => ⟨.newline, ['\n'], .start⟩
  | _, _ => ⟨.newline, [], .start⟩

/-- The first lexeme of a line. -/
def atStart (c : Char) (cs : List Char) : Lexeme :=
  match head? c cs with
  | some (id, more) => ⟨.head id, more, .group⟩
  | none =>
      if c = '/' then
        match delimited '/' cs with
        | (some body, used) =>
            ⟨.regex (String.ofList body), used, .soundChange⟩
        | (none, used) =>
            ⟨.invalid .unterminatedPattern, used, .soundChange⟩
      else ⟨.invalid .unknownLine, toLineEnd cs, .start⟩

/-- A lexeme of a sound change after its pattern. -/
def inSoundChange (c : Char) (cs : List Char) : Lexeme :=
  if c = '>' then ⟨.arrow, [], .soundChange⟩
  else if c = '"' then
    match delimited '"' cs with
    | (some body, used) =>
        ⟨.replacement (String.ofList body), used, .soundChange⟩
    | (none, used) =>
        ⟨.invalid .unterminatedReplacement, used, .soundChange⟩
  else
    let word := String.ofList (c :: toBlank cs)
    ⟨.invalid (.strayWord word), toBlank cs, .soundChange⟩

/-- The lexeme that begins with `c`, which is no inline blank. -/
def read (mode : LineMode) (c : Char) (cs : List Char) : Lexeme :=
  if isLineEnd c then newline c cs
  else if c = '#' then
    ⟨.comment (String.ofList (trim (toLineEnd cs))), toLineEnd cs, mode⟩
  else
    match mode with
    | .start => atStart c cs
    | .group =>
        ⟨.word (String.ofList (c :: toBlank cs)), toBlank cs, .group⟩
    | .soundChange => inSoundChange c cs

end Lexeme

/-- The point after a lexeme. -/
def Cursor.pastLexeme (cursor : Cursor) (c : Char) (lexeme : Lexeme) :
    Cursor :=
  if isLineEnd c then cursor.pastLineEnd (c :: lexeme.more)
  else cursor.past (c :: lexeme.more)

/-- The tokens of a text that starts at `cursor` in the given mode. -/
def tokensFrom (mode : LineMode) (cursor : Cursor) (cs : List Char) :
    List Token :=
  let blanks := cs.takeWhile isInlineBlank
  let cursor := cursor.past blanks
  match _rest : cs.dropWhile isInlineBlank with
  | [] => [⟨.eof, .fromCursor cursor cursor.offset⟩]
  | c :: rest =>
      let lexeme := Lexeme.read mode c rest
      let next := cursor.pastLexeme c lexeme
      ⟨lexeme.kind, .fromCursor cursor next.offset⟩
        :: tokensFrom lexeme.mode next (rest.drop lexeme.more.length)
termination_by cs.length
decreasing_by
  have hdrop : (cs.dropWhile isInlineBlank).length ≤ cs.length :=
    (List.dropWhile_sublist _).length_le
  rw [_rest, List.length_cons] at hdrop
  simp only [List.length_drop]
  omega

/-- The tokens of a source text, the last of them `eof`. -/
def tokenize (source : String) : List Token :=
  tokensFrom .start .start source.toList

end WordGrammar
