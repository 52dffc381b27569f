/-
Backspaces in a line that no terminal has edited.

A line from a file or a pipe holds its backspaces as characters. Each of
them takes back one grapheme of what the line holds before it, if there
is any. How many bytes that is, is noted in a single byte when the
grapheme is written, so of a grapheme of 256 bytes or more only the
remainder is taken back. If that reaches into a character, the line
cannot be read.

A line without backspaces stays as it is.
-/
import WordGrammar.Text.Grapheme

namespace WordGrammar.Shell

/-- What has been written of a line: its characters, the last one first,
and what to take back for each grapheme in bytes, the last one first. -/
structure Written where
  text : List Char := []
  sizes : List Nat := []

namespace Written

/-- A text, given from its end, without some bytes there. -/
def takeBack : Nat → List Char → Option (List Char)
  | 0, cs => some cs
  | _ + 1, [] => none
  | n + 1, c :: cs =>
      if c.utf8Size ≤ n + 1 then takeBack (n + 1 - c.utf8Size) cs else none

/-- What is taken back for a grapheme, in bytes. -/
def sizeOf (grapheme : List Char) : Nat :=
  (String.ofList grapheme).utf8ByteSize % 256

/-- Writes a grapheme, or takes one back. -/
def write (w : Written) (grapheme : List Char) : Option Written :=
  if grapheme = ['\x08'] then
    match w.sizes with
    | [] => some w
    | size :: sizes => (takeBack size w.text).map fun text => ⟨text, sizes⟩
  else some ⟨grapheme.reverse ++ w.text, sizeOf grapheme :: w.sizes⟩

end Written

/-- A line after its backspaces. -/
def applyBackspaces (line : List Char) : Option (List Char) :=
  if line.contains '\x08' then
    ((Text.graphemes line).foldlM Written.write {}).map fun w =>
      w.text.reverse
  else some line

end WordGrammar.Shell
