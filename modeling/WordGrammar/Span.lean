/-
Places in a source text.

A cursor is a point between two characters: a byte offset, and the line
and column that a reader would count, both from 1. A span is a stretch
between two offsets with the line and column where it starts. `text?`
reads the stretch back out of the source, and `lineText` the whole line
it starts on; that line is the one between line feeds, with carriage
returns taken off its end.
-/
import WordGrammar.Text.Bytes

namespace WordGrammar

-- ============================================================ cursors

/-- A point in a source text. -/
structure Cursor where
  offset : Nat
  line : Nat
  column : Nat
  deriving DecidableEq, Repr

namespace Cursor

/-- The point before the first character. -/
def start : Cursor := ⟨0, 1, 1⟩

/-- The point after some characters of the same line. -/
def past (cursor : Cursor) (text : List Char) : Cursor :=
  { cursor with
    offset := cursor.offset + Text.utf8Length text
    column := cursor.column + text.length }

/-- The point after a line ending. -/
def pastLineEnd (cursor : Cursor) (ending : List Char) : Cursor :=
  ⟨cursor.offset + Text.utf8Length ending, cursor.line + 1, 1⟩

end Cursor

-- ============================================================== spans

/-- A stretch of a source text: byte offsets, the second one exclusive,
and the line and column of the first. -/
structure Span where
  start : Nat
  stop : Nat
  line : Nat
  column : Nat
  deriving DecidableEq, Repr

namespace Span

/-- The stretch from a cursor up to an offset. -/
def fromCursor (cursor : Cursor) (stop : Nat) : Span :=
  ⟨cursor.offset, stop, cursor.line, cursor.column⟩

/-- The stretch from the start of one span to the end of another. -/
def through (first last : Span) : Span := { first with stop := last.stop }

/-- The number of bytes in the stretch. -/
def length (span : Span) : Nat := span.stop - span.start

/-- Whether the stretch holds nothing. -/
def isEmpty (span : Span) : Bool := span.start == span.stop

/-- The text of the stretch; none if it is not inside the source or cuts
a character. -/
def text? (span : Span) (source : String) : Option String :=
  (Text.slice? span.start span.stop source.toList).map String.ofList

/-- The part of a text after its last line feed. -/
def afterLastLineFeed (cs : List Char) : List Char :=
  (cs.reverse.takeWhile (· ≠ '\n')).reverse

/-- The line that the point between `before` and `after` lies on. -/
def lineAround (before after : List Char) : List Char :=
  let line := afterLastLineFeed before ++ after.takeWhile (· ≠ '\n')
  (line.reverse.dropWhile (· = '\r')).reverse

/-- The whole line that the span starts on, without its ending. A span
that starts past the end is on the last line. -/
def lineText (span : Span) (source : String) : String :=
  match Text.splitBytes? span.start source.toList with
  | some (before, after) => String.ofList (lineAround before after)
  | none => String.ofList (lineAround source.toList [])

end Span

end WordGrammar
