/-
Regular expressions and replacement.

`compile` reads an expression, `replaceAll` replaces every match in a
text by a filled-in template. Matches are taken from left to right and do
not overlap; an empty match directly at the end of the previous match is
passed over, and the search goes on one character later.
-/
import WordGrammar.Regex.FewTexts
import WordGrammar.Regex.Machine
import WordGrammar.Regex.Parse
import WordGrammar.Regex.Search
import WordGrammar.Regex.Template

namespace WordGrammar

/-- A regular expression that is ready to search with. -/
structure Regex where
  source : String
  program : Regex.Program
  names : List (String × Nat)

namespace Regex

/-- The expression to search with: the one that was read, or a choice
between a few texts if it needs too large a machine and is such a
choice. -/
def searchable? (e : Expr) : Option Expr :=
  if e.fits then some e
  else e.fewTexts?.map fun texts => .alternation (texts.map .literal)

/-- Reads a regular expression. -/
def compile (source : String) : Except Fault Regex := do
  let parsed ← Regex.parse source
  match searchable? parsed.expr with
  | some e => return ⟨source, .ofExpr e, parsed.names⟩
  | none => throw .tooLarge

-- ============================================================ matches

/-- The position that was noted last in a slot. -/
def Match.noted? (m : Match) (slot : Nat) : Option Nat :=
  (m.notes.find? fun note => note.1 == slot).map (·.2)

/-- The two ends of a capture, if it took part. -/
def Match.bounds? (m : Match) (capture : Nat) : Option (Nat × Nat) :=
  if capture = 0 then some (m.start, m.stop)
  else
    match m.noted? (2 * capture), m.noted? (2 * capture + 1) with
    | some first, some last => some (first, last)
    | _, _ => none

/-- The first match at or after a position that is not an empty one at
`last`, the end of the match before. -/
def findNext (regex : Regex) (text : Array Char) (start : Nat)
    (last : Option Nat) (reached : AddressSet) :
    Option Match × AddressSet :=
  match regex.program.search text start reached with
  | (some m, reached) =>
      if m.start = m.stop && some m.stop = last then
        regex.program.search text (start + 1) reached
      else (some m, reached)
  | (none, reached) => (none, reached)

/-- At most `count` matches from a position on, the last one first, in
front of those found before. -/
def matchesFrom (regex : Regex) (text : Array Char) :
    Nat → Nat → Option Nat → AddressSet → List Match → List Match
  | 0, _, _, _, found => found
  | count + 1, start, last, reached, found =>
      match regex.findNext text start last reached with
      | (none, _) => found
      | (some m, reached) =>
          matchesFrom regex text count m.stop (some m.stop) reached
            (m :: found)

/-- All matches in a text, from left to right. There is at most one for
every position and one more. -/
def allMatches (regex : Regex) (text : Array Char) : List Match :=
  (regex.matchesFrom text (2 * text.size + 2) 0 none
    (.empty regex.program.code.size) []).reverse

-- ======================================================== replacement

/-- The characters of a text between two positions. -/
def slice (text : Array Char) (first last : Nat) : List Char :=
  (text.extract first last).toList

/-- The number of a capture. -/
def captureNumber? (regex : Regex) : CaptureName → Option Nat
  | .number n => some n
  | .name name =>
      (regex.names.find? fun entry => entry.1 == name).map (·.2)

/-- The text of a capture, empty if there is none. -/
def captured (regex : Regex) (text : Array Char) (m : Match)
    (name : CaptureName) : List Char :=
  match (regex.captureNumber? name).bind m.bounds? with
  | some (first, last) => slice text first last
  | none => []

/-- A text with every match replaced: between the end of one match and
the start of the next the text stays, and the template stands in the place
of a match. -/
def replaceAll (regex : Regex) (template word : String) : String :=
  let text := word.toList.toArray
  let pieces := templatePieces template.toList
  let found := regex.allMatches text
  let ends := 0 :: found.map Match.stop
  let replaced := (ends.zip found).flatMap fun (start, m) =>
    slice text start m.start ++ fillTemplate pieces (regex.captured text m)
  String.ofList (replaced ++ slice text (ends.getLastD 0) text.size)

-- =========================================================== escaping

/-- A text as a regular expression for itself. -/
def escapeText (cs : List Char) : List Char :=
  cs.flatMap fun c => if isMeta c then ['\\', c] else [c]

end Regex

end WordGrammar
