/-
Group markers in the pattern of a sound change.

`|X` stands for a choice between the alternatives of rule `X` and `&X`
for all of them in a row. A backslash directly before a marker belongs to
the marker; any other backslash is kept together with the character after
it, so that what it escapes cannot start a marker. The alternatives are
escaped, so they stand for themselves in the regular expression.
-/
import WordGrammar.Regex
import WordGrammar.RuleTable.Compile

namespace WordGrammar

/-- A reference to a rule in the pattern of a sound change. -/
inductive Marker
  /-- A choice between the rule's alternatives. -/
  | choice (id : RuleId)
  /-- The rule's alternatives in a row. -/
  | sequence (id : RuleId)
  deriving DecidableEq

namespace Marker

/-- The marker that two characters make, if they do. -/
def ofChars? (joiner letter : Char) : Option Marker :=
  match RuleId.ofChar? letter with
  | none => none
  | some id =>
      if joiner = '|' then some (.choice id)
      else if joiner = '&' then some (.sequence id)
      else none

/-- The rule that the marker refers to. -/
def id : Marker → RuleId
  | choice id | sequence id => id

/-- What stands between two alternatives. -/
def separator : Marker → List Char
  | choice _ => ['|']
  | sequence _ => []

/-- The regular expression that takes the marker's place. -/
def replacement (marker : Marker) (alternatives : List String) :
    List Char :=
  marker.separator.intercalate
    (alternatives.map fun a => Regex.escapeText a.toList)

end Marker

/-- Replaces every marker, asking `substitute` for the alternatives of
its rule, from left to right. -/
def replaceMarkersWith
    (substitute : RuleId → Except Error (List String)) :
    List Char → Except Error (List Char)
  | '\\' :: joiner :: letter :: rest =>
      match Marker.ofChars? joiner letter with
      | some marker => do
          let alternatives ← substitute marker.id
          let after ← replaceMarkersWith substitute rest
          .ok (marker.replacement alternatives ++ after)
      | none => do
          let after ← replaceMarkersWith substitute (letter :: rest)
          .ok ('\\' :: joiner :: after)
  | joiner :: letter :: rest =>
      match Marker.ofChars? joiner letter with
      | some marker => do
          let alternatives ← substitute marker.id
          let after ← replaceMarkersWith substitute rest
          .ok (marker.replacement alternatives ++ after)
      | none => do
          let after ← replaceMarkersWith substitute (letter :: rest)
          .ok (joiner :: after)
  | short => .ok short

/-- The pattern of a sound change with its markers replaced, on behalf of
`owner`. -/
def replaceMarkers (table : RuleTable) (owner source : String) :
    Except Error String := do
  let expanded ← replaceMarkersWith (table.substitute owner) source.toList
  .ok (String.ofList expanded)

end WordGrammar
