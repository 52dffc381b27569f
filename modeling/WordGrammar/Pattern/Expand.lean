/-
Expanding a pattern into every word it stands for.

A sequence expands to all combinations of its parts, the first part
varying slowest; an optional part expands to the words of its body and
then to the empty word. What a reference expands to is asked of `lookup`,
reference by reference from left to right, so that the first refusal is
the one reported, also where an earlier part has no words at all.
-/
import WordGrammar.Error
import WordGrammar.Pattern

namespace WordGrammar

/-- Every word of `left` followed by every word of `right`, `left`
varying slowest. -/
def concatWords (left right : List String) : List String :=
  left.flatMap fun l => right.map (l ++ ·)

/-- Every word that a pattern stands for, given those of the rules it
refers to. -/
def Pattern.expand (lookup : RuleId → Except Error (List String)) :
    Pattern → Except Error (List String)
  | .empty => .ok [""]
  | .literal text rest => do
      let after ← rest.expand lookup
      .ok (after.map (text ++ ·))
  | .reference id rest => do
      let here ← lookup id
      let after ← rest.expand lookup
      .ok (concatWords here after)
  | .optional body rest => do
      let here ← body.expand lookup
      let after ← rest.expand lookup
      .ok (concatWords (here ++ [""]) after)

end WordGrammar
