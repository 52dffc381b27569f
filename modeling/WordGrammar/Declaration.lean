/-
Declarations: what the lines of a grammar say.

A line declares a rule or a sound change, or holds only a comment or
nothing. A comment after a declaration on the same line counts as a
declaration of its own. `Record` is what compilation needs of a
declaration: the rules and sound changes in source order, without
comments and empty lines.
-/
import WordGrammar.RuleId
import WordGrammar.Span

namespace WordGrammar

/-- One declaration of a grammar. -/
inductive Declaration
  /-- A rule and its alternatives, as written. -/
  | group (id : RuleId) (patterns : List String) (span : Span)
  /-- A sound change: what to look for and what to put in its place. -/
  | soundChange (pattern replacement : String) (span : Span)
  /-- A comment. -/
  | comment (text : String) (span : Span)
  /-- An empty line. -/
  | blank (span : Span)
  deriving DecidableEq

namespace Declaration

/-- Where the declaration stands. -/
def span : Declaration → Span
  | .group _ _ span | .soundChange _ _ span | .comment _ span
  | .blank span => span

/-- Whether the declaration says nothing about words. -/
def isTrivia : Declaration → Bool
  | .comment .. | .blank .. => true
  | _ => false

end Declaration

/-- A rule or a sound change as compilation takes it. -/
inductive Record
  | rule (id : RuleId) (patterns : List String) (span : Span)
  | soundChange (pattern replacement : String) (span : Span)
  deriving DecidableEq

/-- What compilation needs of a declaration, if anything. -/
def Declaration.record? : Declaration → Option Record
  | .group id patterns span => some (.rule id patterns span)
  | .soundChange pattern replacement span =>
      some (.soundChange pattern replacement span)
  | .comment .. | .blank .. => none

/-- The records of some declarations, in their order. -/
def Record.ofDeclarations (declarations : List Declaration) : List Record :=
  declarations.filterMap Declaration.record?

end WordGrammar
