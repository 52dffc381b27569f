/-
Patterns: the alternatives of a rule.

A pattern is a sequence of literal text, references to rules and optional
parts. It is written as plain text in which a capital letter refers to a
rule and parentheses enclose an optional part; `print` writes a pattern
that way. The sequence is built into the type, so that every function on
patterns is a recursion over it.
-/
import WordGrammar.RuleId

namespace WordGrammar

/-- A sequence of parts. -/
inductive Pattern
  /-- Nothing more. -/
  | empty
  /-- Some text as it is, and the rest. -/
  | literal (text : String) (rest : Pattern)
  /-- A word of another rule, and the rest. -/
  | reference (id : RuleId) (rest : Pattern)
  /-- Something that may be left out, and the rest. -/
  | optional (body rest : Pattern)
  deriving DecidableEq

namespace Pattern

/-- The pattern as it is written. -/
def print : Pattern → List Char
  | empty => []
  | literal text rest => text.toList ++ rest.print
  | reference id rest => id.letter :: rest.print
  | optional body rest => '(' :: body.print ++ ')' :: rest.print

/-- Whether the pattern is text alone. -/
def isLiteral : Pattern → Bool
  | empty => true
  | literal _ rest => rest.isLiteral
  | reference .. | optional .. => false

/-- The references of a pattern from left to right. -/
def references : Pattern → List RuleId
  | empty => []
  | literal _ rest => rest.references
  | reference id rest => id :: rest.references
  | optional body rest => body.references ++ rest.references

end Pattern

/-- The rules that a written pattern refers to, from left to right, well
formed or not. -/
def referencesOf (source : String) : List RuleId :=
  source.toList.filterMap RuleId.ofChar?

end WordGrammar
