/-
Reading a pattern.

The parentheses are checked first, from left to right: a closing one that
closes nothing is reported where it stands, and if there is none, the
outermost opening one that is never closed. A text without such a fault
is then built into a pattern from its right end, where every opening
parenthesis finds its body complete.
-/
import WordGrammar.Error
import WordGrammar.Pattern

namespace WordGrammar

/-- A parenthesis without a partner. -/
inductive GroupFault
  /-- A closing parenthesis closes nothing. -/
  | unmatchedClose
  /-- An opening parenthesis is never closed. -/
  | unclosedOpen
  deriving DecidableEq, Repr

/-- The wording of a fault. -/
def GroupFault.message : GroupFault → String
  | .unmatchedClose => "unmatched ')'"
  | .unclosedOpen => "unclosed '('"

namespace Pattern

/-- The first fault among the parentheses of a text and its byte offset.
`opened` holds the offsets of the open parentheses, innermost first. -/
def faultFrom (offset : Nat) (opened : List Nat) :
    List Char → Option (GroupFault × Nat)
  | [] => opened.getLast?.map fun first => (.unclosedOpen, first)
  | c :: rest =>
      let next := offset + c.utf8Size
      if c = '(' then faultFrom next (offset :: opened) rest
      else if c = ')' then
        match opened with
        | [] => some (.unmatchedClose, offset)
        | _ :: outer => faultFrom next outer rest
      else faultFrom next opened rest

/-- The first fault among the parentheses of a text, if any. -/
def fault? (source : String) : Option (GroupFault × Nat) :=
  faultFrom 0 [] source.toList

/-- A character of text before a pattern; it joins the text that the
pattern starts with. -/
def consLiteral (c : Char) : Pattern → Pattern
  | literal text rest => literal (String.ofList (c :: text.toList)) rest
  | rest => literal (String.singleton c) rest

/-- What has been built of a text from its right end: the sequence being
read, and the ones that wait outside it, innermost first. -/
structure Partial where
  current : Pattern
  outside : List Pattern

/-- Adds a character on the left. -/
def Partial.add (c : Char) (p : Partial) : Partial :=
  if c = ')' then ⟨.empty, p.current :: p.outside⟩
  else if c = '(' then
    match p.outside with
    | [] => p
    | rest :: outside => ⟨.optional p.current rest, outside⟩
  else
    match RuleId.ofChar? c with
    | some id => ⟨.reference id p.current, p.outside⟩
    | none => ⟨consLiteral c p.current, p.outside⟩

/-- The pattern that a text with balanced parentheses is written as. -/
def build (cs : List Char) : Pattern :=
  (cs.foldr Partial.add ⟨.empty, []⟩).current

/-- Reads a pattern. -/
def parse (source : String) : Except Error Pattern :=
  match fault? source with
  | some (fault, offset) =>
      .error (.of (.malformedGroup source offset fault.message))
  | none => .ok (build source.toList)

end Pattern

end WordGrammar
