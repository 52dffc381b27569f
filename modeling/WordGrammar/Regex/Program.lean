/-
Programs: expressions as instructions with addresses.

An instruction tests a character or a position, notes a position, or
offers two ways to go on, the first by preference. A fragment is written
in front of the instruction at which matching goes on, so it needs no
forward references but those of loops: a loop reserves the address of its
choice and fills it in when its body is known.
-/
import WordGrammar.Regex.Expr
import WordGrammar.Regex.TextTree

namespace WordGrammar.Regex

/-- One step of matching. -/
inductive Instruction
  /-- The match is complete. -/
  | accept
  /-- Go on after one character. -/
  | letter (c : Char) (next : Nat)
  /-- Go on after a character of the set. -/
  | consume (set : Text.CodeSet) (next : Nat)
  /-- Go on after one of some characters, which are in ascending order,
  each with its own address. -/
  | select (arms : Array (Char × Nat))
  /-- Go on where the condition holds. -/
  | check (look : Look) (next : Nat)
  /-- Note the position in a slot. -/
  | save (slot next : Nat)
  /-- Try one way, then the other. -/
  | fork (first second : Nat)
  deriving Inhabited

/-- The instructions written so far. -/
abbrev Code := Array Instruction

/-- What an expression becomes: it is written in front of the instruction
at some address, and starts at another one. -/
structure Fragment where
  write : Nat → Code → Nat × Code

namespace Fragment

/-- Nothing. -/
def nothing : Fragment := ⟨fun next code => (next, code)⟩

/-- One instruction. -/
def single (instruction : Nat → Instruction) : Fragment :=
  ⟨fun next code => (code.size, code.push (instruction next))⟩

/-- One fragment after another; the last one comes first in the list. -/
def sequence (fragments : List Fragment) : Fragment :=
  ⟨fun next code => fragments.foldl
    (fun (next, code) fragment => fragment.write next code) (next, code)⟩

/-- Writes the choice between some addresses, the last of which comes
first in the list. -/
def writeForks (entries : List Nat) (code : Code) : Nat × Code :=
  match entries with
  | [] => (code.size, code.push (.select #[]))
  | last :: before => before.foldl
      (fun (second, code) first =>
        (code.size, code.push (.fork first second))) (last, code)

/-- The choice between some fragments, earlier ones by preference; the
last one comes first in the list. -/
def choice (fragments : List Fragment) : Fragment :=
  ⟨fun next code =>
    let (entries, code) := fragments.foldr
      (fun fragment (entries, code) =>
        let (entry, code) := fragment.write next code
        (entry :: entries, code)) ([], code)
    writeForks entries code⟩

/-- A choice between going on with a body and leaving it. -/
def turn (greedy : Bool) (body exit : Nat) : Instruction :=
  if greedy then .fork body exit else .fork exit body

/-- Writes copies of a body, one after the other, in front of `next`. -/
def writeCopies (body : Fragment) : Nat → Nat → Code → Nat × Code
  | 0, next, code => (next, code)
  | n + 1, next, code =>
      let (entry, code) := body.write next code
      writeCopies body n entry code

/-- Writes nested optional copies of a body in front of `exit`. -/
def writeOptional (body : Fragment) (greedy : Bool) (exit : Nat) :
    Nat → Nat → Code → Nat × Code
  | 0, next, code => (next, code)
  | n + 1, next, code =>
      let (entry, code) := body.write next code
      writeOptional body greedy exit n code.size
        (code.push (turn greedy entry exit))

/-- Writes one or more turns of a body in front of `exit`. -/
def writeLoop (body : Fragment) (greedy : Bool) (exit : Nat)
    (code : Code) : Nat × Code :=
  let again := code.size
  let (entry, code) := body.write again (code.push .accept)
  (entry, code.setIfInBounds again (turn greedy entry exit))

/-- Turns of a body. -/
def repetition (body : Fragment) (least : Nat) (most : Option Nat)
    (greedy : Bool) : Fragment :=
  ⟨fun next code =>
    match most with
    | some most =>
        let (entry, code) :=
          writeOptional body greedy next (most - least) next code
        writeCopies body least entry code
    | none =>
        let (entry, code) := writeLoop body greedy next code
        match least with
        | 0 => (code.size, code.push (turn greedy entry next))
        | least + 1 => writeCopies body least entry code⟩

/-- Writes the choice between texts that go on from one node of their
tree; `depth` is at least the length of the longest text. -/
def writeTexts (next : Nat) :
    Nat → List (List Char) → Code → Nat × Code
  | 0, _, code => (next, code)
  | depth + 1, texts, code =>
      if texts.all List.isEmpty then (next, code)
      else
        let (entries, code) := (TextTree.waysOf texts).foldl
          (fun (entries, code) way => match way with
            | .stop => (next :: entries, code)
            | .letters groups =>
                let (arms, code) := groups.foldl
                  (fun (arms, code) (letter, texts) =>
                    let (entry, code) := writeTexts next depth texts code
                    (arms.push (letter, entry), code)) (#[], code)
                (code.size :: entries, code.push (.select arms)))
          ([], code)
        writeForks entries code

/-- The choice between some texts, earlier ones by preference. -/
def ofTexts (texts : List (List Char)) : Fragment :=
  ⟨fun next code => writeTexts next (TextTree.depthOf texts) texts code⟩

/-- A text. -/
def ofText (text : List Char) : Fragment :=
  ⟨fun next code => text.foldr
    (fun c (next, code) => (code.size, code.push (.letter c next)))
    (next, code)⟩

mutual

/-- The fragment of an expression. -/
def ofExpr : Expr → Fragment
  | .empty => nothing
  | .literal text => ofText text
  | .set s => single (.consume s)
  | .look look => single (.check look)
  | .concat parts => sequence (ofExprs [] parts)
  | .alternation branches =>
      match Expr.textsOf? branches with
      | some texts => ofTexts texts
      | none => choice (ofExprs [] branches)
  | .repetition body least most greedy =>
      repetition (ofExpr body) least most greedy
  | .capture index body =>
      sequence [single (.save (2 * index + 1)), ofExpr body,
        single (.save (2 * index))]

/-- The fragments of some expressions, the last of them first, in front
of some fragments. -/
def ofExprs (fragments : List Fragment) : List Expr → List Fragment
  | [] => fragments
  | e :: es => ofExprs (ofExpr e :: fragments) es

end

end Fragment

/-- An expression's instructions and where to start. -/
structure Program where
  code : Code
  entry : Nat

/-- The program of an expression. -/
def Program.ofExpr (e : Expr) : Program :=
  let (entry, code) := (Fragment.ofExpr e).write 0 #[.accept]
  ⟨code, entry⟩

end WordGrammar.Regex
