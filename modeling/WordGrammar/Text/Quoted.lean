/-
Quoted text in messages.

A quoted text stands between double quotes and fits on one line: a quote
and a backslash get a backslash, four control characters have a short
escape, and a character that would not show as itself (no visible form,
or one that attaches to the character before it) is written as its code
in lowercase hexadecimal between braces.
-/
import WordGrammar.Text.Character

namespace WordGrammar.Text

/-- The escape of a character written by its code. -/
def codeEscape (c : Char) : List Char :=
  ['\\', 'u', '\x7b'] ++ Nat.toDigits 16 c.toNat ++ ['\x7d']

/-- How one character is written between quotes. -/
def quotedCharacter (c : Char) : List Char :=
  match c with
  | '"' => ['\\', '"']
  | '\\' => ['\\', '\\']
  | '\n' => ['\\', 'n']
  | '\r' => ['\\', 'r']
  | '\t' => ['\\', 't']
  | _ =>
      if c.toNat == 0 then ['\\', '0']
      else if isShown c then [c]
      else codeEscape c

/-- A text between double quotes. -/
def quoted (s : String) : String :=
  String.ofList ('"' :: s.toList.flatMap quotedCharacter ++ ['"'])

end WordGrammar.Text
