/-
What a text looks at in a character: whether it is a letter or a digit,
and whether it shows.

All of this goes by the newest edition of the character set. Characters
of ASCII are told by their codes alone.
-/
import WordGrammar.Text.Property

namespace WordGrammar.Text

/-- Letters and what counts as letters. -/
def newestAlphabetic : CodeSet := alphabetic Category.codes

/-- Numbers of any kind. -/
def newestNumbers : CodeSet := numbers Category.codes

/-- Characters that do not show as themselves: those without a form of
their own, and marks that attach to the character before them. -/
def hiddenCodes : CodeSet :=
  let formless := CodeSet.unions ([.Cc, .Cf, .Co, .Cn, .Zs, .Zl, .Zp].map
    Category.codes)
  let attached := CodeSet.unions [Category.Mn.codes, Category.Me.codes,
    otherExtending.inter Category.Mc.codes]
  .unions [formless, attached, otherIgnorable]

/-- A character of the Alphabetic property. -/
def isAlphabetic (c : Char) : Bool :=
  if c.toNat < 128 then c.isAlpha else newestAlphabetic.contains c

/-- A letter or a number, in the wide sense of either. -/
def isAlphanumeric (c : Char) : Bool :=
  if c.toNat < 128 then c.isAlphanum
  else newestAlphabetic.contains c || newestNumbers.contains c

/-- A character that shows as itself, the ordinary space included. -/
def isShown (c : Char) : Bool :=
  if c.toNat < 128 then 32 ≤ c.toNat && c.toNat < 127
  else !hiddenCodes.contains c

end WordGrammar.Text
