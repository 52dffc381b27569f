/-
Sets of characters that have a name.

A name between braces is a property, a general category or a script, or
says which property is to have which value. All of them are those of the
edition 16.0 of the character set: to a regular expression, a character
that came later is unassigned.
-/
import WordGrammar.Text.CaseFold
import WordGrammar.Text.Edition
import WordGrammar.Text.Script
import WordGrammar.Text.Segmentation

namespace WordGrammar.Regex

open Text

-- ========================================================= the edition

/-- The edition that names go by. -/
def editionMajor : Nat := 16

/-- The characters that later editions added. -/
def laterCodes : CodeSet :=
  .unions ((editions.filter fun e => editionMajor < e.major).map (·.added))

/-- A lowercase letter that a later edition made a letter without
case. -/
def formerLowercase : CodeSet := .ofTable "295"

/-- The general categories of the edition. -/
def categoryCodes : Category → CodeSet
  | .Cn => .union (Category.codes .Cn) laterCodes
  | .Ll => .union ((Category.codes .Ll).diff laterCodes) formerLowercase
  | .Lo => (Category.codes .Lo).diff (.union laterCodes formerLowercase)
  | category => category.codes.diff laterCodes

/-- The decimal digits. -/
def digitSet : CodeSet := categoryCodes .Nd

/-- The characters that belong to a word. -/
def wordSet : CodeSet := wordCodes categoryCodes

-- ========================================================= ASCII sets

/-- The bracketed names of ASCII sets. -/
def asciiSet? : String → Option CodeSet
  | "alnum" => some (.ofPairs [('0', '9'), ('A', 'Z'), ('a', 'z')])
  | "alpha" => some (.ofPairs [('A', 'Z'), ('a', 'z')])
  | "ascii" => some (.range '\x00' '\x7f')
  | "blank" => some (.ofPairs [('\t', '\t'), (' ', ' ')])
  | "cntrl" => some (.ofPairs [('\x00', '\x1f'), ('\x7f', '\x7f')])
  | "digit" => some (.range '0' '9')
  | "graph" => some (.range '!' '~')
  | "lower" => some (.range 'a' 'z')
  | "print" => some (.range ' ' '~')
  | "punct" =>
      some (.ofPairs [('!', '/'), (':', '@'), ('[', '\x60'), ('\x7b', '~')])
  | "space" => some (.ofPairs [('\t', '\r'), (' ', ' ')])
  | "upper" => some (.range 'A' 'Z')
  | "word" =>
      some (.ofPairs [('0', '9'), ('A', 'Z'), ('_', '_'), ('a', 'z')])
  | "xdigit" => some (.ofPairs [('0', '9'), ('A', 'F'), ('a', 'f')])
  | _ => none

/-- A property's name as it is looked up: without `is` in front, in
lowercase, and without spaces, underscores, hyphens and anything that is
not ASCII. -/
def looseName (name : String) : String :=
  let simplify (cs : List Char) : List Char :=
    (cs.filter fun c =>
      c.toNat < 128 && !(c == ' ' || c == '_' || c == '-')).map Char.toLower
  match name.toList with
  | i :: s :: rest =>
      if i.toLower == 'i' && s.toLower == 's' then
        let kept := simplify rest
        String.ofList (if kept = ['c'] then ['i', 's', 'c'] else kept)
      else String.ofList (simplify name.toList)
  | short => String.ofList (simplify short)

-- =========================================================== the names

/-- The general categories by their loose names. -/
def category? : String → Option Category
  | "lu" | "uppercaseletter" => some .Lu
  | "ll" | "lowercaseletter" => some .Ll
  | "lt" | "titlecaseletter" => some .Lt
  | "lm" | "modifierletter" => some .Lm
  | "lo" | "otherletter" => some .Lo
  | "mn" | "nonspacingmark" => some .Mn
  | "mc" | "spacingmark" => some .Mc
  | "me" | "enclosingmark" => some .Me
  | "nd" | "decimalnumber" | "digit" => some .Nd
  | "nl" | "letternumber" => some .Nl
  | "no" | "othernumber" => some .No
  | "pc" | "connectorpunctuation" => some .Pc
  | "pd" | "dashpunctuation" => some .Pd
  | "ps" | "openpunctuation" => some .Ps
  | "pe" | "closepunctuation" => some .Pe
  | "pi" | "initialpunctuation" => some .Pi
  | "pf" | "finalpunctuation" => some .Pf
  | "po" | "otherpunctuation" => some .Po
  | "sm" | "mathsymbol" => some .Sm
  | "sc" | "currencysymbol" => some .Sc
  | "sk" | "modifiersymbol" => some .Sk
  | "so" | "othersymbol" => some .So
  | "zs" | "spaceseparator" => some .Zs
  | "zl" | "lineseparator" => some .Zl
  | "zp" | "paragraphseparator" => some .Zp
  | "cc" | "control" | "cntrl" => some .Cc
  | "cf" | "format" => some .Cf
  | "co" | "privateuse" => some .Co
  | "cn" | "unassigned" => some .Cn
  | _ => none

/-- The sets of the general category by their loose names: the categories
and some groups of them. -/
def categorySet? (codes : Categories) (name : String) : Option CodeSet :=
  let group (members : List Category) : Option CodeSet :=
    some (.unions (members.map codes))
  match name with
  | "any" => some .all
  | "ascii" => some (.range '\x00' '\x7f')
  | "assigned" => some (codes .Cn).compl
  | "l" | "letter" => some (letters codes)
  | "lc" | "casedletter" => group [.Lu, .Ll, .Lt]
  | "m" | "mark" | "combiningmark" => some (marks codes)
  | "n" | "number" => some (numbers codes)
  | "p" | "punctuation" | "punct" =>
      group [.Pc, .Pd, .Ps, .Pe, .Pi, .Pf, .Po]
  | "z" | "separator" => group [.Zs, .Zl, .Zp]
  | "s" | "symbol" => group [.Sm, .Sc, .Sk, .So]
  | "c" | "other" => group [.Cc, .Cf, .Co, .Cn]
  | name => (category? name).map codes

/-- The characters of the editions up to one that is named with a point
or with a letter in front. -/
def ageSet? (name : String) : Option CodeSet :=
  match editions.find? fun e =>
      name == s!"{e.major}.{e.minor}" || name == s!"v{e.major}{e.minor}" with
  | some e =>
      if e.major ≤ editionMajor then charactersOf? e.major e.minor else none
  | none => none

/-- The set of a bare name. Three short names are those of a category and
a property both, and mean the category. -/
def namedSet? (name : String) : Option CodeSet :=
  let property :=
    if name = "cf" || name = "sc" || name = "lc" then none
    else propertyCodes? categoryCodes name
  property.orElse fun _ =>
    (categorySet? categoryCodes name).orElse fun _ =>
      (script? name).map Script.codes

/-- The set of the characters for which a property has a value. -/
def valueSet? (property value : String) : Option CodeSet :=
  match property with
  | "generalcategory" | "gc" => categorySet? categoryCodes value
  | "script" | "sc" => (script? value).map Script.codes
  | "scriptextensions" | "scx" => (script? value).map Script.extendedCodes
  | "age" => ageSet? value
  | "graphemeclusterbreak" | "gcb" => graphemeClass? categoryCodes value
  | "wordbreak" | "wb" => wordClass? categoryCodes value
  | "sentencebreak" | "sb" => sentenceClass? categoryCodes value
  | _ => none

end WordGrammar.Regex
