/-
Where text may be divided: the classes of characters that the rules for
graphemes, words and sentences go by.

Each of the three divisions has classes of its own. A class is given by
categories and properties where it follows from them, and listed
otherwise.
-/
import WordGrammar.Text.Property

namespace WordGrammar.Text

-- ========================================================== graphemes

/-- Letters and marks that open the grapheme they stand in front of. -/
def prepended : CodeSet := .ofTable
  "D4E 111C2-111C3 113D1 1193F 11941 11A3A 11A84-11A89 11D46 11F02"

/-- Letters that count as spacing marks. -/
def spacingVowel : CodeSet := .ofTable "E33 EB3"

/-- Spacing marks that make graphemes of their own. -/
def looseMark : CodeSet := .ofTable
  "102B-102C 1038 1062-1064 1067-106D 1083 1087-108C 108F 109A-109C 1A61
   1A63-1A64 AA7B AA7D 11720-11721"

/-- Jamo that open a syllable. -/
def leadingJamo : CodeSet := .ofTable "1100-115F A960-A97C"

/-- Vowels inside a syllable. -/
def vowelJamo : CodeSet := .ofTable "1160-11A7 D7B0-D7C6 16D63 16D67-16D6A"

/-- Jamo that close a syllable. -/
def trailingJamo : CodeSet := .ofTable "11A8-11FF D7CB-D7FB"

/-- Syllables that are written as one character. -/
def syllable : CodeSet := .ofTable "AC00-D7A3"

/-- Syllables without a closing sound: every twenty-eighth. -/
def openSyllable : CodeSet :=
  .ofRanges ((List.range 399).map fun i =>
    ⟨0xAC00 + 28 * i, 0xAC00 + 28 * i⟩)

/-- The classes of the division into graphemes. -/
inductive GraphemeClass
  | carriageReturn | lineFeed | control
  | extend | joiner | spacingMark | prepend
  | regionalIndicator
  | leadingJamo | vowelJamo | trailingJamo | openSyllable | closedSyllable
  deriving DecidableEq, Repr

namespace GraphemeClass

/-- The characters of a class. -/
def codes (codes : Categories) : GraphemeClass → CodeSet
  | carriageReturn => .singleton '\r'
  | lineFeed => .singleton '\n'
  | control =>
      let candidates := CodeSet.unions [codes .Zl, codes .Zp, codes .Cc,
        codes .Cf, (codes .Cn).inter (defaultIgnorable codes)]
      candidates.diff (.unions [prependedMark, graphemeExtend codes,
        .ofPairs [('\n', '\n'), ('\r', '\r'), ('\u200D', '\u200D')]])
  | extend => .union (graphemeExtend codes) emojiModifier
  | joiner => .singleton '\u200D'
  | spacingMark =>
      (CodeSet.union (codes .Mc) spacingVowel).diff
        (.union (graphemeExtend codes) looseMark)
  | prepend => .union prepended prependedMark
  | regionalIndicator => Text.regionalIndicator
  | leadingJamo => Text.leadingJamo
  | vowelJamo => Text.vowelJamo
  | trailingJamo => Text.trailingJamo
  | openSyllable => Text.openSyllable
  | closedSyllable => syllable.diff Text.openSyllable

/-- The class with a name. -/
def ofName? : String → Option GraphemeClass
  | "cr" => some carriageReturn
  | "lf" => some lineFeed
  | "control" | "cn" => some control
  | "extend" | "ex" => some extend
  | "zwj" => some joiner
  | "spacingmark" | "sm" => some spacingMark
  | "prepend" | "pp" => some prepend
  | "regionalindicator" | "ri" => some regionalIndicator
  | "l" => some leadingJamo
  | "v" => some vowelJamo
  | "t" => some trailingJamo
  | "lv" => some openSyllable
  | "lvt" => some closedSyllable
  | _ => none

end GraphemeClass

/-- A class of the division into graphemes. -/
def graphemeClass? (codes : Categories) (name : String) :
    Option CodeSet :=
  (GraphemeClass.ofName? name).map fun c => c.codes codes

-- ============================================================== words

/-- Katakana and what is written between them. -/
def katakana : CodeSet := .ofTable
  "3031-3035 309B-309C 30A0-30FA 30FC-30FF 31F0-31FF 32D0-32FE 3300-3357
   FF66-FF9D 1AFF0-1AFF3 1AFF5-1AFFB 1AFFD-1AFFE 1B000 1B120-1B122 1B155
   1B164-1B167"

/-- Letters of Hebrew. -/
def hebrewLetter : CodeSet := .ofTable
  "5D0-5EA 5EF-5F2 FB1D FB1F-FB28 FB2A-FB36 FB38-FB3C FB3E FB40-FB41 FB43-FB44
   FB46-FB4F"

/-- Characters that count as letters of a word. -/
def letterlike : CodeSet := .ofTable
  "2C2-2C5 2D2-2D7 2DE-2DF 2E5-2EB 2ED 2EF-2FF 55A-55C 55E 58A 5F3 70F
   A708-A716 A720-A721 A789-A78A AB5B"

/-- Letters of scripts that put no spaces between words. -/
def unspaced : CodeSet := .ofTable
  "E01-E30 E32-E33 E40-E46 E81-E82 E84 E86-E8A E8C-EA3 EA5 EA7-EB0 EB2-EB3 EBD
   EC0-EC4 EC6 EDC-EDF 1000-102A 103F 1050-1055 105A-105D 1061 1065-1066
   106E-1070 1075-1081 108E 1780-17B3 17D7 17DC 1950-196D 1970-1974 1980-19AB
   19B0-19C9 1A20-1A54 1AA7 3041-3096 309D-309F A9E0-A9E4 A9E6-A9EF A9FA-A9FE
   AA60-AA76 AA7A AA7E-AAAF AAB1 AAB5-AAB6 AAB9-AABD AAC0 AAC2 AADB-AADD
   11700-1171A 11740-11746 1B001-1B11F 1B132 1B150-1B152"

/-- Punctuation between letters. -/
def midLetter : CodeSet := .ofTable "3A B7 387 55F 5F4 2027 FE13 FE55 FF1A"

/-- Punctuation between digits. -/
def midNumber : CodeSet := .ofTable
  "2C 3B 37E 589 60C-60D 66C 7F8 2044 FE50 FE54 FF0C FF1B"

/-- Punctuation between letters or digits. -/
def midEither : CodeSet := .ofTable "2E 2018-2019 2024 FE52 FF07 FF0E"

/-- Characters that count as digits and are none. -/
def numericMark : CodeSet := .ofTable
  "600-605 66B 6DD 890-891 8E2 19DA 110BD 110CD"

/-- Characters that connect letters and digits. -/
def connector : CodeSet := .ofTable
  "5F 202F 203F-2040 2054 FE33-FE34 FE4D-FE4F FF3F"

/-- Spaces that stay together. -/
def wordSpace : CodeSet := .ofTable "20 1680 2000-2006 2008-200A 205F 3000"

/-- Digits, in the sense of the divisions into words and sentences. -/
def numeric (codes : Categories) : CodeSet :=
  .union (codes .Nd) numericMark

/-- A sign between the digits of a number, which divides words and not
sentences. -/
def thousandsSeparator : CodeSet := .ofTable "66C"

/-- Characters that belong to the one before, in the same sense. -/
def attached (codes : Categories) : CodeSet :=
  .union (graphemeExtend codes) (codes .Mc)

/-- A class of the division into words. -/
def wordClass? (codes : Categories) : String → Option CodeSet
  | "cr" => some (.singleton '\r')
  | "lf" => some (.singleton '\n')
  | "newline" | "nl" => some (.ofTable "B-C 85 2028-2029")
  | "zwj" => some (.singleton '\u200D')
  | "extend" => some (.union (attached codes) emojiModifier)
  | "format" | "fo" =>
      some ((codes .Cf).diff (.unions [numericMark, graphemeExtend codes,
        .ofTable "70F 200B-200D"]))
  | "regionalindicator" | "ri" => some regionalIndicator
  | "katakana" | "ka" => some katakana
  | "hebrewletter" | "hl" => some hebrewLetter
  | "aletter" | "le" =>
      let others := CodeSet.unions [attached codes, katakana, hebrewLetter,
        unifiedIdeograph, ideograph]
      some ((CodeSet.union ((alphabetic codes).diff others) letterlike).diff
        unspaced)
  | "singlequote" | "sq" => some (.ofTable "27")
  | "doublequote" | "dq" => some (.ofTable "22")
  | "midletter" | "ml" => some midLetter
  | "midnum" | "mn" => some midNumber
  | "midnumlet" | "mb" => some midEither
  | "numeric" | "nu" => some (numeric codes)
  | "extendnumlet" | "ex" => some connector
  | "wsegspace" => some wordSpace
  | _ => none

-- ========================================================== sentences

/-- Full stops, which may also end an abbreviation. -/
def abbreviation : CodeSet := .ofTable "2E 2024 FE52 FF0E"

/-- Punctuation after which a sentence goes on. -/
def continuation : CodeSet := .ofTable
  "2C-2D 3A-3B 37E 55D 60C-60D 7F8 1802 1808 2013-2014 3001 FE10-FE11 FE13-FE14
   FE31-FE32 FE50-FE51 FE54-FE55 FE58 FE63 FF0C-FF0D FF1A-FF1B FF64"

/-- Letters of a script that knows capitals in headings only. -/
def caselessPair : CodeSet := .ofTable "10D0-10FA 10FD-10FF"

/-- The capitals of these headings. -/
def headingCapital : CodeSet := .ofTable "1C90-1CBA 1CBD-1CBF"

/-- Quotation marks that are neither opening nor closing punctuation. -/
def otherClose : CodeSet := .ofTable
  "22 27 275B-2760 2E00-2E01 2E06-2E08 2E0B 1F676-1F678"

/-- A class of the division into sentences. -/
def sentenceClass? (codes : Categories) : String → Option CodeSet
  | "cr" => some (.singleton '\r')
  | "lf" => some (.singleton '\n')
  | "sep" | "se" => some (.ofTable "85 2028-2029")
  | "extend" | "ex" => some (.union (attached codes) (.singleton '\u200D'))
  | "format" | "fo" =>
      some ((codes .Cf).diff (.unions [numericMark, graphemeExtend codes,
        .ofTable "200C-200D"]))
  | "sp" => some (whiteSpace.diff (.ofTable "A D 85 2028-2029"))
  | "lower" | "lo" =>
      some ((lowercase codes).diff
        (.union (graphemeExtend codes) caselessPair))
  | "upper" | "up" =>
      some ((CodeSet.union (codes .Lt) (uppercase codes)).diff
        headingCapital)
  | "oletter" | "le" =>
      let cases := CodeSet.unions [codes .Lt, uppercase codes,
        (lowercase codes).diff caselessPair]
      some ((CodeSet.union (alphabetic codes) (.ofTable "5F3")).diff
        (.union (attached codes) (cases.diff headingCapital)))
  | "numeric" | "nu" =>
      some (.union (numeric codes) thousandsSeparator)
  | "aterm" | "at" => some abbreviation
  | "scontinue" | "sc" => some continuation
  | "sterm" | "st" => some (sentenceTerminal.diff abbreviation)
  | "close" | "cl" =>
      let pairs := CodeSet.unions ([.Ps, .Pe, .Pi, .Pf].map codes)
      some (.union otherClose pairs)
  | _ => none

end WordGrammar.Text
