/-
Graphemes: what a reader takes for one character.

A text is divided at every point at which its next character does not go
on with the grapheme before. Whether it does follows from the two classes
next to the point in most cases. Three rules look further back: flags are
pairs of letters, pictures are joined to pictures, and in some scripts a
consonant is joined to a consonant. All of this goes by the newest edition
of the character set.

The graphemes of a text are never empty and make up the whole text.
-/
import WordGrammar.Text.Segmentation

namespace WordGrammar.Text

-- ============================================================= classes

/-- The classes of graphemes with their characters. -/
def graphemeClasses : List (GraphemeClass × CodeSet) :=
  ([.carriageReturn, .lineFeed, .control, .extend, .joiner, .spacingMark,
    .prepend, .regionalIndicator, .leadingJamo, .vowelJamo, .trailingJamo,
    .openSyllable, .closedSyllable] : List GraphemeClass).map fun c =>
      (c, c.codes Category.codes)

/-- The class of a character, if it is in one. -/
def graphemeClassOf? (c : Char) : Option GraphemeClass :=
  if 32 ≤ c.toNat && c.toNat < 127 then none
  else (graphemeClasses.find? fun entry => entry.2.contains c).map (·.1)

/-- Consonants that may be joined to one another. -/
def conjunctConsonant : CodeSet := .ofTable
  "915-939 958-95F 978-97F 995-9A8 9AA-9B0 9B2 9B6-9B9 9DC-9DD 9DF 9F0-9F1
   A95-AA8 AAA-AB0 AB2-AB3 AB5-AB9 AF9 B15-B28 B2A-B30 B32-B33 B35-B39
   B5C-B5D B5F B71 C15-C28 C2A-C39 C58-C5A D15-D3A 1000-102A 103F 1050-1055
   105A-105D 1061 1065-1066 106E-1070 1075-1081 108E 1780-17B3 1A20-1A54
   1B0B-1B0C 1B13-1B33 1B45-1B4C 1B83-1BA0 1BAE-1BAF 1BBB-1BBD A989-A98B
   A98F-A9B2 A9E0-A9E4 A9E7-A9EF A9FA-A9FE AA60-AA6F AA71-AA73 AA7A
   AA7E-AA7F AAE0-AAEA ABC0-ABDA 10A00 10A10-10A13 10A15-10A17 10A19-10A35
   11103-11126 11144 11147 11380-11389 1138B 1138E 11390-113B5 11900-11906
   11909 1190C-11913 11915-11916 11918-1192F 11A00 11A0B-11A32 11A50
   11A5C-11A83 11F04-11F10 11F12-11F33"

/-- Signs that join the consonant before them to the one after. -/
def conjunctLinker : CodeSet := .ofTable
  "94D 9CD ACD B4D C4D D4D 1039 17D2 1A60 1B44 1BAB A9C0 AAF6 10A3F 11133
   113D0 1193E 11A47 11A99 11F42"

/-- Pictures that may be joined to one another. -/
def pictograph : CodeSet := .ofTable
  "A9 AE 203C 2049 2122 2139 2194-2199 21A9-21AA 231A-231B 2328 23CF
   23E9-23F3 23F8-23FA 24C2 25AA-25AB 25B6 25C0 25FB-25FE 2600-2604 260E
   2611 2614-2615 2618 261D 2620 2622-2623 2626 262A 262E-262F 2638-263A
   2640 2642 2648-2653 265F-2660 2663 2665-2666 2668 267B 267E-267F
   2692-2697 2699 269B-269C 26A0-26A1 26A7 26AA-26AB 26B0-26B1 26BD-26BE
   26C4-26C5 26C8 26CE-26CF 26D1 26D3-26D4 26E9-26EA 26F0-26F5 26F7-26FA
   26FD 2702 2705 2708-270D 270F 2712 2714 2716 271D 2721 2728 2733-2734
   2744 2747 274C 274E 2753-2755 2757 2763-2764 2795-2797 27A1 27B0 27BF
   2934-2935 2B05-2B07 2B1B-2B1C 2B50 2B55 3030 303D 3297 3299 1F004
   1F02C-1F02F 1F094-1F09F 1F0AF-1F0B0 1F0C0 1F0CF-1F0D0 1F0F6-1F0FF
   1F170-1F171 1F17E-1F17F 1F18E 1F191-1F19A 1F1AE-1F1E5 1F201-1F20F 1F21A
   1F22F 1F232-1F23A 1F23C-1F23F 1F249-1F25F 1F266-1F321 1F324-1F393
   1F396-1F397 1F399-1F39B 1F39E-1F3F0 1F3F3-1F3F5 1F3F7-1F3FA 1F400-1F4FD
   1F4FF-1F53D 1F549-1F54E 1F550-1F567 1F56F-1F570 1F573-1F57A 1F587
   1F58A-1F58D 1F590 1F595-1F596 1F5A4-1F5A5 1F5A8 1F5B1-1F5B2 1F5BC
   1F5C2-1F5C4 1F5D1-1F5D3 1F5DC-1F5DE 1F5E1 1F5E3 1F5E8 1F5EF 1F5F3
   1F5FA-1F64F 1F680-1F6C5 1F6CB-1F6D2 1F6D5-1F6E5 1F6E9 1F6EB-1F6F0
   1F6F3-1F6FF 1F7DA-1F7FF 1F80C-1F80F 1F848-1F84F 1F85A-1F85F 1F888-1F88F
   1F8AE-1F8AF 1F8BC-1F8BF 1F8C2-1F8CF 1F8D9-1F8FF 1F90C-1F93A 1F93C-1F945
   1F947-1F9FF 1FA58-1FA5F 1FA6E-1FAFF 1FC00-1FFFD"

/-- Whether a character may stand between a consonant and the one that is
joined to it. -/
def isConjunctMark (c : Char) : Bool :=
  c != '\u200C' &&
    match graphemeClassOf? c with
    | some .extend | some .joiner => true
    | _ => false

-- =============================================================== rules

/-- Whether a text, given from its end, ends with a consonant to which
another one is joined. -/
def endsLinked (before : List Char) : Bool :=
  let marks := before.takeWhile isConjunctMark
  marks.any conjunctLinker.contains
    && (before.drop marks.length).head?.any conjunctConsonant.contains

/-- Whether a text, given from its end, ends with a picture to which
another one is joined. -/
def endsJoined : List Char → Bool
  | [] => false
  | joiner :: before =>
      graphemeClassOf? joiner == some .joiner
        && (before.dropWhile fun c =>
            graphemeClassOf? c == some .extend).head?.any
          pictograph.contains

/-- Whether a text, given from its end, ends with half a flag. -/
def endsUnpaired (before : List Char) : Bool :=
  (before.takeWhile regionalIndicator.contains).length % 2 == 1

/-- Whether a character goes on with a grapheme, given from its end. -/
def joinsGrapheme (before : List Char) (c : Char) : Bool :=
  match before.head?.bind graphemeClassOf?, graphemeClassOf? c with
  | some .carriageReturn, some .lineFeed => true
  | some .carriageReturn, _ | some .lineFeed, _ | some .control, _ => false
  | _, some .carriageReturn | _, some .lineFeed | _, some .control => false
  | some .leadingJamo, some .leadingJamo
  | some .leadingJamo, some .vowelJamo
  | some .leadingJamo, some .openSyllable
  | some .leadingJamo, some .closedSyllable
  | some .openSyllable, some .vowelJamo
  | some .openSyllable, some .trailingJamo
  | some .vowelJamo, some .vowelJamo
  | some .vowelJamo, some .trailingJamo
  | some .closedSyllable, some .trailingJamo
  | some .trailingJamo, some .trailingJamo => true
  | _, some .extend | _, some .joiner | _, some .spacingMark => true
  | some .prepend, _ => true
  | some .regionalIndicator, some .regionalIndicator => endsUnpaired before
  | _, _ =>
      (conjunctConsonant.contains c && endsLinked before)
        || (pictograph.contains c && endsJoined before)

-- ============================================================ division

/-- Adds a character to graphemes, given from the end of the text, each
from its own end. -/
def addToGraphemes (found : List (List Char)) (c : Char) :
    List (List Char) :=
  match found with
  | [] => [[c]]
  | last :: found =>
      if joinsGrapheme last c then (c :: last) :: found
      else [c] :: last :: found

/-- The graphemes of a text, in order. -/
def graphemes (cs : List Char) : List (List Char) :=
  ((cs.foldl addToGraphemes []).map List.reverse).reverse

theorem flatten_addToGraphemes (found : List (List Char)) (c : Char) :
    (addToGraphemes found c).flatten = c :: found.flatten := by
  unfold addToGraphemes
  split
  · rfl
  · split <;> simp

theorem flatten_foldl_addToGraphemes (cs : List Char)
    (found : List (List Char)) :
    (cs.foldl addToGraphemes found).flatten
      = cs.reverse ++ found.flatten := by
  induction cs generalizing found with
  | nil => rfl
  | cons c cs ih => simp [ih, flatten_addToGraphemes]

/-- The graphemes make up the whole text. -/
theorem flatten_graphemes (cs : List Char) : (graphemes cs).flatten = cs := by
  have h := congrArg List.reverse (flatten_foldl_addToGraphemes cs [])
  simpa [graphemes, List.reverse_flatten] using h

theorem ne_nil_of_mem_addToGraphemes {found : List (List Char)}
    (h : ∀ g ∈ found, g ≠ []) (c : Char) :
    ∀ g ∈ addToGraphemes found c, g ≠ [] := by
  unfold addToGraphemes
  split
  · simp
  · split <;> simp_all

/-- No grapheme is empty. -/
theorem ne_nil_of_mem_graphemes {cs g : List Char}
    (h : g ∈ graphemes cs) : g ≠ [] := by
  have all : ∀ (cs : List Char) (found : List (List Char)),
      (∀ g ∈ found, g ≠ []) →
        ∀ g ∈ cs.foldl addToGraphemes found, g ≠ [] := by
    intro cs
    induction cs with
    | nil => exact fun _ h => h
    | cons c cs ih =>
        exact fun _ h => ih _ (ne_nil_of_mem_addToGraphemes h c)
  simp only [graphemes, List.mem_reverse, List.mem_map] at h
  obtain ⟨g', hg, rfl⟩ := h
  simpa using all cs [] (by simp) g' hg

end WordGrammar.Text
