/-
Blanks: the characters that separate words on a line.

A blank is a character of Unicode's White_Space property. Line ends are
blanks too, so a scanner that must stay on its line asks for an inline
blank instead. The functions below cut a text at its blanks: `trim`
takes them off both ends, and `words` lists the runs between them.
-/
namespace WordGrammar.Text

/-- A character of the White_Space property. Zero-width spaces and the
byte order mark are not among them. -/
def isBlank (c : Char) : Bool :=
  let n := c.toNat
  (9 ≤ n && n ≤ 13) || n == 0x20 || n == 0x85 || n == 0xA0
    || n == 0x1680 || (0x2000 ≤ n && n ≤ 0x200A) || n == 0x2028
    || n == 0x2029 || n == 0x202F || n == 0x205F || n == 0x3000

/-- A line feed or a carriage return. -/
def isLineEnd (c : Char) : Bool := c == '\n' || c == '\r'

/-- A blank that does not end the line it stands on. -/
def isInlineBlank (c : Char) : Bool := isBlank c && !isLineEnd c

theorem isBlank_of_isLineEnd {c : Char} (h : isLineEnd c = true) :
    isBlank c = true := by
  rcases (by simpa [isLineEnd] using h : c = '\n' ∨ c = '\r') with rfl | rfl
    <;> decide

theorem not_isLineEnd_of_not_isBlank {c : Char} (h : isBlank c = false) :
    isLineEnd c = false := by
  cases hc : isLineEnd c with
  | false => rfl
  | true => rw [isBlank_of_isLineEnd hc] at h; cases h

/-- The text without the blanks at its end. -/
def trimEnd (cs : List Char) : List Char :=
  (cs.reverse.dropWhile isBlank).reverse

/-- The text without the blanks at either end. -/
def trim (cs : List Char) : List Char :=
  trimEnd (cs.dropWhile isBlank)

/-- The maximal runs of characters that are no blanks, in order. -/
def words (cs : List Char) : List (List Char) :=
  match _hrun : cs.dropWhile isBlank with
  | [] => []
  | c :: rest =>
      (c :: rest.takeWhile (!isBlank ·)) :: words (rest.dropWhile (!isBlank ·))
termination_by cs.length
decreasing_by
  have hdrop : (cs.dropWhile isBlank).length ≤ cs.length :=
    (List.dropWhile_sublist _).length_le
  have hrest : (rest.dropWhile (!isBlank ·)).length ≤ rest.length :=
    (List.dropWhile_sublist _).length_le
  rw [_hrun, List.length_cons] at hdrop
  omega

end WordGrammar.Text
