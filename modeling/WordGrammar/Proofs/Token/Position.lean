/-
Places in a text.

The line of a place is counted in the line endings that end up to it, and
its column in the characters from the last of them on (`Text.lineEnds`,
`Cursor.between`). The scanner never looks back at these: it adds them up
as it goes, character by character, and comes out right because a line
ending is always taken whole (`Cursor.between_snoc`,
`Cursor.pastLexeme_between`).

Where no line ending is cut in half (`Text.Parted`), the lines before the
place can be counted as well, and the characters on the last of them: this
gives the same line and column (`Cursor.between_eq_of_parted`).
-/
import WordGrammar.Proofs.Token.Line

namespace WordGrammar

open Text

namespace Text

-- ======================================================= a text in two

/-- A text can be parted between these two without cutting a line ending
in half. -/
def Parted (before after : List Char) : Prop :=
  before.getLast? = some '\r' → after.head? ≠ some '\n'

section

variable {a b c : List Char}

/-- Before the first character there is nothing to cut in half. -/
theorem parted_nil_left : Parted [] b := fun h => nomatch h

theorem parted_nil_right : Parted a [] := fun _ => nofun

/-- Only the last characters before a place matter to it. -/
theorem Parted.of_append (h : Parted (a ++ b) c) : Parted b c := by
  intro hlast
  exact h (by rw [List.getLast?_append, hlast, Option.some_or])

/-- Characters that stay on a line can go to either side. -/
theorem Parted.append_inline (h : Parted a (b ++ c)) (hb : Inline b) :
    Parted (a ++ b) c := by
  intro hlast
  rw [List.getLast?_append] at hlast
  cases hend : b.getLast? with
  | none =>
      obtain rfl := List.getLast?_eq_none_iff.1 hend
      exact h hlast
  | some d =>
      rw [hend, Option.some_or] at hlast
      obtain rfl := Option.some.inj hlast
      exact absurd (hb '\r' (List.mem_of_getLast? hend)) (by decide)

/-- A line ending is over where the text can be parted after it, so that it
does not depend on what follows there. -/
theorem LineEnding.append_of_parted {ending rest after : List Char}
    (h : LineEnding ending rest) (hafter : Parted (ending ++ rest) after) :
    LineEnding ending (rest ++ after) := by
  rcases h.append after with h | ⟨rfl, rfl, hfeed⟩
  · exact h
  · exact absurd hfeed (hafter rfl)

/-- A whole line ending can be passed. -/
theorem LineEnding.parted {ending rest : List Char}
    (h : LineEnding ending rest) : Parted (a ++ ending) rest := by
  intro hlast
  rw [List.getLast?_append] at hlast
  -- Only a lone carriage return could be taken for half of an ending.
  cases h with
  | lineFeed => cases hlast
  | both => cases hlast
  | carriageReturn hrest => exact hrest

end

-- ====================================================== the last line

theorem Lined.ne_nil {cs : List Char} {ls : List (List Char)}
    (h : Lined cs ls) : ls ≠ [] := by
  cases h <;> exact List.cons_ne_nil _ _

theorem lines_ne_nil (cs : List Char) : lines cs ≠ [] :=
  (lined_lines cs).ne_nil

/-- The lines of a text can be counted from one on. -/
theorem length_lines_pos (cs : List Char) : 0 < (lines cs).length :=
  List.length_pos_iff.2 (lines_ne_nil cs)

/-- The characters on the last line of a text. -/
def lastLine (cs : List Char) : List Char := (lines cs).getLastD []

/-- The last of some lines stays the last if one comes before them. -/
theorem getLastD_cons_of_ne_nil {line : List Char}
    {more : List (List Char)} (h : more ≠ []) :
    (line :: more).getLastD [] = more.getLastD [] := by
  cases more with
  | nil => exact absurd rfl h
  | cons next more => rfl

/-- If a text is made up of lines, and what follows parts from it, the
first line after it goes on with its last one. -/
theorem Lined.lines_append {cs after : List Char} {ls : List (List Char)}
    (h : Lined cs ls) (hafter : Parted cs after) :
    lines (cs ++ after)
      = ls.dropLast ++ (lines after).modifyHead (ls.getLastD [] ++ ·) := by
  induction h with
  | last hline => exact lines_append_of_inline hline
  | @line line ending rest more hline hending hrest ih =>
      -- Parting is inherited by the shorter texts, since only the last
      -- character before the place counts.
      have hending' := hending.append_of_parted hafter.of_append
      have hmore := hrest.ne_nil
      rw [List.append_assoc, List.append_assoc,
        lines_append_of_inline hline, lines_ending hending',
        ih hafter.of_append.of_append, List.modifyHead_cons, List.append_nil,
        List.dropLast_cons_of_ne_nil hmore, getLastD_cons_of_ne_nil hmore,
        List.cons_append]

section

variable {a b : List Char}

/-- Where a text is parted, the line there is of both its parts. -/
theorem lines_append (h : Parted a b) :
    lines (a ++ b)
      = (lines a).dropLast ++ (lines b).modifyHead (lastLine a ++ ·) :=
  (lined_lines a).lines_append h

/-- Characters that stay on a line make the last one longer. -/
theorem lines_append_inline (h : Inline b) :
    lines (a ++ b) = (lines a).dropLast ++ [lastLine a ++ b] := by
  rw [lines_append, lines_of_inline h, List.modifyHead_cons]
  intro _ hfeed
  obtain ⟨rest, rfl⟩ := List.head?_eq_some_iff.1 hfeed
  exact absurd (inline_cons.1 h).1 (by decide)

/-- The last line is the one that grows by them. -/
theorem lastLine_append_inline (h : Inline b) :
    lastLine (a ++ b) = lastLine a ++ b := by
  rw [lastLine, lines_append_inline h, List.getLastD_concat]

end

-- ======================================================== ends of lines

/-- Whether a line ending ends right after the first `n` characters: the
last of them is a line feed, or a carriage return that no line feed
follows. -/
def endsLineAt (cs : List Char) : Nat → Bool
  | 0 => false
  | n + 1 => cs[n]? == some '\n'
      || (cs[n]? == some '\r' && cs[n + 1]? != some '\n')

/-- Where line endings end among the first `n` characters, in order. -/
def lineEnds (cs : List Char) (n : Nat) : List Nat :=
  (List.range (n + 1)).filter (endsLineAt cs)

example : lineEnds "a\r\nb\rc\n".toList 7 = [3, 5, 7] := by decide

/-- One character further on there is at most one line ending more. -/
theorem lineEnds_succ (cs : List Char) (n : Nat) :
    lineEnds cs (n + 1) = lineEnds cs n
      ++ if endsLineAt cs (n + 1) then [n + 1] else [] := by
  rw [lineEnds, List.range_succ, List.filter_append, List.filter_cons,
    List.filter_nil, lineEnds]

/-- The last line ending ends no later than where one looks from. -/
theorem getLastD_lineEnds_le (cs : List Char) (n : Nat) :
    (lineEnds cs n).getLastD 0 ≤ n := by
  rw [List.getLastD_eq_getLast?]
  cases hlast : (lineEnds cs n).getLast? with
  | none => exact Nat.zero_le n
  | some last =>
      have hmem := (List.mem_filter.1 (List.mem_of_getLast? hlast)).1
      exact Nat.le_of_lt_succ (List.mem_range.1 hmem)

/-- No line ending ends before the first character. -/
theorem length_lineEnds_le (cs : List Char) (n : Nat) :
    (lineEnds cs n).length ≤ n := by
  induction n with
  | zero => exact Nat.le_refl 0
  | succ n ih =>
      rw [lineEnds_succ, List.length_append]
      split
      · exact Nat.succ_le_succ ih
      · exact Nat.le_succ_of_le ih

/-- Whether a character ends a line is up to it and the next one. -/
theorem endsLineAt_append {before after : List Char} {c : Char} :
    endsLineAt (before ++ c :: after) (before.length + 1) = true
      ↔ c = '\n' ∨ c = '\r' ∧ after.head? ≠ some '\n' := by
  have hnext : (before ++ c :: after)[before.length + 1]? = after.head? := by
    rw [List.getElem?_append_right (Nat.le_succ _), List.head?_eq_getElem?]
    simp
  simp [endsLineAt, hnext]

end Text

-- ============================================================== places

namespace Cursor

variable {before after text rest more : List Char} {c : Char}

/-- The place between the two parts of a text. -/
def between (before after : List Char) : Cursor :=
  let ends := lineEnds (before ++ after) before.length
  ⟨utf8Length before, ends.length + 1,
    before.length - ends.getLastD 0 + 1⟩

theorem between_nil : between [] after = start := rfl

@[simp] theorem between_offset :
    (between before after).offset = utf8Length before := rfl

/-- Neither counter is ahead of the characters by more than one. -/
theorem between_le :
    (between before after).line ≤ before.length + 1
      ∧ (between before after).column ≤ before.length + 1 := by
  refine ⟨Nat.succ_le_succ ?_, Nat.succ_le_succ (Nat.sub_le _ _)⟩
  exact length_lineEnds_le _ _

/-- One character further on: on the next line if it is the end of a line
ending, else in the next column. -/
theorem between_snoc :
    between (before ++ [c]) after
      = if c = '\n' ∨ c = '\r' ∧ after.head? ≠ some '\n' then
          (between before (c :: after)).pastLineEnd [c]
        else (between before (c :: after)).past [c] := by
  have hle := getLastD_lineEnds_le (before ++ c :: after) before.length
  simp only [between, List.append_assoc, List.singleton_append,
    List.length_append, List.length_singleton, lineEnds_succ,
    endsLineAt_append]
  split
  · simp [pastLineEnd]
  · rw [List.append_nil, Nat.sub_add_comm hle, past, utf8Length_append]
    rfl

/-- Characters that stay on the line are columns of it. -/
theorem between_inline (h : Inline text) :
    between (before ++ text) after
      = (between before (text ++ after)).past text := by
  induction text generalizing before with
  | nil => simp
  | cons c text ih =>
      obtain ⟨hc, htext⟩ := inline_cons.1 h
      -- A character of the line is neither of the two that end it.
      have hno : ¬ (c = '\n'
          ∨ c = '\r' ∧ (text ++ after).head? ≠ some '\n') := by
        rintro (rfl | ⟨rfl, -⟩) <;> cases hc
      rw [List.append_cons, ih htext, between_snoc, if_neg hno,
        ← past_append]
      rfl

/-- A line ending is passed as a whole, also one of two characters. -/
theorem between_ending {ending : List Char} (h : LineEnding ending after) :
    between (before ++ ending) after
      = (between before (ending ++ after)).pastLineEnd ending := by
  cases h with
  | lineFeed => rw [between_snoc, if_pos (.inl rfl)]; rfl
  | carriageReturn hafter =>
      rw [between_snoc, if_pos (.inr ⟨rfl, hafter⟩)]
      rfl
  | both =>
      -- at the carriage return the line goes on, for one more column
      rw [List.append_cons, between_snoc, if_pos (.inl rfl), between_snoc,
        if_neg (by simp)]
      simp [past, pastLineEnd, Nat.add_assoc]

/-- The place after a lexeme is where the scanner goes on. -/
theorem pastLexeme_between {mode mode' : LineMode} {kind : TokenKind}
    (hread : Lexeme.read mode c (more ++ rest) = ⟨kind, more, mode'⟩) :
    (between before (c :: (more ++ rest))).pastLexeme c ⟨kind, more, mode'⟩
      = between (before ++ c :: more) rest := by
  -- A lexeme is either on its line or is the ending of it.
  cases hc : isLineEnd c with
  | false =>
      have hmore := Lexeme.inline_read mode hc (more ++ rest)
      rw [hread] at hmore
      rw [pastLexeme_of_inline hc,
        between_inline (inline_cons.2 ⟨hc, hmore⟩), List.cons_append]
  | true =>
      have hending := Lexeme.lineEnding_of_read hc hread
      rw [pastLexeme, if_pos hc, between_ending hending, List.cons_append]

/-- After whole lines, the first of which begins at a place in column 1,
each line ending has added a line, and the column is counted on the last
line. -/
theorem between_append_of_lined {cs : List Char} {ls : List (List Char)}
    (h : Lined cs ls) (hrest : Parted cs rest) :
    ∀ {before}, (between before (cs ++ rest)).column = 1 →
      between (before ++ cs) rest
        = ⟨utf8Length (before ++ cs),
          (between before (cs ++ rest)).line + (ls.length - 1),
          (ls.getLastD []).length + 1⟩ := by
  induction h with
  | last hline =>
      intro before hcolumn
      rw [between_inline hline, past, hcolumn, Nat.add_comm 1]
      simp
  | @line line ending cs more hline hending hlined ih =>
      intro before hcolumn
      have hending' := hending.append_of_parted hrest.of_append
      have hnext : between (before ++ (line ++ ending)) (cs ++ rest)
          = ((between before (line ++ (ending ++ (cs ++ rest)))).past
              line).pastLineEnd ending := by
        rw [← List.append_assoc, between_ending hending',
          between_inline hline]
      -- the next line begins in column 1 again
      have hmore := ih hrest.of_append.of_append
        (congrArg Cursor.column hnext)
      have hpos := List.length_pos_iff.2 hlined.ne_nil
      rw [hnext] at hmore
      simp only [List.append_assoc] at hmore ⊢
      rw [hmore, getLastD_cons_of_ne_nil hlined.ne_nil]
      simp only [past, pastLineEnd, List.length_cons, mk.injEq, true_and,
        and_true]
      omega

/-- Where no line ending is cut in half, the line is the last one that the
text before the place reaches into, and the column is counted on it. -/
theorem between_eq_of_parted (h : Parted before rest) :
    between before rest
      = ⟨utf8Length before, (lines before).length,
        (lastLine before).length + 1⟩ := by
  have hlined := lined_lines before
  have hpos := length_lines_pos before
  have hall := @between_append_of_lined rest _ _ hlined h [] rfl
  rw [List.nil_append, between_nil] at hall
  rw [hall, lastLine, mk.injEq]
  exact ⟨rfl, Nat.add_sub_of_le hpos, rfl⟩

end Cursor

end WordGrammar
