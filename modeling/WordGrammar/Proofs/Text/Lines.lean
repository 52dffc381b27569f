/-
The lines of a text.

A line ends with a line feed, with a carriage return and a line feed, or
with a carriage return alone; the last line ends with the text. `lines`
cuts a text there, character by character. `Lined` builds the same lines
up whole, a line and its ending at a time, which is the shape that facts
about scanning and parsing are proved along: `lined_lines` and
`Lined.lines_eq` are the bridge.

A run of characters of one kind that stands in a longer text ends where the
next one is of another kind; scanning goes from run to run.
-/
import Mathlib.Data.List.TakeWhile
import WordGrammar.Text.Blank

namespace WordGrammar.Text

-- ================================================================= runs

section

variable {p : Char → Bool} {cs after : List Char}

/-- A run of characters ends within a text if what follows does not go on
with one of them. -/
theorem takeWhile_append_of_stop (h : ∀ c ∈ after.head?, p c = false) :
    (cs ++ after).takeWhile p = cs.takeWhile p := by
  induction cs with
  | nil =>
      cases after with
      | nil => rfl
      | cons c after => simp [h c rfl]
  | cons c cs ih => simp [List.takeWhile_cons, ih]

/-- What comes after the run is then what came after it before. -/
theorem dropWhile_append_of_stop (h : ∀ c ∈ after.head?, p c = false) :
    (cs ++ after).dropWhile p = cs.dropWhile p ++ after := by
  induction cs with
  | nil =>
      cases after with
      | nil => rfl
      | cons c after => simp [h c rfl]
  | cons c cs ih => cases hc : p c <;> simp [hc, ih]

theorem drop_length_takeWhile :
    cs.drop (cs.takeWhile p).length = cs.dropWhile p := by
  have h : (cs.takeWhile p ++ cs.dropWhile p).drop (cs.takeWhile p).length
      = cs.dropWhile p := List.drop_left
  rwa [List.takeWhile_append_dropWhile] at h

/-- A run of other characters ends where a character first occurs. -/
theorem takeWhile_ne_append_cons {name rest : List Char} {c : Char}
    (h : c ∉ name) : (name ++ c :: rest).takeWhile (· ≠ c) = name := by
  have hstop : ∀ d ∈ (c :: rest).head?, decide (d ≠ c) = false := by
    rintro d ⟨⟩
    simp
  rw [takeWhile_append_of_stop hstop]
  exact List.takeWhile_eq_self_iff.2 fun d hd => by
    simpa using ne_of_mem_of_not_mem hd h

end

-- ============================================================ one line

/-- A text that stays on one line. -/
def Inline (cs : List Char) : Prop := ∀ c ∈ cs, isLineEnd c = false

instance (cs : List Char) : Decidable (Inline cs) :=
  List.decidableBAll (isLineEnd · = false) cs

theorem inline_nil : Inline [] := fun _ h => nomatch h

theorem inline_cons {c : Char} {cs : List Char} :
    Inline (c :: cs) ↔ isLineEnd c = false ∧ Inline cs :=
  List.forall_mem_cons

theorem inline_append {a b : List Char} :
    Inline (a ++ b) ↔ Inline a ∧ Inline b :=
  List.forall_mem_append

/-- A character within a line does not end it. -/
theorem Inline.mid {a b : List Char} {c : Char} (h : Inline (a ++ c :: b)) :
    isLineEnd c = false :=
  (inline_cons.1 (inline_append.1 h).2).1

theorem Inline.after {a b : List Char} {c : Char}
    (h : Inline (a ++ c :: b)) : Inline b :=
  (inline_cons.1 (inline_append.1 h).2).2

theorem isLineEnd_eq_true {c : Char} :
    isLineEnd c = true ↔ c = '\n' ∨ c = '\r' := by
  simp [isLineEnd]

/-- Staying on a line is having neither of them. -/
theorem inline_iff {cs : List Char} : Inline cs ↔ '\n' ∉ cs ∧ '\r' ∉ cs := by
  constructor
  · intro h
    exact ⟨fun hc => absurd (h _ hc) (by decide),
      fun hc => absurd (h _ hc) (by decide)⟩
  · rintro ⟨hfeed, hreturn⟩ c hc
    rw [← Bool.not_eq_true, isLineEnd_eq_true]
    rintro (rfl | rfl)
    · exact hfeed hc
    · exact hreturn hc

/-- `LineEnding ending rest`: these characters end a line if the text
goes on with `rest`. A carriage return before a line feed does not end
one without it. -/
inductive LineEnding : List Char → List Char → Prop
  | lineFeed {rest : List Char} : LineEnding ['\n'] rest
  | both {rest : List Char} : LineEnding ['\r', '\n'] rest
  | carriageReturn {rest : List Char} :
      rest.head? ≠ some '\n' → LineEnding ['\r'] rest

/-- An ending stays one if the text is longer, unless a line feed now
follows a final carriage return. -/
theorem LineEnding.append {ending rest : List Char}
    (h : LineEnding ending rest) (after : List Char) :
    LineEnding ending (rest ++ after)
      ∨ ending = ['\r'] ∧ rest = [] ∧ after.head? = some '\n' := by
  cases h with
  | lineFeed => exact .inl .lineFeed
  | both => exact .inl .both
  | carriageReturn hrest =>
      cases rest with
      | cons c rest => exact .inl (.carriageReturn hrest)
      | nil =>
          by_cases hafter : after.head? = some '\n'
          · exact .inr ⟨rfl, rfl, hafter⟩
          · exact .inl (.carriageReturn hafter)

-- =========================================================== all lines

/-- The lines of a text without their endings, at least one. -/
def lines : List Char → List (List Char)
  | [] => [[]]
  | '\r' :: '\n' :: rest => [] :: lines rest
  | c :: rest =>
      if isLineEnd c then [] :: lines rest
      else (lines rest).modifyHead (c :: ·)

/-- `Lined cs ls`: the text `cs` is made up of the lines `ls`, each but
the last with an ending. -/
inductive Lined : List Char → List (List Char) → Prop
  | last {line : List Char} : Inline line → Lined line [line]
  | line {line ending rest : List Char} {more : List (List Char)} :
      Inline line → LineEnding ending rest → Lined rest more →
      Lined (line ++ (ending ++ rest)) (line :: more)

/-- A line ending at the front, however many characters it has, is an empty
line. -/
theorem lines_ending {ending rest : List Char}
    (h : LineEnding ending rest) :
    lines (ending ++ rest) = [] :: lines rest := by
  cases h with
  | lineFeed => rfl
  | both => rfl
  | carriageReturn hrest =>
      rw [List.singleton_append, lines]
      · rfl
      · rintro rest' - rfl
        exact hrest rfl

/-- What comes before the first line ending goes to the front of the first
line. -/
theorem lines_append_of_inline {line cs : List Char} (h : Inline line) :
    lines (line ++ cs) = (lines cs).modifyHead (line ++ ·) := by
  induction line with
  | nil => rw [List.nil_append]; cases lines cs <;> rfl
  | cons c line ih =>
      obtain ⟨hc, hline⟩ := inline_cons.1 h
      rw [List.cons_append, lines, if_neg (by simp [hc]), ih hline]
      · cases lines cs <;> rfl
      · rintro rest rfl
        cases hc

/-- A text without line endings is its only line. -/
theorem lines_of_inline {line : List Char} (h : Inline line) :
    lines line = [line] := by
  have hlines : lines (line ++ []) = (lines []).modifyHead (line ++ ·) :=
    lines_append_of_inline h
  simpa [lines] using hlines

/-- The lines that a text is made up of are its lines. -/
theorem Lined.lines_eq {cs : List Char} {ls : List (List Char)}
    (h : Lined cs ls) : lines cs = ls := by
  induction h with
  | last hline => exact lines_of_inline hline
  | line hline hending _ ih =>
      rw [lines_append_of_inline hline, lines_ending hending, ih,
        List.modifyHead_cons, List.append_nil]

/-- A character in front belongs to the first line. -/
theorem Lined.cons {c : Char} {cs : List Char} {ls : List (List Char)}
    (hc : isLineEnd c = false) (h : Lined cs ls) :
    Lined (c :: cs) (ls.modifyHead (c :: ·)) := by
  cases h with
  | last hline => exact .last (inline_cons.2 ⟨hc, hline⟩)
  | line hline hending hrest =>
      exact .line (inline_cons.2 ⟨hc, hline⟩) hending hrest

/-- Every text is made up of its lines. -/
theorem lined_lines (cs : List Char) : Lined cs (lines cs) := by
  induction cs using lines.induct with
  | case1 => exact .last inline_nil
  -- a carriage return and the line feed after it
  | case2 rest ih => exact .line inline_nil .both ih
  -- one character that ends a line; a carriage return does so only because
  -- no line feed follows, or the case before would have applied
  | case3 c rest hpair hend ih =>
      rw [lines, if_pos hend]
      · rcases isLineEnd_eq_true.1 hend with rfl | rfl
        · exact .line inline_nil .lineFeed ih
        · refine .line inline_nil (.carriageReturn ?_) ih
          cases rest with
          | nil => simp
          | cons d rest =>
              rintro ⟨⟩
              exact hpair rest rfl rfl
      · exact hpair
  | case4 c rest hpair hend ih =>
      rw [lines, if_neg hend]
      · exact ih.cons (by simpa using hend)
      · exact hpair

example : lines "a\r\nb\rc\n".toList
    = ["a".toList, "b".toList, "c".toList, []] := by decide

/-- Nothing of a line ending is left in the lines. -/
theorem Lined.inline {cs : List Char} {ls : List (List Char)}
    (h : Lined cs ls) : ∀ line ∈ ls, Inline line := by
  induction h with
  | last hline => exact List.forall_mem_singleton.2 hline
  | line hline _ _ ih => exact List.forall_mem_cons.2 ⟨hline, ih⟩

end WordGrammar.Text
