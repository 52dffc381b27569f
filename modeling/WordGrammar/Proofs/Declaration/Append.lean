/-
Text that is added to a grammar.

A grammar with more text after its last line declares what the two
declare, one after the other, if the text starts on a line of its own
(`declaresAll_append`). This holds whatever ends the old text: a line feed
after a final carriage return makes one line ending of the two, which
drops an empty line and nothing else. Blanks at the end of a text, line
ends among them, declare nothing (`declaresAll_trimEnd`).
-/
import Mathlib.Data.List.Induction
import WordGrammar.Proofs.Declaration.Parse

namespace WordGrammar

open Text

-- ========================================================= several lines

/-- What some lines declare is what the first one does and what the others
do. -/
theorem declaresAll_cons {line : List Char} {ls : List (List Char)}
    {said : List Statement} :
    DeclaresAll (line :: ls) said ↔ ∃ here more,
      Declares line here ∧ DeclaresAll ls more
        ∧ said = here.toList ++ more := by
  constructor
  · rintro (_ | ⟨hline, hls⟩)
    exact ⟨_, _, hline, hls, rfl⟩
  · rintro ⟨here, more, hline, hls, rfl⟩
    exact .cons hline hls

/-- A single line declares one thing at most. -/
theorem declaresAll_singleton {line : List Char} {said : List Statement} :
    DeclaresAll [line] said
      ↔ ∃ here, Declares line here ∧ said = here.toList := by
  constructor
  · rintro (_ | ⟨hline, ⟨⟩⟩)
    exact ⟨_, hline, List.append_nil _⟩
  · rintro ⟨here, hline, rfl⟩
    exact List.append_nil here.toList ▸ .cons hline .nil

/-- A line without characters declares nothing. -/
theorem declares_nil {said : Option Statement} :
    Declares [] said ↔ said = none := by
  constructor
  · intro h
    generalize hline : ([] : List Char) = line at h
    cases h with
    | remark => rfl
    | rule => simp at hline
    | soundChange => simp at hline
  · rintro rfl
    exact .remark (.blank fun _ h => nomatch h)

/-- An empty text declares nothing. -/
theorem declaresAll_lines_nil {said : List Statement} :
    DeclaresAll (lines []) said ↔ said = [] := by
  rw [lines, declaresAll_singleton]
  constructor
  · rintro ⟨here, hhere, rfl⟩
    rw [declares_nil.1 hhere]
    rfl
  · rintro rfl
    exact ⟨none, declares_nil.2 rfl, rfl⟩

/-- What a text declares that goes on after a line ending. -/
theorem declaresAll_append {cs ending rest : List Char}
    (hending : LineEnding ending rest) {said : List Statement} :
    DeclaresAll (lines (cs ++ (ending ++ rest))) said ↔ ∃ before after,
      DeclaresAll (lines cs) before ∧ DeclaresAll (lines rest) after
        ∧ said = before ++ after := by
  have hlined := lined_lines cs
  -- By the lines of the old text: the new one comes after the last of them.
  generalize lines cs = ls at hlined ⊢
  induction hlined generalizing said with
  | @last line hline =>
      rw [(Lined.line hline hending (lined_lines rest)).lines_eq,
        declaresAll_cons]
      constructor
      · rintro ⟨here, more, hhere, hmore, rfl⟩
        exact ⟨_, more, declaresAll_singleton.2 ⟨here, hhere, rfl⟩, hmore, rfl⟩
      · rintro ⟨before, after, hbefore, hafter, rfl⟩
        obtain ⟨here, hhere, rfl⟩ := declaresAll_singleton.1 hbefore
        exact ⟨here, after, hhere, hafter, rfl⟩
  | @line line ending' rest' more hline hending' hrest ih =>
      rw [List.append_assoc, List.append_assoc]
      rcases hending'.append (ending ++ rest) with
        hlonger | ⟨rfl, rfl, hhead⟩
      · rw [(Lined.line hline hlonger (lined_lines _)).lines_eq,
          declaresAll_cons]
        constructor
        · rintro ⟨here, more, hhere, hmore, rfl⟩
          obtain ⟨before, after, hbefore, hafter, rfl⟩ := ih.1 hmore
          exact ⟨_, after, .cons hhere hbefore, hafter,
            (List.append_assoc ..).symm⟩
        · rintro ⟨before, after, hbefore, hafter, rfl⟩
          obtain ⟨here, more, hhere, hmore, rfl⟩ :=
            declaresAll_cons.1 hbefore
          exact ⟨here, _, hhere, ih.2 ⟨more, after, hmore, hafter, rfl⟩,
            List.append_assoc ..⟩
      · -- the two endings have become one, and the empty line between
        -- them is gone
        have hboth : LineEnding (['\r'] ++ ending) rest := by
          cases hending with
          | lineFeed => exact .both
          | both => cases hhead
          | carriageReturn => cases hhead
        rw [List.nil_append, ← List.append_assoc ['\r'],
          (Lined.line hline hboth (lined_lines _)).lines_eq,
          declaresAll_cons, ← hrest.lines_eq]
        constructor
        · rintro ⟨here, more, hhere, hmore, rfl⟩
          exact ⟨_, more, .cons hhere (declaresAll_lines_nil.2 rfl), hmore,
            by rw [List.append_nil]⟩
        · rintro ⟨before, after, hbefore, hafter, rfl⟩
          obtain ⟨here, more, hhere, hmore, rfl⟩ :=
            declaresAll_cons.1 hbefore
          obtain rfl := declaresAll_lines_nil.1 hmore
          exact ⟨here, after, hhere, hafter, by rw [List.append_nil]⟩

-- ======================================================= blanks at the end

/-- A blank at the end of a line adds no alternative. -/
theorem alternatives_append_blank {cs : List Char} {b : Char}
    (hb : isBlank b = true) : alternatives (cs ++ [b]) = alternatives cs := by
  rw [alternatives, words_append_blank hb, alternatives]

section

variable {line : List Char} {b : Char}

/-- A character other than the last one of a text stands before it. -/
theorem exists_of_concat_eq {xs ys zs : List Char} {c : Char}
    (h : xs ++ [b] = ys ++ c :: zs) (hne : c ≠ b) :
    ∃ zs', zs = zs' ++ [b] ∧ xs = ys ++ c :: zs' := by
  rcases List.eq_nil_or_concat zs with rfl | ⟨zs', d, rfl⟩
  · exact absurd (List.cons.inj (List.append_inj' h rfl).2).1.symm hne
  · rw [List.concat_eq_append, ← List.cons_append, ← List.append_assoc] at h
    obtain ⟨hxs, hd⟩ := List.append_inj' h rfl
    cases hd
    exact ⟨zs', List.concat_eq_append, hxs⟩

theorem blanks_concat (hb : isInlineBlank b = true) :
    Blanks (line ++ [b]) ↔ Blanks line := by
  refine List.forall_mem_append.trans (and_iff_left ?_)
  simpa using hb

/-- A remark may go on with blanks and stays one, and the blanks at its end
can be left out. -/
theorem remark_append_blank (hb : isInlineBlank b = true) :
    Remark (line ++ [b]) ↔ Remark line := by
  constructor
  · intro h
    generalize hlonger : line ++ [b] = longer at h
    cases h with
    | blank hblanks => exact .blank ((blanks_concat hb).1 (hlonger ▸ hblanks))
    | comment hblanks =>
        obtain ⟨text, -, rfl⟩ := exists_of_concat_eq hlonger
          (by rintro rfl; cases hb)
        exact .comment hblanks
  · rintro (hblanks | hblanks)
    · exact .blank ((blanks_concat hb).2 hblanks)
    · rw [List.append_assoc, List.cons_append]
      exact .comment hblanks

/-- A line's form ends before any blanks at its end. -/
theorem declares_append_blank (hb : isInlineBlank b = true)
    {said : Option Statement} :
    Declares (line ++ [b]) said ↔ Declares line said := by
  have hblank := (isInlineBlank_iff.1 hb).1
  constructor
  · intro h
    generalize hlonger : line ++ [b] = longer at h
    cases h with
    | remark hremark =>
        exact .remark ((remark_append_blank hb).1 (hlonger ▸ hremark))
    | rule hblanks hgap hne =>
        obtain ⟨_, hafter, rfl⟩ := exists_of_concat_eq hlonger
          (by rintro rfl; rw [isInlineBlank_letter] at hb; cases hb)
        obtain ⟨rest, rfl, rfl⟩ := exists_of_concat_eq hafter.symm
          (by rintro rfl; cases hb)
        rw [alternatives_append_blank hblank] at hne ⊢
        exact .rule hblanks hgap hne
    | soundChange hblanks hpattern hbetween hgap hreplacement hafter =>
        -- None of the characters that divide a sound change is a blank, so
        -- the last blank is after all of them.
        obtain ⟨_, hslash, rfl⟩ := exists_of_concat_eq hlonger
          (by rintro rfl; cases hb)
        obtain ⟨_, harrow, rfl⟩ := exists_of_concat_eq hslash.symm
          (by rintro rfl; cases hb)
        obtain ⟨_, hquote, rfl⟩ := exists_of_concat_eq harrow.symm
          (by rintro rfl; cases hb)
        obtain ⟨_, hclose, rfl⟩ := exists_of_concat_eq hquote.symm
          (by rintro rfl; cases hb)
        obtain ⟨_, rfl, rfl⟩ := exists_of_concat_eq hclose.symm
          (by rintro rfl; cases hb)
        exact .soundChange hblanks hpattern hbetween hgap hreplacement
          ((remark_append_blank hb).1 hafter)
  · intro h
    cases h with
    | remark hremark => exact .remark ((remark_append_blank hb).2 hremark)
    | @rule blanks gap rest id hblanks hgap hne =>
        have hsame : alternatives (rest ++ [b]) = alternatives rest :=
          alternatives_append_blank hblank
        have hlonger : Declares
            (blanks ++ id.letter :: (gap ++ ':' :: (rest ++ [b])))
            (some (.rule id (alternatives (rest ++ [b])))) :=
          .rule hblanks hgap (hsame ▸ hne)
        simpa [hsame] using hlonger
    | soundChange hblanks hpattern hbetween hgap hreplacement hafter =>
        simpa using Declares.soundChange hblanks hpattern hbetween hgap
          hreplacement ((remark_append_blank hb).2 hafter)

end

section

variable {cs : List Char} {said : List Statement}

/-- A blank at the end of a text declares nothing, be it a line end. -/
theorem declaresAll_append_blank {b : Char} (hb : isBlank b = true) :
    DeclaresAll (lines (cs ++ [b])) said ↔ DeclaresAll (lines cs) said := by
  cases hend : isLineEnd b with
  | true =>
      have hending : LineEnding [b] [] := by
        rcases isLineEnd_eq_true.1 hend with rfl | rfl
        · exact .lineFeed
        · exact .carriageReturn (by simp)
      rw [← List.append_nil [b], declaresAll_append hending]
      simp [declaresAll_lines_nil]
  | false =>
      have hinline : isInlineBlank b = true := isInlineBlank_iff.2 ⟨hb, hend⟩
      have hlined := lined_lines cs
      generalize lines cs = ls at hlined ⊢
      induction hlined generalizing said with
      | last hline =>
          rw [lines_of_inline (inline_append.2 ⟨hline,
              inline_cons.2 ⟨hend, inline_nil⟩⟩),
            declaresAll_singleton, declaresAll_singleton]
          simp only [declares_append_blank hinline]
      | @line line ending rest more hline hending hrest ih =>
          rcases hending.append [b] with hlonger | ⟨-, -, hhead⟩
          · rw [List.append_assoc, List.append_assoc,
              (Lined.line hline hlonger (lined_lines _)).lines_eq,
              declaresAll_cons, declaresAll_cons]
            simp only [ih]
          · cases hhead
            cases hend

/-- A source declares the same without the blanks at its end. -/
theorem declaresAll_trimEnd :
    DeclaresAll (lines (trimEnd cs)) said ↔ DeclaresAll (lines cs) said := by
  -- From the back, one blank at a time.
  induction cs using List.reverseRecOn with
  | nil => rfl
  | append_singleton cs b ih =>
      cases hb : isBlank b with
      | true =>
          have htrim : trimEnd (cs ++ [b]) = trimEnd cs := by
            rw [trimEnd, List.reverse_concat, List.dropWhile_cons_of_pos hb,
              trimEnd]
          rw [htrim, ih, declaresAll_append_blank hb]
      | false =>
          have htrim : trimEnd (cs ++ [b]) = cs ++ [b] := by
            rw [trimEnd, List.reverse_concat,
              List.dropWhile_cons_of_neg (by simp [hb]), List.reverse_cons,
              List.reverse_reverse]
          rw [htrim]

end

end WordGrammar
