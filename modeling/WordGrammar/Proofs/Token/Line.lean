/-
Scanning a line by itself.

The tokens of a text are those of its first line, each of them standing on
that line, then its ending, then those of the remaining text
(`exists_tokensFrom_append`, `tokensFrom_ending`). What the tokens of a
line are, leaving out where they stand, is `lineKinds`: it does not depend
on where the line starts.
-/
import WordGrammar.Proofs.Token.Lexeme

namespace WordGrammar

open Text

-- ============================================================ the scanner

namespace Cursor

/-- No characters move no place. -/
@[simp] theorem past_nil (cursor : Cursor) : cursor.past [] = cursor := rfl

theorem past_append {cursor : Cursor} {a b : List Char} :
    cursor.past (a ++ b) = (cursor.past a).past b := by
  simp [past, Nat.add_assoc]

/-- A lexeme within a line is passed character by character. -/
theorem pastLexeme_of_inline {cursor : Cursor} {c : Char}
    (hc : isLineEnd c = false) {lexeme : Lexeme} :
    cursor.pastLexeme c lexeme = cursor.past (c :: lexeme.more) := by
  rw [pastLexeme, if_neg (by simp [hc])]

end Cursor

section

variable {mode mode' : LineMode} {cursor : Cursor} {kind : TokenKind}
  {c : Char} {cs more rest : List Char}

theorem tokensFrom_nil :
    tokensFrom mode cursor []
      = [⟨.eof, .fromCursor cursor cursor.offset⟩] := by
  rw [tokensFrom]
  rfl

/-- One step of the scanner: the blanks, then a lexeme if there is any left.
The end of the source is written as the scan of no characters, so that it
stays one case. -/
theorem tokensFrom_eq (cs : List Char) :
    tokensFrom mode cursor cs
      = match cs.dropWhile isInlineBlank with
        | [] => tokensFrom mode (cursor.past (cs.takeWhile isInlineBlank)) []
        | c :: rest =>
            let lexeme := Lexeme.read mode c rest
            let here := cursor.past (cs.takeWhile isInlineBlank)
            let next := here.pastLexeme c lexeme
            ⟨lexeme.kind, .fromCursor here next.offset⟩
              :: tokensFrom lexeme.mode next
                (rest.drop lexeme.more.length) := by
  rw [tokensFrom]
  split
  · next h => rw [h, tokensFrom_nil]
  · next h => rw [h]

/-- A blank is no token; it only moves the place. -/
theorem tokensFrom_blank (hc : isInlineBlank c = true) :
    tokensFrom mode cursor (c :: cs)
      = tokensFrom mode (cursor.past [c]) cs := by
  rw [tokensFrom_eq, tokensFrom_eq cs]
  simp only [List.takeWhile_cons, List.dropWhile_cons, hc, if_true]
  rw [← Cursor.past_append]
  rfl

/-- Any other character opens a lexeme. -/
theorem tokensFrom_cons (hc : isInlineBlank c = false) :
    tokensFrom mode cursor (c :: cs)
      = ⟨(Lexeme.read mode c cs).kind, .fromCursor cursor
          (cursor.pastLexeme c (Lexeme.read mode c cs)).offset⟩
        :: tokensFrom (Lexeme.read mode c cs).mode
          (cursor.pastLexeme c (Lexeme.read mode c cs))
          (cs.drop (Lexeme.read mode c cs).more.length) := by
  rw [tokensFrom_eq, List.takeWhile_cons_of_neg (by simp [hc]),
    List.dropWhile_cons_of_neg (by simp [hc])]
  rfl

/-- The same for a lexeme whose characters are known: the scan goes on
behind them. -/
theorem tokensFrom_lexeme (more : List Char)
    (hc : isInlineBlank c = false)
    (hread : Lexeme.read mode c (more ++ rest) = ⟨kind, more, mode'⟩) :
    tokensFrom mode cursor (c :: (more ++ rest))
      = ⟨kind, .fromCursor cursor
          (cursor.pastLexeme c ⟨kind, more, mode'⟩).offset⟩
        :: tokensFrom mode' (cursor.pastLexeme c ⟨kind, more, mode'⟩)
          rest := by
  rw [tokensFrom_cons hc, hread, List.drop_left]

end

/-- Induction along a scan: over a blank, and over a lexeme. -/
@[elab_as_elim]
theorem scan_induction {motive : LineMode → List Char → Prop}
    (nil : ∀ mode, motive mode [])
    (blank : ∀ mode c cs, isInlineBlank c = true → motive mode cs →
      motive mode (c :: cs))
    (lexeme : ∀ mode c kind more mode' rest, isInlineBlank c = false →
      Lexeme.read mode c (more ++ rest) = ⟨kind, more, mode'⟩ →
      motive mode' rest → motive mode (c :: (more ++ rest)))
    (mode : LineMode) (cs : List Char) : motive mode cs :=
  match cs with
  | [] => nil mode
  | c :: cs =>
      if hc : isInlineBlank c = true then
        blank mode c cs hc (scan_induction nil blank lexeme mode cs)
      else by
        -- What the lexeme took up is cut off by its length; that this is a
        -- prefix makes the rest a text of its own, and a shorter one.
        obtain ⟨rest, hrest⟩ :=
          Lexeme.read_prefix mode c cs
        have hread : Lexeme.read mode c ((Lexeme.read mode c cs).more ++ rest)
            = Lexeme.read mode c cs := by rw [hrest]
        have hlength : rest.length ≤ cs.length := by
          rw [← hrest, List.length_append]
          exact Nat.le_add_left ..
        exact hrest ▸ lexeme mode c _ _ _ rest (by simpa using hc) hread
          (scan_induction nil blank lexeme _ rest)
termination_by cs.length

-- ============================================================ whole lines

/-- The kinds of the tokens of a line, read on its own in a mode. -/
def lineKinds (mode : LineMode) (line : List Char) : List TokenKind :=
  ((tokensFrom mode .start line).map Token.kind).dropLast

/-- `span.BeginsOn cursor line`: the span begins on the line that starts
at the cursor, at one of its characters or at its end. -/
def Span.BeginsOn (span : Span) (cursor : Cursor) (line : List Char) :
    Prop :=
  ∃ before after stop, before ++ after = line
    ∧ span = .fromCursor (cursor.past before) stop

/-- Every place on a line has its number. -/
theorem Span.BeginsOn.line_eq {span : Span} {cursor : Cursor}
    {line : List Char} (h : span.BeginsOn cursor line) :
    span.line = cursor.line := by
  obtain ⟨before, after, stop, -, rfl⟩ := h
  rfl

/-- The kinds of tokens do not depend on where the text starts. -/
theorem kinds_tokensFrom {mode : LineMode} {cursor cursor' : Cursor}
    {cs : List Char} :
    (tokensFrom mode cursor cs).map Token.kind
      = (tokensFrom mode cursor' cs).map Token.kind := by
  induction mode, cs using scan_induction generalizing cursor cursor' with
  | nil mode => simp [tokensFrom_nil]
  | blank mode c cs hc ih =>
      rw [tokensFrom_blank hc, tokensFrom_blank hc]
      exact ih
  | lexeme mode c kind more mode' rest hc hread ih =>
      rw [tokensFrom_lexeme more hc hread, tokensFrom_lexeme more hc hread,
        List.map_cons, List.map_cons, ih]

theorem tokensFrom_ne_nil {mode : LineMode} {cursor : Cursor}
    {cs : List Char} : tokensFrom mode cursor cs ≠ [] := by
  rw [tokensFrom]
  split <;> exact List.cons_ne_nil _ _

section

variable {mode mode' : LineMode} {kind : TokenKind} {c : Char}
  {cs more rest : List Char}

/-- An empty line has no tokens: the end of the source is not counted. -/
theorem lineKinds_nil : lineKinds mode [] = [] := by
  simp [lineKinds, tokensFrom_nil]

theorem lineKinds_blank (hc : isInlineBlank c = true) :
    lineKinds mode (c :: cs) = lineKinds mode cs := by
  rw [lineKinds, tokensFrom_blank hc, kinds_tokensFrom, lineKinds]

/-- A lexeme adds its token, and the rest is a line in its mode. -/
theorem lineKinds_lexeme (hc : isInlineBlank c = false)
    (hread : Lexeme.read mode c (more ++ rest) = ⟨kind, more, mode'⟩) :
    lineKinds mode (c :: (more ++ rest)) = kind :: lineKinds mode' rest := by
  rw [lineKinds, tokensFrom_lexeme more hc hread, List.map_cons,
    List.dropLast_cons_of_ne_nil (by simp [tokensFrom_ne_nil]),
    kinds_tokensFrom, lineKinds]

/-- A line can be indented. -/
theorem lineKinds_blanks_append {blanks : List Char} (h : Blanks blanks) :
    lineKinds mode (blanks ++ cs) = lineKinds mode cs := by
  induction blanks with
  | nil => rfl
  | cons c blanks ih =>
      obtain ⟨hc, hblanks⟩ := List.forall_mem_cons.1 h
      rw [List.cons_append, lineKinds_blank hc, ih hblanks]

/-- A text is blanks, and then nothing or its first lexeme. -/
theorem exists_blanks_append (mode : LineMode) (cs : List Char) :
    ∃ blanks after, cs = blanks ++ after ∧ Blanks blanks
      ∧ (after = [] ∨ ∃ c kind more mode' rest, isInlineBlank c = false
        ∧ Lexeme.read mode c (more ++ rest) = ⟨kind, more, mode'⟩
        ∧ after = c :: (more ++ rest)) := by
  induction mode, cs using scan_induction with
  | nil mode => exact ⟨[], [], rfl, (fun _ h => nomatch h), .inl rfl⟩
  | blank mode c cs hc ih =>
      obtain ⟨blanks, after, rfl, hblanks, hafter⟩ := ih
      exact ⟨c :: blanks, after, rfl, List.forall_mem_cons.2 ⟨hc, hblanks⟩,
        hafter⟩
  | lexeme mode c kind more mode' rest hc hread =>
      exact ⟨[], _, rfl, (fun _ h => nomatch h),
        .inr ⟨c, kind, more, mode', rest, hc, hread, rfl⟩⟩

/-- The lines without tokens are the blank ones. -/
theorem lineKinds_eq_nil : lineKinds mode cs = [] ↔ Blanks cs := by
  constructor
  · intro h
    obtain ⟨blanks, after, rfl, hblanks, rfl | ⟨c, kind, more, mode', rest,
      hc, hread, rfl⟩⟩ := exists_blanks_append mode cs
    · rwa [List.append_nil]
    · rw [lineKinds_blanks_append hblanks, lineKinds_lexeme hc hread] at h
      cases h
  · intro h
    have hkinds : lineKinds mode (cs ++ []) = lineKinds mode [] :=
      lineKinds_blanks_append h
    rwa [List.append_nil, lineKinds_nil] at hkinds

/-- The first token of a line is its first lexeme after blanks. -/
theorem lineKinds_eq_cons {kinds : List TokenKind} :
    lineKinds mode cs = kind :: kinds ↔ ∃ blanks c more mode' rest,
      Blanks blanks ∧ isInlineBlank c = false
        ∧ Lexeme.read mode c (more ++ rest) = ⟨kind, more, mode'⟩
        ∧ lineKinds mode' rest = kinds
        ∧ cs = blanks ++ c :: (more ++ rest) := by
  constructor
  · intro h
    obtain ⟨blanks, after, rfl, hblanks, rfl | ⟨c, kind', more, mode', rest,
      hc, hread, rfl⟩⟩ := exists_blanks_append mode cs
    · rw [lineKinds_blanks_append hblanks, lineKinds_nil] at h
      cases h
    · rw [lineKinds_blanks_append hblanks, lineKinds_lexeme hc hread] at h
      cases h
      exact ⟨blanks, c, more, mode', rest, hblanks, hc, hread, rfl, rfl⟩
  · rintro ⟨blanks, c, more, mode', rest, hblanks, hc, hread, rfl, rfl⟩
    rw [lineKinds_blanks_append hblanks, lineKinds_lexeme hc hread]

/-- After a line, scanning starts afresh. -/
theorem tokensFrom_atLineEnd {cursor : Cursor} (h : AtLineEnd cs) :
    tokensFrom mode cursor cs = tokensFrom .start cursor cs := by
  cases cs with
  | nil => rw [tokensFrom_nil, tokensFrom_nil]
  | cons c cs =>
      have hend : isLineEnd c = true := h c rfl
      have hc := isInlineBlank_of_isLineEnd hend
      rw [tokensFrom_cons hc, tokensFrom_cons hc, Lexeme.read_newline hend,
        Lexeme.read_newline hend]

/-- The tokens of a text are those of its first line, and then those of
the rest. -/
theorem exists_tokensFrom_append {line after : List Char}
    (hline : Inline line) (hafter : AtLineEnd after) (mode : LineMode)
    (cursor : Cursor) :
    ∃ tokens : List Token, tokens.map Token.kind = lineKinds mode line
      ∧ (∀ token ∈ tokens, token.kind.endsLine = false
        ∧ token.span.BeginsOn cursor line)
      ∧ tokensFrom mode cursor (line ++ after)
        = tokens ++ tokensFrom .start (cursor.past line) after := by
  induction mode, line using scan_induction generalizing cursor with
  | nil mode =>
      exact ⟨[], lineKinds_nil.symm, (fun _ h => nomatch h),
        tokensFrom_atLineEnd hafter⟩
  | blank mode c cs hc ih =>
      obtain ⟨tokens, hkinds, htokens, heq⟩ :=
        ih (inline_cons.1 hline).2 (cursor.past [c])
      refine ⟨tokens, by rw [hkinds, lineKinds_blank hc],
        fun token htoken => ⟨(htokens token htoken).1, ?_⟩, ?_⟩
      · obtain ⟨before, rest, stop, rfl, hspan⟩ := (htokens token htoken).2
        exact ⟨c :: before, rest, stop, rfl,
          by rw [hspan, ← Cursor.past_append]; rfl⟩
      · rw [List.cons_append, tokensFrom_blank hc, heq,
          ← Cursor.past_append]
        rfl
  | lexeme mode c kind more mode' rest hc hread ih =>
      obtain ⟨hend, hmore⟩ := inline_cons.1 hline
      obtain ⟨tokens, hkinds, htokens, heq⟩ :=
        ih (inline_append.1 hmore).2 (cursor.past (c :: more))
      -- The lexeme does not see past the line, so it is the same one.
      have hreadAll : Lexeme.read mode c (more ++ (rest ++ after))
          = ⟨kind, more, mode'⟩ := by
        rw [← List.append_assoc, Lexeme.read_append hend hmore hafter, hread]
      refine ⟨⟨kind, .fromCursor cursor (cursor.past (c :: more)).offset⟩
        :: tokens, ?_, ?_, ?_⟩
      · rw [List.map_cons, hkinds, lineKinds_lexeme hc hread]
      · intro token htoken
        -- The new token begins where the line does; a later one has its
        -- place moved by the characters in front of it.
        rcases List.mem_cons.1 htoken with rfl | htoken
        · have hwithin : (Lexeme.read mode c (more ++ rest)).Within
              (more ++ rest) := Lexeme.within_read hend
          rw [hread] at hwithin
          exact ⟨hwithin.not_endsLine, [], c :: (more ++ rest), _, rfl, rfl⟩
        · refine ⟨(htokens token htoken).1, ?_⟩
          obtain ⟨before, rest', stop, rfl, hspan⟩ :=
            (htokens token htoken).2
          exact ⟨(c :: more) ++ before, rest', stop, by simp,
            by rw [hspan, ← Cursor.past_append]⟩
      · rw [List.cons_append, List.append_assoc,
          tokensFrom_lexeme more hc hreadAll, Cursor.pastLexeme_of_inline hend,
          heq, ← Cursor.past_append, List.cons_append, List.cons_append]

/-- A line ending is one token, and the next line starts after it. -/
theorem tokensFrom_ending {cursor : Cursor} {ending : List Char}
    (h : LineEnding ending rest) :
    tokensFrom mode cursor (ending ++ rest)
      = ⟨.newline, .fromCursor cursor (cursor.pastLineEnd ending).offset⟩
        :: tokensFrom .start (cursor.pastLineEnd ending) rest := by
  cases h with
  | lineFeed =>
      exact tokensFrom_lexeme [] (by decide)
        (Lexeme.read_newline (by decide))
  | both =>
      exact tokensFrom_lexeme ['\n'] (by decide)
        (Lexeme.read_newline (by decide))
  | carriageReturn hrest =>
      -- Here the next character matters: were it a line feed, the ending
      -- would be two characters long.
      have hread : Lexeme.newline '\r' rest = ⟨.newline, [], .start⟩ := by
        unfold Lexeme.newline
        split
        · exact absurd rfl hrest
        · rfl
      exact tokensFrom_lexeme [] (by decide)
        ((Lexeme.read_newline (by decide)).trans hread)

end

end WordGrammar
