/-
Scanning a stretch of a text by itself.

A lexeme does not look past its own end for more than to see that it is
over: what follows it can be cut short at any character, and it is read
the same (`Lexeme.read_of_prefix`). So the scanner can be stopped early.
What it has found so far it finds again in the characters it has gone
over (`exists_stretch`), and what it would have found later it finds by
going on from where it was stopped (`exists_tokensFrom_of_append`).
Together, a run of tokens anywhere in a text is the run of tokens of the
characters it stands on, as long as these are read in the same mode
(`exists_stretch_between`).
-/
import WordGrammar.Proofs.Token.Tiling

namespace WordGrammar

open Text

-- ========================================================= a text cut short

namespace Text

variable {p : Char → Bool} {cs text : List Char}

theorem blanks_nil : Blanks [] := List.forall_mem_nil _

/-- A line that is over is over in a shorter text too. -/
theorem AtLineEnd.of_prefix (h : AtLineEnd cs) (htext : text <+: cs) :
    AtLineEnd text := by
  intro c hc
  obtain ⟨rest, rfl⟩ := htext
  exact h c (by rw [List.head?_append, Option.mem_def.1 hc]; rfl)

/-- A run ends where it did if the text ends anywhere after it. -/
theorem takeWhile_of_prefix (hrun : cs.takeWhile p <+: text)
    (htext : text <+: cs) : text.takeWhile p = cs.takeWhile p := by
  obtain ⟨near, rfl⟩ := hrun
  obtain ⟨far, hfar⟩ := htext
  have hall : ∀ c ∈ cs.takeWhile p, p c = true :=
    fun c hc => List.mem_takeWhile_imp hc
  -- What is left of the text after the run begins as the whole text does
  -- there: with a character that ends it.
  have hstop : ∀ c ∈ near.head?, p c = false := by
    intro c hc
    have hrest : near ++ far = cs.dropWhile p := by
      have hsplit : cs.takeWhile p ++ cs.dropWhile p = cs :=
        List.takeWhile_append_dropWhile
      have hsame := hfar.trans hsplit.symm
      rw [List.append_assoc] at hsame
      exact List.append_cancel_left hsame
    have hhead := List.head?_dropWhile_not p cs
    rw [← hrest, List.head?_append, Option.mem_def.1 hc] at hhead
    simpa using hhead
  rw [takeWhile_append_of_stop hstop]
  exact List.takeWhile_eq_self_iff.2 hall

end Text

-- ==================================================== a lexeme cut short

namespace Lexeme

section

variable {delimiter c : Char} {cs text more : List Char} {mode : LineMode}

/-- A body is read the same if the text ends anywhere after it. -/
theorem delimited_of_prefix (hused : (delimited delimiter cs).2 <+: text)
    (htext : text <+: cs) :
    delimited delimiter text = delimited delimiter cs := by
  -- Each case cuts the characters it reads off both texts. An end of line
  -- closes the case at once, because reading stops there.
  induction cs using escaped_induction generalizing text with
  | nil => rw [List.prefix_nil.1 htext]
  | lone =>
      have hlone : (delimited delimiter ['\\']).2 = ['\\'] := by
        rw [delimited]
      rw [hlone] at hused
      rw [hused.eq_of_length_le htext.length_le]
  | pair c cs ih =>
      cases hc : isLineEnd c with
      | true =>
          have hlone : delimited delimiter ('\\' :: c :: cs)
              = (none, ['\\']) := delimited_lone (by rintro d ⟨⟩; exact hc)
          rw [hlone] at hused ⊢
          obtain ⟨near, rfl⟩ := hused
          have hnear := (List.prefix_cons_inj '\\').1 htext
          exact delimited_lone
            (AtLineEnd.of_prefix (by rintro d ⟨⟩; exact hc) hnear)
      | false =>
          rw [delimited_pair hc] at hused ⊢
          obtain ⟨near, rfl⟩ := hused
          have hnear := (List.prefix_append_right_inj ['\\', c]).1 htext
          rw [List.cons_append, List.cons_append, delimited_pair hc,
            ih (List.prefix_append _ near) hnear]
  | char c cs hslash ih =>
      cases hc : isLineEnd c with
      | true =>
          have hend : AtLineEnd (c :: cs) := by rintro d ⟨⟩; exact hc
          rw [delimited_atLineEnd hend,
            delimited_atLineEnd (hend.of_prefix htext)]
      | false =>
          by_cases hne : c = delimiter
          · subst hne
            rw [delimited_close hc hslash] at hused ⊢
            obtain ⟨near, rfl⟩ := hused
            exact delimited_close hc hslash
          · rw [delimited_char hc hslash hne] at hused ⊢
            obtain ⟨near, rfl⟩ := hused
            have hnear := (List.prefix_cons_inj c).1 htext
            rw [List.cons_append, delimited_char hc hslash hne,
              ih (List.prefix_append _ near) hnear]

/-- A colon that comes after spaces and tabs still does in a longer
text. -/
theorem colon?_mono (h : colon? text = some more) (htext : text <+: cs) :
    colon? cs = some more := by
  obtain ⟨gap, rest, hgap, hmore, rfl⟩ := colon?_eq_some.1 h
  obtain ⟨far, rfl⟩ := htext
  exact colon?_eq_some.2 ⟨gap, rest ++ far, hgap, hmore, by simp⟩

/-- A head stays one if the text ends anywhere after its colon. -/
theorem colon?_of_prefix (h : colon? cs = some more)
    (hmore : more <+: text) : colon? text = some more := by
  obtain ⟨gap, rest, hgap, rfl, -⟩ := colon?_eq_some.1 h
  obtain ⟨near, rfl⟩ := hmore
  exact colon?_eq_some.2 ⟨gap, near, hgap, rfl, by simp⟩

/-- A head is a letter of a rule that a colon follows. -/
theorem head?_eq_some {id : RuleId} :
    head? c cs = some (id, more)
      ↔ RuleId.ofChar? c = some id ∧ colon? cs = some more := by
  unfold head?
  split
  · next hid hcolon => simp [hid, hcolon]
  · next hnone =>
      constructor
      · intro h
        cases h
      · intro h
        exact absurd h.2 (hnone id more h.1)

/-- The end of a line is read the same in a shorter text: one that ends
between the two characters of an ending does not contain what was read. -/
theorem newline_of_prefix (hmore : (newline c cs).more <+: text)
    (htext : text <+: cs) : newline c text = newline c cs := by
  unfold newline at hmore ⊢
  split
  · next near =>
      obtain ⟨far, rfl⟩ := htext
      rfl
  · next hnear =>
      split
      · next far =>
          obtain ⟨near, rfl⟩ := hmore
          exact absurd rfl (hnear near rfl)
      · rfl

/-- The first lexeme of a line does not look past its end. If it is no head,
the shorter text has no colon to make it one. -/
theorem atStart_of_prefix (hmore : (atStart c cs).more <+: text)
    (htext : text <+: cs) : atStart c text = atStart c cs := by
  unfold atStart at hmore ⊢
  cases hhead : head? c cs with
  | some found =>
      obtain ⟨id, more⟩ := found
      rw [hhead] at hmore
      obtain ⟨hid, hcolon⟩ := head?_eq_some.1 hhead
      rw [head?_eq_some.2 ⟨hid, colon?_of_prefix hcolon hmore⟩]
  | none =>
      have hnone : head? c text = none := by
        rw [Option.eq_none_iff_forall_ne_some]
        intro found hfound
        obtain ⟨hid, hcolon⟩ := head?_eq_some.1 hfound
        rw [head?_eq_some.2 ⟨hid, colon?_mono hcolon htext⟩] at hhead
        cases hhead
      rw [hhead] at hmore
      rw [hnone]
      by_cases hslash : c = '/'
      · rw [if_pos hslash] at hmore
        have hused : (delimited '/' cs).2 <+: text := by
          rcases hread : delimited '/' cs with ⟨_ | body, used⟩ <;>
            rwa [hread] at hmore
        simp only [if_pos hslash, delimited_of_prefix hused htext]
      · rw [if_neg hslash] at hmore
        simp only [if_neg hslash, toLineEnd, takeWhile_of_prefix hmore htext]

/-- Nor does a part of a sound change. -/
theorem inSoundChange_of_prefix
    (hmore : (inSoundChange c cs).more <+: text) (htext : text <+: cs) :
    inSoundChange c text = inSoundChange c cs := by
  unfold inSoundChange at hmore ⊢
  by_cases harrow : c = '>'
  · rw [if_pos harrow, if_pos harrow]
  rw [if_neg harrow] at hmore ⊢
  rw [if_neg harrow]
  by_cases hquote : c = '"'
  · rw [if_pos hquote] at hmore
    have hused : (delimited '"' cs).2 <+: text := by
      rcases hread : delimited '"' cs with ⟨_ | body, used⟩ <;>
        rwa [hread] at hmore
    simp only [if_pos hquote, delimited_of_prefix hused htext]
  · rw [if_neg hquote] at hmore
    simp only [if_neg hquote, toBlank, takeWhile_of_prefix hmore htext]

/-- A lexeme is read the same if the text ends anywhere after it. -/
theorem read_of_prefix (hmore : (read mode c cs).more <+: text)
    (htext : text <+: cs) : read mode c text = read mode c cs := by
  by_cases hc : isLineEnd c = true
  · rw [read_newline hc] at hmore
    rw [read_newline hc, read_newline hc, newline_of_prefix hmore htext]
  have hend : isLineEnd c = false := by simpa using hc
  by_cases hhash : c = '#'
  · subst hhash
    rw [read_comment] at hmore
    rw [read_comment, read_comment, toLineEnd,
      takeWhile_of_prefix hmore htext, toLineEnd]
  cases mode with
  | start =>
      rw [read_start hend hhash] at hmore
      rw [read_start hend hhash, read_start hend hhash,
        atStart_of_prefix hmore htext]
  | group =>
      rw [read_group hend hhash] at hmore
      rw [read_group hend hhash, read_group hend hhash, toBlank,
        takeWhile_of_prefix hmore htext, toBlank]
  | soundChange =>
      rw [read_soundChange hend hhash] at hmore
      rw [read_soundChange hend hhash, read_soundChange hend hhash,
        inSoundChange_of_prefix hmore htext]

end

end Lexeme

-- ====================================================== a scan cut short

/-- Whether or not it ends the line, a lexeme is passed by its bytes. -/
theorem Cursor.pastLexeme_offset (cursor : Cursor) (c : Char)
    (lexeme : Lexeme) : (cursor.pastLexeme c lexeme).offset
      = cursor.offset + utf8Length (c :: lexeme.more) := by
  unfold Cursor.pastLexeme
  split <;> rfl

section

variable {mode : LineMode} {cursor : Cursor} {cs : List Char}
  {front here back : List Token}

/-- Later tokens are found by going on from some place further along. -/
theorem exists_tokensFrom_of_append (hback : back ≠ [])
    (h : tokensFrom mode cursor cs = front ++ back) :
    ∃ gone left mode' cursor', cs = gone ++ left
      ∧ cursor'.offset = cursor.offset + utf8Length gone
      ∧ tokensFrom mode' cursor' left = back := by
  -- Along the scan: a blank is gone over, and a lexeme too as long as a
  -- token of `front` is left.
  induction mode, cs using scan_induction generalizing cursor front with
  | nil mode =>
      rw [tokensFrom_nil] at h
      cases front with
      | nil => exact ⟨[], [], mode, cursor, rfl, rfl, tokensFrom_nil.trans h⟩
      | cons token front =>
          have hempty := (List.cons.inj h).2.symm
          exact absurd (List.append_eq_nil_iff.1 hempty).2 hback
  | blank mode c cs hc ih =>
      rw [tokensFrom_blank hc] at h
      obtain ⟨gone, left, mode', cursor', rfl, hoffset, hleft⟩ := ih h
      refine ⟨c :: gone, left, mode', cursor', rfl, ?_, hleft⟩
      rw [hoffset]
      simp [Cursor.past]
      omega
  | lexeme mode c kind more mode' rest hc hread ih =>
      cases front with
      | nil => exact ⟨[], _, mode, cursor, rfl, rfl, h⟩
      | cons token front =>
          rw [tokensFrom_lexeme more hc hread] at h
          obtain ⟨gone, left, mode'', cursor', rfl, hoffset, hleft⟩ :=
            ih (List.cons.inj h).2
          refine ⟨c :: (more ++ gone), left, mode'', cursor', by simp, ?_,
            hleft⟩
          rw [hoffset, Cursor.pastLexeme_offset]
          simp
          omega

/-- The first tokens of a scan are those of the characters from the start
of the first to the end of the last of them. -/
theorem exists_stretch {first last : Token} (hfirst : here.head? = some first)
    (hlast : here.getLast? = some last)
    (heof : ∀ token ∈ here, token.kind ≠ .eof)
    (h : tokensFrom mode cursor cs = here ++ back) :
    ∃ blanks text after, cs = blanks ++ (text ++ after) ∧ Blanks blanks
      ∧ text ≠ [] ∧ lineKinds mode text = here.map Token.kind
      ∧ first.span.start = cursor.offset + utf8Length blanks
      ∧ last.span.stop = cursor.offset + utf8Length (blanks ++ text) := by
  obtain ⟨more, rfl⟩ := List.head?_eq_some_iff.1 hfirst
  -- Along the scan again. The tokens of `here` are used up one by one, and
  -- with the last of them the text may end.
  induction mode, cs using scan_induction
    generalizing cursor first more with
  | nil mode =>
      rw [tokensFrom_nil] at h
      obtain rfl := (List.cons.inj h).1
      exact absurd rfl (heof _ (List.mem_cons_self ..))
  | blank mode c cs hc ih =>
      rw [tokensFrom_blank hc] at h
      obtain ⟨blanks, text, after, rfl, hblanks, hne, hkinds, hstart,
        hstop⟩ := ih more hfirst hlast heof h
      refine ⟨c :: blanks, text, after, rfl,
        List.forall_mem_cons.2 ⟨hc, hblanks⟩, hne, hkinds, ?_, ?_⟩
      · rw [hstart]
        simp [Cursor.past]
        omega
      · rw [hstop]
        simp [Cursor.past]
        omega
  | lexeme mode c kind taken mode' rest hc hread ih =>
      rw [tokensFrom_lexeme taken hc hread] at h
      obtain ⟨rfl, htail⟩ := List.cons.inj h
      -- the text may end wherever the tokens after this one do
      have hcut : ∀ near, near <+: rest →
          Lexeme.read mode c (taken ++ near) = ⟨kind, taken, mode'⟩ := by
        intro near hnear
        rw [← hread]
        refine Lexeme.read_of_prefix ?_
          ((List.prefix_append_right_inj taken).2 hnear)
        rw [hread]
        exact List.prefix_append taken near
      cases more with
      | nil =>
          obtain rfl := Option.some.inj hlast
          refine ⟨[], c :: taken, rest, rfl, blanks_nil,
            List.cons_ne_nil _ _, ?_, rfl,
            Cursor.pastLexeme_offset cursor c _⟩
          have hkinds := lineKinds_lexeme hc (hcut [] List.nil_prefix)
          rw [List.append_nil, lineKinds_nil] at hkinds
          exact hkinds
      | cons second more =>
          obtain ⟨blanks, text, after, rfl, hblanks, -, hkinds, -, hstop⟩ :=
            ih more rfl hlast (List.forall_mem_cons.1 heof).2 htail
          refine ⟨[], c :: (taken ++ (blanks ++ text)), after, by simp,
            blanks_nil, List.cons_ne_nil _ _, ?_, rfl, ?_⟩
          · rw [lineKinds_lexeme hc (hcut _ ⟨after, by simp⟩),
              lineKinds_blanks_append hblanks, hkinds]
            rfl
          · rw [hstop, Cursor.pastLexeme_offset]
            simp
            omega

/-- Tokens that follow one another anywhere in a text are those of the
characters they stand on, read in the mode in which the scanner comes to
these. -/
theorem exists_stretch_between {first last : Token}
    (hfirst : here.head? = some first) (hlast : here.getLast? = some last)
    (heof : ∀ token ∈ here, token.kind ≠ .eof)
    (h : tokensFrom mode cursor cs = front ++ (here ++ back)) :
    ∃ before text after mode', cs = before ++ (text ++ after) ∧ text ≠ []
      ∧ lineKinds mode' text = here.map Token.kind
      ∧ first.span.start = cursor.offset + utf8Length before
      ∧ last.span.stop = cursor.offset + utf8Length (before ++ text) := by
  have hne : here ++ back ≠ [] := by
    intro hnil
    rw [(List.append_eq_nil_iff.1 hnil).1] at hfirst
    cases hfirst
  obtain ⟨gone, left, mode', cursor', rfl, hoffset, hleft⟩ :=
    exists_tokensFrom_of_append hne h
  obtain ⟨blanks, text, after, rfl, -, htext, hkinds, hstart, hstop⟩ :=
    exists_stretch hfirst hlast heof hleft
  refine ⟨gone ++ blanks, text, after, mode', by simp, htext, hkinds, ?_, ?_⟩
  · rw [hstart, hoffset, utf8Length_append]
    omega
  · rw [hstop, hoffset]
    simp
    omega

end

end WordGrammar
