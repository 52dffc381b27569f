/-
The tokens of a text tile it.

The characters of a source are those of its tokens, in order, with blanks
before, between and after them that do not end a line; only the token for
the end of the source has no characters (`Tiles`). Each token stands at a
place of the text, which its span tells, and no line ending is cut in half
there (`Span.StandsIn`).
-/
import WordGrammar.Proofs.Token.Position

namespace WordGrammar

open Text

namespace Text

/-- A character of two texts together is of the first or of the second. -/
theorem append_eq_append_cons {a b before after : List Char} {c : Char}
    (h : a ++ b = before ++ c :: after) :
    (∃ more, a = before ++ c :: more)
      ∨ ∃ more, before = a ++ more ∧ b = more ++ c :: after := by
  rcases List.append_eq_append_iff.1 h with ⟨more, rfl, rfl⟩
    | ⟨more, rfl, hmore⟩
  · exact .inr ⟨more, rfl, rfl⟩
  · cases more with
    | nil => exact .inr ⟨[], by simp, hmore.symm⟩
    | cons d more =>
        obtain ⟨rfl, -⟩ := List.cons.inj hmore
        exact .inl ⟨more, rfl⟩

end Text

-- ============================================================== the tiling

/-- `span.StandsIn cs`: the span is that of some characters of the text,
which begin between two characters that are not one line ending. -/
def Span.StandsIn (span : Span) (cs : List Char) : Prop :=
  ∃ before text after, cs = before ++ (text ++ after)
    ∧ Parted before (text ++ after)
    ∧ span = .fromCursor (.between before (text ++ after))
      (utf8Length (before ++ text))

/-- `Tiles before rest tokens`: the tokens are those of the end `rest` of
a text, behind `before`. Each takes up some characters of it and stands
where these are, with nothing but blanks in between that do not end a
line; the last one is at the end of the text. -/
inductive Tiles : List Char → List Char → List Token → Prop
  | eof {before blanks : List Char} : Blanks blanks →
      Tiles before blanks [⟨.eof, .fromCursor
        (.between (before ++ blanks) []) (utf8Length (before ++ blanks))⟩]
  | token {before blanks text rest : List Char} {kind : TokenKind}
      {tokens : List Token} : Blanks blanks → text ≠ [] → kind ≠ .eof →
      Parted (before ++ blanks) (text ++ rest) →
      Tiles (before ++ (blanks ++ text)) rest tokens →
      Tiles before (blanks ++ (text ++ rest)) (⟨kind, .fromCursor
        (.between (before ++ blanks) (text ++ rest))
        (utf8Length (before ++ (blanks ++ text)))⟩ :: tokens)

namespace Tiles

variable {before rest : List Char} {tokens : List Token} {c : Char}

/-- A blank may come before the first token. -/
theorem blank (hc : isInlineBlank c = true)
    (h : Tiles (before ++ [c]) rest tokens) :
    Tiles before (c :: rest) tokens := by
  cases h with
  | eof hblanks =>
      have hmore := @eof before _ (List.forall_mem_cons.2 ⟨hc, hblanks⟩)
      simpa using hmore
  | token hblanks hne hkind hparted hrest =>
      have hmore := @token before _ _ _ _ _
        (List.forall_mem_cons.2 ⟨hc, hblanks⟩) hne hkind
        (by simpa using hparted) (by simpa using hrest)
      simpa using hmore

/-- No token starts before its part of the text. -/
theorem le_start (h : Tiles before rest tokens) :
    ∀ token ∈ tokens, utf8Length before ≤ token.span.start := by
  induction h with
  | @eof before blanks hblanks =>
      simp [Span.fromCursor]
  | @token before blanks text rest kind tokens _ _ _ _ _ ih =>
      refine List.forall_mem_cons.2 ⟨by simp [Span.fromCursor],
        fun token htoken => ?_⟩
      -- The tokens after this one start after its text.
      have := ih token htoken
      rw [utf8Length_append] at this
      omega

/-- Tokens do not overlap. -/
theorem pairwise (h : Tiles before rest tokens) :
    tokens.Pairwise fun a b => a.span.stop ≤ b.span.start := by
  induction h with
  | eof => exact List.pairwise_singleton ..
  | token _ _ _ _ hrest ih => exact List.pairwise_cons.2 ⟨hrest.le_start, ih⟩

/-- The last token is the end of the text, and no other; the others hold
some of it. -/
theorem exists_eof (h : Tiles before rest tokens) :
    ∃ inner last, tokens = inner ++ [last] ∧ last.kind = .eof
      ∧ last.span.start = utf8Length (before ++ rest)
      ∧ last.span.stop = utf8Length (before ++ rest)
      ∧ ∀ token ∈ inner,
        token.kind ≠ .eof ∧ token.span.start < token.span.stop := by
  induction h with
  | eof => exact ⟨[], _, rfl, rfl, rfl, rfl, fun _ h => nomatch h⟩
  | @token before blanks text rest kind tokens _ hne hkind _ _ ih =>
      obtain ⟨inner, last, rfl, heof, hstart, hstop, hinner⟩ := ih
      rw [List.append_assoc, List.append_assoc] at hstart hstop
      refine ⟨_ :: inner, last, rfl, heof, hstart, hstop,
        List.forall_mem_cons.2 ⟨⟨hkind, ?_⟩, hinner⟩⟩
      have := utf8Length_pos hne
      simp [Span.fromCursor]
      omega

/-- Every token stands where its characters are. -/
theorem standsIn (h : Tiles before rest tokens) :
    ∀ token ∈ tokens, token.span.StandsIn (before ++ rest) := by
  induction h with
  | @eof before blanks _ =>
      refine List.forall_mem_singleton.2
        ⟨before ++ blanks, [], [], by simp, parted_nil_right, ?_⟩
      rw [List.append_nil, List.append_nil]
  | @token before blanks text rest kind tokens _ _ _ hparted _ ih =>
      refine List.forall_mem_cons.2 ⟨⟨before ++ blanks, text, rest,
        by simp, hparted, by simp⟩, fun token htoken => ?_⟩
      have hstands := ih token htoken
      simpa only [List.append_assoc] using hstands

/-- A character of the text is a blank or lies within a token. -/
theorem covers (h : Tiles before rest tokens) :
    ∀ b c a, rest = b ++ c :: a → isInlineBlank c = true
      ∨ ∃ token ∈ tokens, token.span.start ≤ utf8Length (before ++ b)
        ∧ utf8Length (before ++ (b ++ [c])) ≤ token.span.stop := by
  induction h with
  | @eof before blanks hblanks =>
      rintro b c a rfl
      exact .inl (hblanks c (by simp))
  | @token before blanks text rest kind tokens hblanks _ _ _ _ ih =>
      intro b c a hsplit
      -- The character is one of the blanks, of the token or of what
      -- follows.
      rcases append_eq_append_cons hsplit with ⟨more, rfl⟩ | ⟨b, rfl, hthere⟩
      · exact .inl (hblanks c (by simp))
      rcases append_eq_append_cons hthere with ⟨more, rfl⟩ | ⟨b, rfl, hrest⟩
      · exact .inr ⟨_, List.mem_cons_self .., by simp [Span.fromCursor],
          by simp [Span.fromCursor]⟩
      rcases ih b c a hrest with hblank | ⟨token, htoken, hin⟩
      · exact .inl hblank
      · exact .inr ⟨token, List.mem_cons_of_mem _ htoken, by simpa using hin⟩

end Tiles

/-- A lexeme takes line endings whole, so the text can be parted after
it. -/
theorem parted_append_lexeme {mode mode' : LineMode} {kind : TokenKind}
    {before more rest : List Char} {c : Char}
    (hread : Lexeme.read mode c (more ++ rest) = ⟨kind, more, mode'⟩)
    (h : Parted before (c :: (more ++ rest))) :
    Parted (before ++ c :: more) rest := by
  cases hc : isLineEnd c with
  | false =>
      have hmore := Lexeme.inline_read mode hc (more ++ rest)
      rw [hread] at hmore
      exact Parted.append_inline h (inline_cons.2 ⟨hc, hmore⟩)
  | true => exact (Lexeme.lineEnding_of_read hc hread).parted

/-- Scanning on from a place in a text that does not cut a line ending in
half gives tokens that tile the rest. -/
theorem tiles_tokensFrom (mode : LineMode) (rest : List Char) :
    ∀ before, Parted before rest → Tiles before rest
      (tokensFrom mode (.between before rest) rest) := by
  induction mode, rest using scan_induction with
  | nil mode =>
      intro before _
      rw [tokensFrom_nil]
      -- The scan of no characters has no blanks either.
      have hend := @Tiles.eof before [] (fun _ h => nomatch h)
      rwa [List.append_nil] at hend
  | blank mode c rest hc ih =>
      intro before hparted
      have hline : Inline [c] := inline_cons.2
        ⟨(isInlineBlank_iff.1 hc).2, inline_nil⟩
      have hnext : Cursor.between (before ++ [c]) rest
          = (Cursor.between before (c :: rest)).past [c] :=
        Cursor.between_inline hline
      rw [tokensFrom_blank hc, ← hnext]
      exact (ih (before ++ [c]) (hparted.append_inline hline)).blank hc
  | lexeme mode c kind more mode' rest hc hread ih =>
      intro before hparted
      have hkind := Lexeme.kind_read_ne_eof mode c (more ++ rest)
      rw [hread] at hkind
      rw [tokensFrom_lexeme more hc hread, Cursor.pastLexeme_between hread]
      have htoken := @Tiles.token before [] (c :: more) rest kind _
        (fun _ h => nomatch h) (List.cons_ne_nil _ _) hkind
        (by simpa using hparted)
        (ih _ (parted_append_lexeme hread hparted))
      simpa using htoken

/-- Scanning from the start, the tokens tile the whole source. -/
theorem tiles_tokenize (source : String) :
    Tiles [] source.toList (tokenize source) := by
  rw [tokenize, ← @Cursor.between_nil source.toList]
  exact tiles_tokensFrom .start source.toList [] parted_nil_left

/-- Every token of a text stands in it. -/
theorem standsIn_of_mem_tokenize {source : String} {token : Token}
    (h : token ∈ tokenize source) : token.span.StandsIn source.toList :=
  (tiles_tokenize source).standsIn token h

/-- Lines and columns are at most one more than the number of characters,
so that counters of 32 bits would do for any source that has fewer than
`2 ^ 32 - 1` of them. -/
theorem counters_le_length (source : String) :
    ∀ token ∈ tokenize source,
      token.span.line ≤ source.toList.length + 1
        ∧ token.span.column ≤ source.toList.length + 1 := by
  intro token htoken
  obtain ⟨before, text, after, hsplit, -, hspan⟩ :=
    standsIn_of_mem_tokenize htoken
  have hlength : before.length ≤ source.toList.length := by
    simp [hsplit]
  obtain ⟨hline, hcolumn⟩ := @Cursor.between_le before (text ++ after)
  rw [hspan]
  exact ⟨by simp [Span.fromCursor]; omega, by simp [Span.fromCursor]; omega⟩

/-- The tokens of a source tile it. The last one and no other is the end
of the source: it stands there and is empty, and every other one holds
something. None overlaps the next. Each takes up whole characters; its
line is one more than the number of line endings that end up to its start,
and its column one more than the number of characters from the last of
these to its start. The characters that no token takes up are blanks that
do not end a line. -/
theorem tokenize_tiles (source : String) :
    (∃ inner last, tokenize source = inner ++ [last] ∧ last.kind = .eof
      ∧ last.span.start = utf8Length source.toList
      ∧ last.span.stop = utf8Length source.toList
      ∧ ∀ token ∈ inner,
        token.kind ≠ .eof ∧ token.span.start < token.span.stop)
    ∧ (tokenize source).Pairwise (fun a b => a.span.stop ≤ b.span.start)
    ∧ (∀ token ∈ tokenize source, ∃ before text after,
      source.toList = before ++ (text ++ after)
        ∧ token.span.start = utf8Length before
        ∧ token.span.stop = utf8Length (before ++ text)
        ∧ token.span.line
          = (lineEnds source.toList before.length).length + 1
        ∧ token.span.column = before.length
          - (lineEnds source.toList before.length).getLastD 0 + 1)
    ∧ ∀ before c after, source.toList = before ++ c :: after →
      isInlineBlank c = true ∨ ∃ token ∈ tokenize source,
        token.span.start ≤ utf8Length before
          ∧ utf8Length (before ++ [c]) ≤ token.span.stop := by
  have htiles := tiles_tokenize source
  refine ⟨htiles.exists_eof, htiles.pairwise, fun token htoken => ?_,
    htiles.covers⟩
  obtain ⟨before, text, after, hsplit, -, hspan⟩ :=
    standsIn_of_mem_tokenize htoken
  refine ⟨before, text, after, hsplit, ?_⟩
  rw [hspan, hsplit]
  exact ⟨rfl, rfl, rfl, rfl⟩

end WordGrammar
