/-
Colours add nothing to a line but terminal codes.

`shown` is a text as a terminal shows it, without the codes in it. What is
painted may stand between other painted text, so what it shows is said for
whatever comes after it (`Shows`): a style shows nothing, a text without
the escape character shows itself, and what two texts show is put together
(`Shows.append`). The tokens of a line tile it, so that going over it from
token to token shows all of it, gaps included (`Tiles.shows_paintTokens`).
-/
import WordGrammar.Proofs.Token.Tiling
import WordGrammar.Shell.Highlight

namespace WordGrammar

open Text

namespace Shell

-- ======================================================= what is shown

/-- A text as a terminal shows it: each stretch from an escape character
to the next `m` is left out. `inCode` says whether the text starts within
such a stretch. -/
def shown (inCode : Bool) : List Char → List Char
  | [] => []
  | c :: cs =>
      if inCode then shown (c != 'm') cs
      else if c = Style.escape then shown true cs
      else c :: shown false cs

/-- A text without its terminal codes. -/
def withoutCodes (text : String) : String :=
  String.ofList (shown false text.toList)

example : withoutCodes "a\x1b[1;36mb\x1b[0mc\x1b[3" = "abc" := by decide

/-- `Shows painted text`: whatever follows it, `painted` shows `text`. -/
def Shows (painted text : List Char) : Prop :=
  ∀ rest, shown false (painted ++ rest) = text ++ shown false rest

section

variable {a b cs painted text : List Char}

/-- Painted texts show one after the other what each of them shows. -/
theorem Shows.append (ha : Shows a cs) (hb : Shows b text) :
    Shows (a ++ b) (cs ++ text) := by
  intro rest
  rw [List.append_assoc, ha, hb, List.append_assoc]

/-- What a text shows when nothing follows it. -/
theorem Shows.shown_eq (h : Shows painted text) :
    shown false painted = text := by
  have hall := h []
  rwa [List.append_nil, show shown false [] = [] from rfl,
    List.append_nil] at hall

/-- A text shows itself if no code starts in it. -/
theorem shows_self (h : Style.escape ∉ text) : Shows text text := by
  intro rest
  induction text with
  | nil => rfl
  | cons c text ih =>
      rw [List.mem_cons, not_or] at h
      obtain ⟨hc, htext⟩ := h
      rw [List.cons_append, shown, if_neg Bool.false_ne_true,
        if_neg (Ne.symm hc), ih htext, List.cons_append]

/-- A code goes on up to its `m`. -/
theorem shown_code (h : 'm' ∉ cs) (rest : List Char) :
    shown true (cs ++ 'm' :: rest) = shown false rest := by
  induction cs with
  | nil => rfl
  | cons c cs ih =>
      rw [List.mem_cons, not_or] at h
      obtain ⟨hc, hcs⟩ := h
      have hgoes : (c != 'm') = true := bne_iff_ne.2 (Ne.symm hc)
      rw [List.cons_append, shown, if_pos rfl, hgoes, ih hcs]

/-- A code shows nothing. -/
theorem shows_code (h : 'm' ∉ cs) :
    Shows (Style.escape :: (cs ++ ['m'])) [] := by
  intro rest
  rw [List.cons_append, List.append_assoc, List.singleton_append, shown,
    if_neg Bool.false_ne_true, if_pos rfl, shown_code h, List.nil_append]

/-- Painting a text does not change what it shows. -/
theorem Style.shows_paint {style : Style} (hstyle : 'm' ∉ style.codes.toList)
    (h : Shows painted text) : Shows (style.paint painted) text := by
  have hon : Shows style.on [] := by
    have hcodes : 'm' ∉ '[' :: style.codes.toList := by
      rw [List.mem_cons, not_or]
      exact ⟨by decide, hstyle⟩
    exact shows_code hcodes
  have hplain : Shows Style.plain [] :=
    @shows_code ['[', '0'] (by decide)
  -- One code switches the colour on and one switches it off again.
  have hall := (hon.append h).append hplain
  rwa [List.append_nil, List.nil_append] at hall

/-- Nor does going through it character by character. -/
theorem shows_flatMap {paint : Char → List Char}
    (h : ∀ c ∈ text, Shows (paint c) [c]) :
    Shows (text.flatMap paint) text := by
  induction text with
  | nil => exact fun rest => rfl
  | cons c text ih =>
      obtain ⟨hc, htext⟩ := List.forall_mem_cons.1 h
      exact hc.append (ih htext)

/-- A pattern is painted character by character, which adds codes only. -/
theorem shows_paintPattern (h : Style.escape ∉ text) :
    Shows (paintPattern text) text := by
  refine shows_flatMap fun c hc => ?_
  have hself : Shows [c] [c] :=
    shows_self fun hmem => h (List.mem_singleton.1 hmem ▸ hc)
  split
  · exact Style.shows_paint (by decide) hself
  · exact hself

/-- A token shows its own text, in whatever colour its kind is painted. -/
theorem shows_paintToken (kind : TokenKind) (h : Style.escape ∉ text) :
    Shows (paintToken kind text) text := by
  have hself := shows_self h
  cases kind with
  | word => exact shows_paintPattern h
  | head | regex | replacement | comment | invalid =>
      exact Style.shows_paint (by decide) hself
  | arrow | newline | eof => exact hself

/-- Between two places of a line is what stands there. -/
theorem stretch_append (before text after : List Char) :
    stretch (before ++ (text ++ after)) (utf8Length before)
      (utf8Length (before ++ text)) = text := by
  rw [stretch, slice?_append]
  rfl

theorem stretch_to_end (before text : List Char) :
    stretch (before ++ text) (utf8Length before)
      (utf8Length (before ++ text)) = text := by
  have hall := stretch_append before text []
  rwa [List.append_nil] at hall

/-- Up to the end of a token there is what stands before it as it is, and
its own text painted. -/
theorem paintTokens_cons {before gap rest : List Char} {token : Token}
    {tokens : List Token}
    (hstart : token.span.start = utf8Length (before ++ gap))
    (hstop : token.span.stop = utf8Length (before ++ (gap ++ text))) :
    paintTokens (before ++ (gap ++ (text ++ rest))) (utf8Length before)
        (token :: tokens)
      = gap ++ (paintToken token.kind text
        ++ paintTokens (before ++ (gap ++ (text ++ rest)))
          (utf8Length (before ++ (gap ++ text))) tokens) := by
  have hgap := stretch_append before gap (text ++ rest)
  have htext := stretch_append (before ++ gap) text rest
  have hmax : max (utf8Length before)
      (utf8Length (before ++ (gap ++ text)))
        = utf8Length (before ++ (gap ++ text)) := by
    rw [utf8Length_append]
    exact Nat.max_eq_right (Nat.le_add_right ..)
  rw [List.append_assoc, List.append_assoc] at htext
  simp only [paintTokens, hstart, hstop, hgap, htext, hmax,
    List.append_assoc]

end

end Shell

-- ========================================================= a whole line

open Shell in
/-- Going from token to token shows the text that the tokens tile: each
token is cut out where it stands, and what is cut out between two of them
is the blanks that part them. -/
theorem Tiles.shows_paintTokens {before rest : List Char}
    {tokens : List Token} (h : Tiles before rest tokens)
    (hrest : Style.escape ∉ rest) :
    Shows (paintTokens (before ++ rest) (utf8Length before) tokens)
      rest := by
  induction h with
  -- The last token is empty; all that is left before it is blanks.
  | @eof before blanks _ =>
      have hpaint := @paintTokens_cons [] before blanks []
        ⟨.eof, .fromCursor (.between (before ++ blanks) [])
          (utf8Length (before ++ blanks))⟩ [] rfl
        (by rw [List.append_nil]; rfl)
      have hend := stretch_to_end (before ++ blanks) []
      simp only [List.append_nil] at hpaint hend
      rw [hpaint, paintToken, paintTokens, hend, List.append_nil,
        List.append_nil]
      exact shows_self hrest
  | @token before blanks text rest kind tokens _ _ _ _ _ ih =>
      rw [List.mem_append, not_or, List.mem_append, not_or] at hrest
      obtain ⟨hblanks, htext, hmore⟩ := hrest
      have hafter := ih hmore
      simp only [List.append_assoc] at hafter
      rw [paintTokens_cons rfl rfl]
      exact (shows_self hblanks).append
        ((shows_paintToken kind htext).append hafter)

namespace Shell

/-- Colours change nothing of a line but for the codes they add, wherever
the caret is in it: a line with no escape character, of whatever text and
with whatever line endings, is what is left of its coloured form without
the codes. -/
theorem withoutCodes_highlight {line : String}
    (h : Style.escape ∉ line.toList) :
    withoutCodes (highlight line) = line := by
  have hshows : Shows (highlight line).toList line.toList := by
    unfold highlight
    dsimp only
    split
    · exact shows_self h
    · split
      · have hparts : line.toList.takeWhile (!isBlank ·)
            ++ line.toList.drop (line.toList.takeWhile (!isBlank ·)).length
              = line.toList := by
          rw [drop_length_takeWhile, List.takeWhile_append_dropWhile]
        rw [String.toList_ofList]
        rw [← hparts, List.mem_append, not_or] at h
        conv => arg 2; rw [← hparts]
        exact (Style.shows_paint (by decide) (shows_self h.1)).append
          (shows_self h.2)
      · rw [String.toList_ofList]
        exact (tiles_tokenize line).shows_paintTokens h
  rw [withoutCodes, hshows.shown_eq, String.ofList_toList]

/-- A rule with a reference, a comment, and a second line that is no
declaration. -/
theorem withoutCodes_highlight_lines :
    Style.escape ∉ "W: Cé #m\r/[1m".toList
      ∧ withoutCodes (highlight "W: Cé #m\r/[1m") = "W: Cé #m\r/[1m" :=
  ⟨by decide, withoutCodes_highlight (by decide)⟩

end Shell

end WordGrammar
