/-
A declaration's span is the text of that declaration.

The parser makes each declaration of tokens that follow one another, those
of the next declaration after them (`Consecutive`, `consecutive_parse`),
and its span goes from the first of these to the last (`Makes`). Tokens do
not overlap, so neither do spans. And the tokens of a declaration are read
as such again if nothing else of the text is there: what opens one is read
alike wherever it stands (`Spells.lineKinds_start`), the rest follows in
the mode it was read in before, and no form needs more than its own
tokens (`Spells.exists_parse`). So the text of a span holds the same
declaration and no other (`parse_spans`).
-/
import WordGrammar.Proofs.Declaration.Context
import WordGrammar.Proofs.Token.Slice

namespace WordGrammar

open Text

namespace Declaration

/-- The declaration, as if it stood somewhere else. -/
def withSpan (span : Span) : Declaration → Declaration
  | .group id patterns _ => .group id patterns span
  | .soundChange pattern replacement _ =>
      .soundChange pattern replacement span
  | .comment text _ => .comment text span
  | .blank _ => .blank span

-- ========================================= the tokens of a declaration

/-- `Spells kinds declaration`: tokens of these kinds, and no others, make
up the declaration, wherever it stands. -/
inductive Spells : List TokenKind → Declaration → Prop
  | comment {text : String} {span : Span} :
      Spells [.comment text] (.comment text span)
  | blank {span : Span} : Spells [.newline] (.blank span)
  | group {id : RuleId} {patterns : List String} {span : Span} :
      patterns ≠ [] →
      Spells (.head id :: patterns.map .word) (.group id patterns span)
  | soundChange {pattern replacement : String} {span : Span} :
      Spells [.regex pattern, .arrow, .replacement replacement]
        (.soundChange pattern replacement span)

/-- `Makes tokens declaration`: the tokens make up the declaration, and its
span goes from the start of the first to the end of the last of them. -/
structure Makes (tokens : List Token) (declaration : Declaration) :
    Prop where
  spells : Spells (tokens.map Token.kind) declaration
  start : ∃ first, tokens.head? = some first
    ∧ declaration.span.start = first.span.start
  stop : ∃ last, tokens.getLast? = some last
    ∧ declaration.span.stop = last.span.stop

/-- `Consecutive tokens declarations`: among the tokens are those of the
first declaration, after them those of the second, and so on. -/
inductive Consecutive : List Token → List Declaration → Prop
  | nil {tokens : List Token} : Consecutive tokens []
  | skip {token : Token} {tokens : List Token}
      {declarations : List Declaration} : Consecutive tokens declarations →
      Consecutive (token :: tokens) declarations
  | cons {here after : List Token} {declaration : Declaration}
      {declarations : List Declaration} : Makes here declaration →
      Consecutive after declarations →
      Consecutive (here ++ after) (declaration :: declarations)

/-- No declaration is made of the end of the source. -/
theorem Spells.ne_eof {kinds : List TokenKind} {declaration : Declaration}
    (h : Spells kinds declaration) : ∀ kind ∈ kinds, kind ≠ .eof := by
  cases h <;> simp

section

variable {a b tokens : List Token} {declaration : Declaration}
  {ds es : List Declaration}

/-- Tokens that nothing is made of may come first. -/
theorem Consecutive.append_left (h : Consecutive b ds) :
    Consecutive (a ++ b) ds := by
  induction a with
  | nil => exact h
  | cons token a ih => exact .skip ih

/-- What is made of two runs of tokens, one after the other. -/
theorem Consecutive.append (ha : Consecutive a ds)
    (hb : Consecutive b es) : Consecutive (a ++ b) (ds ++ es) := by
  induction ha with
  | nil => exact hb.append_left
  | skip _ ih => exact .skip ih
  | cons hmakes _ ih =>
      rw [List.append_assoc]
      exact .cons hmakes ih

/-- Tokens that nothing is made of may come last. -/
theorem Consecutive.append_right (h : Consecutive a ds) :
    Consecutive (a ++ b) ds := by
  have hmore := h.append (@Consecutive.nil b)
  rwa [List.append_nil] at hmore

theorem Consecutive.singleton (h : Makes tokens declaration) :
    Consecutive tokens [declaration] := by
  have hone := Consecutive.cons h (@Consecutive.nil [])
  rwa [List.append_nil] at hone

/-- Every declaration is made of tokens that follow one another. -/
theorem Consecutive.exists_makes (h : Consecutive tokens ds)
    (hmem : declaration ∈ ds) : ∃ front here back,
      tokens = front ++ (here ++ back) ∧ Makes here declaration := by
  induction h with
  | nil => cases hmem
  | @skip token _ _ _ ih =>
      obtain ⟨front, here, back, rfl, hmakes⟩ := ih hmem
      exact ⟨token :: front, here, back, rfl, hmakes⟩
  | @cons first after _ _ hmakes _ ih =>
      rcases List.mem_cons.1 hmem with rfl | hmem
      · exact ⟨[], first, after, rfl, hmakes⟩
      · obtain ⟨front, here, back, rfl, hmakes⟩ := ih hmem
        exact ⟨first ++ front, here, back, by simp, hmakes⟩

/-- Declarations do not overlap if the tokens do not. -/
theorem Consecutive.pairwise (h : Consecutive tokens ds)
    (htokens : tokens.Pairwise fun a b => a.span.stop ≤ b.span.start) :
    ds.Pairwise fun a b => a.span.stop ≤ b.span.start := by
  induction h with
  | nil => exact .nil
  | skip _ ih => exact ih (List.pairwise_cons.1 htokens).2
  | cons hmakes hafter ih =>
      obtain ⟨-, hrest, hbefore⟩ := List.pairwise_append.1 htokens
      refine List.pairwise_cons.2 ⟨fun later hlater => ?_, ih hrest⟩
      -- The last token of the one declaration is before the first token of
      -- the other.
      obtain ⟨front, here, back, rfl, hmakes'⟩ :=
        hafter.exists_makes hlater
      obtain ⟨last, hlast, hstop⟩ := hmakes.stop
      obtain ⟨first, hfirst, hstart⟩ := hmakes'.start
      rw [hstop, hstart]
      refine hbefore last (List.mem_of_getLast? hlast) first ?_
      exact List.mem_append_right _
        (List.mem_append_left _ (List.mem_of_head? hfirst))

end

-- ======================================================= what is parsed

/-- The token of a word. -/
def wordToken (word : String × Span) : Token := ⟨.word word.1, word.2⟩

/-- The leading words are the first tokens. -/
theorem take_leadingWords (tokens : List Token) :
    tokens.take (leadingWords tokens).length
      = (leadingWords tokens).map wordToken := by
  induction tokens with
  | nil => rfl
  | cons token tokens ih =>
      obtain ⟨kind, span⟩ := token
      cases kind with
      | word text => exact congrArg (wordToken (text, span) :: ·) ih
      | _ => rfl

theorem leadingWords_map (words : List (String × Span)) :
    leadingWords (words.map wordToken) = words := by
  induction words with
  | nil => rfl
  | cons word words ih => exact congrArg (word :: ·) ih

/-- Tokens that are all words. -/
theorem exists_words {tokens : List Token} {texts : List String}
    (h : tokens.map Token.kind = texts.map .word) :
    ∃ words : List (String × Span),
      tokens = words.map wordToken ∧ words.map Prod.fst = texts := by
  induction tokens generalizing texts with
  | nil =>
      cases texts with
      | nil => exact ⟨[], rfl, rfl⟩
      | cons text texts => cases h
  | cons token tokens ih =>
      cases texts with
      | nil => cases h
      | cons text texts =>
          obtain ⟨kind, span⟩ := token
          obtain ⟨rfl, hrest⟩ := List.cons.inj h
          obtain ⟨words, rfl, rfl⟩ := ih hrest
          exact ⟨(text, span) :: words, rfl, rfl⟩

section

variable {source : String} {tokens : List Token} {ds : List Declaration}

/-- A comment is made of its own token, and is as long. -/
theorem makes_comment {text : String} {span : Span} :
    Makes [⟨.comment text, span⟩] (.comment text span) :=
  ⟨.comment, ⟨_, rfl, rfl⟩, ⟨_, rfl, rfl⟩⟩

/-- A remark after a declaration is made of the tokens there. -/
theorem consecutive_trailing (h : trailing source tokens = .ok ds) :
    Consecutive tokens ds := by
  rcases tokens with _ | ⟨⟨kind, span⟩, rest⟩
  · cases h
    exact .nil
  cases kind with
  | comment text =>
      rcases rest with _ | ⟨next, rest⟩
      · cases h
        exact .singleton makes_comment
      · cases h
  | _ => cases h

/-- A declaration in front of a remark. -/
theorem consecutive_before {here : List Token} {declaration : Declaration}
    (hmakes : Makes here declaration)
    (h : (do
      let comments ← trailing source tokens
      Except.ok (declaration :: comments)) = .ok ds) :
    Consecutive (here ++ tokens) ds := by
  cases hread : trailing source tokens with
  | error e => rw [hread] at h; cases h
  | ok comments =>
      rw [hread] at h
      cases h
      exact .cons hmakes (consecutive_trailing hread)

/-- A rule is made of its head and the words after it, and stops where the
last of them does. -/
theorem consecutive_ofGroup {id : RuleId} {head : Span}
    (h : ofGroup source id head tokens = .ok ds) :
    Consecutive (⟨.head id, head⟩ :: tokens) ds := by
  -- The words are the tokens that the parser took off the front, which it
  -- does not say.
  have htake := take_leadingWords tokens
  unfold ofGroup at h
  dsimp only at h
  generalize leadingWords tokens = words at h htake
  cases hlast : words.getLast? with
  | none => rw [hlast] at h; cases h
  | some last =>
      rw [hlast] at h
      have hne : words ≠ [] := by
        rintro rfl
        cases hlast
      have hmakes : Makes (⟨.head id, head⟩ :: words.map wordToken)
          (.group id (words.map Prod.fst) (head.through last.2)) := by
        refine ⟨?_, ⟨_, rfl, rfl⟩, ⟨wordToken last, ?_, rfl⟩⟩
        · have hkinds : (words.map wordToken).map Token.kind
              = (words.map Prod.fst).map .word := by
            rw [List.map_map, List.map_map]
            rfl
          rw [List.map_cons, hkinds]
          exact .group (mt List.map_eq_nil_iff.1 hne)
        · rw [List.getLast?_cons, List.getLast?_map, hlast]
          rfl
      have hbefore := consecutive_before hmakes h
      rwa [← htake, List.cons_append, List.take_append_drop] at hbefore

/-- A sound change is made of its three tokens. -/
theorem consecutive_ofSoundChange {pattern : String} {start : Span}
    {terminator : Token}
    (h : ofSoundChange source pattern start tokens terminator = .ok ds) :
    Consecutive (⟨.regex pattern, start⟩ :: tokens) ds := by
  rcases tokens with _ | ⟨⟨kind, span⟩, tokens⟩
  · cases h
  unfold ofSoundChange at h
  dsimp only at h
  by_cases harrow : kind = .arrow
  · subst harrow
    rw [if_pos rfl] at h
    rcases tokens with _ | ⟨⟨kind, span'⟩, tokens⟩
    · cases h
    cases kind with
    | replacement body =>
        have hmakes : Makes [⟨.regex pattern, start⟩, ⟨.arrow, span⟩,
            ⟨.replacement body, span'⟩]
            (.soundChange pattern body (start.through span')) :=
          ⟨.soundChange, ⟨_, rfl, rfl⟩, ⟨_, rfl, rfl⟩⟩
        exact consecutive_before hmakes h
    | _ => cases h
  · rw [if_neg harrow] at h
    cases h

/-- What a line declares is made of its tokens, or of the token that ends
it if the line is empty. -/
theorem consecutive_ofLine {line : TokenLine}
    (hends : line.terminator.kind.endsLine = true)
    (h : ofLine source line = .ok ds) :
    Consecutive (line.tokens ++ [line.terminator]) ds := by
  -- An empty line is made of its ending alone; every other line of tokens
  -- before it.
  obtain ⟨_ | ⟨⟨kind, span⟩, rest⟩, ⟨final, span'⟩⟩ := line
  · unfold ofLine at h
    dsimp only at h hends
    split at h
    · cases h
      exact .nil
    · next hfinal =>
        cases h
        cases final with
        | newline => exact .singleton ⟨.blank, ⟨_, rfl, rfl⟩, ⟨_, rfl, rfl⟩⟩
        | eof => exact absurd rfl hfinal
        | _ => cases hends
  refine Consecutive.append_right ?_
  cases kind with
  | comment text => exact consecutive_before makes_comment h
  | head id => exact consecutive_ofGroup h
  | regex pattern => exact consecutive_ofSoundChange h
  | _ => cases h

/-- What lines declare is made of their tokens, line by line. -/
theorem consecutive_ofLines {ls : List TokenLine}
    (hends : ∀ line ∈ ls, line.terminator.kind.endsLine = true)
    (h : ofLines source ls = .ok ds) :
    Consecutive (ls.flatMap fun line => line.tokens ++ [line.terminator])
      ds := by
  induction ls generalizing ds with
  | nil =>
      cases h
      exact .nil
  | cons line ls ih =>
      obtain ⟨hline, hls⟩ := List.forall_mem_cons.1 hends
      unfold ofLines at h
      cases hhere : ofLine source line with
      | error e => rw [hhere] at h; cases h
      | ok here =>
          cases hafter : ofLines source ls with
          | error e => rw [hhere, hafter] at h; cases h
          | ok after =>
              rw [hhere, hafter] at h
              cases h
              exact (consecutive_ofLine hline hhere).append (ih hls hafter)

end

end Declaration

namespace TokenLine

variable {tokens : List Token}

/-- The terminator of a line ends it. -/
theorem endsLine_of_mem_split :
    ∀ line ∈ split tokens, line.terminator.kind.endsLine = true := by
  induction tokens with
  | nil => exact fun _ h => nomatch h
  | cons token tokens ih =>
      unfold split
      split
      · next hends => exact List.forall_mem_cons.2 ⟨hends, ih⟩
      · split
        · exact fun _ h => nomatch h
        · next line lines hsplit =>
            rw [hsplit] at ih
            obtain ⟨hline, hlines⟩ := List.forall_mem_cons.1 ih
            exact List.forall_mem_cons.2 ⟨hline, hlines⟩

/-- The lines hold all tokens, up to the last one that ends a line. -/
theorem flatMap_split_prefix :
    (split tokens).flatMap (fun line => line.tokens ++ [line.terminator])
      <+: tokens := by
  induction tokens with
  | nil => exact List.nil_prefix
  | cons token tokens ih =>
      unfold split
      split
      · exact (List.prefix_cons_inj token).2 ih
      · split
        · exact List.nil_prefix
        · next line lines hsplit =>
            rw [hsplit] at ih
            exact (List.prefix_cons_inj token).2 ih

end TokenLine

namespace Declaration

variable {source : String} {ds : List Declaration}

/-- The declarations of a text are made of its tokens, each of tokens that
follow one another, and in their order. -/
theorem consecutive_parse (h : parse source = .ok ds) :
    Consecutive (tokenize source) ds := by
  obtain ⟨rest, hrest⟩ := @TokenLine.flatMap_split_prefix (tokenize source)
  have hlines := consecutive_ofLines TokenLine.endsLine_of_mem_split h
  rw [← hrest]
  exact hlines.append_right

end Declaration

-- =============================================== reading it once more

namespace Lexeme

variable {mode mode' : LineMode} {c : Char} {cs more : List Char}
  {kind : TokenKind}

/-- A lexeme begins with the end of a line just if it is one. -/
theorem isLineEnd_iff_of_read (h : read mode c cs = ⟨kind, more, mode'⟩) :
    isLineEnd c = true ↔ kind = .newline := by
  constructor
  · intro hc
    rw [read_newline hc] at h
    unfold newline at h
    split at h <;> cases h <;> rfl
  · rintro rfl
    by_contra hc
    have hwithin : (read mode c cs).Within cs :=
      within_read (by simpa using hc)
    rw [h] at hwithin
    cases hwithin.not_endsLine

/-- A rule or a sound change is only ever opened at the start of a line. -/
theorem mode_of_read (h : read mode c cs = ⟨kind, more, mode'⟩)
    (hkind : (∃ id, kind = .head id) ∨ ∃ body, kind = .regex body) :
    mode = .start := by
  have hc : isLineEnd c = false := by
    rw [← Bool.not_eq_true, isLineEnd_iff_of_read h]
    rcases hkind with ⟨id, rfl⟩ | ⟨body, rfl⟩ <;> exact nofun
  have hhash : c ≠ '#' := by
    refine ne_hash_of_read h fun text => ?_
    rcases hkind with ⟨id, rfl⟩ | ⟨body, rfl⟩ <;> exact nofun
  -- After a head everything is a word, and a sound change goes on with
  -- neither.
  cases mode with
  | start => rfl
  | group =>
      rw [read_group hc hhash] at h
      rcases hkind with ⟨id, rfl⟩ | ⟨body, rfl⟩ <;> cases h
  | soundChange =>
      rw [read_soundChange hc hhash] at h
      rcases inSoundChange_cases c cs with
        ⟨-, heq⟩ | ⟨-, _, _, -, heq⟩ | ⟨_, _, -, heq⟩
      all_goals
        rw [heq] at h
        rcases hkind with ⟨id, rfl⟩ | ⟨body, rfl⟩ <;> cases h

/-- A comment and a line ending are read alike wherever they stand. -/
theorem read_start_of_read (h : read mode c cs = ⟨kind, more, mode'⟩)
    (hkind : (∃ text, kind = .comment text) ∨ kind = .newline) :
    read .start c cs = ⟨kind, more, .start⟩ := by
  by_cases hc : isLineEnd c = true
  · rw [read_newline hc] at h ⊢
    unfold newline at h ⊢
    split at h <;> cases h <;> rfl
  · obtain ⟨text, rfl⟩ : ∃ text, kind = .comment text :=
      hkind.resolve_right (mt (isLineEnd_iff_of_read h).2 hc)
    obtain rfl := read_eq_comment (by simpa using hc)
      (congrArg Lexeme.kind h)
    rw [read_comment] at h ⊢
    cases h
    rfl

end Lexeme

section

variable {mode : LineMode} {text : List Char} {kind : TokenKind}
  {kinds : List TokenKind}

/-- A text that opens with a rule or a sound change has been read as the
start of a line. -/
theorem mode_of_lineKinds (h : lineKinds mode text = kind :: kinds)
    (hkind : (∃ id, kind = .head id) ∨ ∃ body, kind = .regex body) :
    mode = .start := by
  obtain ⟨blanks, c, more, mode', rest, -, -, hread, -, -⟩ :=
    lineKinds_eq_cons.1 h
  exact Lexeme.mode_of_read hread hkind

/-- A comment or an end of line that makes up a text does so at its start
too. -/
theorem lineKinds_start_of_singleton (h : lineKinds mode text = [kind])
    (hkind : (∃ text, kind = .comment text) ∨ kind = .newline) :
    lineKinds .start text = [kind] := by
  obtain ⟨blanks, c, more, mode', rest, hblanks, hc, hread, hrest, rfl⟩ :=
    lineKinds_eq_cons.1 h
  exact lineKinds_eq_cons.2 ⟨blanks, c, more, .start, rest, hblanks, hc,
    Lexeme.read_start_of_read hread hkind,
    lineKinds_eq_nil.2 (lineKinds_eq_nil.1 hrest), rfl⟩

end

namespace Declaration

/-- The tokens of a declaration are read again at the start of a text. -/
theorem Spells.lineKinds_start {mode : LineMode} {text : List Char}
    {kinds : List TokenKind} {declaration : Declaration}
    (hspells : Spells kinds declaration) (h : lineKinds mode text = kinds) :
    lineKinds .start text = kinds := by
  cases hspells with
  | comment => exact lineKinds_start_of_singleton h (.inl ⟨_, rfl⟩)
  | blank => exact lineKinds_start_of_singleton h (.inr rfl)
  | group =>
      obtain rfl := mode_of_lineKinds h (.inl ⟨_, rfl⟩)
      exact h
  | soundChange =>
      obtain rfl := mode_of_lineKinds h (.inr ⟨_, rfl⟩)
      exact h

/-- A source of one line is parsed as that line is. -/
theorem parse_of_line {source : String} {tokens : List Token} {last : Token}
    {ds : List Declaration} (hsource : tokenize source = tokens ++ [last])
    (htokens : ∀ kind ∈ tokens.map Token.kind, kind.endsLine = false)
    (hlast : last.kind.endsLine = true)
    (h : ofLine source ⟨tokens, last⟩ = .ok ds) :
    parse source = .ok ds := by
  have hsplit : TokenLine.split (tokens ++ [last]) = [⟨tokens, last⟩] :=
    TokenLine.split_append
      (fun token htoken => htokens _ (List.mem_map_of_mem htoken)) hlast
  rw [parse, hsource, hsplit, ofLines, h]
  exact congrArg Except.ok (List.append_nil ds)

/-- A text whose tokens make up a declaration holds it and no other. -/
theorem Spells.exists_parse {text : List Char} {kinds : List TokenKind}
    {declaration : Declaration} (hspells : Spells kinds declaration)
    (h : lineKinds .start text = kinds) :
    ∃ span, parse (String.ofList text)
      = .ok [declaration.withSpan span] := by
  obtain ⟨inner, last, htokens, heof, -⟩ :=
    (tiles_tokenize (String.ofList text)).exists_eof
  -- The text has these tokens and then its end.
  have hkinds : inner.map Token.kind = kinds := by
    have hscan : tokensFrom .start .start text = inner ++ [last] := by
      rw [← htokens, tokenize, String.toList_ofList]
    rw [← h, lineKinds, hscan, List.map_append, List.map_singleton,
      List.dropLast_concat]
  have hends : last.kind.endsLine = true := by rw [heof]; rfl
  cases hspells with
  | @comment text =>
      obtain ⟨⟨_, span⟩, rfl, rfl⟩ := List.map_eq_singleton_iff.1 hkinds
      exact ⟨span, parse_of_line htokens (by simp [TokenKind.endsLine])
        hends rfl⟩
  | blank =>
      -- the ending is a line's, and nothing stands on the line after it
      obtain ⟨⟨_, span⟩, rfl, rfl⟩ := List.map_eq_singleton_iff.1 hkinds
      refine ⟨span, ?_⟩
      rw [parse, htokens]
      simp [TokenLine.split, TokenKind.endsLine, heof, ofLines, ofLine,
        withSpan]
      rfl
  | @group id patterns _ hne =>
      obtain ⟨⟨_, head⟩, rest, rfl, rfl, hrest⟩ :=
        List.map_eq_cons_iff.1 hkinds
      obtain ⟨words, rfl, rfl⟩ := exists_words hrest
      obtain ⟨final, hfinal⟩ := Option.ne_none_iff_exists'.1
        (mt List.getLast?_eq_none_iff.1 (mt List.map_eq_nil_iff.2 hne))
      refine ⟨head.through final.2, parse_of_line htokens ?_ hends ?_⟩
      · intro kind hkind
        rw [hkinds] at hkind
        rcases List.mem_cons.1 hkind with rfl | hkind
        · rfl
        · obtain ⟨_, -, rfl⟩ := List.mem_map.1 hkind
          rfl
      · show ofGroup _ id head (words.map wordToken) = _
        have hdrop : (words.map wordToken).drop words.length = [] := by simp
        simp only [ofGroup, leadingWords_map, hfinal, hdrop]
        rfl
  | soundChange =>
      obtain ⟨⟨_, start⟩, rest, rfl, rfl, hrest⟩ :=
        List.map_eq_cons_iff.1 hkinds
      obtain ⟨⟨_, arrow⟩, more, rfl, rfl, hmore⟩ :=
        List.map_eq_cons_iff.1 hrest
      obtain ⟨⟨_, final⟩, rfl, rfl⟩ := List.map_eq_singleton_iff.1 hmore
      exact ⟨start.through final,
        parse_of_line htokens (by simp [TokenKind.endsLine]) hends rfl⟩

/-- The stretch between two places of a text is what stands there. -/
theorem text?_of_split {span : Span} {source : String}
    {before text after : List Char}
    (h : source.toList = before ++ (text ++ after))
    (hstart : span.start = utf8Length before)
    (hstop : span.stop = utf8Length (before ++ text)) :
    span.text? source = some (String.ofList text) := by
  rw [Span.text?, hstart, hstop, h, slice?_append]
  rfl

/-- A declaration that is made of tokens of a text stands on some of its
characters, and these hold it and no other. -/
theorem Makes.exists_text {source : String} {front here back : List Token}
    {declaration : Declaration} (h : Makes here declaration)
    (hsource : tokenize source = front ++ (here ++ back)) :
    ∃ before text after, source.toList = before ++ (text ++ after)
      ∧ declaration.span.start = utf8Length before
      ∧ declaration.span.stop = utf8Length (before ++ text)
      ∧ declaration.span.start < declaration.span.stop
      ∧ declaration.span.text? source = some (String.ofList text)
      ∧ ∃ span, parse (String.ofList text)
        = .ok [declaration.withSpan span] := by
  obtain ⟨first, hfirst, hstart⟩ := h.start
  obtain ⟨last, hlast, hstop⟩ := h.stop
  obtain ⟨before, text, after, mode, hsplit, hne, hkinds, hbefore, htext⟩ :=
    exists_stretch_between hfirst hlast
      (fun token htoken => h.spells.ne_eof _ (List.mem_map_of_mem htoken))
      hsource
  rw [show Cursor.start.offset = 0 from rfl, Nat.zero_add] at hbefore htext
  rw [← hstart] at hbefore
  rw [← hstop] at htext
  have hpos := utf8Length_pos hne
  refine ⟨before, text, after, hsplit, hbefore, htext, ?_,
    text?_of_split hsplit hbefore htext,
    h.spells.exists_parse (h.spells.lineKinds_start hkinds)⟩
  rw [hbefore, htext, utf8Length_append]
  omega

/-- Where the declarations of a text stand. Each span holds something and
does not cut a character; they come in the order of the text, each after
the end of the one before it; and what a span holds is, as a text of its
own, the same declaration and no other. -/
theorem parse_spans {source : String} {declarations : List Declaration}
    (h : parse source = .ok declarations) :
    declarations.Pairwise (fun a b =>
        a.span.start < b.span.start ∧ a.span.stop ≤ b.span.start)
      ∧ ∀ declaration ∈ declarations, ∃ before text after,
        source.toList = before ++ (text ++ after)
          ∧ declaration.span.start = utf8Length before
          ∧ declaration.span.stop = utf8Length (before ++ text)
          ∧ declaration.span.start < declaration.span.stop
          ∧ declaration.span.text? source = some (String.ofList text)
          ∧ ∃ span, parse (String.ofList text)
            = .ok [declaration.withSpan span] := by
  have hmade := consecutive_parse h
  have hdisjoint := hmade.pairwise (tiles_tokenize source).pairwise
  constructor
  -- A span that holds something starts before the next one does, as it
  -- stops no later than that starts.
  · refine hdisjoint.imp_of_mem fun {a b} ha _ hab => ⟨?_, hab⟩
    obtain ⟨front, here, back, htokens, hmakes⟩ := hmade.exists_makes ha
    obtain ⟨_, _, _, -, -, -, hsome, -⟩ := hmakes.exists_text htokens
    omega
  · intro declaration hmem
    obtain ⟨front, here, back, htokens, hmakes⟩ := hmade.exists_makes hmem
    exact hmakes.exists_text htokens

/-- A rule, a comment after it, a sound change, a comment with no text
and an empty line, with three kinds of line endings. -/
theorem parse_spans_mixed : ∃ ds,
    parse " V : a é # x\r/a\\// > \"b\"#\n\r\n" = .ok ds
      ∧ ds = [.group (.named 'V') ["a", "é"] ⟨1, 9, 1, 2⟩,
        .comment "x" ⟨10, 13, 1, 10⟩,
        .soundChange "a/" "b" ⟨14, 25, 2, 1⟩,
        .comment "" ⟨25, 26, 2, 12⟩, .blank ⟨27, 29, 3, 1⟩]
      ∧ ds.Pairwise (fun a b =>
        a.span.start < b.span.start ∧ a.span.stop ≤ b.span.start)
      ∧ ∀ d ∈ ds, ∃ text span,
        d.span.text? " V : a é # x\r/a\\// > \"b\"#\n\r\n" = some text
          ∧ parse text = .ok [d.withSpan span] := by
  have hparse : parse " V : a é # x\r/a\\// > \"b\"#\n\r\n" = .ok [
      .group (.named 'V') ["a", "é"] ⟨1, 9, 1, 2⟩,
      .comment "x" ⟨10, 13, 1, 10⟩,
      .soundChange "a/" "b" ⟨14, 25, 2, 1⟩,
      .comment "" ⟨25, 26, 2, 12⟩, .blank ⟨27, 29, 3, 1⟩] := by
    decide +kernel
  obtain ⟨horder, htexts⟩ := parse_spans hparse
  refine ⟨_, hparse, rfl, horder, fun d hd => ?_⟩
  obtain ⟨_, text, _, -, -, -, -, htext, span, hspan⟩ := htexts d hd
  exact ⟨_, span, htext, hspan⟩

end Declaration

end WordGrammar
