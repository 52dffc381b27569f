/-
Parsing a grammar line by line.

Each part of the parser reads the tokens it is given as the form they have,
or fails at one of them (`ReadsAs`, from `readsAs_trailing` up to
`readsAs_ofLine`). A text is read line by line, and each line as if it were
alone, so by `declares_iff` the declarations are what the lines declare and
the error is on the first line that has no form (`readsLines_parse`). That
gives the outcome of parsing (`parse_outcome`), and what an accepted text
says as a relation between texts and statements (`exists_parse_iff`).
-/
import WordGrammar.Proofs.Declaration.Form

namespace WordGrammar

open Text

/-- What a record declares, apart from where it stands. -/
def Record.statement : Record → Statement
  | .rule id patterns _ => .rule id patterns
  | .soundChange pattern replacement _ => .soundChange pattern replacement

namespace Declaration

/-- What some declarations declare, in their order. -/
def statements (declarations : List Declaration) : List Statement :=
  (Record.ofDeclarations declarations).map Record.statement

theorem statements_append {a b : List Declaration} :
    statements (a ++ b) = statements a ++ statements b := by
  simp [statements, Record.ofDeclarations]

-- ======================================================= reading one line

/-- `ReadsAs source place form outcome`: the declarations are what the form
allows, or, if it allows nothing, there is a syntax error at the place. -/
def ReadsAs (source : String) (place : Span → Prop)
    (form : Option Statement → Prop) :
    Except Error (List Declaration) → Prop
  | .ok declarations =>
      ∃ said, form said ∧ statements declarations = said.toList
  | .error e => (∀ said, ¬ form said)
      ∧ ∃ span, place span ∧ ∃ message, e = syntaxError source span message

section

variable {source : String} {place place' : Span → Prop}
  {form form' : Option Statement → Prop}
  {outcome : Except Error (List Declaration)}

/-- How a form is written does not matter. -/
theorem ReadsAs.congr (h : ReadsAs source place form outcome)
    (hform : ∀ said, form said ↔ form' said) :
    ReadsAs source place form' outcome := by
  rwa [← funext fun said => propext (hform said)]

/-- An error somewhere is an error in any larger part of the text. -/
theorem ReadsAs.mono (h : ReadsAs source place form outcome)
    (hplace : ∀ ⦃span⦄, place span → place' span) :
    ReadsAs source place' form outcome := by
  cases outcome with
  | ok declarations => exact h
  | error e =>
      obtain ⟨hno, span, hspan, herror⟩ := h
      exact ⟨hno, span, hplace hspan, herror⟩

/-- The error for a token that cannot stand where it does is at the
token. -/
theorem exists_unexpected (token : Token) (message : String) :
    ∃ message', unexpected source token message
      = syntaxError source token.span message' := by
  unfold unexpected
  split <;> exact ⟨_, rfl⟩

/-- A token that no form allows here is refused where it stands. -/
theorem readsAs_unexpected {token : Token} {message : String}
    (hform : ∀ said, ¬ form said) (hspan : place token.span) :
    ReadsAs source place form (.error (unexpected source token message)) :=
  ⟨hform, token.span, hspan, exists_unexpected token message⟩

/-- After a declaration only a remark can stand. -/
theorem readsAs_trailing {tokens : List Token} :
    ReadsAs source (· ∈ tokens.map Token.span)
      (fun said => said = none ∧ TokenRemark (tokens.map Token.kind))
      (trailing source tokens) := by
  rcases tokens with _ | ⟨⟨kind, span⟩, rest⟩
  · exact ⟨none, ⟨rfl, .blank⟩, rfl⟩
  -- The kinds other than a comment are refused in the same way, so they are
  -- one case.
  by_cases hcomment : ∃ text, kind = .comment text
  · obtain ⟨text, rfl⟩ := hcomment
    rcases rest with _ | ⟨next, rest⟩
    · exact ⟨none, ⟨rfl, .comment⟩, rfl⟩
    · exact readsAs_unexpected
        (fun said h => by cases (tokenRemark_cons.1 h.2).2) (by simp)
  · have hread : trailing source (⟨kind, span⟩ :: rest)
        = .error (expected source "end of line" ⟨kind, span⟩) := by
      cases kind with
      | comment text => exact absurd ⟨text, rfl⟩ hcomment
      | _ => rfl
    rw [hread]
    exact readsAs_unexpected
      (fun said h => hcomment (tokenRemark_cons.1 h.2).1) (by simp)

/-- A declaration in front of a remark declares something as a whole. -/
theorem ReadsAs.before (said : Option Statement) {remark : Prop}
    {declaration : Declaration}
    (h : ReadsAs source place (fun said => said = none ∧ remark) outcome)
    (hdeclaration : statements [declaration] = said.toList)
    (hform : ∀ said', form said' ↔ said' = said ∧ remark) :
    ReadsAs source place form (do
      let comments ← outcome
      .ok (declaration :: comments)) := by
  cases outcome with
  | error e =>
      exact ⟨fun said' hsaid => h.1 none ⟨rfl, ((hform said').1 hsaid).2⟩, h.2⟩
  | ok comments =>
      obtain ⟨said', ⟨rfl, hremark⟩, hcomments⟩ := h
      refine ⟨said, (hform said).2 ⟨rfl, hremark⟩, ?_⟩
      exact (statements_append (a := [declaration])).trans
        (by rw [hdeclaration, hcomments]; simp)

/-- The leading words of some tokens, and what follows them. -/
theorem leadingWords_spec (tokens : List Token) :
    tokens.map Token.kind
        = ((leadingWords tokens).map Prod.fst).map .word
          ++ (tokens.drop (leadingWords tokens).length).map Token.kind
      ∧ ∀ text, ((tokens.drop (leadingWords tokens).length).map
        Token.kind).head? ≠ some (.word text) := by
  induction tokens with
  | nil => exact ⟨rfl, by rintro text ⟨⟩⟩
  | cons token rest ih =>
      obtain ⟨kind, span⟩ := token
      cases kind with
      | word text =>
          exact ⟨congrArg (TokenKind.word text :: ·) ih.1, ih.2⟩
      | _ => exact ⟨rfl, by rintro text ⟨⟩⟩

/-- A rule is read as its tokens' form. Without alternatives the error is at
the head, since no other token need be there. -/
theorem readsAs_ofGroup {id : RuleId} {head : Span} {rest : List Token} :
    ReadsAs source (· ∈ head :: rest.map Token.span)
      (TokenForm (.head id :: rest.map Token.kind))
      (ofGroup source id head rest) := by
  obtain ⟨hkinds, hnext⟩ := leadingWords_spec rest
  have hform := tokenForm_head id ((leadingWords rest).map Prod.fst) hnext
  rw [← hkinds] at hform
  -- The last word, where the span of the rule ends, is there if there is a
  -- word at all.
  cases hlast : (leadingWords rest).getLast? with
  | none =>
      have hnil := List.getLast?_eq_none_iff.1 hlast
      have hread : ofGroup source id head rest = .error (syntaxError source
          head s!"rule {id.text} has no alternatives") := by
        simp only [ofGroup, hlast]
      rw [hread]
      refine ⟨fun said hsaid => ?_, head, List.mem_cons_self .., _, rfl⟩
      exact ((hform said).1 hsaid).2.1 (by rw [hnil]; rfl)
  | some last =>
      have hne : (leadingWords rest).map Prod.fst ≠ [] := by
        intro h
        rw [List.map_eq_nil_iff.1 h] at hlast
        cases hlast
      have hread : ofGroup source id head rest = (do
          let comments ←
            trailing source (rest.drop (leadingWords rest).length)
          .ok (.group id ((leadingWords rest).map Prod.fst)
            (head.through last.2) :: comments)) := by
        simp only [ofGroup, hlast]
      rw [hread]
      refine ReadsAs.before
        (some (.rule id ((leadingWords rest).map Prod.fst)))
        (readsAs_trailing.mono ?_) rfl
        fun said => (hform said).trans (by simp only [ne_eq, hne,
          not_false_eq_true, true_and])
      exact (List.Subset.trans (List.map_subset _ (List.drop_subset ..))
        (List.subset_cons_self ..))

/-- A sound change is read as its tokens' form. If the line ends too early,
the error is at its terminator. -/
theorem readsAs_ofSoundChange {pattern : String} {start : Span}
    {rest : List Token} {terminator : Token} :
    ReadsAs source (· ∈ start :: (rest ++ [terminator]).map Token.span)
      (TokenForm (.regex pattern :: rest.map Token.kind))
      (ofSoundChange source pattern start rest terminator) := by
  have hform := tokenForm_regex pattern (rest.map Token.kind)
  -- An arrow has to come first.
  rcases rest with _ | ⟨⟨kind, span⟩, rest⟩
  · refine readsAs_unexpected (fun said h => ?_) (by simp)
    obtain ⟨_, _, _, _, heq⟩ := (hform said).1 h
    cases heq
  by_cases harrow : kind = .arrow
  · subst harrow
    rcases rest with _ | ⟨⟨kind, span'⟩, rest⟩
    · refine readsAs_unexpected (fun said h => ?_) (by simp)
      obtain ⟨_, _, _, _, heq⟩ := (hform said).1 h
      cases heq
    -- After the arrow, a replacement.
    by_cases hkind : ∃ body, kind = .replacement body
    · obtain ⟨body, rfl⟩ := hkind
      refine ReadsAs.before (some (.soundChange pattern body))
        (readsAs_trailing.mono ?_) rfl fun said => (hform said).trans ⟨?_, ?_⟩
      · intro span hspan
        simp [hspan]
      · rintro ⟨_, _, rfl, hafter, heq⟩
        cases heq
        exact ⟨rfl, hafter⟩
      · rintro ⟨rfl, hafter⟩
        exact ⟨body, _, rfl, hafter, rfl⟩
    · have hread : ofSoundChange source pattern start
          (⟨.arrow, span⟩ :: ⟨kind, span'⟩ :: rest) terminator
            = .error (expected source "a quoted replacement"
              ⟨kind, span'⟩) := by
        cases kind with
        | replacement body => exact absurd ⟨body, rfl⟩ hkind
        | _ => rfl
      rw [hread]
      refine readsAs_unexpected (fun said h => ?_) (by simp)
      obtain ⟨_, _, _, _, heq⟩ := (hform said).1 h
      exact hkind ⟨_, (List.cons.inj (List.cons.inj heq).2).1⟩
  · have hread : ofSoundChange source pattern start (⟨kind, span⟩ :: rest)
        terminator = .error (expected source "'>'" ⟨kind, span⟩) := by
      simp only [ofSoundChange, if_neg harrow]
    rw [hread]
    refine readsAs_unexpected (fun said h => ?_) (by simp)
    obtain ⟨_, _, _, _, heq⟩ := (hform said).1 h
    exact harrow (List.cons.inj heq).1

end

/-- A line is read as its tokens' form, or the error is at one of its
tokens. -/
theorem readsAs_ofLine (source : String) (line : TokenLine) :
    ReadsAs source (· ∈ (line.tokens ++ [line.terminator]).map Token.span)
      (TokenForm (line.tokens.map Token.kind)) (ofLine source line) := by
  obtain ⟨_ | ⟨⟨kind, span⟩, rest⟩, terminator⟩ := line
  · unfold ofLine
    dsimp only
    split <;> exact ⟨none, .blank, rfl⟩
  cases kind with
  | comment text =>
      refine ReadsAs.before none (readsAs_trailing.mono ?_) rfl
        fun said => ⟨?_, ?_⟩
      · exact List.Subset.trans
          (List.map_subset _ (List.subset_append_left ..))
          (List.subset_cons_self ..)
      · rintro (_ | hafter)
        exact ⟨rfl, hafter⟩
      · rintro ⟨rfl, hafter⟩
        exact .comment hafter
  | head id =>
      refine readsAs_ofGroup.mono fun span hspan => ?_
      rw [List.map_append]
      exact List.mem_append_left _ hspan
  | regex pattern => exact readsAs_ofSoundChange
  | _ => exact readsAs_unexpected (fun said h => nomatch h) (by simp)

end Declaration

-- ========================================================== line by line

/-- The tokens of the line that starts at a cursor. -/
structure TokenLine.Scans (tokenLine : TokenLine) (cursor : Cursor)
    (line : List Char) : Prop where
  kinds : tokenLine.tokens.map Token.kind = lineKinds .start line
  begins : ∀ token ∈ tokenLine.tokens ++ [tokenLine.terminator],
    token.span.BeginsOn cursor line

namespace TokenLine

/-- A line of tokens goes up to the first of them that ends one. -/
theorem split_append {tokens rest : List Token} {terminator : Token}
    (htokens : ∀ token ∈ tokens, token.kind.endsLine = false)
    (hterminator : terminator.kind.endsLine = true) :
    split (tokens ++ terminator :: rest)
      = ⟨tokens, terminator⟩ :: split rest := by
  induction tokens with
  | nil => rw [List.nil_append, split, if_pos hterminator]
  | cons token tokens ih =>
      obtain ⟨htoken, htokens⟩ := List.forall_mem_cons.1 htokens
      rw [List.cons_append, split, if_neg (by simp [htoken]), ih htokens]

/-- The first of the lines that tokens are split into is scanned from the
first line of the text. -/
theorem exists_split {line after : List Char} (cursor : Cursor)
    {terminator : Token} {rest : List Token} {stop : Nat}
    (hline : Inline line) (hafter : AtLineEnd after)
    (hrest : tokensFrom .start (cursor.past line) after = terminator :: rest)
    (hterminator : terminator.kind.endsLine = true)
    (hspan : terminator.span = .fromCursor (cursor.past line) stop) :
    ∃ tokenLine : TokenLine, tokenLine.Scans cursor line
      ∧ split (tokensFrom .start cursor (line ++ after))
        = tokenLine :: split rest := by
  obtain ⟨tokens, hkinds, htokens, heq⟩ :=
    exists_tokensFrom_append hline hafter .start cursor
  refine ⟨⟨tokens, terminator⟩, ⟨hkinds, fun token htoken => ?_⟩, ?_⟩
  · rcases List.mem_append.1 htoken with htoken | htoken
    · exact (htokens token htoken).2
    · obtain rfl := List.mem_singleton.1 htoken
      exact ⟨line, [], stop, List.append_nil line, hspan⟩
  · rw [heq, hrest,
      split_append (fun token htoken => (htokens token htoken).1) hterminator]

end TokenLine

namespace Declaration

/-- A line is read as what it declares, or the error is on it. -/
theorem readsAs_of_scans {source : String} {tokenLine : TokenLine}
    {cursor : Cursor} {line : List Char} (h : tokenLine.Scans cursor line)
    (hline : Inline line) :
    ReadsAs source (·.BeginsOn cursor line) (Declares line)
      (ofLine source tokenLine) := by
  have hread := readsAs_ofLine source tokenLine
  rw [h.kinds] at hread
  refine (hread.congr fun said => (declares_iff hline).symm).mono ?_
  intro span hspan
  obtain ⟨token, htoken, rfl⟩ := List.mem_map.1 hspan
  exact h.begins token htoken

/-- `ReadsLines source number ls outcome`: the declarations are what the
lines declare, one after the other, or the error is a syntax error on the
first line that has no form; the lines are counted from `number`. -/
def ReadsLines (source : String) (number : Nat) (ls : List (List Char)) :
    Except Error (List Declaration) → Prop
  | .ok declarations => DeclaresAll ls (statements declarations)
  | .error e => ∃ before line after span message,
      ls = before ++ line :: after
        ∧ (∀ earlier ∈ before, ∃ said, Declares earlier said)
        ∧ (∀ said, ¬ Declares line said)
        ∧ span.line = number + before.length
        ∧ e = syntaxError source span message

/-- A line in front of others: if it has no form it is the first such line,
else the first one is among the others, one line further down. -/
theorem ReadsLines.cons {source : String} {number : Nat} {line : List Char}
    {ls : List (List Char)} {here after : Except Error (List Declaration)}
    (hhere : ReadsAs source (·.line = number) (Declares line) here)
    (hafter : ReadsLines source (number + 1) ls after) :
    ReadsLines source number (line :: ls) (do
      let here ← here
      let after ← after
      .ok (here ++ after)) := by
  cases here with
  | error e =>
      obtain ⟨hno, span, hspan, message, rfl⟩ := hhere
      exact ⟨[], line, ls, span, message, rfl, (fun _ h => nomatch h), hno,
        hspan, rfl⟩
  | ok here =>
      obtain ⟨said, hsaid, hstatements⟩ := hhere
      cases after with
      | error e =>
          obtain ⟨before, bad, rest, span, message, rfl, hbefore, hbad,
            hspan, rfl⟩ := hafter
          refine ⟨line :: before, bad, rest, span, message, rfl,
            List.forall_mem_cons.2 ⟨⟨said, hsaid⟩, hbefore⟩, hbad, ?_, rfl⟩
          rw [hspan, List.length_cons]
          omega
      | ok after =>
          change DeclaresAll (line :: ls) (statements (here ++ after))
          rw [statements_append, hstatements]
          exact .cons hsaid hafter

/-- Lines are read one by one, wherever the text stands. -/
theorem readsLines_ofLines {source : String} {cs : List Char}
    {ls : List (List Char)} (h : Lined cs ls) (cursor : Cursor) :
    ReadsLines source cursor.line ls
      (ofLines source (TokenLine.split (tokensFrom .start cursor cs))) := by
  -- Line by line. The text after an ending stands at another place, so the
  -- induction is for all of them.
  induction h generalizing cursor with
  | @last line hline =>
      obtain ⟨tokenLine, hscans, hsplit⟩ := TokenLine.exists_split cursor
        hline atLineEnd_nil tokensFrom_nil rfl rfl
      rw [List.append_nil] at hsplit
      rw [hsplit]
      exact .cons ((readsAs_of_scans hscans hline).mono
        fun span hspan => hspan.line_eq) .nil
  | @line line ending rest more hline hending _ ih =>
      obtain ⟨tokenLine, hscans, hsplit⟩ := TokenLine.exists_split cursor
        hline hending.atLineEnd (tokensFrom_ending hending) rfl rfl
      rw [hsplit]
      exact .cons ((readsAs_of_scans hscans hline).mono
        fun span hspan => hspan.line_eq)
        (ih ((cursor.past line).pastLineEnd ending))

/-- A source is read by its lines, which are counted from 1. -/
theorem readsLines_parse (source : String) :
    ReadsLines source 1 (lines source.toList) (parse source) :=
  readsLines_ofLines (lined_lines _) .start

/-- A text is accepted exactly if its lines have forms, and says what they
declare. -/
theorem exists_parse_iff {source : String} {said : List Statement} :
    (∃ declarations, parse source = .ok declarations
        ∧ statements declarations = said)
      ↔ DeclaresAll (lines source.toList) said := by
  have hread := readsLines_parse source
  constructor
  · rintro ⟨declarations, hparse, rfl⟩
    rwa [hparse] at hread
  · intro hsaid
    cases hparse : parse source with
    | ok declarations =>
        rw [hparse] at hread
        exact ⟨declarations, rfl,
          hread.unique hsaid (lined_lines source.toList).inline⟩
    | error e =>
        rw [hparse] at hread
        obtain ⟨before, line, after, -, -, hlines, -, hno, -⟩ := hread
        obtain ⟨here, hhere⟩ := exists_declaresAll.1 ⟨said, hsaid⟩ line
          (by rw [hlines]; simp)
        exact absurd hhere (hno here)

-- ========================================================== the grammar

/-- A text is accepted exactly if each of its lines has one of the
documented forms; otherwise the error is a syntax error that names the
first line that has none, counting from 1. -/
theorem parse_outcome (source : String) :
    ((∃ declarations, parse source = .ok declarations)
      ↔ ∀ line ∈ lines source.toList, ∃ said, Declares line said)
    ∧ ∀ e, parse source = .error e → ∃ before line after,
      lines source.toList = before ++ line :: after
        ∧ (∀ earlier ∈ before, ∃ said, Declares earlier said)
        ∧ (¬ ∃ said, Declares line said)
        ∧ ∃ message column context, e = .of
          (.grammarSyntax message (before.length + 1) column context) := by
  have hread := readsLines_parse source
  cases hparse : parse source with
  | ok declarations =>
      rw [hparse] at hread
      exact ⟨⟨fun _ => exists_declaresAll.1 ⟨_, hread⟩,
        fun _ => ⟨declarations, rfl⟩⟩, fun e h => nomatch h⟩
  | error e =>
      rw [hparse] at hread
      obtain ⟨before, line, after, span, message, hlines, hbefore, hno,
        hspan, rfl⟩ := hread
      refine ⟨⟨fun ⟨declarations, hok⟩ => (nomatch hok), fun h => ?_⟩, ?_⟩
      · obtain ⟨said, hsaid⟩ := h line (by rw [hlines]; simp)
        exact absurd hsaid (hno said)
      · rintro e ⟨⟩
        refine ⟨before, line, after, hlines, hbefore, fun ⟨said, hsaid⟩ =>
          hno said hsaid, message, span.column, span.lineText source, ?_⟩
        rw [syntaxError, hspan, Nat.add_comm]

end Declaration

end WordGrammar
