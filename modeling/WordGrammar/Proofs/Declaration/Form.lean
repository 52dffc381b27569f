/-
The forms of a line.

`Declares` is the line grammar as it is documented: a line is a remark, a
rule or a sound change. `TokenForm` says the same of the tokens of a line.
A text that stays on one line has a form exactly if its tokens do, and both
then declare the same (`declares_iff`), so parsing can be compared with
tokens alone. The bridge is built from one lemma for each kind of token
that may come next (`lineKinds_eq_head` and those after it), each of which
says what text it is read off.
-/
import WordGrammar.Declaration.Parse
import WordGrammar.Proofs.Text.Words
import WordGrammar.Proofs.Token.Line

namespace WordGrammar

open Text

-- ========================================================== alternatives

/-- The words of a text up to the first one that opens a comment. -/
def alternatives (cs : List Char) : List String :=
  ((words cs).takeWhile fun word => word.head? != some '#').map
    String.ofList

theorem alternatives_nil : alternatives [] = [] := by
  rw [alternatives, words_nil]
  rfl

theorem alternatives_blank {c : Char} {cs : List Char}
    (hc : isBlank c = true) : alternatives (c :: cs) = alternatives cs := by
  rw [alternatives, words_blank hc, alternatives]

/-- A comment hides the words in it, also one that stands right before a
word. -/
theorem alternatives_hash {cs : List Char} :
    alternatives ('#' :: cs) = [] := by
  rw [alternatives, words_cons (by decide)]
  rfl

/-- A character that is neither a blank nor opens a comment begins an
alternative, which runs to the next blank. -/
theorem alternatives_cons {c : Char} {more rest : List Char}
    (hc : isBlank c = false) (hhash : c ≠ '#')
    (hmore : Lexeme.toBlank (more ++ rest) = more) :
    alternatives (c :: (more ++ rest))
      = String.ofList (c :: more) :: alternatives rest := by
  have hrest : (more ++ rest).dropWhile (!isBlank ·) = rest := by
    have h := List.takeWhile_append_dropWhile (p := (!isBlank ·))
      (l := more ++ rest)
    rw [← Lexeme.toBlank, hmore] at h
    exact List.append_cancel_left h
  rw [alternatives, words_cons hc, hmore, hrest, List.takeWhile_cons_of_pos,
    List.map_cons, alternatives]
  simpa using hhash

-- ============================================================== the forms

/-- What a line declares, apart from where it stands. -/
inductive Statement
  /-- A rule with its alternatives. -/
  | rule (id : RuleId) (patterns : List String)
  /-- A sound change. -/
  | soundChange (pattern replacement : String)
  deriving DecidableEq

/-- The rule that a statement declares, if it does. -/
def Statement.declared? : Statement → Option (RuleId × List String)
  | .rule id patterns => some (id, patterns)
  | .soundChange .. => none

/-- The pattern and the replacement of a sound change. -/
def Statement.changed? : Statement → Option (String × String)
  | .rule .. => none
  | .soundChange pattern replacement => some (pattern, replacement)

/-- Blanks, and possibly a comment up to the end of the line. -/
inductive Remark : List Char → Prop
  | blank {line : List Char} : Blanks line → Remark line
  | comment {blanks text : List Char} :
      Blanks blanks → Remark (blanks ++ '#' :: text)

/-- `Declares line said`: the line has one of the documented forms. It is a
remark, which declares nothing; or it is a rule's letter and, after spaces
and tabs, a colon, with at least one word before any comment; or it is a
pattern between slashes, an arrow and a replacement between quotes, with at
most a remark after them. -/
inductive Declares : List Char → Option Statement → Prop
  | remark {line : List Char} : Remark line → Declares line none
  | rule {blanks gap rest : List Char} {id : RuleId} :
      Blanks blanks → (∀ c ∈ gap, c = ' ' ∨ c = '\t') →
      alternatives rest ≠ [] →
      Declares (blanks ++ id.letter :: (gap ++ ':' :: rest))
        (some (.rule id (alternatives rest)))
  | soundChange {blanks pattern between gap replacement after : List Char}
      {looked put : List Char} :
      Blanks blanks → Lexeme.Body '/' pattern looked → Blanks between →
      Blanks gap → Lexeme.Body '"' replacement put → Remark after →
      Declares
        (blanks ++ '/' :: (pattern ++ '/' :: (between ++ '>' ::
          (gap ++ '"' :: (replacement ++ '"' :: after)))))
        (some (.soundChange (String.ofList looked) (String.ofList put)))

/-- `DeclaresAll ls said`: each of the lines has a form, and these are all
the things they declare, in order. -/
inductive DeclaresAll : List (List Char) → List Statement → Prop
  | nil : DeclaresAll [] []
  | cons {line : List Char} {ls : List (List Char)} {said : Option Statement}
      {more : List Statement} : Declares line said → DeclaresAll ls more →
      DeclaresAll (line :: ls) (said.toList ++ more)

/-- All the lines together declare something just if each of them has a
form. -/
theorem exists_declaresAll {ls : List (List Char)} :
    (∃ said, DeclaresAll ls said)
      ↔ ∀ line ∈ ls, ∃ said, Declares line said := by
  constructor
  · rintro ⟨said, h⟩
    induction h with
    | nil => exact fun _ h => nomatch h
    | cons hline _ ih => exact List.forall_mem_cons.2 ⟨⟨_, hline⟩, ih⟩
  · intro h
    induction ls with
    | nil => exact ⟨[], .nil⟩
    | cons line ls ih =>
        obtain ⟨⟨said, hline⟩, hls⟩ := List.forall_mem_cons.1 h
        obtain ⟨more, hmore⟩ := ih hls
        exact ⟨_, .cons hline hmore⟩

/-- A rule is never declared without alternatives. -/
theorem DeclaresAll.patterns_ne_nil {ls : List (List Char)}
    {said : List Statement} (h : DeclaresAll ls said) {id : RuleId}
    {patterns : List String} (hmem : .rule id patterns ∈ said) :
    patterns ≠ [] := by
  induction h with
  | nil => cases hmem
  | cons hline _ ih =>
      rcases List.mem_append.1 hmem with hmem | hmem
      · cases hline with
        | remark => cases hmem
        | rule _ _ hne =>
            cases List.mem_singleton.1 hmem
            exact hne
        | soundChange => cases List.mem_singleton.1 hmem
      · exact ih hmem

-- ======================================================= forms of tokens

/-- The tokens of a remark. -/
inductive TokenRemark : List TokenKind → Prop
  | blank : TokenRemark []
  | comment {text : String} : TokenRemark [.comment text]

/-- The tokens of each form, and what they declare. -/
inductive TokenForm : List TokenKind → Option Statement → Prop
  | blank : TokenForm [] none
  | comment {text : String} {after : List TokenKind} :
      TokenRemark after → TokenForm (.comment text :: after) none
  | rule {id : RuleId} {patterns : List String} {after : List TokenKind} :
      patterns ≠ [] → TokenRemark after →
      TokenForm (.head id :: (patterns.map .word ++ after))
        (some (.rule id patterns))
  | soundChange {pattern replacement : String} {after : List TokenKind} :
      TokenRemark after →
      TokenForm (.regex pattern :: .arrow :: .replacement replacement :: after)
        (some (.soundChange pattern replacement))

/-- Words can be told apart from tokens that do not begin with one. -/
theorem words_eq_of_tokens {ws ws' : List String}
    {after after' : List TokenKind}
    (hafter : ∀ text, after.head? ≠ some (.word text))
    (hafter' : ∀ text, after'.head? ≠ some (.word text))
    (h : ws.map TokenKind.word ++ after = ws'.map TokenKind.word ++ after') :
    ws = ws' ∧ after = after' := by
  -- The lists are compared word by word; where one of them is over, so is
  -- the other, for what follows does not begin with a word.
  induction ws generalizing ws' with
  | nil =>
      cases ws' with
      | nil => exact ⟨rfl, h⟩
      | cons w ws' => exact absurd (congrArg List.head? h) (hafter w)
  | cons w ws ih =>
      cases ws' with
      | nil => exact absurd (congrArg List.head? h).symm (hafter' w)
      | cons w' ws' =>
          obtain ⟨rfl, rfl⟩ := ih (List.cons.inj h).2
          cases h
          exact ⟨rfl, rfl⟩

/-- A remark does not go on with another alternative. -/
theorem TokenRemark.head_ne_word {kinds : List TokenKind}
    (h : TokenRemark kinds) (text : String) :
    kinds.head? ≠ some (.word text) := by
  cases h <;> rintro ⟨⟩

/-- The only token that a remark can have is a comment. -/
theorem tokenRemark_cons {kind : TokenKind} {kinds : List TokenKind} :
    TokenRemark (kind :: kinds)
      ↔ (∃ text, kind = .comment text) ∧ kinds = [] := by
  constructor
  · rintro ⟨⟩
    exact ⟨⟨_, rfl⟩, rfl⟩
  · rintro ⟨⟨text, rfl⟩, rfl⟩
    exact .comment

/-- A line that is a remark declares nothing. -/
theorem TokenRemark.form {kinds : List TokenKind} (h : TokenRemark kinds) :
    TokenForm kinds none := by
  cases h with
  | blank => exact .blank
  | comment => exact .comment .blank

/-- A rule's head makes a form of words, if there are any, and a remark
after all of them. -/
theorem tokenForm_head (id : RuleId) (words : List String)
    {after : List TokenKind}
    (hafter : ∀ text, after.head? ≠ some (.word text))
    (said : Option Statement) :
    TokenForm (.head id :: (words.map .word ++ after)) said
      ↔ said = some (.rule id words) ∧ words ≠ [] ∧ TokenRemark after := by
  constructor
  · intro h
    -- `cases` could not undo the append in the index.
    generalize hkinds : TokenKind.head id :: (words.map .word ++ after)
      = kinds at h
    cases h with
    | blank => cases hkinds
    | comment => cases hkinds
    | rule hne hremark =>
        injection hkinds with hid hkinds
        cases hid
        obtain ⟨rfl, rfl⟩ :=
          words_eq_of_tokens hafter hremark.head_ne_word hkinds
        exact ⟨rfl, hne, hremark⟩
    | soundChange => cases hkinds
  · rintro ⟨rfl, hne, hremark⟩
    exact .rule hne hremark

/-- A regular expression makes a form of an arrow, a replacement and a
remark, in this order. -/
theorem tokenForm_regex (pattern : String) (kinds : List TokenKind)
    (said : Option Statement) :
    TokenForm (.regex pattern :: kinds) said ↔ ∃ replacement after,
      said = some (.soundChange pattern replacement) ∧ TokenRemark after
        ∧ kinds = .arrow :: .replacement replacement :: after := by
  constructor
  · rintro (_ | _ | _ | hafter)
    · exact ⟨_, _, rfl, hafter, rfl⟩
  · rintro ⟨replacement, after, rfl, hafter, rfl⟩
    exact .soundChange hafter

/-- The tokens of a line declare one thing at most. -/
theorem TokenForm.unique {kinds : List TokenKind}
    {said said' : Option Statement} (h : TokenForm kinds said)
    (h' : TokenForm kinds said') : said = said' := by
  cases h with
  | blank => cases h'; rfl
  | comment => cases h'; rfl
  | rule hne hafter =>
      exact ((tokenForm_head _ _ hafter.head_ne_word _).1 h').1.symm
  | soundChange =>
      obtain ⟨_, _, rfl, -, heq⟩ := (tokenForm_regex ..).1 h'
      cases heq
      rfl

-- ==================================================== from text to tokens

section

variable {mode : LineMode} {line : List Char}

/-- A line that opens with a comment is one, whatever the mode: a comment
takes the rest of its line. -/
theorem remark_of_lineKinds {text : String} {kinds : List TokenKind}
    (h : Inline line) (hkinds : lineKinds mode line = .comment text :: kinds) :
    Remark line := by
  obtain ⟨blanks, c, more, mode', rest, hblanks, -, hread, -, rfl⟩ :=
    lineKinds_eq_cons.1 hkinds
  obtain rfl := Lexeme.read_eq_comment h.mid (congrArg Lexeme.kind hread)
  exact .comment hblanks

/-- A remark has a remark's tokens in every mode, and nothing else has. -/
theorem tokenRemark_lineKinds (h : Inline line) :
    TokenRemark (lineKinds mode line) ↔ Remark line := by
  constructor
  · intro hkinds
    generalize hlist : lineKinds mode line = kinds at hkinds
    cases hkinds with
    | blank => exact .blank (lineKinds_eq_nil.1 hlist)
    | comment => exact remark_of_lineKinds h hlist
  · intro hline
    cases hline with
    | blank hblanks => exact lineKinds_eq_nil.2 hblanks ▸ .blank
    | @comment blanks text hblanks =>
        have hread : Lexeme.read mode '#' (text ++ [])
            = ⟨.comment (String.ofList (trim text)), text, mode⟩ := by
          rw [List.append_nil, Lexeme.read_comment,
            Lexeme.toLineEnd_of_inline h.after]
        have hkinds := lineKinds_lexeme (by decide) hread
        rw [List.append_nil, lineKinds_nil] at hkinds
        rw [lineKinds_blanks_append hblanks, hkinds]
        exact .comment

/-- The words after a rule's head are its alternatives. -/
theorem exists_lineKinds_group (h : Inline line) :
    ∃ after, TokenRemark after
      ∧ lineKinds .group line = (alternatives line).map .word ++ after := by
  -- The mode stays `.group` along the line, which the induction has to be
  -- told.
  generalize hmode : LineMode.group = mode
  induction mode, line using scan_induction with
  | nil mode =>
      exact ⟨[], .blank, by rw [lineKinds_nil, alternatives_nil]; rfl⟩
  | blank mode c cs hc ih =>
      obtain ⟨after, hafter, hkinds⟩ := ih (inline_cons.1 h).2 hmode
      refine ⟨after, hafter, ?_⟩
      rw [lineKinds_blank hc, hkinds,
        alternatives_blank (isInlineBlank_iff.1 hc).1]
  | lexeme mode c kind more mode' rest hc hread ih =>
      subst hmode
      obtain ⟨hend, hmore⟩ := inline_cons.1 h
      by_cases hhash : c = '#'
      · -- the comment takes the rest of the line
        subst hhash
        have hremark : Remark ([] ++ '#' :: (more ++ rest)) :=
          .comment fun _ h => nomatch h
        exact ⟨_, (tokenRemark_lineKinds h).2 hremark,
          by rw [alternatives_hash]; rfl⟩
      · have hword := hread
        rw [Lexeme.read_group hend hhash] at hword
        injection hword with hkind hblank hmode'
        subst hmode'
        rw [hblank] at hkind
        subst hkind
        obtain ⟨after, hafter, hkinds⟩ := ih (inline_append.1 hmore).2 rfl
        refine ⟨after, hafter, ?_⟩
        rw [alternatives_cons (by simpa [isInlineBlank, hend] using hc) hhash
          hblank, List.map_cons, List.cons_append, ← hkinds,
          lineKinds_lexeme hc hread]

end

theorem isInlineBlank_letter {id : RuleId} :
    isInlineBlank id.letter = false := by
  have hbounds := id.letter_bounds
  simp [isInlineBlank, isBlank]
  omega

section

variable {line : List Char} {kinds : List TokenKind}

/-- A line opens with a rule's head if it does with the letter and a
colon. -/
theorem lineKinds_eq_head {id : RuleId} (h : Inline line) :
    lineKinds .start line = .head id :: kinds ↔ ∃ blanks gap rest,
      Blanks blanks ∧ (∀ c ∈ gap, c = ' ' ∨ c = '\t')
        ∧ lineKinds .group rest = kinds
        ∧ line = blanks ++ id.letter :: (gap ++ ':' :: rest) := by
  constructor
  · intro hlist
    obtain ⟨blanks, c, more, mode', rest, hblanks, -, hread, hrest, rfl⟩ :=
      lineKinds_eq_cons.1 hlist
    have hc := h.mid
    obtain ⟨rfl, hcolon, rfl⟩ := (Lexeme.read_eq_head hc).1 hread
    obtain ⟨gap, -, hgap, rfl, -⟩ := Lexeme.colon?_eq_some.1 hcolon
    exact ⟨blanks, gap, rest, hblanks, hgap, hrest, by simp⟩
  · rintro ⟨blanks, gap, rest, hblanks, hgap, hrest, rfl⟩
    have hc := h.mid
    have hread : Lexeme.read .start id.letter ((gap ++ [':']) ++ rest)
        = ⟨.head id, gap ++ [':'], .group⟩ :=
      (Lexeme.read_eq_head hc).2 ⟨rfl,
        Lexeme.colon?_eq_some.2 ⟨gap, rest, hgap, rfl, by simp⟩, rfl⟩
    exact lineKinds_eq_cons.2 ⟨blanks, _, _, _, rest, hblanks,
      isInlineBlank_letter, hread, hrest, by simp⟩

/-- A line goes on with a body between delimiters if its token says so. -/
theorem lineKinds_eq_body {mode : LineMode} {kind : String → TokenKind}
    {delimiter : Char} {body : String} (hend : isLineEnd delimiter = false)
    (hblank : isInlineBlank delimiter = false) (hslash : delimiter ≠ '\\')
    (hkind : ∀ {c cs more mode'}, isLineEnd c = false →
      (Lexeme.read mode c cs = ⟨kind body, more, mode'⟩
        ↔ c = delimiter ∧ mode' = .soundChange ∧ ∃ value,
          Lexeme.delimited delimiter cs = (some value, more)
            ∧ String.ofList value = body))
    (h : Inline line) :
    lineKinds mode line = kind body :: kinds ↔ ∃ blanks text value rest,
      Blanks blanks ∧ Lexeme.Body delimiter text value
        ∧ String.ofList value = body
        ∧ lineKinds .soundChange rest = kinds
        ∧ line = blanks ++ delimiter :: (text ++ delimiter :: rest) := by
  constructor
  · intro hlist
    obtain ⟨blanks, c, more, mode', rest, hblanks, -, hread, hrest, rfl⟩ :=
      lineKinds_eq_cons.1 hlist
    have hc := h.mid
    obtain ⟨rfl, rfl, value, hdelimited, hvalue⟩ := (hkind hc).1 hread
    obtain ⟨text, -, hbody, rfl, -⟩ :=
      Lexeme.body_of_delimited hend hslash hdelimited
    exact ⟨blanks, text, value, rest, hblanks, hbody, hvalue, hrest, by simp⟩
  · rintro ⟨blanks, text, value, rest, hblanks, hbody, hvalue, hrest, rfl⟩
    have hread : Lexeme.read mode delimiter ((text ++ [delimiter]) ++ rest)
        = ⟨kind body, text ++ [delimiter], .soundChange⟩ := by
      -- Read backwards: the delimiter opens a body that is closed where the
      -- text says.
      refine (hkind hend).2 ⟨rfl, rfl, value, ?_, hvalue⟩
      rw [List.append_assoc, List.singleton_append]
      exact Lexeme.delimited_of_body hend hslash hbody
        (inline_append.1 h.after).1
    exact lineKinds_eq_cons.2 ⟨blanks, _, _, _, rest, hblanks, hblank, hread,
      hrest, by simp⟩

/-- A line opens with a regular expression if it does with a body between
slashes. -/
theorem lineKinds_eq_regex {body : String} (h : Inline line) :
    lineKinds .start line = .regex body :: kinds
      ↔ ∃ blanks text value rest,
        Blanks blanks ∧ Lexeme.Body '/' text value ∧ String.ofList value = body
          ∧ lineKinds .soundChange rest = kinds
          ∧ line = blanks ++ '/' :: (text ++ '/' :: rest) :=
  lineKinds_eq_body (by decide) (by decide) (by decide)
    Lexeme.read_eq_regex h

/-- A sound change goes on with a replacement if a body between quotes comes
next. -/
theorem lineKinds_eq_replacement {body : String} (h : Inline line) :
    lineKinds .soundChange line = .replacement body :: kinds
      ↔ ∃ blanks text value rest,
        Blanks blanks ∧ Lexeme.Body '"' text value ∧ String.ofList value = body
          ∧ lineKinds .soundChange rest = kinds
          ∧ line = blanks ++ '"' :: (text ++ '"' :: rest) :=
  lineKinds_eq_body (by decide) (by decide) (by decide)
    Lexeme.read_eq_replacement h

/-- A sound change goes on with an arrow if the character for it comes next.
-/
theorem lineKinds_eq_arrow (h : Inline line) :
    lineKinds .soundChange line = .arrow :: kinds ↔ ∃ blanks rest,
      Blanks blanks ∧ lineKinds .soundChange rest = kinds
        ∧ line = blanks ++ '>' :: rest := by
  constructor
  · intro hlist
    obtain ⟨blanks, c, more, mode', rest, hblanks, -, hread, hrest, rfl⟩ :=
      lineKinds_eq_cons.1 hlist
    have hc := h.mid
    obtain ⟨rfl, rfl, rfl⟩ := (Lexeme.read_eq_arrow hc).1 hread
    exact ⟨blanks, rest, hblanks, hrest, rfl⟩
  · rintro ⟨blanks, rest, hblanks, hrest, rfl⟩
    exact lineKinds_eq_cons.2 ⟨blanks, '>', [], _, rest, hblanks, by decide,
      (Lexeme.read_eq_arrow (by decide)).2 ⟨rfl, rfl, rfl⟩, hrest, rfl⟩

end

/-- A line has a form exactly if its tokens do, and then declares what
they do. -/
theorem declares_iff {line : List Char} {said : Option Statement}
    (h : Inline line) :
    Declares line said ↔ TokenForm (lineKinds .start line) said := by
  constructor
  · intro hline
    cases hline with
    | remark hremark => exact ((tokenRemark_lineKinds h).2 hremark).form
    | @rule blanks gap rest id hblanks hgap hne =>
        obtain ⟨after, hafter, hkinds⟩ :=
          exists_lineKinds_group h.after.after
        rw [(lineKinds_eq_head h).2
          ⟨blanks, gap, rest, hblanks, hgap, hkinds, rfl⟩]
        exact .rule hne hafter
    | @soundChange blanks pattern between gap replacement after looked put
        hblanks hpattern hbetween hgap hreplacement hafter =>
        -- Each part is again a text on one line, so the parts are peeled
        -- off in turn.
        have htail := h.after.after
        have hput := htail.after
        rw [(lineKinds_eq_regex h).2 ⟨blanks, pattern, looked, _, hblanks,
          hpattern, rfl, (lineKinds_eq_arrow htail).2 ⟨between, _, hbetween,
            (lineKinds_eq_replacement hput).2 ⟨gap, replacement, put, after,
              hgap, hreplacement, rfl, rfl, rfl⟩, rfl⟩, rfl⟩]
        exact .soundChange
          ((tokenRemark_lineKinds hput.after.after).2 hafter)
  · intro hkinds
    generalize hlist : lineKinds .start line = kinds at hkinds
    cases hkinds with
    | blank => exact .remark (.blank (lineKinds_eq_nil.1 hlist))
    | comment => exact .remark (remark_of_lineKinds h hlist)
    | rule hne hafter =>
        obtain ⟨blanks, gap, rest, hblanks, hgap, hrest, rfl⟩ :=
          (lineKinds_eq_head h).1 hlist
        obtain ⟨after, hafter', hkinds⟩ :=
          exists_lineKinds_group h.after.after
        obtain ⟨rfl, -⟩ := words_eq_of_tokens hafter.head_ne_word
          hafter'.head_ne_word (hrest.symm.trans hkinds)
        exact .rule hblanks hgap hne
    | soundChange hafter =>
        obtain ⟨blanks, pattern, looked, rest, hblanks, hpattern, rfl, hrest,
          rfl⟩ := (lineKinds_eq_regex h).1 hlist
        have htail := h.after.after
        obtain ⟨between, rest, hbetween, harrow, rfl⟩ :=
          (lineKinds_eq_arrow htail).1 hrest
        have hput := htail.after
        obtain ⟨gap, replacement, put, after, hgap, hreplacement, rfl, rfl,
          rfl⟩ := (lineKinds_eq_replacement hput).1 harrow
        exact .soundChange hblanks hpattern hbetween hgap hreplacement
          ((tokenRemark_lineKinds hput.after.after).1 hafter)

/-- What a text declares is settled by its lines. -/
theorem DeclaresAll.unique {ls : List (List Char)}
    {said said' : List Statement} (h : DeclaresAll ls said)
    (h' : DeclaresAll ls said') (hls : ∀ line ∈ ls, Inline line) :
    said = said' := by
  induction h generalizing said' with
  | nil => cases h'; rfl
  | cons hline _ ih =>
      obtain ⟨hinline, hls⟩ := List.forall_mem_cons.1 hls
      cases h' with
      | cons hline' hls' =>
          obtain rfl := ((declares_iff hinline).1 hline).unique
            ((declares_iff hinline).1 hline')
          rw [ih hls' hls]

end WordGrammar
