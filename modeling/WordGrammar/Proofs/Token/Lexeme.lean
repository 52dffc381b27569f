/-
Reading one lexeme.

No lexeme goes past the end of its line: what `Lexeme.read` makes of a
character depends on the rest of its line alone (`read_append`), and
within a line it neither ends the line nor takes more than what follows
(`within_read`). The lemmas `read_eq_head` to `read_eq_replacement` turn
reading around: they say which texts give a lexeme of each kind that a
declaration is made of. What can stand between two delimiters is the
relation `Body`.
-/
import Mathlib.Data.List.TakeWhile
import WordGrammar.Proofs.Text.Lines
import WordGrammar.Token.Scan

namespace WordGrammar

open Text

-- =========================================================== ends of lines

namespace Text

/-- The text is over here, or the line it stands on is. -/
def AtLineEnd (cs : List Char) : Prop :=
  ∀ c ∈ cs.head?, isLineEnd c = true

/-- The end of the source ends the last line. -/
theorem atLineEnd_nil : AtLineEnd [] := fun _ h => nomatch h

/-- A line ending stands at the end of its line, whichever of the three it
is. -/
theorem LineEnding.atLineEnd {ending rest : List Char}
    (h : LineEnding ending rest) : AtLineEnd (ending ++ rest) := by
  cases h <;> rintro c ⟨⟩ <;> rfl

/-- Blanks within a line. -/
def Blanks (cs : List Char) : Prop := ∀ c ∈ cs, isInlineBlank c = true

/-- The blanks of a line are the blanks other than the two characters that
end one. -/
theorem isInlineBlank_iff {c : Char} :
    isInlineBlank c = true ↔ isBlank c = true ∧ isLineEnd c = false := by
  simp [isInlineBlank]

/-- What ends a line is not skipped as a blank: it is a lexeme. -/
theorem isInlineBlank_of_isLineEnd {c : Char} (h : isLineEnd c = true) :
    isInlineBlank c = false := by
  simp [isInlineBlank, h]

end Text

-- ================================================================ bodies

/-- Induction over a text in which a backslash pairs with the character
after it. -/
@[elab_as_elim]
theorem escaped_induction {motive : List Char → Prop} (nil : motive [])
    (lone : motive ['\\'])
    (pair : ∀ c cs, motive cs → motive ('\\' :: c :: cs))
    (char : ∀ c cs, c ≠ '\\' → motive cs → motive (c :: cs)) :
    ∀ cs, motive cs
  | [] => nil
  | [c] => by
      by_cases hc : c = '\\'
      · exact hc ▸ lone
      · exact char c [] hc nil
  | c :: d :: cs => by
      by_cases hc : c = '\\'
      · exact hc ▸ pair d cs (escaped_induction nil lone pair char cs)
      · exact char c (d :: cs) hc
          (escaped_induction nil lone pair char (d :: cs))

namespace Lexeme

/-- What a backslash and the character after it leave in a body. -/
def unescaped (delimiter c : Char) : List Char :=
  if c = delimiter then [c] else ['\\', c]

/-- `Body delimiter text value`: the text can stand between two
delimiters, as single characters and pairs of a backslash and a character,
and gives the value. -/
inductive Body (delimiter : Char) : List Char → List Char → Prop
  | nil : Body delimiter [] []
  | char {c : Char} {text value : List Char} :
      c ≠ '\\' → c ≠ delimiter → Body delimiter text value →
      Body delimiter (c :: text) (c :: value)
  | pair {c : Char} {text value : List Char} :
      Body delimiter text value →
      Body delimiter ('\\' :: c :: text) (unescaped delimiter c ++ value)

section

variable {delimiter c : Char} {cs after text value rest used : List Char}

/-- A body that has not been closed by the end of its line is never closed.
-/
theorem delimited_atLineEnd (h : AtLineEnd cs) :
    delimited delimiter cs = (none, []) := by
  cases cs with
  | nil => rw [delimited]
  | cons c cs =>
      have hc : isLineEnd c = true := h c rfl
      rw [delimited, if_pos hc]
      · rintro rfl
        cases hc
      · rintro d rest rfl
        cases hc

/-- A backslash at the end of a line pairs with nothing. -/
theorem delimited_lone (h : AtLineEnd cs) :
    delimited delimiter ('\\' :: cs) = (none, ['\\']) := by
  cases cs with
  | nil => rw [delimited]
  | cons c cs => rw [delimited, if_pos (h c rfl)]

/-- A backslash takes the next character into the body with it, also the
delimiter, which therefore does not close it. -/
theorem delimited_pair (hc : isLineEnd c = false) :
    delimited delimiter ('\\' :: c :: cs)
      = ((delimited delimiter cs).1.map (unescaped delimiter c ++ ·),
        '\\' :: c :: (delimited delimiter cs).2) := by
  rw [delimited, if_neg (by simp [hc])]
  rfl

/-- The delimiter on its own closes the body. -/
theorem delimited_close (hd : isLineEnd delimiter = false)
    (hslash : delimiter ≠ '\\') :
    delimited delimiter (delimiter :: cs) = (some [], [delimiter]) := by
  rw [delimited, if_neg (by simp [hd]), if_pos rfl]
  · exact fun h => absurd h hslash
  · exact fun d rest h => absurd h hslash

/-- Every other character of the line belongs to the body. -/
theorem delimited_char (hc : isLineEnd c = false) (hslash : c ≠ '\\')
    (hne : c ≠ delimiter) :
    delimited delimiter (c :: cs)
      = ((delimited delimiter cs).1.map (c :: ·),
        c :: (delimited delimiter cs).2) := by
  rw [delimited, if_neg (by simp [hc]), if_neg hne]
  · exact fun h => absurd h hslash
  · exact fun d rest h => absurd h hslash

/-- Whether a body is closed is settled on its line. -/
theorem delimited_append (h : Inline cs) (hafter : AtLineEnd after) :
    delimited delimiter (cs ++ after) = delimited delimiter cs := by
  -- By pairs and not by characters: a backslash at the end of `cs` would
  -- else take the first character of `after`.
  induction cs using escaped_induction with
  | nil => rw [List.nil_append, delimited_atLineEnd hafter, delimited]
  | lone => rw [List.singleton_append, delimited_lone hafter, delimited]
  | pair c cs ih =>
      obtain ⟨hc, hcs⟩ := inline_cons.1 (inline_cons.1 h).2
      rw [List.cons_append, List.cons_append, delimited_pair hc,
        delimited_pair hc, ih hcs]
  | char c cs hslash ih =>
      obtain ⟨hc, hcs⟩ := inline_cons.1 h
      by_cases hne : c = delimiter
      · subst hne
        rw [List.cons_append, delimited_close hc hslash,
          delimited_close hc hslash]
      · rw [List.cons_append, delimited_char hc hslash hne,
          delimited_char hc hslash hne, ih hcs]

/-- Reading a body consumes what it reads. -/
theorem prefix_of_delimited {body : Option (List Char)}
    (h : delimited delimiter cs = (body, used)) : used <+: cs := by
  obtain rfl : (delimited delimiter cs).2 = used := by rw [h]
  clear h
  induction cs using escaped_induction with
  | nil => simp [delimited]
  | lone => simp [delimited]
  | pair c cs ih =>
      cases hc : isLineEnd c with
      | true =>
          rw [delimited, if_pos hc]
          exact List.prefix_append ['\\'] _
      | false =>
          rw [delimited_pair hc]
          exact (List.prefix_append_right_inj ['\\', c]).2 ih
  | char c cs hslash ih =>
      cases hc : isLineEnd c with
      | true =>
          rw [delimited_atLineEnd (by rintro d ⟨⟩; exact hc)]
          exact List.nil_prefix
      | false =>
          by_cases hne : c = delimiter
          · subst hne
            rw [delimited_close hc hslash]
            exact List.prefix_append [c] _
          · rw [delimited_char hc hslash hne]
            exact (List.prefix_cons_inj c).2 ih

/-- A body is read up to the delimiter that closes it. -/
theorem delimited_of_body (hend : isLineEnd delimiter = false)
    (hslash : delimiter ≠ '\\') (hbody : Body delimiter text value)
    (htext : Inline text) :
    delimited delimiter (text ++ delimiter :: rest)
      = (some value, text ++ [delimiter]) := by
  induction hbody with
  | nil => exact delimited_close hend hslash
  | char hc hne _ ih =>
      obtain ⟨hline, htext⟩ := inline_cons.1 htext
      rw [List.cons_append, delimited_char hline hc hne, ih htext]
      rfl
  | pair _ ih =>
      obtain ⟨hline, htext⟩ := inline_cons.1 (inline_cons.1 htext).2
      rw [List.cons_append, List.cons_append, delimited_pair hline,
        ih htext]
      rfl

/-- A body that is put in front of another one closes where that does. -/
theorem delimited_of_map {f g : List Char → List Char}
    (h : ((delimited delimiter cs).1.map f, g (delimited delimiter cs).2)
      = (some value, used)) :
    ∃ body more, delimited delimiter cs = (some body, more)
      ∧ value = f body ∧ used = g more := by
  obtain ⟨hvalue, rfl⟩ := Prod.mk.inj h
  obtain ⟨body, hbody, rfl⟩ := Option.map_eq_some_iff.1 hvalue
  exact ⟨body, _, Prod.ext hbody rfl, rfl, rfl⟩

/-- What is read up to a delimiter is a body. -/
theorem body_of_delimited (hend : isLineEnd delimiter = false)
    (hslash : delimiter ≠ '\\')
    (h : delimited delimiter cs = (some value, used)) :
    ∃ text rest, Body delimiter text value ∧ used = text ++ [delimiter]
      ∧ cs = text ++ delimiter :: rest := by
  induction cs using escaped_induction generalizing value used with
  | nil => rw [delimited] at h; cases h
  | lone => rw [delimited] at h; cases h
  | pair c cs ih =>
      cases hc : isLineEnd c with
      | true => rw [delimited, if_pos hc] at h; cases h
      | false =>
          rw [delimited_pair hc] at h
          obtain ⟨body, more, hread, rfl, rfl⟩ :=
            delimited_of_map (g := fun more => '\\' :: c :: more) h
          obtain ⟨text, rest, hbody, rfl, rfl⟩ := ih hread
          exact ⟨_, rest, .pair hbody, rfl, rfl⟩
  | char c cs hc ih =>
      cases hline : isLineEnd c with
      | true =>
          rw [delimited_atLineEnd (by rintro d ⟨⟩; exact hline)] at h
          cases h
      | false =>
          by_cases hne : c = delimiter
          · subst hne
            rw [delimited_close hend hslash] at h
            cases h
            exact ⟨[], cs, .nil, rfl, rfl⟩
          · rw [delimited_char hline hc hne] at h
            obtain ⟨body, more, hread, rfl, rfl⟩ := delimited_of_map h
            obtain ⟨text, rest, hbody, rfl, rfl⟩ := ih hread
            exact ⟨_, rest, .char hc hne hbody, rfl, rfl⟩

end

-- ============================================================== lexemes

section

variable {c : Char} {cs after more : List Char} {mode mode' : LineMode}

/-- The blanks that may stand between a rule's letter and its colon. -/
def isGap (c : Char) : Bool := c = ' ' || c = '\t'

/-- The colon after a letter is looked for past the gap. Both sides of the
gap are written by the list functions that the library has lemmas about. -/
theorem colon?_eq :
    colon? cs = match cs.dropWhile isGap with
      | ':' :: _ => some (cs.takeWhile isGap ++ [':'])
      | _ => none := by
  simp only [colon?, drop_length_takeWhile]
  rfl

theorem isGap_of_isLineEnd (h : isLineEnd c = true) : isGap c = false := by
  rcases isLineEnd_eq_true.1 h with rfl | rfl <;> rfl

/-- A letter is a head just if nothing but a gap stands between it and a
colon. -/
theorem colon?_eq_some {more : List Char} :
    colon? cs = some more ↔ ∃ gap rest, (∀ c ∈ gap, c = ' ' ∨ c = '\t')
      ∧ more = gap ++ [':'] ∧ cs = gap ++ ':' :: rest := by
  have hgap : ∀ c : Char, isGap c = true ↔ c = ' ' ∨ c = '\t' := by
    simp [isGap]
  simp only [colon?_eq, ← hgap]
  constructor
  · intro h
    split at h
    · next rest hrest =>
        refine ⟨cs.takeWhile isGap, rest, fun c => List.mem_takeWhile_imp,
          (Option.some.inj h).symm, ?_⟩
        rw [← hrest, List.takeWhile_append_dropWhile]
    · cases h
  · rintro ⟨gap, rest, hgap, rfl, rfl⟩
    rw [List.takeWhile_append_of_pos hgap, List.dropWhile_append_of_pos hgap]
    simp [isGap]

/-- Whether a letter is a head is settled on its line. -/
theorem colon?_append (h : AtLineEnd after) :
    colon? (cs ++ after) = colon? cs := by
  have hstop : ∀ c ∈ after.head?, isGap c = false :=
    fun c hc => isGap_of_isLineEnd (h c hc)
  rw [colon?_eq, colon?_eq, takeWhile_append_of_stop hstop,
    dropWhile_append_of_stop hstop]
  -- If the gap is all there is of the line, what follows decides; and it
  -- opens with the end of the line, which is no colon.
  cases cs.dropWhile isGap with
  | cons c rest =>
      rw [List.cons_append]
      split <;> simp_all
  | nil =>
      cases after with
      | nil => rfl
      | cons c after =>
          rcases isLineEnd_eq_true.1 (h c rfl) with rfl | rfl <;> rfl

/-- A comment stops at the end of its line. -/
theorem toLineEnd_append (h : AtLineEnd after) :
    toLineEnd (cs ++ after) = toLineEnd cs :=
  takeWhile_append_of_stop fun c hc => by simp [h c hc]

/-- A comment takes up all that is left of its line. -/
theorem toLineEnd_of_inline (h : Inline cs) : toLineEnd cs = cs :=
  List.takeWhile_eq_self_iff.2 fun c hc => by simp [h c hc]

/-- A word stops at the end of its line at the latest. -/
theorem toBlank_append (h : AtLineEnd after) :
    toBlank (cs ++ after) = toBlank cs :=
  takeWhile_append_of_stop
    fun c hc => by simp [isBlank_of_isLineEnd (h c hc)]

/-- In every mode the end of a line is read the same way. -/
theorem read_newline (hc : isLineEnd c = true) :
    read mode c cs = newline c cs := by
  simp [read, hc]

/-- In every mode a hash sign opens a comment, and the line goes on as it
was. -/
theorem read_comment :
    read mode '#' cs
      = ⟨.comment (String.ofList (trim (toLineEnd cs))), toLineEnd cs,
        mode⟩ := by
  simp [read, isLineEnd]

/-- The first lexeme of a line, comments apart. -/
theorem read_start (hc : isLineEnd c = false) (hhash : c ≠ '#') :
    read .start c cs = atStart c cs := by
  simp [read, hc, hhash]

/-- After a head every lexeme is a word of the group: it runs to the next
blank. -/
theorem read_group (hc : isLineEnd c = false) (hhash : c ≠ '#') :
    read .group c cs
      = ⟨.word (String.ofList (c :: toBlank cs)), toBlank cs, .group⟩ := by
  simp [read, hc, hhash]

/-- After a regular expression come the other parts of a sound change. -/
theorem read_soundChange (hc : isLineEnd c = false) (hhash : c ≠ '#') :
    read .soundChange c cs = inSoundChange c cs := by
  simp [read, hc, hhash]

/-- A token depends on the rest of its line alone. -/
theorem read_append (hc : isLineEnd c = false)
    (h : Inline cs) (hafter : AtLineEnd after) :
    read mode c (cs ++ after) = read mode c cs := by
  by_cases hhash : c = '#'
  · subst hhash
    rw [read_comment, read_comment, toLineEnd_append hafter]
  cases mode with
  | start =>
      rw [read_start hc hhash, read_start hc hhash]
      simp only [atStart, head?, colon?_append hafter,
        delimited_append h hafter, toLineEnd_append hafter]
  | group =>
      rw [read_group hc hhash, read_group hc hhash, toBlank_append hafter]
  | soundChange =>
      rw [read_soundChange hc hhash, read_soundChange hc hhash]
      simp only [inSoundChange, delimited_append h hafter,
        toBlank_append hafter]

/-- What a line can open with, comments apart. -/
theorem atStart_cases (c : Char) (cs : List Char) :
    (∃ id more, c = id.letter ∧ colon? cs = some more
        ∧ atStart c cs = ⟨.head id, more, .group⟩)
    ∨ (c = '/' ∧ ∃ body used, delimited '/' cs = (some body, used)
        ∧ atStart c cs = ⟨.regex (String.ofList body), used, .soundChange⟩)
    ∨ ∃ fault used mode, used <+: cs
        ∧ atStart c cs = ⟨.invalid fault, used, mode⟩ := by
  unfold atStart
  split
  · next id more hhead =>
      rw [head?] at hhead
      split at hhead
      · next hid hcolon =>
          cases hhead
          exact .inl ⟨id, more, RuleId.ofChar?_eq_some.1 hid, hcolon, rfl⟩
      · cases hhead
  · split
    · next hslash =>
        split
        · next body used hread =>
            exact .inr (.inl ⟨hslash, body, used, hread, rfl⟩)
        · next used hread =>
            exact .inr (.inr ⟨_, used, _, prefix_of_delimited hread, rfl⟩)
    · exact .inr (.inr ⟨_, _, _, List.takeWhile_prefix _, rfl⟩)

/-- What a sound change can go on with, comments apart. -/
theorem inSoundChange_cases (c : Char) (cs : List Char) :
    (c = '>' ∧ inSoundChange c cs = ⟨.arrow, [], .soundChange⟩)
    ∨ (c = '"' ∧ ∃ body used, delimited '"' cs = (some body, used)
        ∧ inSoundChange c cs
          = ⟨.replacement (String.ofList body), used, .soundChange⟩)
    ∨ ∃ fault used, used <+: cs
        ∧ inSoundChange c cs = ⟨.invalid fault, used, .soundChange⟩ := by
  unfold inSoundChange
  split
  · next harrow => exact .inl ⟨harrow, rfl⟩
  · split
    · next hquote =>
        split
        · next body used hread =>
            exact .inr (.inl ⟨hquote, body, used, hread, rfl⟩)
        · next used hread =>
            exact .inr (.inr ⟨_, used, prefix_of_delimited hread, rfl⟩)
    · exact .inr (.inr ⟨_, _, List.takeWhile_prefix _, rfl⟩)

/-- What every lexeme within a line keeps to: it goes on with the
characters after its first one, and does not end the line. -/
structure Within (lexeme : Lexeme) (cs : List Char) : Prop where
  follows : lexeme.more <+: cs
  not_endsLine : lexeme.kind.endsLine = false

/-- Each lexeme that does not begin with the end of a line keeps within the
line. -/
theorem within_read (hc : isLineEnd c = false) :
    (read mode c cs).Within cs := by
  -- A comment is the same in every mode, so it goes first.
  by_cases hhash : c = '#'
  · subst hhash
    rw [read_comment]
    exact ⟨List.takeWhile_prefix _, rfl⟩
  cases mode with
  | start =>
      rw [read_start hc hhash]
      rcases atStart_cases c cs with
        ⟨id, more, -, hcolon, heq⟩ | ⟨-, body, used, hread, heq⟩
          | ⟨fault, used, mode, hused, heq⟩
      all_goals rw [heq]
      · obtain ⟨gap, rest, -, rfl, rfl⟩ := colon?_eq_some.1 hcolon
        exact ⟨⟨rest, by simp⟩, rfl⟩
      · exact ⟨prefix_of_delimited hread, rfl⟩
      · exact ⟨hused, rfl⟩
  | group =>
      rw [read_group hc hhash]
      exact ⟨List.takeWhile_prefix _, rfl⟩
  | soundChange =>
      rw [read_soundChange hc hhash]
      rcases inSoundChange_cases c cs with
        ⟨-, heq⟩ | ⟨-, body, used, hread, heq⟩ | ⟨fault, used, hused, heq⟩
      all_goals rw [heq]
      · exact ⟨List.nil_prefix, rfl⟩
      · exact ⟨prefix_of_delimited hread, rfl⟩
      · exact ⟨hused, rfl⟩

/-- What a lexeme within a line takes up stays on that line. -/
theorem inline_read (mode : LineMode) (hc : isLineEnd c = false)
    (cs : List Char) : Inline (read mode c cs).more := by
  -- `Inline` is asked of what is taken and not of the line, so the line is
  -- cut at its end first.
  have hsplit : cs.takeWhile (!isLineEnd ·) ++ cs.dropWhile (!isLineEnd ·)
      = cs := List.takeWhile_append_dropWhile
  have hline : Inline (cs.takeWhile (!isLineEnd ·)) := fun d hd => by
    simpa using List.mem_takeWhile_imp hd
  have hafter : AtLineEnd (cs.dropWhile (!isLineEnd ·)) := fun d hd => by
    have hstop := List.head?_dropWhile_not (!isLineEnd ·) cs
    rw [Option.mem_def.1 hd] at hstop
    simpa using hstop
  rw [← hsplit, read_append hc hline hafter]
  exact fun d hd => hline d ((within_read hc).follows.subset hd)

/-- A lexeme that begins at the end of a line is the whole line ending. -/
theorem lineEnding_of_read {kind : TokenKind} {rest : List Char}
    (hc : isLineEnd c = true)
    (hread : read mode c (more ++ rest) = ⟨kind, more, mode'⟩) :
    LineEnding (c :: more) rest := by
  rw [read_newline hc] at hread
  -- A carriage return that a line feed follows makes one ending with it,
  -- any other is an ending by itself.
  unfold newline at hread
  split at hread
  · next hrest =>
      cases hread
      exact .both
  · next hboth =>
      cases hread
      rcases isLineEnd_eq_true.1 hc with rfl | rfl
      · exact .lineFeed
      · refine .carriageReturn fun hfeed => ?_
        obtain ⟨tail, rfl⟩ := List.head?_eq_some_iff.1 hfeed
        exact hboth tail rfl rfl

/-- No lexeme is the end of the source. -/
theorem kind_read_ne_eof (mode : LineMode) (c : Char) (cs : List Char) :
    (read mode c cs).kind ≠ .eof := by
  cases hc : isLineEnd c with
  | false =>
      intro heof
      have hwithin : (read mode c cs).Within cs := within_read hc
      have hends := hwithin.not_endsLine
      rw [heof] at hends
      cases hends
  | true =>
      rw [read_newline hc]
      unfold newline
      split <;> exact TokenKind.noConfusion

/-- What a lexeme takes up follows its first character. -/
theorem read_prefix (mode : LineMode) (c : Char) (cs : List Char) :
    (read mode c cs).more <+: cs := by
  cases hc : isLineEnd c with
  | false => exact (within_read hc).follows
  | true =>
      rw [read_newline hc]
      unfold newline
      split
      · next rest => exact List.prefix_append ['\n'] rest
      · exact List.nil_prefix

-- ------------------------------------------------------ lexemes by kind

/-- Only a hash sign opens a comment. -/
theorem read_eq_comment {text : String} (hc : isLineEnd c = false)
    (h : (read mode c cs).kind = .comment text) : c = '#' := by
  by_contra hhash
  cases mode with
  | start =>
      rw [read_start hc hhash] at h
      rcases atStart_cases c cs with
        ⟨_, _, -, -, heq⟩ | ⟨-, _, _, -, heq⟩ | ⟨_, _, _, -, heq⟩
      all_goals rw [heq] at h; cases h
  | group => rw [read_group hc hhash] at h; cases h
  | soundChange =>
      rw [read_soundChange hc hhash] at h
      rcases inSoundChange_cases c cs with
        ⟨-, heq⟩ | ⟨-, _, _, -, heq⟩ | ⟨_, _, -, heq⟩
      all_goals rw [heq] at h; cases h

/-- A lexeme that is no comment does not begin with a hash sign. -/
theorem ne_hash_of_read {kind : TokenKind}
    (h : read mode c cs = ⟨kind, more, mode'⟩)
    (hkind : ∀ text, kind ≠ .comment text) : c ≠ '#' := by
  rintro rfl
  rw [read_comment] at h
  cases h
  exact hkind _ rfl

/-- A rule's head is its letter and a colon. -/
theorem read_eq_head {id : RuleId} (hc : isLineEnd c = false) :
    read .start c cs = ⟨.head id, more, mode'⟩
      ↔ c = id.letter ∧ colon? cs = some more ∧ mode' = .group := by
  constructor
  · intro h
    rw [read_start hc (ne_hash_of_read h nofun)] at h
    rcases atStart_cases c cs with
      ⟨id', more', hletter, hcolon, heq⟩ | ⟨-, _, _, -, heq⟩
        | ⟨_, _, _, -, heq⟩
    all_goals cases heq.symm.trans h
    exact ⟨hletter, hcolon, rfl⟩
  · rintro ⟨rfl, hcolon, rfl⟩
    have hhash : id.letter ≠ '#' := by
      intro h
      have hcapital := id.isCapital
      rw [h] at hcapital
      cases hcapital
    rw [read_start hc hhash, atStart, head?, RuleId.ofChar?_letter, hcolon]

/-- A sound change opens with a body between slashes. -/
theorem read_eq_regex {body : String} (hc : isLineEnd c = false) :
    read .start c cs = ⟨.regex body, more, mode'⟩
      ↔ c = '/' ∧ mode' = .soundChange ∧ ∃ value,
        delimited '/' cs = (some value, more)
          ∧ String.ofList value = body := by
  constructor
  · intro h
    rw [read_start hc (ne_hash_of_read h nofun)] at h
    rcases atStart_cases c cs with
      ⟨_, _, -, -, heq⟩ | ⟨hslash, value, used, hread, heq⟩
        | ⟨_, _, _, -, heq⟩
    all_goals cases heq.symm.trans h
    exact ⟨hslash, rfl, value, hread, rfl⟩
  · rintro ⟨rfl, rfl, value, hread, rfl⟩
    have hhead : head? '/' cs = none := by
      rw [head?, RuleId.ofChar?_eq_none.2 (by decide)]
    rw [read_start hc (by decide), atStart, hhead, if_pos rfl, hread]

/-- An arrow is a single character of a sound change. -/
theorem read_eq_arrow (hc : isLineEnd c = false) :
    read .soundChange c cs = ⟨.arrow, more, mode'⟩
      ↔ c = '>' ∧ more = [] ∧ mode' = .soundChange := by
  constructor
  · intro h
    rw [read_soundChange hc (ne_hash_of_read h nofun)] at h
    rcases inSoundChange_cases c cs with
      ⟨harrow, heq⟩ | ⟨-, _, _, -, heq⟩ | ⟨_, _, -, heq⟩
    all_goals cases heq.symm.trans h
    exact ⟨harrow, rfl, rfl⟩
  · rintro ⟨rfl, rfl, rfl⟩
    rw [read_soundChange hc (by decide), inSoundChange, if_pos rfl]

/-- A replacement is a body between quotes. -/
theorem read_eq_replacement {body : String} (hc : isLineEnd c = false) :
    read .soundChange c cs = ⟨.replacement body, more, mode'⟩
      ↔ c = '"' ∧ mode' = .soundChange ∧ ∃ value,
        delimited '"' cs = (some value, more)
          ∧ String.ofList value = body := by
  constructor
  · intro h
    rw [read_soundChange hc (ne_hash_of_read h nofun)] at h
    rcases inSoundChange_cases c cs with
      ⟨-, heq⟩ | ⟨hquote, value, used, hread, heq⟩ | ⟨_, _, -, heq⟩
    all_goals cases heq.symm.trans h
    exact ⟨hquote, rfl, value, hread, rfl⟩
  · rintro ⟨rfl, rfl, value, hread, rfl⟩
    rw [read_soundChange hc (by decide), inSoundChange,
      if_neg (by decide), if_pos rfl, hread]

end

end Lexeme

end WordGrammar
