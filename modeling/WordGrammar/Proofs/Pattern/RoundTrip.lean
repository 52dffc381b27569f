/-
Reading and printing a pattern undo each other.

A pattern is canonical if its literal parts are text, none of them empty
and none next to another. Building makes canonical patterns only, whatever
the text (`isCanonical_build`), and prints nothing else than it has read;
conversely a canonical pattern is built again from what it prints
(`IsCanonical.foldr_add_print`), since a run of text between two other
parts can only have been one literal.

# Blame

Two parentheses belong together if the text between them is balanced. The
scan for a fault knows the parentheses that are still open by their
offsets; `Leaves` says what these have to do with the text behind it: they
part it into balanced pieces. So a closing parenthesis belongs to the
innermost of them, and if there is none, to nothing; and of those left at
the end, the outermost has only a balanced piece before it, in which every
parenthesis has its partner (`blames_of_faultFrom`).
-/
import WordGrammar.Proofs.Pattern.Reading
import WordGrammar.Text.Bytes

namespace WordGrammar

open Text (utf8Length)

namespace Pattern

variable {p rest : Pattern} {c : Char} {a b cs before after : List Char}
  {opened : Nat}

-- ================================================ balance of texts in parts

/-- A balanced text in front changes nothing about what a text closes. -/
theorem closesOpen_append_iff (ha : ClosesOpen 0 a) :
    ClosesOpen opened (a ++ b) ↔ ClosesOpen opened b := by
  have hwhole := ha.whole
  constructor
  · intro h
    refine ⟨fun before hbefore => ?_, ?_⟩
    · have := h.prefixes (a ++ before)
        ((List.prefix_append_right_inj a).2 hbefore)
      simp only [List.count_append] at this
      omega
    · have := h.whole
      simp only [List.count_append] at this
      omega
  · intro h
    refine ⟨fun before hbefore => ?_, ?_⟩
    -- A prefix ends in the balanced text or after it.
    · rcases List.prefix_or_prefix_of_prefix hbefore
        (List.prefix_append a b) with hin | ⟨more, rfl⟩
      · have := ha.prefixes before hin
        omega
      · have := h.prefixes more
          ((List.prefix_append_right_inj a).1 hbefore)
        simp only [List.count_append]
        omega
    · have := h.whole
      simp only [List.count_append]
      omega

/-- A group with a balanced body changes nothing about what follows it. -/
theorem closesOpen_enclosed (h : ClosesOpen 0 a) :
    ClosesOpen opened ('(' :: (a ++ ')' :: b)) ↔ ClosesOpen opened b := by
  rw [closesOpen_open_iff, closesOpen_append_iff h, closesOpen_close_iff]
  simp

/-- What a part of a text from some point on closes. -/
theorem exists_closesOpen_of_append (h : ClosesOpen opened (a ++ b)) :
    ∃ opened', ClosesOpen opened' b := by
  induction a generalizing opened with
  | nil => exact ⟨opened, h⟩
  | cons c a ih =>
      by_cases hopen : c = '('
      · subst hopen
        exact ih (closesOpen_open_iff.1 h)
      · by_cases hclose : c = ')'
        · subst hclose
          obtain ⟨outer, -, h⟩ := closesOpen_close_iff.1 h
          exact ih h
        · exact ih ((closesOpen_other_iff hopen hclose).1 h)

/-- An opening parenthesis in front of this text is closed in it: up to
some closing one the text is balanced. -/
def HasClose (after : List Char) : Prop :=
  ∃ body rest, after = body ++ ')' :: rest ∧ ClosesOpen 0 body

/-- A closing parenthesis behind this text has one to close: after some
opening one the text is balanced. -/
def HasOpen (before : List Char) : Prop :=
  ∃ outer body, before = outer ++ '(' :: body ∧ ClosesOpen 0 body

/-- More text behind does not undo a match. -/
theorem HasClose.append (h : HasClose a) : HasClose (a ++ b) := by
  obtain ⟨body, rest, rfl, hbody⟩ := h
  exact ⟨body, rest ++ b, by simp, hbody⟩

/-- A text that closes more than `depth` parentheses closes the one above
these somewhere, and just these before it. -/
theorem exists_closesOpen_depth {depth : Nat}
    (h : ClosesOpen (opened + depth + 1) cs) :
    ∃ body rest, cs = body ++ ')' :: rest ∧ ClosesOpen depth body := by
  -- From the left, with the number of parentheses that have been opened
  -- since.
  induction cs generalizing depth with
  | nil => cases closesOpen_nil_iff.1 h
  | cons c cs ih =>
      by_cases hopen : c = '('
      · subst hopen
        obtain ⟨body, rest, rfl, hbody⟩ :=
          @ih (depth + 1) (closesOpen_open_iff.1 h)
        exact ⟨'(' :: body, rest, rfl, closesOpen_open_iff.2 hbody⟩
      · by_cases hclose : c = ')'
        · subst hclose
          obtain ⟨outer, houter, hcs⟩ := closesOpen_close_iff.1 h
          cases depth with
          | zero => exact ⟨[], cs, rfl, closesOpen_nil_iff.2 rfl⟩
          | succ depth =>
              obtain rfl : outer = opened + depth + 1 := by omega
              obtain ⟨body, rest, rfl, hbody⟩ := ih hcs
              exact ⟨')' :: body, rest, rfl,
                closesOpen_close_iff.2 ⟨depth, rfl, hbody⟩⟩
        · obtain ⟨body, rest, rfl, hbody⟩ :=
            ih ((closesOpen_other_iff hopen hclose).1 h)
          exact ⟨c :: body, rest, rfl,
            (closesOpen_other_iff hopen hclose).2 hbody⟩

/-- In a balanced text every opening parenthesis is closed. -/
theorem ClosesOpen.hasClose (h : ClosesOpen opened (a ++ '(' :: b)) :
    HasClose b := by
  obtain ⟨opened', h'⟩ := exists_closesOpen_of_append h
  exact @exists_closesOpen_depth _ _ 0 (closesOpen_open_iff.1 h')

/-- Behind a balanced text there is nothing to close. -/
theorem ClosesOpen.not_hasOpen (h : ClosesOpen 0 cs) : ¬ HasOpen cs := by
  rintro ⟨outer, body, rfl, hbody⟩
  have hprefix := h.prefixes outer (List.prefix_append ..)
  have hwhole := h.whole
  have hbody := hbody.whole
  simp only [List.count_append, List.count_cons_self,
    List.count_cons_of_ne (show '(' ≠ ')' by decide)] at hwhole
  omega

-- ===================================================== canonical patterns

/-- Whether a pattern begins with literal text. -/
def opensLiteral : Pattern → Bool
  | literal .. => true
  | empty | reference .. | optional .. => false

/-- A pattern in which every literal part is text, not empty, and not next
to another. -/
def IsCanonical : Pattern → Prop
  | empty => True
  | literal text rest =>
      text ≠ "" ∧ TextOnly text ∧ rest.opensLiteral = false
        ∧ rest.IsCanonical
  | reference _ rest => rest.IsCanonical
  | optional body rest => body.IsCanonical ∧ rest.IsCanonical

/-- A canonical pattern is plain. -/
theorem IsCanonical.isPlain (h : p.IsCanonical) : p.IsPlain := by
  induction p with
  | empty => trivial
  | literal text rest ih => exact ⟨h.2.1, ih h.2.2.2⟩
  | reference id rest ih => exact ih h
  | optional body rest ihBody ihRest => exact ⟨ihBody h.1, ihRest h.2⟩

/-- A character joins the literal that it stands before, so that no two
literals come to stand together. -/
theorem isCanonical_consLiteral (hc : IsText c) (h : p.IsCanonical) :
    (consLiteral c p).IsCanonical := by
  have htext := isPlain_consLiteral hc h.isPlain
  cases p with
  | literal text rest =>
      exact ⟨by simp [← String.toList_inj], htext.1, h.2.2⟩
  | empty | reference | optional =>
      exact ⟨by simp [← String.toList_inj], htext.1, rfl, h⟩

/-- All that has been built so far is canonical. -/
structure Partial.IsCanonical (q : Partial) : Prop where
  current : q.current.IsCanonical
  outside : ∀ waiting ∈ q.outside, waiting.IsCanonical

/-- Each character of the text keeps what is built canonical. -/
theorem Partial.IsCanonical.add {q : Partial} (h : q.IsCanonical)
    (c : Char) : (q.add c).IsCanonical := by
  unfold Partial.add
  split
  · exact ⟨trivial, List.forall_mem_cons.2 ⟨h.current, h.outside⟩⟩
  · next hclose =>
    split
    · next hopen =>
      cases houtside : q.outside with
      | nil => exact h
      | cons waiting outside =>
          have hall := h.outside
          rw [houtside, List.forall_mem_cons] at hall
          exact ⟨⟨h.current, hall.1⟩, hall.2⟩
    · next hopen =>
      cases hid : RuleId.ofChar? c with
      | some id => exact ⟨h.current, h.outside⟩
      | none =>
          exact ⟨isCanonical_consLiteral ⟨hid, hopen, hclose⟩ h.current,
            h.outside⟩

/-- Whatever is built is canonical. -/
theorem isCanonical_build (cs : List Char) : (build cs).IsCanonical := by
  have hall : (cs.foldr Partial.add ⟨.empty, []⟩).IsCanonical := by
    induction cs with
    | nil => exact ⟨trivial, fun _ h => nomatch h⟩
    | cons c cs ih => exact ih.add c
  exact hall.current

-- ================================================= reading what is printed

theorem letter_ne_paren (id : RuleId) :
    id.letter ≠ '(' ∧ id.letter ≠ ')' :=
  ⟨fun h => absurd (h ▸ id.isCapital) (by decide),
    fun h => absurd (h ▸ id.isCapital) (by decide)⟩

/-- A plain pattern prints a balanced text. -/
theorem IsPlain.closesOpen_print (h : p.IsPlain) : ClosesOpen 0 p.print := by
  induction p with
  | empty => exact closesOpen_nil_iff.2 rfl
  | literal text rest ih =>
      exact (closesOpen_append_iff h.1.balanced).2 (ih h.2)
  | reference id rest ih =>
      obtain ⟨hopen, hclose⟩ := letter_ne_paren id
      exact (closesOpen_other_iff hopen hclose).2 (ih h)
  | optional body rest ihBody ihRest =>
      rw [print, List.cons_append]
      exact (closesOpen_enclosed (ihBody h.1)).2 (ihRest h.2)

/-- A run of text in front of a pattern that does not begin with text is
one literal. -/
theorem foldr_add_text {outside : List Pattern} (hne : cs ≠ [])
    (htext : ∀ c ∈ cs, IsText c) (hrest : rest.opensLiteral = false) :
    cs.foldr Partial.add ⟨rest, outside⟩
      = ⟨literal (String.ofList cs) rest, outside⟩ := by
  induction cs with
  | nil => exact absurd rfl hne
  | cons c cs ih =>
      obtain ⟨⟨hid, hopen, hclose⟩, htext⟩ := List.forall_mem_cons.1 htext
      have hadd : ∀ q : Pattern, Partial.add c ⟨q, outside⟩
          = ⟨consLiteral c q, outside⟩ := by
        simp [Partial.add, hopen, hclose, hid]
      rw [List.foldr_cons]
      -- The last character of the run begins the literal, the ones before
      -- it join.
      by_cases hcs : cs = []
      · subst hcs
        rw [List.foldr_nil, hadd]
        cases rest with
        | literal => cases hrest
        | empty | reference | optional => rfl
      · rw [ih hcs htext, hadd]
        simp [consLiteral]

/-- Building from what a canonical pattern prints gives the pattern,
whatever waits outside. -/
theorem IsCanonical.foldr_add_print (h : p.IsCanonical) :
    ∀ {outside : List Pattern},
      p.print.foldr Partial.add ⟨.empty, outside⟩ = ⟨p, outside⟩ := by
  -- Printing goes from left to right and building back, so of two parts the
  -- second is built first.
  induction p with
  | empty => intro outside; rfl
  | literal text rest ih =>
      intro outside
      obtain ⟨hne, htext, hopens, hrest⟩ := h
      rw [print, List.foldr_append, ih hrest,
        foldr_add_text (by simpa using hne) htext hopens,
        String.ofList_toList]
  | reference id rest ih =>
      intro outside
      obtain ⟨hopen, hclose⟩ := letter_ne_paren id
      rw [print, List.foldr_cons, ih h]
      simp [Partial.add, hopen, hclose, RuleId.ofChar?_letter]
  | optional body rest ihBody ihRest =>
      intro outside
      have hclose : Partial.add ')' ⟨rest, outside⟩
          = ⟨.empty, rest :: outside⟩ := by simp [Partial.add]
      have hopen : Partial.add '(' ⟨body, rest :: outside⟩
          = ⟨optional body rest, outside⟩ := by simp [Partial.add]
      rw [print, List.cons_append, List.foldr_cons, List.foldr_append,
        List.foldr_cons, ihRest h.2, hclose, ihBody h.1, hopen]

/-- A canonical pattern is read from what it prints. -/
theorem IsCanonical.parse_print (h : p.IsCanonical) :
    parse (String.ofList p.print) = .ok p := by
  refine parse_eq_ok_iff.2 ⟨?_, ?_⟩
  · rw [Balanced, String.toList_ofList]
    exact h.isPlain.closesOpen_print
  · rw [String.toList_ofList, build, h.foldr_add_print]

-- ================================================================== blame

/-- Every closing parenthesis of the text closes one. -/
def ClosesOnly (cs : List Char) : Prop :=
  ∀ b a, cs = b ++ ')' :: a → HasOpen b

/-- `Blames cs fault offset`: the fault of the text that is reported and
the byte offset of the parenthesis. -/
inductive Blames (cs : List Char) : GroupFault → Nat → Prop
  /-- The first closing parenthesis that closes nothing. -/
  | unmatchedClose {before after : List Char} :
      cs = before ++ ')' :: after → ClosesOnly before → ¬ HasOpen before →
      Blames cs .unmatchedClose (utf8Length before)
  /-- Every closing parenthesis closes one, and this is the first opening
  one that is never closed. -/
  | unclosedOpen {before after : List Char} :
      ClosesOnly cs → cs = before ++ '(' :: after →
      (∀ b a, before = b ++ '(' :: a → HasClose (a ++ '(' :: after)) →
      ¬ HasClose after → Blames cs .unclosedOpen (utf8Length before)

/-- `Leaves before offsets`: the text has balanced pieces between the
parentheses that it leaves open, which stand at the offsets, innermost
first. -/
inductive Leaves : List Char → List Nat → Prop
  | balanced {body : List Char} : ClosesOpen 0 body → Leaves body []
  | opened {outer body : List Char} {offsets : List Nat} :
      Leaves outer offsets → ClosesOpen 0 body →
      Leaves (outer ++ '(' :: body) (utf8Length outer :: offsets)

variable {offsets : List Nat}

/-- One character more: a closing parenthesis needs one that is open. -/
theorem ClosesOnly.snoc (h : ClosesOnly before)
    (hc : c = ')' → HasOpen before) : ClosesOnly (before ++ [c]) := by
  intro b a hsplit
  rcases List.eq_nil_or_concat a with rfl | ⟨a, last, rfl⟩
  · obtain ⟨rfl, hlast⟩ := List.append_inj' hsplit rfl
    exact hc (List.singleton_inj.1 hlast)
  · have hsplit' : before ++ [c] = (b ++ ')' :: a) ++ [last] := by
      simpa using hsplit
    exact h b a (List.append_inj' hsplit' rfl).1

namespace Leaves

/-- A balanced text behind leaves nothing else open. -/
theorem append (h : Leaves before offsets) (hmore : ClosesOpen 0 after) :
    Leaves (before ++ after) offsets := by
  cases h with
  | balanced hbody =>
      exact .balanced ((closesOpen_append_iff hbody).2 hmore)
  | opened houter hbody =>
      rw [List.append_assoc, List.cons_append]
      exact .opened houter ((closesOpen_append_iff hbody).2 hmore)

/-- An opening parenthesis is left open at its own offset. -/
theorem snoc_open (h : Leaves before offsets) :
    Leaves (before ++ ['(']) (utf8Length before :: offsets) :=
  .opened h (closesOpen_nil_iff.2 rfl)

/-- Any other character belongs to the last balanced piece. -/
theorem snoc_other (h : Leaves before offsets) (hopen : c ≠ '(')
    (hclose : c ≠ ')') : Leaves (before ++ [c]) offsets :=
  h.append ((closesOpen_other_iff hopen hclose).2
    (closesOpen_nil_iff.2 rfl))

/-- A closing parenthesis closes the innermost one that is open. -/
theorem snoc_close {offset : Nat} (h : Leaves before (offset :: offsets)) :
    Leaves (before ++ [')']) offsets ∧ HasOpen before := by
  cases h with
  | @opened outer body _ houter hbody =>
      refine ⟨?_, outer, body, rfl, hbody⟩
      have hgroup : ClosesOpen 0 ('(' :: (body ++ [')'])) :=
        (closesOpen_enclosed hbody).2 (closesOpen_nil_iff.2 rfl)
      simpa using houter.append hgroup

/-- The outermost parenthesis that is left open stands behind a balanced
text, and what follows it never closes more than it opens. -/
theorem exists_outermost {offset : Nat} (h : Leaves before offsets)
    (hlast : offset ∈ offsets.getLast?) :
    ∃ outer inner, before = outer ++ '(' :: inner
      ∧ offset = utf8Length outer ∧ ClosesOpen 0 outer
      ∧ ∀ p, p <+: inner → p.count ')' ≤ p.count '(' := by
  induction h with
  | balanced hbody => cases hlast
  | @opened outer body offsets houter hbody ih =>
      -- Either this is the outermost one, or the outermost one is in the
      -- outer part and the body adds nothing that is closed there.
      cases offsets with
      | nil =>
          cases houter with
          | balanced houter =>
              refine ⟨outer, body, rfl, (Option.some.inj hlast).symm, houter,
                fun p hp => ?_⟩
              have := hbody.prefixes p hp
              omega
      | cons next offsets =>
          rw [List.getLast?_cons_cons] at hlast
          obtain ⟨first, inner, rfl, hoffset, hfirst, hinner⟩ := ih hlast
          refine ⟨first, inner ++ '(' :: body, by simp, hoffset, hfirst,
            fun p hp => ?_⟩
          rcases List.prefix_or_prefix_of_prefix hp
            (List.prefix_append inner ('(' :: body)) with hin | ⟨more, rfl⟩
          · exact hinner p hin
          · have hmore := (List.prefix_append_right_inj inner).1 hp
            have hcount := hinner inner (List.prefix_refl inner)
            rw [List.count_append, List.count_append]
            rcases List.prefix_cons_iff.1 hmore with rfl | ⟨q, rfl, hq⟩
            · simpa using hcount
            · have := hbody.prefixes q hq
              simp
              omega

end Leaves

/-- What the scan reports once it has come past a text that leaves open
what it holds. -/
theorem blames_of_faultFrom {fault : GroupFault} {offset : Nat} :
    ∀ {before : List Char} {offsets : List Nat}, Leaves before offsets →
      ClosesOnly before →
      faultFrom (utf8Length before) offsets after = some (fault, offset) →
      Blames (before ++ after) fault offset := by
  induction after with
  | nil =>
      intro before offsets hleaves honly h
      rw [faultFrom] at h
      -- At the end of the text the last offset of the stack is blamed.
      obtain ⟨first, hfirst, hfault⟩ := Option.map_eq_some_iff.1 h
      cases hfault
      obtain ⟨outer, inner, rfl, rfl, houter, hinner⟩ :=
        hleaves.exists_outermost hfirst
      rw [List.append_nil]
      refine .unclosedOpen honly rfl (fun b a hsplit => ?_) ?_
      · rw [hsplit] at houter
        exact houter.hasClose.append
      · rintro ⟨body, rest, rfl, hbody⟩
        have hcount := hinner (body ++ [')']) (by simp)
        have := hbody.whole
        simp at hcount
        omega
  | cons c after ih =>
      intro before offsets hleaves honly h
      have hnext : utf8Length before + c.utf8Size
          = utf8Length (before ++ [c]) := by simp
      unfold faultFrom at h
      dsimp only at h
      rw [List.append_cons]
      split at h
      · next hopen =>
        subst hopen
        rw [hnext] at h
        exact ih hleaves.snoc_open (honly.snoc fun heq => absurd heq (by decide)) h
      · next hopen =>
        split at h
        · next hclose =>
          subst hclose
          -- A closing parenthesis: the first one to blame if nothing is
          -- open, else it closes the innermost.
          cases offsets with
          | nil =>
              cases h
              cases hleaves with
              | balanced hbalanced =>
                  rw [← List.append_cons]
                  exact .unmatchedClose rfl honly hbalanced.not_hasOpen
          | cons innermost offsets =>
              rw [hnext] at h
              obtain ⟨hleaves', hhas⟩ := hleaves.snoc_close
              exact ih hleaves' (honly.snoc fun _ => hhas) h
        · next hclose =>
          rw [hnext] at h
          exact ih (hleaves.snoc_other hopen hclose)
            (honly.snoc fun heq => absurd heq hclose) h

/-- What is refused is refused for the parenthesis to blame. -/
theorem exists_blames_of_parse {source : String} {e : Error}
    (h : parse source = .error e) :
    ∃ fault offset, Blames source.toList fault offset
      ∧ e = .of (.malformedGroup source offset fault.message) := by
  unfold parse at h
  cases hfault : fault? source with
  | none => rw [hfault] at h; cases h
  | some found =>
      rw [hfault] at h
      cases h
      have hempty : Leaves [] [] := .balanced (closesOpen_nil_iff.2 rfl)
      have honly : ClosesOnly [] := fun b a h => by simp at h
      exact ⟨found.1, found.2, blames_of_faultFrom hempty honly hfault, rfl⟩

example : fault? "a((b)" = some (.unclosedOpen, 1)
    ∧ fault? "é)(b)(" = some (.unmatchedClose, 2) := by decide

/-- Reading accepts the balanced texts. It gives a canonical pattern that
prints the text again and has its references in their order, and every
canonical pattern is what is read from its print. Any other text is
refused with the parenthesis to blame. -/
theorem parse_inverts_print :
    (∀ source, (∃ p, parse source = .ok p) ↔ Balanced source)
    ∧ (∀ source p, parse source = .ok p →
      String.ofList p.print = source ∧ p.IsCanonical
        ∧ p.references = referencesOf source)
    ∧ (∀ p : Pattern, p.IsCanonical →
      parse (String.ofList p.print) = .ok p)
    ∧ ∀ source e, parse source = .error e →
      ∃ fault offset, Blames source.toList fault offset
        ∧ e = .of (.malformedGroup source offset fault.message) := by
  refine ⟨fun source => ?_, fun source p h => ?_,
    fun p h => h.parse_print, fun source e h => exists_blames_of_parse h⟩
  · simp [parse_eq_ok_iff]
  · obtain ⟨hbalanced, rfl⟩ := parse_eq_ok_iff.1 h
    exact ⟨by rw [print_build hbalanced, String.ofList_toList],
      isCanonical_build _, references_build hbalanced⟩

end Pattern

end WordGrammar
