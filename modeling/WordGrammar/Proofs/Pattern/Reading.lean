/-
What reading a pattern accepts, and what it makes of it.

A text is balanced if no prefix of it closes more parentheses than it
opens, and the whole closes as many as it opens: counts alone, with no
stack and no offsets. `fault?_eq_none_iff` says that the check before
building accepts exactly the balanced texts.

# The suffix invariant

`build` folds a text from its right end, so what it has seen at any time
is a suffix, and a suffix of a balanced text may close parentheses that
opened before it. `ClosesOpen opened` is the notion of balance that
survives this: `opened` parentheses are open already and the text closes
them all. The same notion is what `faultFrom` decides, with the height of
its stack for `opened`, and `foldr_add` reads it off the other way round:
as many sequences wait outside as the suffix closes. Main statements:
`print_build` (nothing of the text is lost), `isPlain_build` (text stays
text) and `references_build` (references keep their order).
-/
import WordGrammar.Pattern.Parse

namespace WordGrammar

namespace Pattern

-- ============================================================== balance

/-- With `opened` parentheses open before it, a text closes no more than
are open at any point, and has closed them all at its end. -/
structure ClosesOpen (opened : Nat) (cs : List Char) : Prop where
  prefixes : ∀ before, before <+: cs →
    before.count ')' ≤ opened + before.count '('
  whole : cs.count ')' = opened + cs.count '('

/-- Every parenthesis of a text has its partner. -/
def Balanced (source : String) : Prop := ClosesOpen 0 source.toList

/-- An empty text closes nothing. -/
theorem closesOpen_nil_iff {opened : Nat} :
    ClosesOpen opened [] ↔ opened = 0 := by
  constructor
  · intro h
    have := h.whole
    simp at this
    omega
  · rintro rfl
    exact ⟨fun before h => by simp [List.prefix_nil.1 h], rfl⟩

/-- An opening parenthesis has to be closed by the rest. -/
theorem closesOpen_open_iff {opened : Nat} {cs : List Char} :
    ClosesOpen opened ('(' :: cs) ↔ ClosesOpen (opened + 1) cs := by
  constructor
  · intro h
    refine ⟨fun before hb => ?_, ?_⟩
    · have := h.prefixes ('(' :: before)
        ((List.prefix_cons_inj '(').2 hb)
      simp at this
      omega
    · have := h.whole
      simp at this
      omega
  · intro h
    refine ⟨fun before hb => ?_, ?_⟩
    · rcases List.prefix_cons_iff.1 hb with rfl | ⟨rest, rfl, hrest⟩
      · simp
      · have := h.prefixes rest hrest
        simp
        omega
    · have := h.whole
      simp
      omega

/-- A closing parenthesis closes one of the open ones, of which there has to
be one. -/
theorem closesOpen_close_iff {opened : Nat} {cs : List Char} :
    ClosesOpen opened (')' :: cs) ↔
      ∃ outer, opened = outer + 1 ∧ ClosesOpen outer cs := by
  constructor
  · intro h
    have hone := h.prefixes [')'] (by simp)
    obtain ⟨outer, rfl⟩ : ∃ outer, opened = outer + 1 :=
      ⟨opened - 1, by simp at hone; omega⟩
    refine ⟨outer, rfl, fun before hb => ?_, ?_⟩
    · have := h.prefixes (')' :: before)
        ((List.prefix_cons_inj ')').2 hb)
      simp at this
      omega
    · have := h.whole
      simp at this
      omega
  · rintro ⟨outer, rfl, h⟩
    refine ⟨fun before hb => ?_, ?_⟩
    · rcases List.prefix_cons_iff.1 hb with rfl | ⟨rest, rfl, hrest⟩
      · simp
      · have := h.prefixes rest hrest
        simp
        omega
    · have := h.whole
      simp
      omega

/-- No other character counts. -/
theorem closesOpen_other_iff {opened : Nat} {c : Char} {cs : List Char}
    (hopen : c ≠ '(') (hclose : c ≠ ')') :
    ClosesOpen opened (c :: cs) ↔ ClosesOpen opened cs := by
  constructor
  · intro h
    refine ⟨fun before hb => ?_, ?_⟩
    · have := h.prefixes (c :: before) ((List.prefix_cons_inj c).2 hb)
      simpa [List.count_cons, hopen, hclose] using this
    · have := h.whole
      simpa [List.count_cons, hopen, hclose] using this
  · intro h
    refine ⟨fun before hb => ?_, ?_⟩
    · rcases List.prefix_cons_iff.1 hb with rfl | ⟨rest, rfl, hrest⟩
      · simp
      · have := h.prefixes rest hrest
        simpa [List.count_cons, hopen, hclose] using this
    · have := h.whole
      simpa [List.count_cons, hopen, hclose] using this

/-- The scan for a fault finds none exactly if the rest closes what the
stack holds open. -/
theorem faultFrom_eq_none_iff {cs : List Char} :
    ∀ {offset : Nat} {opened : List Nat},
      faultFrom offset opened cs = none
        ↔ ClosesOpen opened.length cs := by
  induction cs with
  | nil =>
      intro offset opened
      rw [closesOpen_nil_iff]
      simp [faultFrom]
  | cons c rest ih =>
      intro offset opened
      -- The stack grows and shrinks as `opened` does.
      by_cases hopen : c = '('
      · subst hopen
        rw [closesOpen_open_iff]
        simpa [faultFrom] using
          @ih (offset + '('.utf8Size) (offset :: opened)
      · by_cases hclose : c = ')'
        · subst hclose
          rw [closesOpen_close_iff]
          cases opened with
          | nil => simp [faultFrom]
          | cons first outer => simpa [faultFrom] using ih
        · rw [closesOpen_other_iff hopen hclose]
          simpa [faultFrom, hopen, hclose] using ih

/-- The check before building accepts exactly the balanced texts. -/
theorem fault?_eq_none_iff {source : String} :
    fault? source = none ↔ Balanced source :=
  faultFrom_eq_none_iff

instance (source : String) : Decidable (Balanced source) :=
  decidable_of_iff _ fault?_eq_none_iff

/-- A balanced text is read as what is built of it. -/
theorem parse_of_balanced {source : String} (h : Balanced source) :
    parse source = .ok (build source.toList) := by
  unfold parse
  rw [fault?_eq_none_iff.2 h]

/-- A text that is not balanced is refused as a malformed group. -/
theorem parse_of_not_balanced {source : String} (h : ¬ Balanced source) :
    ∃ offset message,
      parse source = .error (.of (.malformedGroup source offset message)) := by
  unfold parse
  cases hfault : fault? source with
  | none => exact absurd (fault?_eq_none_iff.1 hfault) h
  | some fault => exact ⟨_, _, rfl⟩

/-- Parsing is building what is balanced. -/
theorem parse_eq_ok_iff {source : String} {p : Pattern} :
    parse source = .ok p ↔ Balanced source ∧ p = build source.toList := by
  by_cases h : Balanced source
  · rw [parse_of_balanced h]
    simp [h, eq_comm]
  · obtain ⟨offset, message, herror⟩ := parse_of_not_balanced h
    simp [herror, h]

-- ================================================================= text

/-- The references of a text are its capitals. -/
theorem mem_referencesOf_iff {id : RuleId} {source : String} :
    id ∈ referencesOf source ↔ id.letter ∈ source.toList := by
  rw [referencesOf, List.mem_filterMap]
  constructor
  · rintro ⟨c, hc, hid⟩
    exact RuleId.ofChar?_eq_some.1 hid ▸ hc
  · exact fun h => ⟨id.letter, h, RuleId.ofChar?_letter id⟩

/-- A character that stands for itself in a pattern. -/
structure IsText (c : Char) : Prop where
  not_reference : RuleId.ofChar? c = none
  not_open : c ≠ '('
  not_close : c ≠ ')'

/-- A word in which every character stands for itself. -/
def TextOnly (word : String) : Prop := ∀ c ∈ word.toList, IsText c

theorem textOnly_empty : TextOnly "" := fun c h => by simp at h

theorem TextOnly.append {a b : String} (ha : TextOnly a)
    (hb : TextOnly b) : TextOnly (a ++ b) := by
  intro c hc
  rw [String.toList_append] at hc
  exact (List.mem_append.1 hc).elim (ha c) (hb c)

/-- A text without parentheses closes what is open only if nothing is. -/
theorem closesOpen_of_isText {cs : List Char} (h : ∀ c ∈ cs, IsText c) :
    ClosesOpen 0 cs := by
  induction cs with
  | nil => exact closesOpen_nil_iff.2 rfl
  | cons c rest ih =>
      have hc := h c (List.mem_cons_self ..)
      rw [closesOpen_other_iff hc.not_open hc.not_close]
      exact ih fun d hd => h d (List.mem_cons_of_mem _ hd)

/-- A word that is text alone has no parentheses to match. -/
theorem TextOnly.balanced {word : String} (h : TextOnly word) :
    Balanced word :=
  closesOpen_of_isText h

/-- A word that is text alone refers to nothing. -/
theorem TextOnly.referencesOf {word : String} (h : TextOnly word) :
    referencesOf word = [] :=
  List.filterMap_eq_nil_iff.2 fun c hc => (h c hc).not_reference

/-- A pattern whose literal parts are text alone. -/
def IsPlain : Pattern → Prop
  | empty => True
  | literal text rest => TextOnly text ∧ rest.IsPlain
  | reference _ rest => rest.IsPlain
  | optional body rest => body.IsPlain ∧ rest.IsPlain

/-- In a plain pattern, the capitals it is written with are its
references, in the same order. -/
theorem IsPlain.filterMap_print {p : Pattern} (h : p.IsPlain) :
    p.print.filterMap RuleId.ofChar? = p.references := by
  induction p with
  | empty => rfl
  | literal text rest ih =>
      have htext : text.toList.filterMap RuleId.ofChar? = [] :=
        h.1.referencesOf
      rw [print, List.filterMap_append, htext, ih h.2]
      rfl
  | reference id rest ih =>
      rw [print, List.filterMap_cons, RuleId.ofChar?_letter, ih h]
      rfl
  | optional body rest ihBody ihRest =>
      have hopen : RuleId.ofChar? '(' = none := by decide
      have hclose : RuleId.ofChar? ')' = none := by decide
      rw [print, List.filterMap_append, List.filterMap_cons, hopen,
        List.filterMap_cons, hclose, ihBody h.1, ihRest h.2]
      rfl

-- ============================================================= building

/-- The text that a partly built pattern was read from. -/
def Partial.text (p : Partial) : List Char :=
  p.current.print ++ p.outside.flatMap fun rest => ')' :: rest.print

/-- What building keeps true of a suffix that closes `opened`
parentheses: a sequence waits outside for each of them, the text can be
written again, and literal parts are text. -/
structure Partial.Reads (p : Partial) (opened : Nat) (cs : List Char) :
    Prop where
  waiting : p.outside.length = opened
  text : p.text = cs
  plain : p.current.IsPlain ∧ ∀ rest ∈ p.outside, rest.IsPlain

/-- A character that joins a literal is printed in front. -/
theorem print_consLiteral (c : Char) (p : Pattern) :
    (consLiteral c p).print = c :: p.print := by
  cases p <;> simp [consLiteral, print]

/-- It may join one if it stands for itself. -/
theorem isPlain_consLiteral {c : Char} {p : Pattern} (hc : IsText c)
    (h : p.IsPlain) : (consLiteral c p).IsPlain := by
  -- In front of anything but a literal the character begins one.
  cases p with
  | literal text rest =>
      refine ⟨fun d hd => ?_, h.2⟩
      rw [String.toList_ofList] at hd
      rcases List.mem_cons.1 hd with rfl | hd
      · exact hc
      · exact h.1 d hd
  | empty | reference | optional =>
      refine ⟨fun d hd => ?_, h⟩
      rw [String.toList_singleton, List.mem_singleton] at hd
      exact hd ▸ hc

namespace Partial.Reads

variable {p : Partial} {opened : Nat} {cs : List Char}

/-- A closing parenthesis puts the sequence aside. -/
theorem add_close (h : p.Reads opened cs) :
    (p.add ')').Reads (opened + 1) (')' :: cs) where
  waiting := by simp [add, h.waiting]
  text := by
    rw [← h.text]
    simp [add, Partial.text, print]
  plain := by
    refine ⟨trivial, fun q hq => ?_⟩
    rcases List.mem_cons.1 hq with rfl | hq
    · exact h.plain.1
    · exact h.plain.2 q hq

/-- An opening parenthesis makes the sequence a part of the one that waits
outside. -/
theorem add_open (h : p.Reads (opened + 1) cs) :
    (p.add '(').Reads opened ('(' :: cs) := by
  obtain ⟨hwait, htext, hcurrent, hout⟩ := h
  cases houtside : p.outside with
  | nil => simp [houtside] at hwait
  | cons next outside =>
      rw [houtside] at hwait hout
      refine ⟨?_, ?_, ?_, fun q hq => ?_⟩
      · simpa [add, houtside] using hwait
      · rw [← htext]
        simp [add, Partial.text, houtside, print]
      · simpa [add, houtside] using
          ⟨hcurrent, hout next (List.mem_cons_self ..)⟩
      · refine hout q (List.mem_cons_of_mem _ ?_)
        simpa [add, houtside] using hq

/-- Any other character is a reference or text. -/
theorem add_other {c : Char} (h : p.Reads opened cs) (hopen : c ≠ '(')
    (hclose : c ≠ ')') : (p.add c).Reads opened (c :: cs) := by
  obtain ⟨hwait, htext, hcurrent, hout⟩ := h
  cases hid : RuleId.ofChar? c with
  | some id =>
      obtain rfl := RuleId.ofChar?_eq_some.1 hid
      refine ⟨?_, ?_, ?_, ?_⟩
      · simpa [add, hopen, hclose, hid] using hwait
      · rw [← htext]
        simp [add, Partial.text, hopen, hclose, hid, print]
      · simpa [add, hopen, hclose, hid, IsPlain] using hcurrent
      · simpa [add, hopen, hclose, hid] using hout
  | none =>
      refine ⟨?_, ?_, ?_, ?_⟩
      · simpa [add, hopen, hclose, hid] using hwait
      · rw [← htext]
        simp [add, Partial.text, hopen, hclose, hid, print_consLiteral]
      · simpa [add, hopen, hclose, hid] using
          isPlain_consLiteral ⟨hid, hopen, hclose⟩ hcurrent
      · simpa [add, hopen, hclose, hid] using hout

end Partial.Reads

/-- Folding a suffix that closes `opened` parentheses. -/
theorem foldr_add {cs : List Char} :
    ∀ {opened : Nat}, ClosesOpen opened cs →
      (cs.foldr Partial.add ⟨.empty, []⟩).Reads opened cs := by
  -- From the right end of the text; which parentheses are open at a
  -- character is known from what closes them behind it.
  induction cs with
  | nil =>
      intro opened h
      exact ⟨(closesOpen_nil_iff.1 h).symm, rfl, trivial, by simp⟩
  | cons c rest ih =>
      intro opened h
      rw [List.foldr_cons]
      by_cases hclose : c = ')'
      · subst hclose
        obtain ⟨outer, rfl, hrest⟩ := closesOpen_close_iff.1 h
        exact (ih hrest).add_close
      · by_cases hopen : c = '('
        · subst hopen
          exact (ih (closesOpen_open_iff.1 h)).add_open
        · exact (ih ((closesOpen_other_iff hopen hclose).1 h)).add_other
            hopen hclose

/-- The pattern built of a balanced text is written as that text. -/
theorem print_build {source : String} (h : Balanced source) :
    (build source.toList).print = source.toList := by
  have hreads := foldr_add h
  have hnone := List.eq_nil_of_length_eq_zero hreads.waiting
  simpa [Partial.text, hnone, build] using hreads.text

/-- Building makes no reference and no parenthesis part of a literal. -/
theorem isPlain_build {source : String} (h : Balanced source) :
    (build source.toList).IsPlain :=
  (foldr_add h).plain.1

/-- The references of the pattern built are those of the text. -/
theorem references_build {source : String} (h : Balanced source) :
    (build source.toList).references = referencesOf source := by
  rw [← (isPlain_build h).filterMap_print, print_build h]
  rfl

end Pattern

end WordGrammar
