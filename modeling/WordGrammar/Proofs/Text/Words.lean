/-
The words of a text and the blanks between them.

`words` cuts a text at its blanks, and `Joined` puts words together with
blanks between them. They undo each other: a text of joined words has just
those words, whatever blanks stand before and after them
(`words_of_joined`), and every text that has words is some that are joined,
between blanks (`exists_joined`). Trimming leaves the words of a text as
they are; what it leaves of the text is told by `Trims` alone
(`trim_eq_iff`).
-/
import Mathlib.Data.List.DropRight
import Mathlib.Data.List.Induction
import WordGrammar.Proofs.Text.Lines
import WordGrammar.Token.Scan

namespace WordGrammar.Text

-- =============================================== character by character

section

variable {c : Char} {cs word : List Char}

/-- The first word goes up to a blank, and the others are those of what
follows. -/
theorem words_eq (cs : List Char) :
    words cs = match cs.dropWhile isBlank with
      | [] => []
      | c :: rest =>
          (c :: Lexeme.toBlank rest)
            :: words (rest.dropWhile (!isBlank ·)) := by
  rw [words]
  split
  · next h => rw [h]
  · next h => rw [h]; rfl

theorem words_nil : words [] = [] := by
  rw [words_eq]
  rfl

theorem words_blank (hc : isBlank c = true) :
    words (c :: cs) = words cs := by
  rw [words_eq, words_eq cs, List.dropWhile_cons_of_pos hc]

/-- A character that is no blank begins a word, which goes up to the next
blank. -/
theorem words_cons (hc : isBlank c = false) :
    words (c :: cs)
      = (c :: Lexeme.toBlank cs) :: words (cs.dropWhile (!isBlank ·)) := by
  rw [words_eq, List.dropWhile_cons_of_neg (by simp [hc])]

/-- A blank at the end makes no difference. -/
theorem words_append_blank {b : Char} (hb : isBlank b = true) :
    words (cs ++ [b]) = words cs := by
  have hstop : ∀ c ∈ [b].head?, (!isBlank c) = false := by
    rintro c ⟨⟩
    simp [hb]
  -- word by word: a blank after the last one still ends it, and after
  -- blanks alone it is one more of them
  induction cs using words.induct with
  | case1 cs hcs =>
      rw [words_eq, words_eq cs, List.dropWhile_append, hcs]
      simp [hb]
  | case2 cs c rest hcs ih =>
      rw [words_eq, words_eq cs, List.dropWhile_append, hcs]
      simp only [List.isEmpty_cons, Bool.false_eq_true, if_false,
        List.cons_append]
      rw [dropWhile_append_of_stop hstop, ih, Lexeme.toBlank,
        takeWhile_append_of_stop hstop, Lexeme.toBlank]

/-- Words are not empty and hold no blanks. -/
theorem mem_words (h : word ∈ words cs) :
    word ≠ [] ∧ ∀ c ∈ word, isBlank c = false := by
  induction cs using words.induct with
  | case1 cs hcs =>
      rw [words_eq, hcs] at h
      cases h
  | case2 cs c rest hcs ih =>
      rw [words_eq, hcs] at h
      rcases List.mem_cons.1 h with hword | hword
      · have hc : isBlank c = false := by
          have hhead := List.head?_dropWhile_not isBlank cs
          rw [hcs] at hhead
          simpa using hhead
        subst hword
        refine ⟨List.cons_ne_nil _ _, List.forall_mem_cons.2 ⟨hc, ?_⟩⟩
        intro d hd
        simpa using List.mem_takeWhile_imp hd
      · exact ih hword

end

-- ========================================================== gaps, words

/-- Blanks of any kind, line ends among them; there may be none. -/
def IsGap (cs : List Char) : Prop := ∀ c ∈ cs, isBlank c = true

/-- A text that is one word. -/
def IsWord (cs : List Char) : Prop :=
  cs ≠ [] ∧ ∀ c ∈ cs, isBlank c = false

instance (cs : List Char) : Decidable (IsWord cs) :=
  letI := List.decidableBAll (isBlank · = false) cs
  inferInstanceAs (Decidable (cs ≠ [] ∧ ∀ c ∈ cs, isBlank c = false))

/-- `Joined ws cs`: the text is the words one after the other, with blanks
between each two of them and none before or after. -/
inductive Joined : List (List Char) → List Char → Prop
  | word {word : List Char} : Joined [word] word
  | cons {word gap rest : List Char} {ws : List (List Char)} :
      gap ≠ [] → IsGap gap → Joined ws rest →
      Joined (word :: ws) (word ++ gap ++ rest)

section

variable {gap cs rest word : List Char} {ws : List (List Char)}

theorem isGap_takeWhile (cs : List Char) : IsGap (cs.takeWhile isBlank) :=
  fun _ => List.mem_takeWhile_imp

/-- Blanks in front of a text make no difference to its words. -/
theorem words_gap_append (h : IsGap gap) : words (gap ++ cs) = words cs := by
  induction gap with
  | nil => rfl
  | cons c gap ih =>
      obtain ⟨hc, hgap⟩ := List.forall_mem_cons.1 h
      rw [List.cons_append, words_blank hc, ih hgap]

/-- Nor do blanks at its end. -/
theorem words_append_gap (h : IsGap gap) : words (cs ++ gap) = words cs := by
  induction gap using List.reverseRecOn with
  | nil => rw [List.append_nil]
  | append_singleton gap c ih =>
      obtain ⟨hgap, hc⟩ := List.forall_mem_append.1 h
      have hblank : isBlank c = true := hc c (List.mem_singleton_self c)
      rw [← List.append_assoc, words_append_blank hblank, ih hgap]

/-- Only blanks have no words. -/
theorem words_eq_nil_iff : words cs = [] ↔ IsGap cs := by
  constructor
  · intro h
    rw [words_eq] at h
    cases hdrop : cs.dropWhile isBlank with
    | nil => exact List.dropWhile_eq_nil_iff.1 hdrop
    | cons c rest => rw [hdrop] at h; cases h
  · intro h
    rw [← List.append_nil cs, words_gap_append h, words_nil]

/-- A word ends where a blank follows it. -/
theorem words_word_append (hword : IsWord word)
    (hrest : ∀ c ∈ rest.head?, isBlank c = true) :
    words (word ++ rest) = word :: words rest := by
  cases word with
  | nil => exact absurd rfl hword.1
  | cons c word =>
      obtain ⟨hc, hmore⟩ := List.forall_mem_cons.1 hword.2
      have hstop : ∀ c ∈ rest.head?, (!isBlank c) = false :=
        fun c hc => by simp [hrest c hc]
      have hall : ∀ c ∈ word, (!isBlank c) = true :=
        fun c hc => by simp [hmore c hc]
      rw [List.cons_append, words_cons hc, Lexeme.toBlank,
        takeWhile_append_of_stop hstop, List.takeWhile_eq_self_iff.2 hall,
        dropWhile_append_of_stop hstop, List.dropWhile_eq_nil_iff.2 hall,
        List.nil_append]

/-- Joined words are something. -/
theorem Joined.ne_nil (h : Joined ws cs) (hws : ∀ word ∈ ws, IsWord word) :
    cs ≠ [] := by
  cases h with
  | word => exact (hws _ (List.mem_singleton_self _)).1
  | cons =>
      have hword := (hws _ List.mem_cons_self).1
      simp [hword]

/-- Words that are joined can be told apart. -/
theorem words_of_joined (h : Joined ws cs) (hws : ∀ word ∈ ws, IsWord word) :
    words cs = ws := by
  induction h with
  | @word word =>
      have hword := hws word (List.mem_singleton_self word)
      have hone : words (word ++ []) = word :: words [] :=
        words_word_append hword fun _ h => nomatch h
      rwa [List.append_nil, words_nil] at hone
  | @cons word gap rest ws hne hgap _ ih =>
      obtain ⟨hword, hmore⟩ := List.forall_mem_cons.1 hws
      have hstop : ∀ c ∈ (gap ++ rest).head?, isBlank c = true := by
        cases gap with
        | nil => exact absurd rfl hne
        | cons c gap => rintro d ⟨⟩; exact hgap c List.mem_cons_self
      rw [List.append_assoc, words_word_append hword hstop,
        words_gap_append hgap, ih hmore]

/-- Joined words begin with the first of them. -/
theorem Joined.head_not_isBlank (h : Joined ws cs)
    (hws : ∀ word ∈ ws, IsWord word) : ∀ c ∈ cs.head?, isBlank c = false := by
  have hword : ∀ {word rest : List Char}, IsWord word →
      ∀ c ∈ (word ++ rest).head?, isBlank c = false := by
    rintro (_ | ⟨d, word⟩) rest hword c hc
    · exact absurd rfl hword.1
    · cases hc
      exact hword.2 _ List.mem_cons_self
  cases h with
  | @word word =>
      rw [← List.append_nil cs]
      exact hword (hws _ (List.mem_singleton_self _))
  | cons =>
      rw [List.append_assoc]
      exact hword (hws _ List.mem_cons_self)

/-- A text that has words is these words joined, between blanks. -/
theorem exists_joined (h : words cs ≠ []) :
    ∃ before text after, cs = before ++ text ++ after ∧ IsGap before
      ∧ IsGap after ∧ Joined (words cs) text := by
  induction cs using words.induct with
  | case1 cs hcs =>
      rw [words_eq, hcs] at h
      exact absurd rfl h
  | case2 cs c rest hcs ih =>
      have hcut : cs = cs.takeWhile isBlank ++ (c :: Lexeme.toBlank rest)
          ++ rest.dropWhile (!isBlank ·) := by
        rw [List.append_assoc, List.cons_append, Lexeme.toBlank,
          List.takeWhile_append_dropWhile, ← hcs,
          List.takeWhile_append_dropWhile]
      have hwords : words cs = (c :: Lexeme.toBlank rest)
          :: words (rest.dropWhile (!isBlank ·)) := by
        rw [words_eq, hcs]
      have hbefore := isGap_takeWhile cs
      -- either this is the last word, or a gap and more words follow
      by_cases hlast : words (rest.dropWhile (!isBlank ·)) = []
      · rw [hlast] at hwords
        rw [hwords]
        exact ⟨_, _, _, hcut, hbefore, words_eq_nil_iff.1 hlast, .word⟩
      · obtain ⟨gap, text, after, hrest, hgap, hafter, hjoined⟩ := ih hlast
        -- the next word would have gone on with this one
        have hne : gap ≠ [] := by
          rintro rfl
          have hhead := hjoined.head_not_isBlank fun _ => mem_words
          have htext := hjoined.ne_nil fun _ => mem_words
          have hstop := List.head?_dropWhile_not (!isBlank ·) rest
          rw [hrest] at hstop
          cases text with
          | nil => exact htext rfl
          | cons d text => simp [hhead d rfl] at hstop
        refine ⟨cs.takeWhile isBlank,
          (c :: Lexeme.toBlank rest) ++ gap ++ text, after, ?_, hbefore,
          hafter, ?_⟩
        · rw [hrest] at hcut
          simpa only [List.append_assoc] using hcut
        · rw [hwords]
          exact .cons hne hgap hjoined

end

-- ============================================================= trimming

/-- `Trims cs text`: the text is what is left of the characters without the
blanks before and after. -/
def Trims (cs text : List Char) : Prop :=
  (∃ before after, cs = before ++ text ++ after ∧ IsGap before ∧ IsGap after)
    ∧ (∀ c ∈ text.head?, isBlank c = false)
    ∧ ∀ c ∈ text.getLast?, isBlank c = false

section

variable {gap cs rest text : List Char} {c : Char}

/-- Blanks in front of a text end where the text begins. -/
theorem dropWhile_gap_append (hgap : IsGap gap)
    (htext : ∀ c ∈ text.head?, isBlank c = false) :
    (gap ++ text).dropWhile isBlank = text := by
  rw [List.dropWhile_append_of_pos hgap]
  cases text with
  | nil => rfl
  | cons c text =>
      exact List.dropWhile_cons_of_neg (by simp [htext c rfl])

/-- Blanks after a text begin where the text ends. -/
theorem trimEnd_append_gap (hgap : IsGap gap)
    (htext : ∀ c ∈ text.getLast?, isBlank c = false) :
    trimEnd (text ++ gap) = text := by
  have hreversed : IsGap gap.reverse :=
    fun c hc => hgap c (List.mem_reverse.1 hc)
  rw [trimEnd, List.reverse_append, dropWhile_gap_append hreversed,
    List.reverse_reverse]
  rwa [List.head?_reverse]

/-- What is trimmed off the end is the blanks there. -/
theorem trimEnd_append_rtakeWhile (cs : List Char) :
    trimEnd cs ++ cs.rtakeWhile isBlank = cs :=
  List.rdropWhile_append_rtakeWhile

theorem isGap_rtakeWhile (cs : List Char) :
    IsGap (cs.rtakeWhile isBlank) := by
  intro c hc
  rw [List.rtakeWhile, List.mem_reverse] at hc
  exact List.mem_takeWhile_imp hc

theorem words_trimEnd (cs : List Char) : words (trimEnd cs) = words cs := by
  rw [← words_append_gap (isGap_rtakeWhile cs), trimEnd_append_rtakeWhile]

/-- Trimming takes all blanks off both ends and nothing else. -/
theorem trims_trim (cs : List Char) : Trims cs (trim cs) := by
  have hcut : trim cs ++ (cs.dropWhile isBlank).rtakeWhile isBlank
      = cs.dropWhile isBlank := trimEnd_append_rtakeWhile _
  refine ⟨⟨cs.takeWhile isBlank, (cs.dropWhile isBlank).rtakeWhile isBlank,
    ?_, isGap_takeWhile cs, isGap_rtakeWhile _⟩, ?_, ?_⟩
  · rw [List.append_assoc, hcut, List.takeWhile_append_dropWhile]
  · intro c hc
    have hhead := List.head?_dropWhile_not isBlank cs
    rw [← hcut, List.head?_append, Option.mem_def.1 hc] at hhead
    simpa using hhead
  · intro c hc
    obtain ⟨hne, rfl⟩ := List.mem_getLast?_eq_getLast hc
    exact Bool.eq_false_iff.2
      (List.rdropWhile_last_not isBlank (cs.dropWhile isBlank) hne)

/-- Trimming is told by what it leaves. -/
theorem trim_eq_iff : trim cs = text ↔ Trims cs text := by
  constructor
  · rintro rfl
    exact trims_trim cs
  · rintro ⟨⟨before, after, rfl, hbefore, hafter⟩, hhead, hlast⟩
    -- nothing may be left, and then all blanks go at the front
    cases text with
    | nil =>
        have hgap : IsGap (before ++ [] ++ after) := by
          rw [List.append_nil]
          exact List.forall_mem_append.2 ⟨hbefore, hafter⟩
        rw [trim, List.dropWhile_eq_nil_iff.2 hgap]
        rfl
    | cons c text =>
        have hstart : ∀ d ∈ (c :: text ++ after).head?, isBlank d = false :=
          hhead
        rw [trim, List.append_assoc, dropWhile_gap_append hbefore hstart,
          trimEnd_append_gap hafter hlast]

/-- A text whose first character that is no blank is `c`. -/
theorem exists_trim_cons (hgap : IsGap gap) (hc : isBlank c = false) :
    ∃ more, trim (gap ++ c :: rest) = c :: more
      ∧ words more = words rest := by
  have hstop : ∀ d ∈ [c].head?, isBlank d = false := by
    rintro d ⟨⟩
    exact hc
  refine ⟨trimEnd rest, ?_, words_trimEnd rest⟩
  have hstart : (gap ++ c :: rest).dropWhile isBlank = c :: rest :=
    dropWhile_gap_append hgap hstop
  rw [trim, hstart, trimEnd, List.reverse_cons,
    dropWhile_append_of_stop hstop, List.reverse_append]
  rfl

end

end WordGrammar.Text
