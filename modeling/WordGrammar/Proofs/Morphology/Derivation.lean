/-
Derivations as they are observed.

While a word is changed, an observer is told about the sound changes that
had an effect. `Chain` lists these changes by the recursion of the sound
changes; that it lists all of them, in order and linked to one another, are
the lemmas about it, and `Recounts` collects them without mention of the
recursion. `applyFrom_cases` finds a chain behind every derivation, up to
the sound change that fails if there is one.

A writer of chains keeps its forms from one observation to the next, also
those of a derivation that failed. They do no harm, since the next word
begins anew: whatever a printer holds, it writes the line of a derivation
and nothing else (`lines_observeAll_seen`). `chainLines_derivations` is the
outcome for any number of words.
-/
import Mathlib.Data.List.Forall2
import Mathlib.Data.List.ReduceOption
import WordGrammar.Proofs.Morphology

namespace WordGrammar

-- ================================================================= changes

/-- A sound change that had an effect: its index, and the word before and
after it. -/
structure Change where
  index : Nat
  before : String
  after : String
  deriving DecidableEq, Repr

/-- How a change is observed. -/
def Change.observation (c : Change) : Observation :=
  .step c.index c.before c.after

namespace Morphology

/-- `morphology.Turns word k before after`: what the first `k` sound changes
make of the word is `before`, and the next one turns that into `after`. -/
def Turns (morphology : Morphology) (word : String) (k : Nat)
    (before after : String) : Prop :=
  changed (morphology.take k) word = .ok before
    ∧ ∃ t, morphology[k]? = some t ∧ t.apply before = .ok after

/-- There is one word that a sound change is applied to, and one that it
makes of it. -/
theorem Turns.unique {morphology : Morphology} {word : String} {k : Nat}
    {before after before' after' : String}
    (h : morphology.Turns word k before after)
    (h' : morphology.Turns word k before' after') :
    before' = before ∧ after' = after := by
  obtain ⟨hchanged, t, ht, happly⟩ := h
  obtain ⟨hchanged', t', ht', happly'⟩ := h'
  rw [hchanged] at hchanged'
  cases hchanged'
  rw [ht] at ht'
  cases ht'
  rw [happly] at happly'
  cases happly'
  exact ⟨rfl, rfl⟩

section cons

variable {t : SoundChange} {rest : Morphology} {word next : String}
  {before after : String}

/-- The first sound change is applied to the word itself. -/
theorem turns_cons_zero (h : t.apply word = .ok next) :
    Turns (t :: rest) word 0 before after
      ↔ before = word ∧ after = next := by
  have hturns : Turns (t :: rest) word 0 word next := ⟨rfl, t, rfl, h⟩
  constructor
  · exact hturns.unique
  · intro heq
    rw [heq.1, heq.2]
    exact hturns

/-- The later ones are applied to what the first one makes of it. -/
theorem turns_cons_succ (h : t.apply word = .ok next) {k : Nat} :
    Turns (t :: rest) word (k + 1) before after
      ↔ Turns rest next k before after := by
  unfold Turns
  rw [List.take_succ_cons, changed_cons_of_ok h, List.getElem?_cons_succ]

end cons

/-- If all sound changes can be applied in order, each is applied to some
word and makes a word of it. -/
theorem exists_turns {morphology : Morphology} {word result : String}
    (h : morphology.changed word = .ok result) {k : Nat}
    (hk : k < morphology.length) :
    ∃ before after, morphology.Turns word k before after := by
  induction morphology generalizing word k with
  | nil => exact absurd hk (Nat.not_lt_zero k)
  | cons t rest ih =>
      obtain ⟨next, happly, hrest⟩ := of_changed_cons_eq_ok h
      cases k with
      | zero => exact ⟨word, next, (turns_cons_zero happly).2 ⟨rfl, rfl⟩⟩
      | succ k =>
          obtain ⟨before, after, hturns⟩ :=
            ih hrest (Nat.lt_of_succ_lt_succ hk)
          exact ⟨before, after, (turns_cons_succ happly).2 hturns⟩

/-- The change is made by one of the sound changes, that are numbered from
`index` on, and is not from a word to itself. -/
def MakesChange (index : Nat) (morphology : Morphology) (word : String)
    (c : Change) : Prop :=
  ∃ k, c.index = index + k ∧ morphology.Turns word k c.before c.after
    ∧ c.before ≠ c.after

/-- A change is made by the first of the sound changes, if that has an
effect, or by one of the others. -/
theorem makesChange_cons {t : SoundChange} {word next : String}
    (h : t.apply word = .ok next) {index : Nat} {rest : Morphology}
    {c : Change} :
    MakesChange index (t :: rest) word c
      ↔ (c = ⟨index, word, next⟩ ∧ word ≠ next)
        ∨ MakesChange (index + 1) rest next c := by
  constructor
  · intro hmakes
    obtain ⟨k, hindex, hturns, hne⟩ := hmakes
    cases k with
    | zero =>
        obtain ⟨hbefore, hafter⟩ := (turns_cons_zero h).1 hturns
        obtain ⟨i, before, after⟩ := c
        cases hindex
        cases hbefore
        cases hafter
        exact .inl ⟨rfl, hne⟩
    | succ k =>
        have hindex' : c.index = index + 1 + k := by omega
        exact .inr ⟨k, hindex', (turns_cons_succ h).1 hturns, hne⟩
  · intro hmakes
    cases hmakes with
    | inl hhead =>
        obtain ⟨rfl, hne⟩ := hhead
        exact ⟨0, rfl, (turns_cons_zero h).2 ⟨rfl, rfl⟩, hne⟩
    | inr hrest =>
        obtain ⟨k, hindex, hturns, hne⟩ := hrest
        have hindex' : c.index = index + (k + 1) := by omega
        exact ⟨k + 1, hindex', (turns_cons_succ h).2 hturns, hne⟩

end Morphology

-- ================================================================== chains

namespace Derivation

/-- `Chain index word morphology changes result`: sound changes that are
numbered from `index` on make the changes of the word, one after the other,
and the word that they result in. -/
inductive Chain : Nat → String → Morphology → List Change → String → Prop
  | nil {index word} : Chain index word [] [] word
  | kept {index word t rest changes result} :
      t.apply word = .ok word →
      Chain (index + 1) word rest changes result →
      Chain index word (t :: rest) changes result
  | changed {index word next t rest changes result} :
      t.apply word = .ok next → next ≠ word →
      Chain (index + 1) next rest changes result →
      Chain index word (t :: rest) (⟨index, word, next⟩ :: changes) result

namespace Chain

variable {index : Nat} {word result : String} {morphology : Morphology}
  {changes : List Change}

/-- A chain ends with the word as it is when all sound changes have been
applied. -/
theorem changed_eq (h : Chain index word morphology changes result) :
    morphology.changed word = .ok result := by
  induction h with
  | nil => rfl
  | kept happly _ ih => rw [Morphology.changed_cons_of_ok happly, ih]
  | changed happly _ _ ih => rw [Morphology.changed_cons_of_ok happly, ih]

/-- Each change starts from where the one before it ended. -/
theorem linked (h : Chain index word morphology changes result) :
    word :: changes.map Change.after
      = changes.map Change.before ++ [result] := by
  induction h with
  | nil => rfl
  | kept _ _ ih => exact ih
  | changed _ _ _ ih =>
      rw [List.map_cons, List.map_cons, List.cons_append, ih]

/-- The chain has the changes that sound changes make, and no others. -/
theorem mem_iff (h : Chain index word morphology changes result)
    {c : Change} :
    c ∈ changes ↔ morphology.MakesChange index word c := by
  induction h with
  | nil =>
      constructor
      · exact fun hmem => absurd hmem List.not_mem_nil
      · intro hmakes
        obtain ⟨k, -, ⟨-, t, ht, -⟩, -⟩ := hmakes
        cases ht
  | kept happly _ ih =>
      rw [Morphology.makesChange_cons happly, ih]
      simp
  | changed happly hne _ ih =>
      rw [Morphology.makesChange_cons happly, List.mem_cons, ih]
      simp [hne.symm]

/-- The changes are in the order of the sound changes that make them. -/
theorem increasing (h : Chain index word morphology changes result) :
    changes.Pairwise fun c d => c.index < d.index := by
  induction h with
  | nil => exact .nil
  | kept _ _ ih => exact ih
  | @changed index word next _ _ _ _ _ _ hchain ih =>
      refine .cons (fun c hc => ?_) ih
      obtain ⟨k, hindex, -⟩ := hchain.mem_iff.1 hc
      show index < c.index
      omega

end Chain

/-- The changes of a word by sound changes, and the word that they result
in. There is a change for every sound change that makes another word of the
word that it is applied to, and for no others; they are in order, and each
starts from where the one before it ended. -/
structure Recounts (morphology : Morphology) (word : String)
    (changes : List Change) (result : String) : Prop where
  changed : morphology.changed word = .ok result
  increasing : changes.Pairwise fun c d => c.index < d.index
  linked : word :: changes.map Change.after
    = changes.map Change.before ++ [result]
  mem_iff : ∀ c, c ∈ changes ↔
    morphology.Turns word c.index c.before c.after ∧ c.before ≠ c.after
  silent_iff : ∀ k < morphology.length, ∃ before after,
    morphology.Turns word k before after
      ∧ ((∀ c ∈ changes, c.index ≠ k) ↔ after = before)

/-- A chain recounts all changes. Nothing of the recursion is left in that.
-/
theorem Chain.recounts {word result : String} {morphology : Morphology}
    {changes : List Change} (h : Chain 0 word morphology changes result) :
    Recounts morphology word changes result := by
  have hmem : ∀ c, c ∈ changes ↔
      morphology.Turns word c.index c.before c.after
        ∧ c.before ≠ c.after := by
    intro c
    rw [h.mem_iff]
    constructor
    · intro hmakes
      obtain ⟨k, hindex, hturns⟩ := hmakes
      rw [Nat.zero_add] at hindex
      rw [hindex]
      exact hturns
    · exact fun hturns => ⟨c.index, (Nat.zero_add _).symm, hturns⟩
  refine ⟨h.changed_eq, h.increasing, h.linked, hmem, ?_⟩
  intro k hk
  obtain ⟨before, after, hturns⟩ := Morphology.exists_turns h.changed_eq hk
  refine ⟨before, after, hturns, ?_, ?_⟩
  -- No change has its number; were the words different, there would be one.
  · intro hsilent
    by_contra hne
    have hchange : (⟨k, before, after⟩ : Change) ∈ changes :=
      (hmem _).2 ⟨hturns, Ne.symm hne⟩
    exact hsilent _ hchange rfl
  · intro heq c hc hindex
    obtain ⟨hturns', hne⟩ := (hmem c).1 hc
    rw [hindex] at hturns'
    obtain ⟨hbefore, hafter⟩ := hturns.unique hturns'
    exact hne (by rw [hbefore, hafter, heq])

/-- A derivation is a chain that finishes, or one that ends at the sound
change that fails. -/
theorem applyFrom_cases (index : Nat) (word : String)
    (morphology : Morphology) :
    (∃ changes result, Chain index word morphology changes result
        ∧ applyFrom index word morphology = ⟨.ok result,
          changes.map Change.observation ++ [.finish result]⟩)
      ∨ ∃ past t later changes reached e, morphology = past ++ t :: later
        ∧ Chain index word past changes reached
        ∧ t.apply reached = .error e
        ∧ applyFrom index word morphology
          = ⟨.error e, changes.map Change.observation⟩ := by
  -- Along the sound changes; the chain of the rest starts from the next
  -- word.
  induction morphology generalizing index word with
  | nil => exact .inl ⟨[], word, .nil, rfl⟩
  | cons t rest ih =>
      cases happly : t.apply word with
      | error e =>
          exact .inr ⟨[], t, rest, [], word, e, rfl, .nil, happly,
            applyFrom_cons_of_error happly index rest⟩
      | ok next =>
          by_cases hkept : next = word
          · subst hkept
            rw [applyFrom_cons_of_kept happly]
            obtain ⟨changes, result, hchain, hrest⟩ |
              ⟨past, t', later, changes, reached, e, hsplit, hchain, hfail,
                hrest⟩ := ih (index + 1) next
            · exact .inl ⟨changes, result, .kept happly hchain, hrest⟩
            · exact .inr ⟨t :: past, t', later, changes, reached, e,
                congrArg (t :: ·) hsplit, .kept happly hchain, hfail, hrest⟩
          · rw [applyFrom_cons_of_changed happly hkept]
            obtain ⟨changes, result, hchain, hrest⟩ |
              ⟨past, t', later, changes, reached, e, hsplit, hchain, hfail,
                hrest⟩ := ih (index + 1) next
            · rw [hrest]
              exact .inl ⟨_, result, .changed happly hkept hchain, rfl⟩
            · rw [hrest]
              exact .inr ⟨t :: past, t', later, _, reached, e,
                congrArg (t :: ·) hsplit, .changed happly hkept hchain, hfail,
                rfl⟩

/-- What is seen of a word that is changed, and the line that a writer of
chains writes for it. A word is seen from its beginning to its end with all
its changes in between, and a line is written if there is a change. If a
sound change fails, the changes before it are seen and no line is written. -/
inductive ShownAs (morphology : Morphology) (word : String) :
    Derivation → Option String → Prop
  | changed {changes result} : Recounts morphology word changes result →
      changes ≠ [] →
      ShownAs morphology word
        ⟨.ok result, .begin word
          :: (changes.map Change.observation ++ [.finish result])⟩
        (some (" => ".intercalate (word :: changes.map Change.after)))
  | unchanged : Recounts morphology word [] word →
      ShownAs morphology word ⟨.ok word, [.begin word, .finish word]⟩ none
  | failed {past t later changes reached e} :
      morphology = past ++ t :: later →
      Recounts past word changes reached → t.apply reached = .error e →
      ShownAs morphology word
        ⟨.error e, .begin word :: changes.map Change.observation⟩ none

/-- Every word that is changed is shown in one of the three ways. -/
theorem exists_shownAs (morphology : Morphology) (word : String) :
    ∃ line, ShownAs morphology word (morphology.derive word) line := by
  unfold Morphology.derive
  obtain ⟨changes, result, hchain, hrun⟩ |
    ⟨past, t, later, changes, reached, e, hsplit, hchain, hfail, hrun⟩ :=
    applyFrom_cases 0 word morphology
  · rw [hrun]
    by_cases hchanges : changes = []
    · subst hchanges
      obtain rfl : word = result := by simpa using hchain.linked
      exact ⟨none, .unchanged hchain.recounts⟩
    · exact ⟨_, .changed hchain.recounts hchanges⟩
  · rw [hrun]
    exact ⟨none, .failed hsplit hchain.recounts hfail⟩

end Derivation

-- ============================================================ chains as text

namespace ChainPrinter

/-- What is observed can be observed in parts. -/
theorem observeAll_append (printer : ChainPrinter)
    (seen seen' : List Observation) :
    printer.observeAll (seen ++ seen')
      = (printer.observeAll seen).observeAll seen' :=
  List.foldl_append

/-- Each change adds a form to those that the printer holds, the last on
top. -/
theorem observeAll_changes (forms lines : List String)
    (changes : List Change) :
    observeAll ⟨forms, lines⟩ (changes.map Change.observation)
      = ⟨(changes.map Change.after).reverse ++ forms, lines⟩ := by
  induction changes generalizing forms with
  | nil => rfl
  | cons c changes ih =>
      show observeAll ⟨c.after :: forms, lines⟩
          (changes.map Change.observation) = _
      rw [ih, List.map_cons, List.reverse_cons, List.append_assoc]
      rfl

/-- A printer writes the line of a derivation, whatever it holds from the
ones before. -/
theorem lines_observeAll_seen {morphology : Morphology} {word : String}
    {derivation : Derivation} {line : Option String}
    (h : Derivation.ShownAs morphology word derivation line)
    (printer : ChainPrinter) :
    (printer.observeAll derivation.seen).lines
      = line.toList ++ printer.lines := by
  cases h with
  | @changed changes result _ hne =>
      -- With a change there are two forms at least, which is when a line is
      -- written.
      have hlong : 1 < ((changes.map Change.after).reverse ++ [word]).length := by
        have hpos : 0 < changes.length := List.length_pos_of_ne_nil hne
        simp
        omega
      show (observeAll ⟨[word], printer.lines⟩
        (changes.map Change.observation ++ [.finish result])).lines = _
      rw [observeAll_append, observeAll_changes]
      show (if 1 < _ then _ else _ : ChainPrinter).lines = _
      rw [if_pos hlong]
      show chainText _ :: printer.lines = _
      rw [List.reverse_append, List.reverse_reverse]
      rfl
  | unchanged _ => rfl
  | @failed _ _ _ changes _ _ _ _ _ =>
      show (observeAll ⟨[word], printer.lines⟩
        (changes.map Change.observation)).lines = _
      rw [observeAll_changes]
      rfl

/-- A printer writes the lines of derivations one after the other. -/
theorem lines_observeAll_derivations {runs : List (Morphology × String)}
    {lines : List (Option String)}
    (h : List.Forall₂ (fun run line => Derivation.ShownAs run.1 run.2
      (run.1.derive run.2) line) runs lines) (printer : ChainPrinter) :
    (printer.observeAll
        (runs.flatMap fun run => (run.1.derive run.2).seen)).lines
      = lines.reduceOption.reverse ++ printer.lines := by
  induction h generalizing printer with
  | nil => rfl
  | @cons run line runs lines hshown _ ih =>
      rw [List.flatMap_cons, observeAll_append, ih,
        lines_observeAll_seen hshown]
      cases line with
      | none => rfl
      | some line => simp [List.reduceOption_cons_of_some]

end ChainPrinter

/-- Any number of words are changed one after the other, each by sound
changes of its own, with one observer. Of each, what is seen is the chain of
its changes; a writer of chains that sees them all writes the lines of those
that are changed, in order, and no others. -/
theorem chainLines_derivations (runs : List (Morphology × String)) :
    ∃ lines : List (Option String),
      List.Forall₂ (fun run line => Derivation.ShownAs run.1 run.2
          (run.1.derive run.2) line) runs lines
        ∧ chainLines (runs.flatMap fun run => (run.1.derive run.2).seen)
          = lines.reduceOption := by
  choose line hline using fun run : Morphology × String =>
    Derivation.exists_shownAs run.1 run.2
  have hlines : List.Forall₂ (fun run line => Derivation.ShownAs run.1 run.2
      (run.1.derive run.2) line) runs (runs.map line) :=
    List.forall₂_map_right_iff.2 (List.forall₂_same.2 fun run _ => hline run)
  refine ⟨runs.map line, hlines, ?_⟩
  rw [chainLines, ChainPrinter.written,
    ChainPrinter.lines_observeAll_derivations hlines]
  simp

/-- A word that is changed once, one that is not, and one that is changed and
changed back. -/
example : chainLines (["te", "bob", "ta"].flatMap fun word =>
      ((Morphology.compile [⟨"a", "e", none⟩, ⟨"e", "a", none⟩]
        .empty).morphology.derive word).seen)
    = ["te => ta", "ta => te => ta"] := by decide +kernel

end WordGrammar
