/-
Sound changes that are compiled can be applied.

Compiling a list of sound changes stops at the first one that fails; those
before it are compiled and reported (`compileFrom_cases`), so a list that
compiles has every member compiled (`isCompiled_compile`). The only failure
of applying a sound change is that it is not compiled; a compiled list
therefore takes every word to a word (`exists_derive`). What a list makes of
a word is `changed`: each sound change is applied to what the one before it
has made (`result_derive`).
-/
import Mathlib.Data.List.Forall2
import WordGrammar.Morphology.Derivation

namespace WordGrammar

-- ============================================================== compiling

namespace SoundChange

/-- How compiling a sound change ends, each with what it says of the pattern:
it is left as it is, its markers cannot be replaced, it is no regular
expression, or it is compiled. -/
theorem compile_cases (t : SoundChange) (table : RuleTable) (owner : String) :
    (t.isCompiled = true ∧ t.compile table owner = .ok t)
      ∨ (t.isCompiled = false ∧ ∃ e, replaceMarkers table owner t.pattern
          = .error e ∧ t.compile table owner = .error e)
      ∨ ∃ expanded, t.isCompiled = false
        ∧ replaceMarkers table owner t.pattern = .ok expanded
        ∧ ((∃ message, t.compile table owner
            = .error (.of (.invalidRegex expanded message)))
          ∨ ∃ regex, Regex.compile expanded = .ok regex
            ∧ t.compile table owner = .ok { t with
                compiled := some ⟨expanded, regex,
                  String.ofList (templateOf t.replacement.toList)⟩ }) := by
  unfold compile
  split
  next hcompiled => exact .inl ⟨hcompiled, rfl⟩
  next hraw =>
    have hraw' : t.isCompiled = false := Bool.eq_false_iff.2 hraw
    right
    cases hexpanded : replaceMarkers table owner t.pattern with
    | error e => exact .inl ⟨hraw', e, rfl, rfl⟩
    | ok expanded =>
        refine .inr ⟨expanded, hraw', rfl, ?_⟩
        simp only [bind, Except.bind]
        cases Regex.compile expanded with
        | error fault => exact .inl ⟨fault.message, rfl⟩
        | ok regex => exact .inr ⟨regex, rfl, rfl⟩

/-- A sound change that compiles is compiled afterwards, whether or not it
was before. -/
theorem isCompiled_of_compile {t after : SoundChange}
    {table : RuleTable} {owner : String}
    (h : t.compile table owner = .ok after) : after.isCompiled = true := by
  obtain ⟨hcompiled, hrun⟩ | ⟨-, e, -, hrun⟩ |
    ⟨expanded, -, -, ⟨message, hrun⟩ | ⟨regex, -, hrun⟩⟩ :=
    t.compile_cases table owner
  · rw [hrun] at h
    cases h
    exact hcompiled
  · rw [hrun] at h
    cases h
  · rw [hrun] at h
    cases h
  · rw [hrun] at h
    cases h
    rfl

end SoundChange

/-- A compiled sound change can be applied to every word. -/
theorem SoundChange.exists_apply {t : SoundChange}
    (h : t.isCompiled = true) (word : String) :
    ∃ after, t.apply word = .ok after := by
  obtain ⟨c, hc⟩ := Option.isSome_iff_exists.1 h
  exact ⟨c.regex.replaceAll c.template word, by rw [apply, hc]⟩

namespace Morphology

/-- The events of compiled sound changes, that are numbered from `index` on,
each with its expanded pattern. -/
def changeEvents (index : Nat) (compiled : Morphology) : List CompileEvent :=
  (compiled.zipIdx index).map fun t =>
    .soundChange t.2 (t.1.expanded?.getD "")

/-- `CompilesTo table index morphology compiled`: sound changes that are
numbered from `index` on are compiled, each on its own behalf. -/
def CompilesTo (table : RuleTable) (index : Nat)
    (morphology compiled : Morphology) : Prop :=
  List.Forall₂ (fun t after =>
      t.1.compile table (owner t.2 t.1.pattern) = .ok after)
    (morphology.zipIdx index) compiled

/-- What sound changes compile to is compiled throughout. -/
theorem CompilesTo.isCompiled {table : RuleTable} {index : Nat}
    {morphology compiled : Morphology}
    (h : CompilesTo table index morphology compiled) :
    compiled.isCompiled = true := by
  unfold CompilesTo at h
  generalize morphology.zipIdx index = numbered at h
  induction h with
  | nil => rfl
  | cons hcompile _ ih =>
      rw [Morphology.isCompiled, List.all_cons,
        SoundChange.isCompiled_of_compile hcompile]
      exact ih

/-- If the first sound change fails, all of them are left as they are. -/
theorem compileFrom_cons_of_error {table : RuleTable} {index : Nat}
    {t : SoundChange} {e : Error}
    (h : t.compile table (owner index t.pattern) = .error e)
    (rest : Morphology) :
    compileFrom table index (t :: rest) = ⟨t :: rest, [], .error e⟩ := by
  rw [compileFrom, h]

/-- If it compiles, its event comes before those of the others. -/
theorem compileFrom_cons_of_ok {table : RuleTable} {index : Nat}
    {t after : SoundChange}
    (h : t.compile table (owner index t.pattern) = .ok after)
    (rest : Morphology) :
    compileFrom table index (t :: rest)
      = ⟨after :: (compileFrom table (index + 1) rest).morphology,
        .soundChange index (after.expanded?.getD "")
          :: (compileFrom table (index + 1) rest).events,
        (compileFrom table (index + 1) rest).result⟩ := by
  rw [compileFrom, h]

/-- A list compiles up to the first sound change that fails, if there is
one; those before it are compiled and reported, and it is left as it is with
those after it. -/
theorem compileFrom_cases (table : RuleTable) (index : Nat)
    (morphology : Morphology) :
    (∃ compiled, CompilesTo table index morphology compiled
        ∧ compileFrom table index morphology
          = ⟨compiled, changeEvents index compiled, .ok ()⟩)
      ∨ ∃ past t later compiled e, morphology = past ++ t :: later
        ∧ CompilesTo table index past compiled
        ∧ t.compile table (owner (index + past.length) t.pattern) = .error e
        ∧ compileFrom table index morphology
          = ⟨compiled ++ t :: later, changeEvents index compiled,
            .error e⟩ := by
  -- Along the sound changes. The owner that an error names depends on the
  -- number, which goes up by one with each of them.
  induction morphology generalizing index with
  | nil => exact .inl ⟨[], .nil, rfl⟩
  | cons t rest ih =>
      cases hcompile : t.compile table (owner index t.pattern) with
      | error e =>
          exact .inr ⟨[], t, rest, [], e, rfl, .nil, hcompile,
            compileFrom_cons_of_error hcompile rest⟩
      | ok after =>
          rw [compileFrom_cons_of_ok hcompile rest]
          obtain ⟨compiled, hcompiled, hrest⟩ |
            ⟨past, t', later, compiled, e, hsplit, hcompiled, hfail, hrest⟩ :=
            ih (index + 1)
          · rw [hrest]
            exact .inl ⟨after :: compiled, .cons hcompile hcompiled, rfl⟩
          · rw [hrest]
            rw [Nat.add_right_comm] at hfail
            exact .inr ⟨t :: past, t', later, after :: compiled, e,
              congrArg (t :: ·) hsplit, .cons hcompile hcompiled, hfail, rfl⟩

/-- A list that compiles has every sound change compiled. -/
theorem isCompiled_compile {table : RuleTable} {morphology : Morphology}
    (h : (morphology.compile table).result = .ok ()) :
    (morphology.compile table).morphology.isCompiled = true := by
  unfold compile at h ⊢
  obtain ⟨compiled, hcompiled, hrun⟩ |
    ⟨past, t, later, compiled, e, -, -, -, hrun⟩ :=
    compileFrom_cases table 0 morphology
  · rw [hrun]
    exact hcompiled.isCompiled
  · rw [hrun] at h
    cases h

end Morphology

namespace Derivation

variable {t : SoundChange} {word next : String}

/-- A sound change that fails ends the derivation without being seen. -/
theorem applyFrom_cons_of_error {e : Error} (h : t.apply word = .error e)
    (index : Nat) (rest : Morphology) :
    applyFrom index word (t :: rest) = ⟨.error e, []⟩ := by
  rw [applyFrom, h]

/-- One that has no effect is not seen either. -/
theorem applyFrom_cons_of_kept (h : t.apply word = .ok word) (index : Nat)
    (rest : Morphology) :
    applyFrom index word (t :: rest) = applyFrom (index + 1) word rest := by
  rw [applyFrom, h]
  exact if_pos rfl

/-- One that has an effect is seen with its number and both words. -/
theorem applyFrom_cons_of_changed (h : t.apply word = .ok next)
    (hne : next ≠ word) (index : Nat) (rest : Morphology) :
    applyFrom index word (t :: rest)
      = ⟨(applyFrom (index + 1) next rest).result,
        .step index word next :: (applyFrom (index + 1) next rest).seen⟩ := by
  rw [applyFrom, h]
  exact if_neg hne

/-- What comes of a word does not depend on what is seen. -/
theorem result_applyFrom_cons (h : t.apply word = .ok next) (index : Nat)
    (rest : Morphology) :
    (applyFrom index word (t :: rest)).result
      = (applyFrom (index + 1) next rest).result := by
  by_cases hkept : next = word
  · subst hkept
    rw [applyFrom_cons_of_kept h]
  · rw [applyFrom_cons_of_changed h hkept]

/-- Compiled sound changes can be applied one after the other, from any
number on. -/
theorem exists_applyFrom {morphology : Morphology}
    (h : morphology.isCompiled = true) :
    ∀ (index : Nat) (word : String),
      ∃ after, (applyFrom index word morphology).result = .ok after := by
  induction morphology with
  | nil => exact fun index word => ⟨word, rfl⟩
  | cons t rest ih =>
      intro index word
      have hall : t.isCompiled = true ∧ Morphology.isCompiled rest = true := by
        simpa [Morphology.isCompiled] using h
      obtain ⟨next, hnext⟩ := SoundChange.exists_apply hall.1 word
      rw [result_applyFrom_cons hnext]
      exact ih hall.2 (index + 1) next

end Derivation

/-- Compiled sound changes take every word to a word. -/
theorem Morphology.exists_derive {morphology : Morphology}
    (h : morphology.isCompiled = true) (word : String) :
    ∃ after, (morphology.derive word).result = .ok after :=
  Derivation.exists_applyFrom h 0 word

-- ============================================================= the result

/-- Applying sound changes to a word is applying each to the outcome of the
one before. -/
theorem Derivation.result_applyFrom {morphology : Morphology} {index : Nat}
    {word : String} :
    (applyFrom index word morphology).result
      = morphology.foldlM (fun word t => t.apply word) word := by
  induction morphology generalizing index word with
  | nil => rfl
  | cons t rest ih =>
      rw [List.foldlM_cons]
      cases happly : t.apply word with
      | error e => rw [applyFrom_cons_of_error happly]; rfl
      | ok next =>
          rw [result_applyFrom_cons happly]
          exact ih

namespace Morphology

/-- A word with all sound changes applied, in order. -/
def changed (morphology : Morphology) (word : String) :
    Except Error String :=
  morphology.foldlM (fun word t => t.apply word) word

/-- The result of a derivation is the word with all sound changes applied.
-/
theorem result_derive {morphology : Morphology} {word : String} :
    (morphology.derive word).result = morphology.changed word :=
  Derivation.result_applyFrom

/-- The first sound change hands its outcome to the others. -/
theorem changed_cons_of_ok {t : SoundChange} {word next : String}
    (h : t.apply word = .ok next) (rest : Morphology) :
    changed (t :: rest) word = changed rest next := by
  rw [changed, List.foldlM_cons, h]
  rfl

/-- If all of them can be applied, so can the first, and the others to its
outcome. -/
theorem of_changed_cons_eq_ok {t : SoundChange} {rest : Morphology}
    {word result : String} (h : changed (t :: rest) word = .ok result) :
    ∃ next, t.apply word = .ok next ∧ changed rest next = .ok result := by
  cases happly : t.apply word with
  | error e =>
      rw [changed, List.foldlM_cons, happly] at h
      cases h
  | ok next =>
      rw [changed_cons_of_ok happly] at h
      exact ⟨next, rfl, h⟩

end Morphology

end WordGrammar
