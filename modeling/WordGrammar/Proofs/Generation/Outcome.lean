/-
How generation ends.

A drawing can fail in as many ways as there are errors, but in the table
of a grammar all of them are closed except two. A rule that is referred
to is compiled and has a word, a pattern of the entry rule can be read,
and a compiled sound change can be applied. What is left is an entry rule
that is not declared, and one that refers to itself and is nested too
deep. `of_fails_drawPattern` is where the cases meet: a pattern fails only
through the entry rule, and then it refers to it. The main statement,
`generate?_outcome`, says of each of the two errors when it can come.
-/
import WordGrammar.Proofs.Generation.Language

namespace WordGrammar

-- =============================================================== failing

/-- `d.Fails e`: the drawing can fail with `e`. -/
def Drawing.Fails {α : Type} (d : Drawing α) (e : Error) : Prop :=
  Draw.Yields d.run (.error e)

namespace Drawing

variable {α β : Type} {e : Error}

theorem not_fails_pure {a : α} : ¬ Fails (pure a) e := by
  rw [Fails]
  exact fun h => by cases h

theorem fails_throw {e' : Error} :
    Fails (throw e' : Drawing α) e ↔ e = e' := by
  rw [Fails]
  exact Draw.yields_done.trans (by simp)

/-- A drawing that goes on fails where its first part does, or where its
continuation does for a value of the first part. -/
theorem fails_bind {d : Drawing α} {f : α → Drawing β} :
    Fails (d >>= f) e ↔ d.Fails e ∨ ∃ a, d.Gives a ∧ (f a).Fails e := by
  refine Draw.yields_bind.trans ⟨?_, ?_⟩
  · rintro ⟨e' | a, ha, hb⟩
    · cases hb
      exact .inl ha
    · exact .inr ⟨a, ha, hb⟩
  · rintro (h | ⟨a, ha, hb⟩)
    · exact ⟨.error e, h, .done⟩
    · exact ⟨.ok a, ha, hb⟩

theorem not_fails_lift {d : Draw α} : ¬ Fails (ExceptT.lift d) e := by
  intro h
  obtain ⟨a, -, h⟩ := Draw.yields_bind.1 h
  cases h

theorem fails_liftExcept {x : Except Error α} :
    Fails (Generation.drawAlternative.liftExcept x) e ↔ x = .error e := by
  rw [Fails]
  exact Draw.yields_done.trans eq_comm

/-- A drawing that cannot fail gives something. -/
theorem exists_gives {d : Drawing α} (h : ∀ e, ¬ d.Fails e) :
    ∃ a, d.Gives a := by
  obtain ⟨e | a, hyields⟩ := Draw.exists_yields d.run
  · exact absurd hyields (h e)
  · exact ⟨a, hyields⟩

end Drawing

namespace Generation

open Drawing

variable {table : RuleTable} {e : Error}

-- =========================================================== the drawings

/-- The rule is compiled and has a word. -/
def HasWords (table : RuleTable) (id : RuleId) : Prop :=
  ∃ words, table.get? id = some ⟨words, .compiled⟩ ∧ words ≠ []

/-- A rule with words gives one of them. -/
theorem not_fails_drawAlternative {id : RuleId} (h : HasWords table id) :
    ¬ (drawAlternative table id).Fails e := by
  obtain ⟨words, hget, hne⟩ := h
  have hsubstitute := @RuleTable.substitute_eq_ok_iff table
    RuleId.entry.owner id words
  intro hfails
  rcases fails_bind.1 hfails with hfails | ⟨given, hgiven, hfails⟩
  · rw [fails_liftExcept, hsubstitute.2 hget] at hfails
    cases hfails
  · rw [gives_liftExcept, hsubstitute.2 hget] at hgiven
    cases hgiven
    rcases fails_bind.1 hfails with hfails | ⟨picked, hpicked, hfails⟩
    · exact not_fails_lift hfails
    · cases picked with
      | none => exact hne (Draw.eq_nil_of_yields_pick? (gives_lift.1 hpicked))
      | some word => exact not_fails_pure hfails

/-- A pattern whose references have words fails only where it refers to
the entry rule, and drawing that fails. -/
theorem of_fails_drawPattern {entry : Drawing String} {p : Pattern}
    (hdeps : ∀ dep ∈ p.references, dep ≠ .entry → HasWords table dep)
    (h : (drawPattern table entry p).Fails e) :
    .entry ∈ p.references ∧ entry.Fails e := by
  -- Along the pattern: the first part that fails is a reference, and only
  -- one to the entry rule can be.
  induction p with
  | empty => exact absurd h not_fails_pure
  | literal text rest ih =>
      rcases fails_bind.1 h with h | ⟨after, -, h⟩
      · exact ih hdeps h
      · exact absurd h not_fails_pure
  | reference id rest ih =>
      rw [drawPattern_reference] at h
      rcases fails_bind.1 h with h | ⟨here, -, h⟩
      · by_cases hid : id = .entry
        · rw [if_pos (RuleId.isEntry_iff.2 hid)] at h
          exact ⟨hid ▸ List.mem_cons_self .., h⟩
        · rw [if_neg (mt RuleId.isEntry_iff.1 hid)] at h
          exact absurd h (not_fails_drawAlternative
            (hdeps id (List.mem_cons_self ..) hid))
      · rcases fails_bind.1 h with h | ⟨after, -, h⟩
        · obtain ⟨hmem, hentry⟩ := ih
            (fun dep hdep => hdeps dep (List.mem_cons_of_mem _ hdep)) h
          exact ⟨List.mem_cons_of_mem _ hmem, hentry⟩
        · exact absurd h not_fails_pure
  | optional body rest ihBody ihRest =>
      rcases fails_bind.1 h with h | ⟨here, -, h⟩
      · obtain ⟨hmem, hentry⟩ := ihBody
          (fun dep hdep => hdeps dep (List.mem_append_left _ hdep)) h
        exact ⟨List.mem_append_left _ hmem, hentry⟩
      · rcases fails_bind.1 h with h | ⟨kept, -, h⟩
        · exact absurd h not_fails_lift
        · rcases fails_bind.1 h with h | ⟨after, -, h⟩
          · obtain ⟨hmem, hentry⟩ := ihRest
              (fun dep hdep => hdeps dep (List.mem_append_right _ hdep)) h
            exact ⟨List.mem_append_right _ hmem, hentry⟩
          · exact absurd h not_fails_pure

/-- What the entry rule refers to has words, itself apart. -/
theorem hasWords_of_refersTo (h : table.Finished) {rule : Rule}
    {dep : RuleId} (hget : table.get? .entry = some rule)
    (hdep : rule.RefersTo dep) (hne : dep ≠ .entry) : HasWords table dep := by
  obtain ⟨words, hwords⟩ :=
    RuleTable.isCompiled_iff.1 (isCompiled_of_refersTo h hget hdep hne)
  exact ⟨words, hwords, h.words dep words hwords⟩

/-- The references of an entry pattern as it is read have words, the
entry rule apart. -/
theorem hasWords_of_parse (h : table.Finished) {source : String}
    {p : Pattern} (hsource : source ∈ table.current .entry)
    (hp : Pattern.parse source = .ok p) :
    (∀ dep, dep ∈ p.references ↔ dep ∈ referencesOf source)
      ∧ ∀ dep ∈ p.references, dep ≠ .entry → HasWords table dep := by
  obtain ⟨hbal, rfl⟩ := Pattern.parse_eq_ok_iff.1 hp
  rw [Pattern.references_build hbal]
  refine ⟨fun dep => Iff.rfl, fun dep hdep hne => ?_⟩
  cases hget : table.get? .entry with
  | none =>
      rw [RuleTable.current, RuleTable.alternatives?, hget] at hsource
      cases hsource
  | some rule =>
      rw [RuleTable.current_of_get? hget] at hsource
      exact hasWords_of_refersTo h hget ⟨source, hsource, hdep⟩ hne

/-- Every pattern of the entry rule can be read. -/
theorem exists_parse (h : table.Finished) {source : String}
    (hsource : source ∈ table.current .entry) :
    ∃ p, Pattern.parse source = .ok p := by
  cases hget : table.get? .entry with
  | none =>
      rw [RuleTable.current, RuleTable.alternatives?, hget] at hsource
      cases hsource
  | some rule =>
      rw [RuleTable.current_of_get? hget] at hsource
      exact ⟨_, Pattern.parse_of_balanced
        (h.wellFormed.balanced .entry rule hget source hsource)⟩

/-- The entry rule fails if it has no pattern, or else because it is
nested too deep: there are no levels left, or one of its patterns refers
to it. -/
theorem of_fails_drawEntry (h : table.Finished) {levels : Nat}
    (hfails : (drawEntry table levels).Fails e) :
    (e = .of .emptyGrammar ∧ levels ≠ 0 ∧ table.current .entry = [])
      ∨ (e = .of (.expansionLimit depthLimit)
        ∧ (levels = 0 ∨ ∃ source ∈ table.current .entry,
          .entry ∈ referencesOf source)) := by
  induction levels with
  | zero => exact .inr ⟨fails_throw.1 hfails, .inl rfl⟩
  | succ levels ih =>
      rcases fails_bind.1 hfails with hfails | ⟨picked, hpicked, hfails⟩
      · exact absurd hfails not_fails_lift
      · cases picked with
        | none =>
            exact .inl ⟨fails_throw.1 hfails, Nat.succ_ne_zero levels,
              Draw.eq_nil_of_yields_pick? (gives_lift.1 hpicked)⟩
        | some source =>
            have hsource : source ∈ table.current .entry :=
              Draw.mem_of_yields_pick? (gives_lift.1 hpicked)
            obtain ⟨p, hp⟩ := exists_parse h hsource
            obtain ⟨hrefs, hdeps⟩ := hasWords_of_parse h hsource hp
            rcases fails_bind.1 hfails with hfails | ⟨p', hp', hfails⟩
            · rw [fails_liftExcept, hp] at hfails
              cases hfails
            · rw [gives_liftExcept, hp] at hp'
              cases hp'
              obtain ⟨hentry, hnested⟩ := of_fails_drawPattern hdeps hfails
              -- the nested word has patterns to choose from, this one at least
              rcases ih hnested with ⟨-, -, hnil⟩ | ⟨hlimit, -⟩
              · rw [hnil] at hsource
                cases hsource
              · exact .inr ⟨hlimit,
                  .inr ⟨source, hsource, (hrefs .entry).1 hentry⟩⟩

/-- Without patterns of the entry rule there is no word. -/
theorem not_gives_drawEntry_of_nil (hnil : table.current .entry = [])
    {levels : Nat} {w : String} : ¬ (drawEntry table levels).Gives w := by
  intro h
  cases levels with
  | zero => exact not_gives_throw h
  | succ levels =>
      obtain ⟨source, hsource, -⟩ := languageWithin_of_gives h
      rw [hnil] at hsource
      cases hsource

-- ============================================================= generation

/-- The options turn words into words and leave failures alone. -/
theorem finishDrawn_result {morphology : Morphology}
    (h : morphology.isCompiled = true) (options : Options)
    (drawn : Except Error String) :
    (∀ w, drawn = .ok w →
        ∃ w', (finishDrawn morphology options drawn).result = .ok w')
      ∧ ∀ e, drawn = .error e →
        (finishDrawn morphology options drawn).result = .error e := by
  refine ⟨?_, ?_⟩
  · rintro w rfl
    obtain ⟨after, hafter⟩ := Morphology.exists_derive h w
    rw [finishDrawn, finish]
    cases options.morphology && !morphology.isEmpty with
    | true => exact ⟨_, congrArg (Except.map _) hafter⟩
    | false => exact ⟨_, rfl⟩
  · rintro e rfl
    rfl

/-- The options are applied to what was drawn, after all random words have
been taken. -/
theorem generate?_of_run {σ : Type} [WordSource σ] {morphology : Morphology}
    {options : Options} {s s' : σ} {drawn : Except Error String}
    (h : (drawWord table).run s = some (drawn, s')) :
    generate? table morphology options s
      = some (finishDrawn morphology options drawn, s') := by
  rw [generate?, h]
  rfl

/-- What generation returns comes of a drawing of the entry rule: a word
of a word, and an error of the same error. -/
theorem drawn_of_generate? {σ : Type} [WordSource σ]
    {morphology : Morphology} (h : morphology.isCompiled = true)
    {options : Options} {s s' : σ} {derivation : Derivation}
    (hrun : generate? table morphology options s = some (derivation, s')) :
    (∃ w w', (drawEntry table (depthLimit + 1)).Gives w
        ∧ derivation.result = .ok w')
      ∨ ∃ e, (drawEntry table (depthLimit + 1)).Fails e
        ∧ derivation.result = .error e := by
  cases hdrawn : (drawWord table).run s with
  | none => rw [generate?, hdrawn] at hrun; cases hrun
  | some result =>
      obtain ⟨drawn, rest⟩ := result
      rw [generate?_of_run hdrawn] at hrun
      cases hrun
      have hyields := Draw.yields_of_run hdrawn
      have hresult := finishDrawn_result h options drawn
      cases drawn with
      | error e => exact .inr ⟨e, hyields, hresult.2 e rfl⟩
      | ok w =>
          obtain ⟨w', hw'⟩ := hresult.1 w rfl
          exact .inl ⟨w, w', hyields, hw'⟩

/-- With a grammar that compiles, and whatever the options and the random
words are, generation that ends returns a word, or reports that there is
nothing to start from, or that the entry rule was nested too deep. It has
nothing to start from exactly if the source does not declare the entry
rule, and it can nest too deep only if a pattern of the entry rule has the
letter of the entry rule. -/
theorem generate?_outcome {source : String} {g : Grammar}
    (hcompile : (Grammar.compile source).result = .ok g)
    {σ : Type} [WordSource σ] {options : Options} {s s' : σ}
    {derivation : Derivation}
    (hrun : generate? g.rules g.morphology options s
      = some (derivation, s')) :
    ((∃ w, derivation.result = .ok w)
      ∨ derivation.result = .error (.of .emptyGrammar)
      ∨ derivation.result = .error (.of (.expansionLimit depthLimit)))
    ∧ (derivation.result = .error (.of .emptyGrammar)
      ↔ ∀ declarations, Declaration.parse source = .ok declarations →
        ∀ patterns span, .group .entry patterns span ∉ declarations)
    ∧ (derivation.result = .error (.of (.expansionLimit depthLimit)) →
      ∃ pattern ∈ g.rules.current .entry, 'W' ∈ pattern.toList) := by
  have hfinished := Grammar.finished_of_compile hcompile
  obtain ⟨declarations, hparse, -⟩ := Grammar.compile_eq_ok_iff.1 hcompile
  have hnone : (∀ declarations, Declaration.parse source = .ok declarations →
      ∀ patterns span, .group .entry patterns span ∉ declarations)
      ↔ g.rules.current .entry = [] := by
    rw [← hfinished.contains_entry_eq_false_iff, ← Bool.not_eq_true,
      Grammar.contains_iff_declared hcompile hparse]
    constructor
    · rintro h ⟨patterns, span, hmem⟩
      exact h declarations hparse patterns span hmem
    · intro h _ hparse' patterns span hmem
      rw [hparse] at hparse'
      cases hparse'
      exact h ⟨patterns, span, hmem⟩
  rw [hnone]
  rcases drawn_of_generate? (Grammar.isCompiled_of_compile hcompile) hrun with
    ⟨w, w', hgives, hresult⟩ | ⟨e, hfails, hresult⟩
  · refine ⟨.inl ⟨w', hresult⟩, ⟨fun h => ?_, fun hnil => ?_⟩, fun h => ?_⟩
    · rw [hresult] at h
      cases h
    · exact absurd hgives (not_gives_drawEntry_of_nil hnil)
    · rw [hresult] at h
      cases h
  · rcases of_fails_drawEntry hfinished hfails with
      ⟨rfl, -, hnil⟩ | ⟨rfl, hzero | ⟨pattern, hpattern, hentry⟩⟩
    · refine ⟨.inr (.inl hresult), ⟨fun _ => hnil, fun _ => hresult⟩,
        fun h => ?_⟩
      rw [hresult] at h
      cases h
    · cases hzero
    · refine ⟨.inr (.inr hresult), ⟨fun h => ?_, fun hnil => ?_⟩,
        fun _ => ⟨pattern, hpattern, ?_⟩⟩
      · rw [hresult] at h
        cases h
      · rw [hnil] at hpattern
        cases hpattern
      · exact Pattern.mem_referencesOf_iff.1 hentry

/-- The hypotheses at a small grammar with morphology switched on, some
script that generation ends on, and what it returns then: the entry rule
is declared and has no letter of its own, so it is a word. -/
theorem generate?_outcome_pens : ∃ g,
    (Grammar.compile "V: a e\nW: pV(n)").result = .ok g
      ∧ ∃ (s s' : Script) (derivation : Derivation),
        generate? g.rules g.morphology { morphology := true } s
          = some (derivation, s')
        ∧ ∃ w, derivation.result = .ok w := by
  obtain ⟨g, hcompile, hrules⟩ := exists_compile_pens
  obtain ⟨hget, -⟩ := get?_compileAll_pens
  rw [← hrules] at hget
  have hcurrent := RuleTable.current_of_get? hget
  obtain ⟨drawn, hdrawn⟩ := Draw.exists_yields (drawWord g.rules)
  obtain ⟨s, s', hrun⟩ := Draw.yields_iff.1 hdrawn
  have hrun : generate? g.rules g.morphology { morphology := true } s
      = some (finishDrawn g.morphology { morphology := true } drawn, s') :=
    generate?_of_run hrun
  refine ⟨g, hcompile, s, s', _, hrun, ?_⟩
  obtain ⟨hword | hempty | hlimit, hnone, hself⟩ :=
    generate?_outcome hcompile hrun
  · exact hword
  · obtain ⟨declarations, hparse, -⟩ := Grammar.compile_eq_ok_iff.1 hcompile
    obtain ⟨patterns, span, hmem⟩ :=
      (Grammar.contains_iff_declared hcompile hparse).1
        (RuleTable.contains_iff.2 ⟨_, hget⟩)
    exact absurd hmem (hnone.1 hempty declarations hparse patterns span)
  · obtain ⟨pattern, hpattern, hletter⟩ := hself hlimit
    rw [hcurrent] at hpattern
    exact absurd hletter
      ((by decide : ∀ p ∈ ["pV(n)"], 'W' ∉ p.toList) pattern hpattern)

end Generation

end WordGrammar
