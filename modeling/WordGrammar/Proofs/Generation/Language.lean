/-
The words that can be generated.

`Language` is the language of the entry rule of a compiled table, told
without chance: a word is spelt by one of the entry rule's patterns, a
reference to another rule standing for one of its words and a reference
to the entry rule for a word of the language that is nested less deep.
Generation never leaves it (`languageWithin_of_gives`).

# From a word back to a draw

A word that a pattern spells by dropping an optional part is drawn only
if that part has been drawn before its coin fell, so a pattern gives all
that it spells only where every optional part spells something. That is
so if what is referred to has a word, as it has in the table of a
grammar; and then the words drawn are those of the expansion
(`gives_of_mem_words`, `yields_drawWord_iff`).
-/
import WordGrammar.Generation
import WordGrammar.Proofs.Grammar
import WordGrammar.Proofs.Random.Outcomes

namespace WordGrammar

-- ============================================================== drawings

/-- `d.Gives a`: the drawing can succeed with `a`. -/
def Drawing.Gives {α : Type} (d : Drawing α) (a : α) : Prop :=
  Draw.Yields d.run (.ok a)

namespace Drawing

variable {α β : Type}

theorem gives_pure {a b : α} : Gives (pure a) b ↔ b = a := by
  rw [Gives]
  exact Draw.yields_done.trans (by simp)

theorem not_gives_throw {e : Error} {a : α} : ¬ Gives (throw e) a := by
  rw [Gives]
  exact fun h => by cases h

/-- A drawing that goes on gives what its continuation gives for some
value of its first part. -/
theorem gives_bind {d : Drawing α} {f : α → Drawing β} {b : β} :
    Gives (d >>= f) b ↔ ∃ a, d.Gives a ∧ (f a).Gives b := by
  refine Draw.yields_bind.trans ⟨?_, ?_⟩
  · rintro ⟨_ | a, ha, hb⟩
    · cases hb
    · exact ⟨a, ha, hb⟩
  · rintro ⟨a, ha, hb⟩
    exact ⟨.ok a, ha, hb⟩

theorem gives_lift {d : Draw α} {a : α} :
    Gives (ExceptT.lift d) a ↔ d.Yields a := by
  refine Draw.yields_bind.trans ⟨?_, ?_⟩
  · rintro ⟨b, hb, hab⟩
    cases hab
    exact hb
  · exact fun h => ⟨a, h, .done⟩

theorem gives_liftExcept {e : Except Error α} {a : α} :
    Gives (Generation.drawAlternative.liftExcept e) a ↔ e = .ok a := by
  rw [Gives]
  exact Draw.yields_done.trans eq_comm

end Drawing

-- ========================================================== the language

namespace RuleTable

/-- What may stand for a reference in a pattern of the entry rule: a word
of a compiled rule, or what `entry` holds of if the entry rule refers to
itself. -/
def Replaces (table : RuleTable) (entry : String → Prop) (id : RuleId)
    (v : String) : Prop :=
  if id = .entry then entry v
  else ∃ words, table.get? id = some ⟨words, .compiled⟩ ∧ v ∈ words

/-- The words that a pattern of the entry rule spells with less than so
many levels of the rule within itself, counting the outermost. -/
def LanguageWithin (table : RuleTable) : Nat → String → Prop
  | 0, _ => False
  | levels + 1, w =>
      ∃ source ∈ table.current .entry, ∃ p, Pattern.parse source = .ok p
        ∧ p.Spells (table.Replaces (table.LanguageWithin levels)) w

/-- The language of the entry rule: its words, with the rule nested in
itself up to the limit of generation. -/
def Language (table : RuleTable) : String → Prop :=
  table.LanguageWithin (Generation.depthLimit + 1)

end RuleTable

namespace Generation

open Drawing

variable {table : RuleTable}

/-- What a rule gives is one of its words. -/
theorem of_gives_drawAlternative {id : RuleId} {w : String}
    (h : (drawAlternative table id).Gives w) :
    ∃ words, table.get? id = some ⟨words, .compiled⟩ ∧ w ∈ words := by
  obtain ⟨words, hwords, h⟩ := gives_bind.1 h
  obtain ⟨picked, hpicked, h⟩ := gives_bind.1 h
  cases picked with
  | none => exact absurd h not_gives_throw
  | some v =>
      obtain rfl := gives_pure.1 h
      exact ⟨words, RuleTable.substitute_eq_ok_iff.1
          (gives_liftExcept.1 hwords),
        Draw.mem_of_yields_pick? (gives_lift.1 hpicked)⟩

/-- A rule with fewer than `2 ^ 32` words gives each of them. -/
theorem gives_drawAlternative {id : RuleId} {w : String}
    {words : List String} (hget : table.get? id = some ⟨words, .compiled⟩)
    (hlength : words.length < UInt32.size) (hw : w ∈ words) :
    (drawAlternative table id).Gives w :=
  gives_bind.2 ⟨words,
    gives_liftExcept.2 (RuleTable.substitute_eq_ok_iff.2 hget),
    gives_bind.2 ⟨some w, gives_lift.2 (Draw.yields_pick? hlength hw),
      gives_pure.2 rfl⟩⟩

/-- A reference is drawn first and then what follows it. -/
theorem drawPattern_reference (entry : Drawing String) (id : RuleId)
    (rest : Pattern) :
    drawPattern table entry (.reference id rest)
      = (if id.isEntry then entry else drawAlternative table id)
        >>= fun here => drawPattern table entry rest
        >>= fun after => pure (here ++ after) := by
  rw [drawPattern]
  cases id.isEntry <;> rfl

/-- What is drawn from a pattern is spelt by it. -/
theorem spells_of_gives {entry : Drawing String} {L : String → Prop}
    (hentry : ∀ v, entry.Gives v → L v) {p : Pattern} :
    ∀ {w : String}, (drawPattern table entry p).Gives w →
      p.Spells (table.Replaces L) w := by
  induction p with
  | empty =>
      intro w h
      obtain rfl := gives_pure.1 h
      exact .empty
  | literal text rest ih =>
      intro w h
      obtain ⟨after, hafter, h⟩ := gives_bind.1 h
      obtain rfl := gives_pure.1 h
      exact .literal (ih hafter)
  | reference id rest ih =>
      intro w h
      rw [drawPattern_reference] at h
      obtain ⟨here, hhere, h⟩ := gives_bind.1 h
      obtain ⟨after, hafter, h⟩ := gives_bind.1 h
      obtain rfl := gives_pure.1 h
      refine .reference ?_ (ih hafter)
      by_cases hid : id = .entry
      · rw [if_pos (RuleId.isEntry_iff.2 hid)] at hhere
        rw [RuleTable.Replaces, if_pos hid]
        exact hentry here hhere
      · rw [if_neg (mt RuleId.isEntry_iff.1 hid)] at hhere
        rw [RuleTable.Replaces, if_neg hid]
        exact of_gives_drawAlternative hhere
  | optional body rest ihBody ihRest =>
      intro w h
      obtain ⟨here, hhere, h⟩ := gives_bind.1 h
      obtain ⟨kept, -, h⟩ := gives_bind.1 h
      obtain ⟨after, hafter, h⟩ := gives_bind.1 h
      obtain rfl := gives_pure.1 h
      cases kept with
      | true => exact .kept (ihBody hhere) (ihRest hafter)
      | false =>
          simp only [Bool.false_eq_true, if_false, String.empty_append]
          exact .dropped (ihRest hafter)

/-- Drawing a word of the entry rule never leaves the language. -/
theorem languageWithin_of_gives {levels : Nat} :
    ∀ {w : String}, (drawEntry table levels).Gives w →
      table.LanguageWithin levels w := by
  -- A level is used up by every word of the entry rule that is drawn for a
  -- reference to it.
  induction levels with
  | zero => exact fun h => absurd h not_gives_throw
  | succ levels ih =>
      intro w h
      obtain ⟨picked, hpicked, h⟩ := gives_bind.1 h
      cases picked with
      | none => exact absurd h not_gives_throw
      | some source =>
          obtain ⟨p, hp, h⟩ := gives_bind.1 h
          exact ⟨source, Draw.mem_of_yields_pick? (gives_lift.1 hpicked), p,
            gives_liftExcept.1 hp, spells_of_gives (fun v => ih) h⟩

-- ======================================================= drawing each word

/-- The rule can be referred to without failure: it is compiled, it has a
word, and it has fewer than `2 ^ 32`. -/
structure IsDrawable (table : RuleTable) (id : RuleId) : Prop where
  ne_entry : id ≠ .entry
  isCompiled : table.isCompiled id = true
  ne_nil : table.current id ≠ []
  length_lt : (table.current id).length < UInt32.size

/-- A rule that can be drawn gives each of its words. -/
theorem IsDrawable.gives {id : RuleId} {w : String}
    (h : IsDrawable table id) (hw : w ∈ table.current id) :
    (drawAlternative table id).Gives w := by
  obtain ⟨words, hget⟩ := RuleTable.isCompiled_iff.1 h.isCompiled
  have hlength := h.length_lt
  rw [RuleTable.current_of_get? hget] at hw hlength
  exact gives_drawAlternative hget hlength hw

/-- A pattern whose references can be drawn gives every word that it
stands for. -/
theorem gives_of_mem_words {entry : Drawing String} {p : Pattern}
    (hdeps : ∀ dep ∈ p.references, IsDrawable table dep) :
    ∀ {w : String}, w ∈ p.words table.current →
      (drawPattern table entry p).Gives w := by
  induction p with
  | empty =>
      intro w h
      exact gives_pure.2 (List.mem_singleton.1 h)
  | literal text rest ih =>
      intro w h
      obtain ⟨after, hafter, rfl⟩ := List.mem_map.1 h
      exact gives_bind.2 ⟨after, ih hdeps hafter, gives_pure.2 rfl⟩
  | reference id rest ih =>
      intro w h
      obtain ⟨here, hhere, after, hafter, rfl⟩ := mem_map_product.1 h
      have hid := hdeps id (List.mem_cons_self ..)
      rw [drawPattern_reference]
      refine gives_bind.2 ⟨here, ?_, gives_bind.2 ⟨after,
        ih (fun dep hdep => hdeps dep (List.mem_cons_of_mem _ hdep)) hafter,
        gives_pure.2 rfl⟩⟩
      rw [if_neg (mt RuleId.isEntry_iff.1 hid.ne_entry)]
      exact hid.gives hhere
  | optional body rest ihBody ihRest =>
      intro w h
      have hbody := fun dep hdep =>
        hdeps dep (List.mem_append_left _ hdep)
      have hrest := fun dep hdep =>
        hdeps dep (List.mem_append_right _ hdep)
      obtain ⟨here, hhere, after, hafter, rfl⟩ := mem_map_product.1 h
      have hgo : ∀ v (kept : Bool), v ∈ body.words table.current →
          (drawPattern table entry (.optional body rest)).Gives
            ((if kept then v else "") ++ after) :=
        fun v kept hv => gives_bind.2 ⟨v, ihBody hbody hv,
          gives_bind.2 ⟨kept, gives_lift.2 (Draw.yields_coin kept),
            gives_bind.2 ⟨after, ihRest hrest hafter, gives_pure.2 rfl⟩⟩⟩
      rcases List.mem_append.1 hhere with hkept | hdropped
      · exact hgo here true hkept
      · -- the body is drawn all the same, so it must have a word
        obtain rfl := List.mem_singleton.1 hdropped
        obtain ⟨v, hv⟩ := List.exists_mem_of_ne_nil _
          (Pattern.words_ne_nil fun dep hdep => (hbody dep hdep).ne_nil)
        exact hgo v false hv

section

variable {rule : Rule}

/-- What the entry rule refers to is compiled, itself apart. -/
theorem isCompiled_of_refersTo (h : table.Finished) {dep : RuleId}
    (hget : table.get? .entry = some rule) (hdep : rule.RefersTo dep)
    (hne : dep ≠ .entry) : table.isCompiled dep = true := by
  have hgood := h.wellFormed.references .entry dep
    ((RuleTable.mem_allReferences hget).2 hdep)
  refine h.complete dep hne ?_
  cases hcontains : table.contains dep with
  | true => rfl
  | false => exact absurd (.inl hcontains) hgood

/-- What the entry rule refers to can be drawn, itself apart, if it has not
too many words. -/
theorem isDrawable_of_refersTo (h : table.Finished) {dep : RuleId}
    (hget : table.get? .entry = some rule) (hdep : rule.RefersTo dep)
    (hne : dep ≠ .entry)
    (hlength : (table.current dep).length < UInt32.size) :
    IsDrawable table dep := by
  have hcompiled := isCompiled_of_refersTo h hget hdep hne
  obtain ⟨words, hwords⟩ := RuleTable.isCompiled_iff.1 hcompiled
  refine ⟨hne, hcompiled, ?_, hlength⟩
  rw [RuleTable.current_of_get? hwords]
  exact h.words dep words hwords

/-- Without a reference to itself, the entry rule compiles as the others
do. -/
theorem compile_entry (h : table.Finished)
    (hget : table.get? .entry = some rule)
    (hself : ¬ rule.RefersTo .entry) :
    table.compile .entry
      = .ok (table.insert .entry ⟨rule.words table.current, .compiled⟩) := by
  refine RuleTable.compile_raw hget (h.entryRaw rule hget)
    (h.wellFormed.balanced .entry rule hget) fun dep hdep => ?_
  refine isCompiled_of_refersTo h hget hdep ?_
  rintro rfl
  exact hself hdep

/-- Without a reference to itself, the words drawn from the entry rule are
those of its expansion. -/
theorem yields_drawWord_iff (h : table.Finished)
    (hget : table.get? .entry = some rule)
    (hself : ¬ rule.RefersTo .entry)
    (hlength : ∀ id, id = .entry ∨ rule.RefersTo id →
      (table.current id).length < UInt32.size) {w : String} :
    (drawWord table).Yields (.ok w) ↔ w ∈ rule.words table.current := by
  have hcurrent := RuleTable.current_of_get? hget
  rw [Rule.mem_words]
  constructor
  · intro hw
    obtain ⟨source, hsource, p, hp, hspells⟩ := languageWithin_of_gives hw
    rw [hcurrent] at hsource
    refine ⟨source, hsource, p, hp,
      Pattern.mem_words_iff.2 (hspells.mono fun dep hdep v hv => ?_)⟩
    obtain ⟨hbal, rfl⟩ := Pattern.parse_eq_ok_iff.1 hp
    rw [Pattern.references_build hbal] at hdep
    have hne : dep ≠ .entry := by
      rintro rfl
      exact hself ⟨source, hsource, hdep⟩
    rw [RuleTable.Replaces, if_neg hne] at hv
    obtain ⟨words, hwords, hv⟩ := hv
    rw [RuleTable.current_of_get? hwords]
    exact hv
  · rintro ⟨source, hsource, p, hp, hw⟩
    have hpatterns : (table.current .entry).length < UInt32.size :=
      hlength .entry (.inl rfl)
    rw [← hcurrent] at hsource
    refine gives_bind.2 ⟨some source,
      gives_lift.2 (Draw.yields_pick? hpatterns hsource),
      gives_bind.2 ⟨p, gives_liftExcept.2 hp,
        gives_of_mem_words (fun dep hdep => ?_) hw⟩⟩
    obtain ⟨hbal, rfl⟩ := Pattern.parse_eq_ok_iff.1 hp
    rw [Pattern.references_build hbal] at hdep
    rw [hcurrent] at hsource
    have hrefers : rule.RefersTo dep := ⟨source, hsource, hdep⟩
    refine isDrawable_of_refersTo h hget hrefers ?_
      (hlength dep (.inr hrefers))
    rintro rfl
    exact hself hrefers

end

-- =============================================================== generation

/-- With morphology off and syllables kept, the generated word is the
drawn one. -/
theorem generate?_eq_some_iff {σ : Type} [WordSource σ]
    {morphology : Morphology} {debug : Bool} {s s' : σ} {w : String} :
    (∃ derivation,
        generate? table morphology { keepSyllables := true, debug } s
          = some (derivation, s')
        ∧ derivation.result = .ok w)
      ↔ (drawWord table).run s = some (.ok w, s') := by
  unfold generate?
  cases hrun : (drawWord table).run s with
  | none => simp
  | some drawn =>
      obtain ⟨drawn, rest⟩ := drawn
      cases drawn with
      | error e => simp [finishDrawn]
      | ok v => simp [finishDrawn, finish, Except.map, and_comm]

/-- Every word that a grammar generates, from any source, is in the
language of the entry rule. If no pattern of the entry rule has the letter
of the entry rule, that rule compiles, and its words are those that some
script of random words makes generation return, provided every choice is
among fewer than `2 ^ 32` items. -/
theorem generate?_words {source : String} {g : Grammar}
    (hcompile : (Grammar.compile source).result = .ok g)
    (hentry : g.rules.contains .entry = true) (debug : Bool) :
    (∀ (σ : Type) [WordSource σ] (s s' : σ) (derivation : Derivation)
        (w : String),
      generate? g.rules g.morphology { keepSyllables := true, debug } s
        = some (derivation, s') →
      derivation.result = .ok w → g.rules.Language w)
    ∧ ((∀ pattern ∈ g.rules.current .entry, 'W' ∉ pattern.toList) →
      (∀ id, (id = .entry ∨ ∃ pattern ∈ g.rules.current .entry,
          id ∈ referencesOf pattern) →
        (g.rules.current id).length < UInt32.size) →
      ∃ table words, g.rules.compile .entry = .ok table
        ∧ table.get? .entry = some ⟨words, .compiled⟩
        ∧ ∀ w, w ∈ words ↔ ∃ (s s' : Script) (derivation : Derivation),
          generate? g.rules g.morphology { keepSyllables := true, debug } s
            = some (derivation, s')
          ∧ derivation.result = .ok w) := by
  refine ⟨fun σ _ s s' derivation w hrun hw => ?_, fun hself hlength => ?_⟩
  · exact languageWithin_of_gives (Draw.yields_of_run
      (generate?_eq_some_iff.1 ⟨derivation, hrun, hw⟩))
  · have hfinished := Grammar.finished_of_compile hcompile
    obtain ⟨rule, hget⟩ := RuleTable.contains_iff.1 hentry
    rw [RuleTable.current_of_get? hget] at hself hlength
    have hself : ¬ rule.RefersTo .entry := by
      rintro ⟨pattern, hpattern, hrefers⟩
      obtain ⟨c, hc, hof⟩ := List.mem_filterMap.1 hrefers
      rw [RuleId.ofChar?_eq_some.1 hof] at hc
      exact hself pattern hpattern hc
    refine ⟨_, _, compile_entry hfinished hget hself,
      by rw [RuleTable.get?_insert, if_pos rfl], fun w => ?_⟩
    rw [← yields_drawWord_iff hfinished hget hself hlength, Draw.yields_iff]
    refine exists_congr fun s => exists_congr fun s' => ?_
    exact generate?_eq_some_iff.symm

/-- The vowels and words of a small grammar. -/
def pens : List (RuleId × List String) :=
  [(.named 'V', ["a", "e"]), (.entry, ["pV(n)"])]

theorem wellFormed_pens : (RuleTable.declareAll pens).WellFormed :=
  RuleTable.wellFormed_declareAll (fun _ => 0) (by decide) (by decide)
    (by decide)

/-- The table of the grammar once it is compiled. -/
theorem get?_compileAll_pens :
    (RuleTable.declareAll pens).compileAll.table.get? .entry
      = some ⟨["pV(n)"], .raw⟩
    ∧ (RuleTable.declareAll pens).compileAll.table.get? (.named 'V')
      = some ⟨["a", "e"], .compiled⟩ := by
  constructor
  · rw [RuleTable.get?_entry_compileAll]
    decide
  · exact RuleTable.get?_compileAll_of_means
      (RuleTable.expanded_declareAll _) (RuleTable.isRaw_declareAll _)
      wellFormed_pens (@RuleTable.Means.of_no_references _ _
        ⟨["a", "e"], .raw⟩ (by decide) (by decide) (by decide) (by decide))

theorem exists_compile_pens : ∃ g,
    (Grammar.compile "V: a e\nW: pV(n)").result = .ok g
      ∧ g.rules = (RuleTable.declareAll pens).compileAll.table := by
  have hparse : Declaration.parse "V: a e\nW: pV(n)"
      = .ok [.group (.named 'V') ["a", "e"] ⟨0, 6, 1, 1⟩,
        .group .entry ["pV(n)"] ⟨7, 15, 2, 1⟩] := by decide +kernel
  exact Grammar.compile_of_wellFormed hparse rfl wellFormed_pens

/-- The hypotheses at a small grammar, and one of its words that some
script makes generation return. -/
theorem generate?_words_pens : ∃ g,
    (Grammar.compile "V: a e\nW: pV(n)").result = .ok g
      ∧ g.rules.contains .entry = true
      ∧ ∃ (s s' : Script) (derivation : Derivation),
        generate? g.rules g.morphology { keepSyllables := true } s
          = some (derivation, s')
        ∧ derivation.result = .ok "pen" := by
  obtain ⟨g, hcompile, hrules⟩ := exists_compile_pens
  obtain ⟨hget, hvowels⟩ := get?_compileAll_pens
  rw [← hrules] at hget hvowels
  have hentry : g.rules.contains .entry = true :=
    RuleTable.contains_iff.2 ⟨_, hget⟩
  have hdeps : ∀ pattern ∈ ["pV(n)"], ∀ id ∈ referencesOf pattern,
      id = .named 'V' := by
    decide
  have hself : ∀ pattern ∈ g.rules.current .entry,
      'W' ∉ pattern.toList := by
    rw [RuleTable.current_of_get? hget]
    decide
  have hlength : ∀ id, (id = .entry ∨ ∃ pattern ∈ g.rules.current .entry,
      id ∈ referencesOf pattern) →
      (g.rules.current id).length < UInt32.size := by
    rw [RuleTable.current_of_get? hget]
    rintro id (rfl | ⟨pattern, hpattern, hid⟩)
    · rw [RuleTable.current_of_get? hget]
      decide
    · rw [hdeps pattern hpattern id hid, RuleTable.current_of_get? hvowels]
      decide
  obtain ⟨-, hwords⟩ := generate?_words hcompile hentry false
  obtain ⟨table, words, htable, hafter, hiff⟩ := hwords hself hlength
  refine ⟨g, hcompile, hentry, (hiff "pen").1 ?_⟩
  obtain ⟨rule, hrule, ⟨hstate, -⟩ | ⟨-, -, -, rfl⟩⟩ :=
    RuleTable.compile_cases htable
  · rw [hget] at hrule
    cases hrule
    cases hstate
  · rw [hget] at hrule
    cases hrule
    rw [RuleTable.get?_insert, if_pos rfl] at hafter
    cases hafter
    rw [@Rule.words_congr ⟨["pV(n)"], .raw⟩ g.rules.current
      (fun _ => ["a", "e"]) fun dep ⟨pattern, hpattern, hdep⟩ => by
        rw [hdeps pattern hpattern dep hdep,
          RuleTable.current_of_get? hvowels]]
    decide

end Generation

end WordGrammar
