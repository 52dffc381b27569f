/-
The entry rule within itself.

An optional part is drawn before its coin is tossed, innermost part first.
A part that is dropped leaves nothing in the word
(`outcome?_optional_dropped`), but it has been drawn all the same, and if
that failed, so has the word (`outcome?_optional_error`). A self-reference
is therefore followed wherever it stands in the pattern, and only a pattern
without one ends the nesting: if the entry rule has none, no random words
make a word (`result_of_self_references`).
-/
import WordGrammar.Proofs.Generation.Outcome

namespace WordGrammar

/-- The references of a pattern that stand in no optional part. -/
def Pattern.required : Pattern → List RuleId
  | empty => []
  | literal _ rest => rest.required
  | reference id rest => id :: rest.required
  | optional _ rest => rest.required

namespace Drawing

variable {α β σ : Type} [WordSource σ]

/-- The outcome of a drawing with a source; none if the source ends
first. -/
def outcome? (d : Drawing α) (s : σ) : Option (Except Error α × σ) :=
  Draw.run d.run s

/-- A drawing goes on after a value; one that has failed is over. -/
theorem outcome?_bind {d : Drawing α} {f : α → Drawing β} {s : σ} :
    (d >>= f).outcome? s
      = (d.outcome? s).bind fun drawn => match drawn.1 with
        | .error e => some (.error e, drawn.2)
        | .ok a => (f a).outcome? drawn.2 := by
  refine Draw.run_bind.trans
    (congrArg (Option.bind _) (funext fun drawn => ?_))
  obtain ⟨e | a, s'⟩ := drawn
  · rfl
  · rfl

/-- Tossing a coin does not fail. -/
theorem outcome?_coin {b : Bool} {s s' : σ}
    (h : Draw.toss? s = some (b, s')) :
    outcome? (ExceptT.lift Draw.coin) s = some (.ok b, s') := by
  refine Draw.run_bind.trans ?_
  rw [Draw.coin, Draw.run, h]
  rfl

end Drawing

namespace Generation

open Drawing

variable {table : RuleTable}

-- ============================================================ one pattern

/-- What gives a word of a pattern has given one of each reference to the
entry rule on the way. -/
theorem exists_gives_of_mem_references {entry : Drawing String}
    {p : Pattern} (hmem : .entry ∈ p.references) :
    ∀ {w : String}, (drawPattern table entry p).Gives w →
      ∃ v, entry.Gives v := by
  induction p with
  | empty => cases hmem
  | literal text rest ih =>
      intro w h
      obtain ⟨after, hafter, -⟩ := gives_bind.1 h
      exact ih hmem hafter
  | reference id rest ih =>
      intro w h
      rw [drawPattern_reference] at h
      obtain ⟨here, hhere, h⟩ := gives_bind.1 h
      rcases List.mem_cons.1 hmem with rfl | hmem
      · exact ⟨here, hhere⟩
      · obtain ⟨after, hafter, -⟩ := gives_bind.1 h
        exact ih hmem hafter
  | optional body rest ihBody ihRest =>
      intro w h
      obtain ⟨here, hhere, h⟩ := gives_bind.1 h
      rcases List.mem_append.1 hmem with hmem | hmem
      · -- the body has been drawn whether or not it is kept
        exact ihBody hmem hhere
      · obtain ⟨kept, -, h⟩ := gives_bind.1 h
        obtain ⟨after, hafter, -⟩ := gives_bind.1 h
        exact ihRest hmem hafter

section

variable {σ : Type} [WordSource σ] {entry : Drawing String}
  {body rest : Pattern} {s s₁ s₂ : σ}

/-- If the body of an optional part fails, so does the pattern, before a
coin is tossed. -/
theorem outcome?_optional_error {e : Error}
    (h : (drawPattern table entry body).outcome? s = some (.error e, s₁)) :
    (drawPattern table entry (.optional body rest)).outcome? s
      = some (.error e, s₁) := by
  rw [drawPattern, outcome?_bind, h]
  rfl

/-- An optional part that is dropped leaves nothing: the word is that of
the rest, drawn with what the body and the coin have left of the
source. -/
theorem outcome?_optional_dropped {v : String}
    (h : (drawPattern table entry body).outcome? s = some (.ok v, s₁))
    (hcoin : Draw.toss? s₁ = some (false, s₂)) :
    (drawPattern table entry (.optional body rest)).outcome? s
      = (drawPattern table entry rest).outcome? s₂ := by
  rw [drawPattern, outcome?_bind, h]
  dsimp only [Option.bind_some]
  rw [outcome?_bind, outcome?_coin hcoin]
  dsimp only [Option.bind_some]
  rw [outcome?_bind]
  cases (drawPattern table entry rest).outcome? s₂ with
  | none => rfl
  | some drawn =>
      obtain ⟨e | after, s'⟩ := drawn
      · rfl
      · change some (Except.ok ("" ++ after), s') = _
        rw [String.empty_append]

end

-- ========================================================= the entry rule

/-- If every pattern of the entry rule refers to it, no nesting ends in a
word. -/
theorem not_gives_drawEntry
    (h : ∀ source ∈ table.current .entry, .entry ∈ referencesOf source)
    {levels : Nat} : ∀ {w : String}, ¬ (drawEntry table levels).Gives w := by
  induction levels with
  | zero => exact not_gives_throw
  | succ levels ih =>
      intro w hw
      obtain ⟨picked, hpicked, hw⟩ := gives_bind.1 hw
      cases picked with
      | none => exact not_gives_throw hw
      | some source =>
          obtain ⟨p, hp, hw⟩ := gives_bind.1 hw
          obtain ⟨hbal, rfl⟩ := Pattern.parse_eq_ok_iff.1
            (gives_liftExcept.1 hp)
          have hsource := Draw.mem_of_yields_pick? (gives_lift.1 hpicked)
          have hmem := h source hsource
          rw [← Pattern.references_build hbal] at hmem
          obtain ⟨v, hv⟩ := exists_gives_of_mem_references hmem hw
          exact ih hv

/-- A pattern that does not refer to the entry rule gives a word at any
level. -/
theorem exists_gives_drawEntry (h : table.Finished) {source : String}
    (hsource : source ∈ table.current .entry)
    (hself : .entry ∉ referencesOf source)
    (hlength : (table.current .entry).length < UInt32.size)
    (levels : Nat) : ∃ w, (drawEntry table (levels + 1)).Gives w := by
  obtain ⟨p, hp⟩ := exists_parse h hsource
  obtain ⟨hrefs, hdeps⟩ := hasWords_of_parse h hsource hp
  obtain ⟨w, hw⟩ := exists_gives (d := drawPattern table
    (drawEntry table levels) p) fun e hfails =>
      hself ((hrefs .entry).1 (of_fails_drawPattern hdeps hfails).1)
  exact ⟨w, gives_bind.2 ⟨some source,
    gives_lift.2 (Draw.yields_pick? hlength hsource),
    gives_bind.2 ⟨p, gives_liftExcept.2 hp, hw⟩⟩⟩

/-- With a grammar that compiles and declares the entry rule, each of its
patterns referring to it, generation only ever ends by nesting too
deep. -/
theorem result_of_self_references {source : String} {g : Grammar}
    (hcompile : (Grammar.compile source).result = .ok g)
    (hentry : g.rules.contains .entry = true)
    (hself : ∀ pattern ∈ g.rules.current .entry,
      .entry ∈ referencesOf pattern)
    {options : Options} {σ : Type} [WordSource σ] {s s' : σ}
    {derivation : Derivation}
    (hrun : generate? g.rules g.morphology options s
      = some (derivation, s')) :
    derivation.result = .error (.of (.expansionLimit depthLimit)) := by
  have hfinished := Grammar.finished_of_compile hcompile
  rcases drawn_of_generate? (Grammar.isCompiled_of_compile hcompile) hrun with
    ⟨v, _, hgives, -⟩ | ⟨e, hfails, herror⟩
  · exact absurd hgives (not_gives_drawEntry hself)
  · rcases of_fails_drawEntry hfinished hfails with
      ⟨-, -, hnil⟩ | ⟨rfl, -⟩
    · rw [hfinished.contains_entry_eq_false_iff.2 hnil] at hentry
      cases hentry
    · exact herror

-- =============================================================== the words

/-- With a grammar that compiles and declares the entry rule, of fewer
than `2 ^ 32` patterns, some random words make generation return a word
exactly if one of the patterns does not have the rule's letter. If all of
them have it, within optional parts or not, generation only ever ends by
nesting too deep: an optional part that is dropped contributes nothing to
the word, but if it has failed, so has the word. -/
theorem generate?_word_iff {source : String} {g : Grammar}
    (hcompile : (Grammar.compile source).result = .ok g)
    (hentry : g.rules.contains .entry = true) (options : Options) :
    ((g.rules.current .entry).length < UInt32.size →
      ((∃ (s s' : Script) (derivation : Derivation) (w : String),
          generate? g.rules g.morphology options s = some (derivation, s')
            ∧ derivation.result = .ok w)
        ↔ ∃ pattern ∈ g.rules.current .entry, 'W' ∉ pattern.toList))
    ∧ ((∀ pattern ∈ g.rules.current .entry, 'W' ∈ pattern.toList) →
      ∀ (σ : Type) [WordSource σ] (s s' : σ) (derivation : Derivation),
        generate? g.rules g.morphology options s = some (derivation, s') →
        derivation.result = .error (.of (.expansionLimit depthLimit)))
    ∧ ∀ (σ : Type) [WordSource σ] (entry : Drawing String)
        (body rest : Pattern) (s s₁ s₂ : σ),
      (∀ v, (drawPattern g.rules entry body).outcome? s = some (.ok v, s₁) →
        Draw.toss? s₁ = some (false, s₂) →
        (drawPattern g.rules entry (.optional body rest)).outcome? s
          = (drawPattern g.rules entry rest).outcome? s₂)
      ∧ ∀ e, (drawPattern g.rules entry body).outcome? s
          = some (.error e, s₁) →
        (drawPattern g.rules entry (.optional body rest)).outcome? s
          = some (.error e, s₁) := by
  have hfinished := Grammar.finished_of_compile hcompile
  have hchanges := Grammar.isCompiled_of_compile hcompile
  have hletter : ∀ pattern : String,
      .entry ∈ referencesOf pattern ↔ 'W' ∈ pattern.toList :=
    fun pattern => Pattern.mem_referencesOf_iff
  refine ⟨fun hlength => ⟨?_, ?_⟩, ?_, ?_⟩
  · rintro ⟨s, s', derivation, w, hrun, hw⟩
    by_contra hall
    have hself : ∀ pattern ∈ g.rules.current .entry,
        .entry ∈ referencesOf pattern := by
      intro pattern hpattern
      by_contra hno
      exact hall ⟨pattern, hpattern, mt (hletter pattern).2 hno⟩
    rcases drawn_of_generate? hchanges hrun with
      ⟨v, _, hgives, -⟩ | ⟨e, -, herror⟩
    · exact not_gives_drawEntry hself hgives
    · rw [hw] at herror
      cases herror
  · rintro ⟨pattern, hpattern, hno⟩
    obtain ⟨v, hv⟩ := exists_gives_drawEntry hfinished hpattern
      (mt (hletter pattern).1 hno) hlength depthLimit
    obtain ⟨s, s', hrun⟩ := Draw.yields_iff.1 hv
    obtain ⟨w, hw⟩ := (finishDrawn_result hchanges options _).1 v rfl
    exact ⟨s, s', _, w, generate?_of_run hrun, hw⟩
  · exact fun hall σ _ s s' derivation => result_of_self_references hcompile
      hentry fun pattern hpattern =>
        (hletter pattern).2 (hall pattern hpattern)
  · exact fun σ _ entry body rest s s₁ s₂ =>
      ⟨fun v => outcome?_optional_dropped, fun e => outcome?_optional_error⟩

/-- The hypotheses and the conclusion where one of two patterns does
without the entry rule: there is a word. -/
theorem generate?_word_iff_plain : ∃ g,
    (Grammar.compile "W: a(W) b").result = .ok g
      ∧ g.rules.contains .entry = true
      ∧ ∃ (s s' : Script) (derivation : Derivation) (w : String),
        generate? g.rules g.morphology {} s = some (derivation, s')
          ∧ derivation.result = .ok w := by
  have hparse : Declaration.parse "W: a(W) b"
      = .ok [.group .entry ["a(W)", "b"] ⟨0, 9, 1, 1⟩] := by decide +kernel
  obtain ⟨g, hcompile, hget⟩ := Grammar.exists_compile_of_entry hparse
    (by decide) (by decide)
  have hentry : g.rules.contains .entry = true :=
    RuleTable.contains_iff.2 ⟨_, hget⟩
  obtain ⟨hiff, -⟩ := generate?_word_iff hcompile hentry {}
  rw [RuleTable.current_of_get? hget] at hiff
  exact ⟨g, hcompile, hentry, (hiff (by decide)).2 (by decide)⟩

/-- A grammar whose only self-reference is optional, and from which no
random words make a word. -/
theorem generate?_limit_of_optional : ∃ g,
    (Grammar.compile "W: a(W)").result = .ok g
      ∧ g.rules.contains .entry = true
      ∧ (∀ pattern ∈ g.rules.current .entry, ∀ p,
        Pattern.parse pattern = .ok p → .entry ∉ p.required)
      ∧ ∀ (options : Options) (σ : Type) [WordSource σ] (s s' : σ)
          (derivation : Derivation),
        generate? g.rules g.morphology options s = some (derivation, s') →
        derivation.result = .error (.of (.expansionLimit depthLimit)) := by
  have hparse : Declaration.parse "W: a(W)"
      = .ok [.group .entry ["a(W)"] ⟨0, 7, 1, 1⟩] := by decide +kernel
  obtain ⟨g, hcompile, hget⟩ := Grammar.exists_compile_of_entry hparse
    (by decide) (by decide)
  have hentry : g.rules.contains .entry = true :=
    RuleTable.contains_iff.2 ⟨_, hget⟩
  have honly : ∀ pattern ∈ g.rules.current .entry, pattern = "a(W)" := by
    rw [RuleTable.current_of_get? hget]
    exact fun pattern => List.mem_singleton.1
  refine ⟨g, hcompile, hentry, ?_, fun options σ _ s s' derivation hrun =>
    result_of_self_references hcompile hentry ?_ hrun⟩
  · intro pattern hpattern p hp
    rw [honly pattern hpattern] at hp
    have hread : Pattern.parse "a(W)"
        = .ok (.literal "a"
          (.optional (.reference .entry .empty) .empty)) := by
      decide +kernel
    rw [hread] at hp
    cases hp
    exact List.not_mem_nil
  · intro pattern hpattern
    rw [honly pattern hpattern]
    exact Pattern.mem_referencesOf_iff.2 (by decide)

end Generation

end WordGrammar
