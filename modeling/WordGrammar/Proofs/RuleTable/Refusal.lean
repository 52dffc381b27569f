/-
When a single rule compiles, and what it is refused for.

Compiling a rule reads its patterns in order, and of each one its references
from left to right. The references inside an optional part are asked for
before those after it, so that the order of asking is the order of the text at
any depth; and a part without words stops nothing. Hence a pattern is refused
for the leftmost reference that has no words to put for it
(`Pattern.expand_outcome`), and a rule for the first of its patterns that is
refused (`RuleTable.expandSources_outcome`). None of this looks at how the
table came about: `compile_outcome` holds of every table.
-/
import WordGrammar.Proofs.Pattern.RoundTrip
import WordGrammar.Proofs.RuleTable.History

namespace WordGrammar

/-- `StopsAt f items e`: of the items, `f` fails on one with `e`, and on none
before it. -/
def StopsAt {α β : Type} (f : α → Except Error β) (items : List α)
    (e : Error) : Prop :=
  ∃ past item later, items = past ++ item :: later
    ∧ (∀ earlier ∈ past, ∃ made, f earlier = .ok made)
    ∧ f item = .error e

namespace StopsAt

variable {α β : Type} {f : α → Except Error β} {items : List α} {e : Error}

theorem head {item : α} (h : f item = .error e) (later : List α) :
    StopsAt f (item :: later) e :=
  ⟨[], item, later, rfl, (fun _ hmem => nomatch hmem), h⟩

/-- What comes after the item that fails does not matter. -/
theorem append (h : StopsAt f items e) (later : List α) :
    StopsAt f (items ++ later) e := by
  obtain ⟨past, item, later', rfl, hpast, hitem⟩ := h
  exact ⟨past, item, later' ++ later, by simp, hpast, hitem⟩

/-- Items on which it succeeds can come before. -/
theorem after {earlier : List α}
    (hearlier : ∀ item ∈ earlier, ∃ made, f item = .ok made)
    (h : StopsAt f items e) : StopsAt f (earlier ++ items) e := by
  obtain ⟨past, item, later, rfl, hpast, hitem⟩ := h
  exact ⟨earlier ++ past, item, later, by simp,
    List.forall_mem_append.2 ⟨hearlier, hpast⟩, hitem⟩

end StopsAt

namespace Pattern

/-- Either every reference of a pattern can be looked up, and the pattern
expands to its words; or it is refused for the leftmost one that cannot. -/
theorem expand_outcome {lookup : RuleId → Except Error (List String)}
    {of : RuleId → List String}
    (hof : ∀ id found, lookup id = .ok found → of id = found)
    (p : Pattern) :
    ((∀ dep ∈ p.references, ∃ found, lookup dep = .ok found)
        ∧ p.expand lookup = .ok (p.words of))
      ∨ ∃ e, StopsAt lookup p.references e ∧ p.expand lookup = .error e := by
  induction p with
  | empty => exact .inl ⟨(fun _ h => nomatch h), rfl⟩
  | literal text rest ih =>
      unfold expand references
      rcases ih with ⟨hall, hrest⟩ | ⟨e, hstops, hrest⟩
      · rw [hrest]
        exact .inl ⟨hall, rfl⟩
      · rw [hrest]
        exact .inr ⟨e, hstops, rfl⟩
  | reference id rest ih =>
      unfold expand references
      cases hid : lookup id with
      | error e => exact .inr ⟨e, .head hid _, rfl⟩
      | ok found =>
          have hfound : ∀ dep ∈ [id], ∃ found, lookup dep = .ok found := by
            intro dep hdep
            obtain rfl := List.mem_singleton.1 hdep
            exact ⟨found, hid⟩
          rcases ih with ⟨hall, hrest⟩ | ⟨e, hstops, hrest⟩
          · rw [hrest]
            refine .inl ⟨List.forall_mem_cons.2 ⟨⟨found, hid⟩, hall⟩, ?_⟩
            rw [words, hof id found hid, ← concatWords_eq]
            rfl
          · rw [hrest]
            exact .inr ⟨e, hstops.after hfound, rfl⟩
  -- The body is asked for before the rest, and stops it.
  | optional body rest ihBody ihRest =>
      unfold expand references
      rcases ihBody with ⟨hinside, hbody⟩ | ⟨e, hstops, hbody⟩
      · rcases ihRest with ⟨hafter, hrest⟩ | ⟨e, hstops, hrest⟩
        · rw [hbody, hrest]
          refine .inl ⟨List.forall_mem_append.2 ⟨hinside, hafter⟩, ?_⟩
          rw [words, ← concatWords_eq]
          rfl
        · rw [hbody, hrest]
          exact .inr ⟨e, hstops.after hinside, rfl⟩
      · rw [hbody]
        exact .inr ⟨e, hstops.append _, rfl⟩

end Pattern

namespace RuleTable

open Pattern (Balanced Blames readWords)

variable {table : RuleTable}

-- =========================================================== references

/-- The error of `owner` for a reference that it can put no words for: its
rule is not declared, or it is declared and not compiled, the entry rule
being told from the others. -/
def substitutionError (table : RuleTable) (owner : String) (dep : RuleId) :
    Error :=
  if table.contains dep then
    if dep = .entry then .of (.entryRuleReferenced owner)
    else .of (.uncompiledReference dep owner)
  else .of (.unresolvedReference dep owner)

/-- A reference is refused if its rule is not compiled, whatever the reason.
-/
theorem substitute_eq_error_iff {owner : String} {dep : RuleId}
    {e : Error} :
    table.substitute owner dep = .error e
      ↔ table.isCompiled dep = false
        ∧ e = table.substitutionError owner dep := by
  unfold substitute isCompiled substitutionError contains
  cases hget : table.get? dep with
  | none =>
      show Except.error _ = Except.error e ↔ _
      simp [eq_comm]
  | some rule =>
      cases hcompiled : rule.isCompiled with
      | true => simp [hcompiled]
      | false =>
          by_cases hentry : dep = .entry
          · subst hentry
            have his : RuleId.entry.isEntry = true := by decide
            simp [hcompiled, his, eq_comm]
          · have hisnt : dep.isEntry = false := by
              simpa [RuleId.isEntry] using hentry
            simp [hcompiled, hentry, hisnt, eq_comm]

theorem exists_substitute_iff {owner : String} {dep : RuleId} :
    (∃ found, table.substitute owner dep = .ok found)
      ↔ table.isCompiled dep = true := by
  simp only [substitute_eq_ok_iff, isCompiled_iff]

-- ============================================================= patterns

/-- The pattern is balanced and every rule it refers to is compiled. -/
def Expands (table : RuleTable) (source : String) : Prop :=
  Balanced source ∧ ∀ dep ∈ referencesOf source, table.isCompiled dep = true

/-- `table.Refuses owner source e`: the pattern is not balanced, or it is and
`e` is for its leftmost reference to a rule that is not compiled. -/
inductive Refuses (table : RuleTable) (owner source : String) :
    Error → Prop
  | malformed {fault : GroupFault} {offset : Nat} :
      ¬ Balanced source → Blames source.toList fault offset →
      Refuses table owner source
        (.of (.malformedGroup source offset fault.message))
  | reference {past later : List RuleId} {dep : RuleId} :
      Balanced source → referencesOf source = past ++ dep :: later →
      (∀ earlier ∈ past, table.isCompiled earlier = true) →
      table.isCompiled dep = false →
      Refuses table owner source (table.substitutionError owner dep)

/-- No pattern is refused that would expand. -/
theorem Refuses.not_expands {owner source : String} {e : Error}
    (h : table.Refuses owner source e) : ¬ table.Expands source := by
  intro hexpands
  cases h with
  | malformed hbad => exact hbad hexpands.1
  | reference _ hsplit _ hdep =>
      rw [hexpands.2 _ (by rw [hsplit]; simp)] at hdep
      cases hdep

/-- A pattern expands to its words, or it is refused. -/
theorem expandSource_outcome (table : RuleTable) (owner source : String) :
    (table.Expands source
        ∧ table.expandSource owner source
          = .ok (readWords table.current source))
      ∨ ∃ e, table.Refuses owner source e
        ∧ table.expandSource owner source = .error e := by
  unfold expandSource
  by_cases hbal : Balanced source
  · have hof : ∀ id found, table.substitute owner id = .ok found →
        table.current id = found := fun id found hfound =>
      current_of_get? (substitute_eq_ok_iff.1 hfound)
    rw [Pattern.parse_of_balanced hbal, Pattern.readWords_of_balanced hbal]
    obtain ⟨hall, hwords⟩ | ⟨e, hstops, herror⟩ :=
      Pattern.expand_outcome hof (Pattern.build source.toList)
    · refine .inl ⟨⟨hbal, fun dep hdep => ?_⟩, hwords⟩
      rw [← Pattern.references_build hbal] at hdep
      exact exists_substitute_iff.1 (hall dep hdep)
    · refine .inr ⟨e, ?_, herror⟩
      -- The references of what was built are those of the text, in its
      -- order.
      obtain ⟨past, dep, later, hsplit, hpast, hdep⟩ := hstops
      rw [Pattern.references_build hbal] at hsplit
      obtain ⟨hnot, rfl⟩ := substitute_eq_error_iff.1 hdep
      exact .reference hbal hsplit
        (fun earlier hmem => exists_substitute_iff.1 (hpast earlier hmem))
        hnot
  · right
    cases hparse : Pattern.parse source with
    | ok p => exact absurd (Pattern.parse_eq_ok_iff.1 hparse).1 hbal
    | error e =>
        obtain ⟨fault, offset, hblames, rfl⟩ :=
          Pattern.exists_blames_of_parse hparse
        exact ⟨_, .malformed hbal hblames, rfl⟩

/-- The patterns of a rule expand to their words one after the other, or
what is reported is why the first one that does not is refused. -/
theorem expandSources_outcome (table : RuleTable) (owner : String)
    (sources : List String) :
    ((∀ source ∈ sources, table.Expands source)
        ∧ table.expandSources owner sources
          = .ok (sources.flatMap (readWords table.current)))
      ∨ ∃ past source later e, sources = past ++ source :: later
        ∧ (∀ earlier ∈ past, table.Expands earlier)
        ∧ table.Refuses owner source e
        ∧ table.expandSources owner sources = .error e := by
  induction sources with
  | nil => exact .inl ⟨(fun _ h => nomatch h), rfl⟩
  | cons first rest ih =>
      unfold expandSources
      obtain ⟨hfirst, hhere⟩ | ⟨e, hrefuses, hhere⟩ :=
        expandSource_outcome table owner first
      · rw [hhere]
        obtain ⟨hall, hrest⟩ |
          ⟨past, source, later, e, hsplit, hpast, hrefuses, hrest⟩ := ih
        · rw [hrest]
          exact .inl ⟨List.forall_mem_cons.2 ⟨hfirst, hall⟩, rfl⟩
        · rw [hrest]
          exact .inr ⟨first :: past, source, later, e,
            congrArg (first :: ·) hsplit,
            List.forall_mem_cons.2 ⟨hfirst, hpast⟩, hrefuses, rfl⟩
      · rw [hhere]
        exact .inr ⟨[], first, rest, e, rfl, (fun _ h => nomatch h), hrefuses,
          rfl⟩

-- ================================================================ rules

/-- A raw rule is compiled to the distinct words of its patterns, if these
expand. -/
theorem compile_of_get?_raw {id : RuleId} {sources : List String}
    (h : table.get? id = some ⟨sources, .raw⟩) :
    table.compile id = (table.expandSources id.owner sources).map fun words =>
      table.insert id ⟨words.eraseDups, .compiled⟩ := by
  unfold compile
  rw [h]
  show (do
    let words ← table.expandSources id.owner sources
    .ok (table.insert id ⟨distinctWords words, .compiled⟩)) = _
  simp only [distinctWords_eq]
  rfl

theorem compile_of_get?_none {id : RuleId} (h : table.get? id = none) :
    table.compile id
      = .error (.of (.unresolvedReference id "the rule table")) := by
  unfold compile
  rw [h]

/-- A raw rule whose patterns all expand is compiled to their words, the
others being left alone; any other is refused for its first pattern that does
not. -/
theorem compile_raw_outcome {id : RuleId} {sources : List String}
    (h : table.get? id = some ⟨sources, .raw⟩) :
    ((∀ source ∈ sources, table.Expands source)
        ∧ table.compile id = .ok (table.insert id
          ⟨(sources.flatMap (readWords table.current)).eraseDups, .compiled⟩))
      ∨ ∃ past source later e, sources = past ++ source :: later
        ∧ (∀ earlier ∈ past, table.Expands earlier)
        ∧ table.Refuses id.owner source e
        ∧ table.compile id = .error e := by
  rw [compile_of_get?_raw h]
  obtain ⟨hall, hwords⟩ |
    ⟨past, source, later, e, hsplit, hpast, hrefuses, herror⟩ :=
    expandSources_outcome table id.owner sources
  · rw [hwords]
    exact .inl ⟨hall, rfl⟩
  · rw [herror]
    exact .inr ⟨past, source, later, e, hsplit, hpast, hrefuses, rfl⟩

/-- A rule of any table compiles exactly if it is declared and either
compiled already, when the table stays as it is, or such that its patterns
are balanced and refer to rules that are compiled now. Then nothing but the
rule changes, and it has the first occurrences among the words of its
patterns, in order, over what those rules have now. Else the table stays as
it is; and if the rule is declared, there is a first pattern that cannot be
expanded, and the error is for its unbalanced parenthesis or, if there is
none, for the leftmost reference that has no words to put for it. -/
theorem compile_outcome (table : RuleTable) (id : RuleId) :
    ((∃ after, table.compile id = .ok after)
      ↔ ∃ rule, table.get? id = some rule
        ∧ (rule.state = .compiled
          ∨ ∀ source ∈ rule.patterns, table.Expands source))
    ∧ (∀ after, table.compile id = .ok after →
      (table.isCompiled id = true → after = table)
      ∧ ∀ sources, table.get? id = some ⟨sources, .raw⟩ →
        after = table.insert id
          ⟨(sources.flatMap (readWords table.current)).eraseDups, .compiled⟩)
    ∧ ∀ e, table.compile id = .error e →
      table.apply (.compile id) = table
      ∧ (table.get? id = none →
        e = .of (.unresolvedReference id "the rule table"))
      ∧ ∀ rule, table.get? id = some rule →
        ∃ past source later, rule.patterns = past ++ source :: later
          ∧ (∀ earlier ∈ past, table.Expands earlier)
          ∧ table.Refuses id.owner source e := by
  -- A call that fails changes nothing.
  have hkept : ∀ e, table.compile id = .error e →
      table.apply (.compile id) = table := by
    intro e herror
    simp only [apply, herror]
  cases hget : table.get? id with
  | none =>
      have herror := compile_of_get?_none hget
      refine ⟨by simp [herror], by simp [herror], fun e hcompile => ?_⟩
      refine ⟨hkept e hcompile, fun _ => ?_, by simp⟩
      rw [herror] at hcompile
      exact (Except.error.inj hcompile).symm
  | some rule =>
      obtain ⟨sources, state⟩ := rule
      cases state with
      | compiled =>
          have hok := compile_of_isCompiled
            (isCompiled_iff.2 ⟨sources, hget⟩)
          refine ⟨by simp [hok], fun after hafter => ?_, by simp [hok]⟩
          rw [hok] at hafter
          exact ⟨fun _ => (Except.ok.inj hafter).symm, by simp⟩
      | raw =>
          have hraw : table.isCompiled id = false := by
            simp [isCompiled, hget, Rule.isCompiled]
          obtain ⟨hall, hok⟩ |
            ⟨past, source, later, e, hsplit, hpast, hrefuses, herror⟩ :=
            compile_raw_outcome hget
          · refine ⟨?_, fun after hafter => ?_, by simp [hok]⟩
            · exact ⟨fun _ => ⟨_, rfl, .inr hall⟩, fun _ => ⟨_, hok⟩⟩
            · rw [hok] at hafter
              cases hafter
              refine ⟨by simp [hraw], fun sources' h => ?_⟩
              cases h
              rfl
          · have hsource : source ∈ sources := by rw [hsplit]; simp
            refine ⟨?_, by simp [herror], fun e' hcompile => ?_⟩
            · constructor
              · intro hok
                obtain ⟨after, hafter⟩ := hok
                rw [herror] at hafter
                cases hafter
              · intro hok
                obtain ⟨rule, hrule, hwell⟩ := hok
                cases hrule
                rcases hwell with hstate | hall
                · cases hstate
                · exact absurd (hall source hsource) hrefuses.not_expands
            · rw [herror] at hcompile
              cases hcompile
              refine ⟨hkept e herror, by simp, fun rule hrule => ?_⟩
              cases hrule
              exact ⟨past, source, later, hsplit, hpast, hrefuses⟩

/-- A rule without words does not hide the reference that comes after it,
be it in an optional part. -/
example :
    ((empty.insert (.named 'A') ⟨[], .compiled⟩).declare (.named 'B')
        ["(AD)C"]).compile (.named 'B')
      = .error (.of (.unresolvedReference (.named 'D') "rule B")) := by
  cbv

end RuleTable

end WordGrammar
