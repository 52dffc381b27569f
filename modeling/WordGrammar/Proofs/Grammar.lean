/-
What a grammar that compiles holds.

A rule is never declared without alternatives (`hasPatterns_of_parse`),
and the records of a grammar are declarations of a table one after the
other (`tableOf_eq_declareAll`). With what is known of compiling a
declared table this gives `finished_of_compile`: the table of a grammar
is well formed, all its rules but the entry rule are compiled, and every
one of them has a word. That is all that drawing words needs to know of
where its table comes from.
-/
import WordGrammar.Grammar
import WordGrammar.Proofs.Declaration.Parse
import WordGrammar.Proofs.Morphology
import WordGrammar.Proofs.RuleTable.Meaning

namespace WordGrammar

-- ============================================== declared alternatives

namespace Declaration

/-- A declared rule has alternatives. -/
def HasPatterns : Declaration → Prop
  | .group _ patterns _ => patterns ≠ []
  | _ => True

/-- Every rule that a source declares has alternatives. -/
theorem hasPatterns_of_parse {source : String} {ds : List Declaration}
    (h : parse source = .ok ds) : ∀ d ∈ ds, d.HasPatterns := by
  intro d hd
  cases d with
  | group id patterns span =>
      have hmem : .rule id patterns ∈ statements ds :=
        List.mem_map.2 ⟨.rule id patterns span,
          List.mem_filterMap.2 ⟨_, hd, rfl⟩, rfl⟩
      exact (exists_parse_iff.1 ⟨ds, h, rfl⟩).patterns_ne_nil hmem
  | soundChange | comment | blank => trivial

end Declaration

-- ======================================================== finished tables

/-- A table that is compiled as far as it is ahead of time: all rules but
the entry rule are, each has a word, and the entry rule has its patterns
still, one at least. -/
structure RuleTable.Finished (table : RuleTable) : Prop where
  wellFormed : table.WellFormed
  complete : table.IsComplete
  entryRaw : ∀ rule, table.get? .entry = some rule → rule.state = .raw
  entryPatterns : ∀ rule, table.get? .entry = some rule → rule.patterns ≠ []
  words : ∀ id words, table.get? id = some ⟨words, .compiled⟩ → words ≠ []

/-- A declared table that compiles is finished, if every rule was declared
with alternatives. -/
theorem RuleTable.finished_declareAll
    {declarations : List (RuleId × List String)}
    (hsome : ∀ d ∈ declarations, d.2 ≠ [])
    (hok : ∃ order, (declareAll declarations).compileAll.result = .ok order) :
    (declareAll declarations).compileAll.table.Finished := by
  have hexp := expanded_declareAll declarations
  have hraw := isRaw_declareAll declarations
  have hwell := (compileAll_ok_iff hexp).1 hok
  have htracks := (Tracks.refl (declareAll declarations)).compileAll hraw
  refine ⟨htracks.wellFormed hexp.compileAll hwell,
    (compileAll_of_wellFormed hexp hwell).2, fun rule hget => ?_,
    fun rule hget => ?_, fun id words hget => ?_⟩
  · rw [get?_entry_compileAll] at hget
    exact hraw .entry rule hget
  · rw [get?_entry_compileAll] at hget
    exact hsome _ (declared_of_get? hget).2
  · exact (htracks.means_of_get? hraw hget).ne_nil fun id rule hrule =>
      hsome _ (declared_of_get? hrule).2

/-- In a finished table the entry rule is either not declared or has a
pattern. -/
theorem RuleTable.Finished.contains_entry_eq_false_iff {table : RuleTable}
    (h : table.Finished) :
    table.contains .entry = false ↔ table.current .entry = [] := by
  cases hget : table.get? .entry with
  | none => simp [contains, current, alternatives?, hget]
  | some rule =>
      simpa [contains, current_of_get? hget, hget]
        using h.entryPatterns rule hget

namespace Grammar

/-- What a record declares of a table. -/
def declared? : Record → Option (RuleId × List String)
  | .rule id patterns _ => some (id, patterns)
  | .soundChange .. => none

/-- The table of some records is the one that they declare in their order.
-/
theorem tableOf_eq_declareAll (records : List Record) :
    tableOf records
      = RuleTable.declareAll (records.filterMap declared?) := by
  rw [tableOf, RuleTable.declareAll, List.foldl_filterMap]
  congr 1
  funext table record
  cases record <;> rfl

/-- The rules among the records are declared with alternatives. -/
theorem declared_ne_nil {declarations : List Declaration}
    (h : ∀ d ∈ declarations, d.HasPatterns) :
    ∀ d ∈ (Record.ofDeclarations declarations).filterMap declared?,
      d.2 ≠ [] := by
  intro d hd
  obtain ⟨record, hrecord, hdeclared⟩ := List.mem_filterMap.1 hd
  obtain ⟨declaration, hmem, hof⟩ := List.mem_filterMap.1 hrecord
  cases declaration with
  | group id patterns span =>
      cases hof
      cases hdeclared
      exact h _ hmem
  | soundChange pattern replacement span =>
      cases hof
      cases hdeclared
  | comment text span => cases hof
  | blank span => cases hof

/-- A source compiles just if it can be read and its records compile. -/
theorem compile_eq_ok_iff {source : String} {g : Grammar} :
    (compile source).result = .ok g
      ↔ ∃ declarations, Declaration.parse source = .ok declarations
        ∧ (ofRecords (Record.ofDeclarations declarations)).result
          = .ok g := by
  unfold compile
  cases Declaration.parse source <;> simp

/-- Records compile exactly if their rules do and then, over the compiled
table, their sound changes. -/
theorem ofRecords_eq_ok_iff {records : List Record} {g : Grammar} :
    (ofRecords records).result = .ok g
      ↔ ∃ order, (tableOf records).compileAll.result = .ok order
        ∧ let table := (tableOf records).compileAll.table
          let run := Morphology.compile ((changesOf records).map (·.1)) table
          run.result = .ok () ∧ g = ⟨table, run.morphology, order⟩ := by
  -- The outcome of the rules is looked at first, as that decides whether
  -- the sound changes are.
  unfold ofRecords
  dsimp only
  cases (tableOf records).compileAll.result with
  | error e => simp
  | ok order =>
      dsimp only
      cases (Morphology.compile ((changesOf records).map (·.1))
          (tableOf records).compileAll.table).result with
      | error e => simp
      | ok u => simp [eq_comm]

/-- What records declare of a table does not depend on their spans. -/
theorem filterMap_declared? (records : List Record) :
    records.filterMap declared?
      = (records.map Record.statement).filterMap Statement.declared? := by
  rw [List.filterMap_map]
  exact List.filterMap_congr fun record _ => by cases record <;> rfl

/-- Nor do the sound changes that they declare. -/
theorem changesOf_eq (records : List Record) :
    (changesOf records).map (·.1)
      = ((records.map Record.statement).filterMap Statement.changed?).map
        fun (pattern, replacement) => { pattern, replacement } := by
  rw [List.map_filterMap, List.filterMap_map, changesOf, List.map_filterMap]
  exact List.filterMap_congr fun record _ => by cases record <;> rfl

/-- Whether records compile, and to what, does not depend on where they
stand. -/
theorem ofRecords_congr {records records' : List Record}
    (h : records.map Record.statement = records'.map Record.statement)
    {g : Grammar} :
    (ofRecords records).result = .ok g
      ↔ (ofRecords records').result = .ok g := by
  rw [ofRecords_eq_ok_iff, ofRecords_eq_ok_iff, tableOf_eq_declareAll,
    tableOf_eq_declareAll, filterMap_declared?, filterMap_declared?,
    changesOf_eq, changesOf_eq, h]

/-- The table of a grammar that compiles is finished. -/
theorem finished_of_compile {source : String} {g : Grammar}
    (h : (compile source).result = .ok g) : g.rules.Finished := by
  obtain ⟨declarations, hparse, h⟩ := compile_eq_ok_iff.1 h
  obtain ⟨order, horder, -, rfl⟩ := ofRecords_eq_ok_iff.1 h
  dsimp only
  rw [tableOf_eq_declareAll] at horder ⊢
  refine RuleTable.finished_declareAll ?_ ⟨order, horder⟩
  exact declared_ne_nil (Declaration.hasPatterns_of_parse hparse)

/-- The sound changes of a grammar that compiles can be applied. -/
theorem isCompiled_of_compile {source : String} {g : Grammar}
    (h : (compile source).result = .ok g) :
    g.morphology.isCompiled = true := by
  obtain ⟨declarations, -, h⟩ := compile_eq_ok_iff.1 h
  obtain ⟨order, -, hrun, rfl⟩ := ofRecords_eq_ok_iff.1 h
  exact Morphology.isCompiled_compile hrun

/-- A grammar that compiles has the rules that its source declares. -/
theorem contains_iff_declared {source : String} {g : Grammar}
    (h : (compile source).result = .ok g) {declarations : List Declaration}
    (hparse : Declaration.parse source = .ok declarations) {id : RuleId} :
    g.rules.contains id = true
      ↔ ∃ patterns span, .group id patterns span ∈ declarations := by
  obtain ⟨_, hparse', h⟩ := compile_eq_ok_iff.1 h
  rw [hparse] at hparse'
  cases hparse'
  obtain ⟨order, -, -, rfl⟩ := ofRecords_eq_ok_iff.1 h
  dsimp only
  rw [RuleTable.contains_compileAll, tableOf_eq_declareAll,
    RuleTable.contains_declareAll]
  simp only [List.mem_filterMap, Record.ofDeclarations]
  constructor
  · rintro ⟨patterns, record, ⟨declaration, hmem, hrecord⟩, hdeclared⟩
    cases declaration with
    | group id' patterns' span =>
        cases hrecord
        cases hdeclared
        exact ⟨patterns, span, hmem⟩
    | soundChange pattern replacement span =>
        cases hrecord
        cases hdeclared
    | comment text span => cases hrecord
    | blank span => cases hrecord
  · rintro ⟨patterns, span, hmem⟩
    exact ⟨patterns, _, ⟨_, hmem, rfl⟩, rfl⟩

/-- Without sound changes, a grammar compiles if its rules do. -/
theorem compile_of_wellFormed {source : String}
    {declarations : List Declaration}
    (hparse : Declaration.parse source = .ok declarations)
    (hchanges : changesOf (Record.ofDeclarations declarations) = [])
    (hwell : (tableOf (Record.ofDeclarations declarations)).WellFormed) :
    ∃ g, (compile source).result = .ok g ∧ g.rules
      = (tableOf (Record.ofDeclarations declarations)).compileAll.table := by
  obtain ⟨⟨order, horder⟩, -⟩ := RuleTable.compileAll_of_wellFormed
    (tableOf_eq_declareAll _ ▸ RuleTable.expanded_declareAll _) hwell
  rw [compile, hparse]
  dsimp only
  rw [ofRecords, horder, hchanges]
  exact ⟨_, rfl, rfl⟩

/-- A source that declares the entry rule alone compiles if its patterns
are balanced and refer to nothing else, and it keeps them. -/
theorem exists_compile_of_entry {source : String} {patterns : List String}
    {span : Span}
    (hparse : Declaration.parse source = .ok [.group .entry patterns span])
    (hbal : ∀ pattern ∈ patterns, Pattern.Balanced pattern)
    (hrefs : ∀ pattern ∈ patterns, ∀ dep ∈ referencesOf pattern,
      dep = .entry) :
    ∃ g, (compile source).result = .ok g
      ∧ g.rules.get? .entry = some ⟨patterns, .raw⟩ := by
  have hget : (RuleTable.declareAll [(.entry, patterns)]).get? .entry
      = some ⟨patterns, .raw⟩ := by
    rw [RuleTable.declareAll, List.foldl_cons, List.foldl_nil,
      RuleTable.declare, RuleTable.get?_insert, if_pos rfl]
  have hwell : (RuleTable.declareAll [(.entry, patterns)]).WellFormed := by
    -- There is one rule, so it is below nothing and any rank will do.
    refine RuleTable.wellFormed_declareAll (fun _ => 0) ?_ ?_ ?_
    · refine RuleTable.verifyReferences_eq_ok_iff.2 fun id dep hdep hbad => ?_
      obtain ⟨rule, hrule⟩ := RuleTable.contains_iff.1
        (RuleTable.contains_of_mem_allReferences hdep)
      obtain ⟨-, hmem⟩ := RuleTable.declared_of_get? hrule
      obtain ⟨rfl, rfl⟩ := Prod.mk.inj (List.mem_singleton.1 hmem)
      obtain ⟨pattern, hpattern, hdep⟩ :=
        (RuleTable.mem_allReferences hrule).1 hdep
      obtain rfl := hrefs pattern hpattern dep hdep
      rcases hbad with hnone | ⟨-, hne⟩
      · rw [RuleTable.contains, hget] at hnone
        cases hnone
      · exact hne rfl
    · intro d hd hne
      rw [List.mem_singleton.1 hd] at hne
      exact absurd rfl hne
    · intro d hd
      rw [List.mem_singleton.1 hd]
      exact hbal
  obtain ⟨g, hcompile, hrules⟩ := compile_of_wellFormed hparse rfl hwell
  refine ⟨g, hcompile, ?_⟩
  rw [hrules, RuleTable.get?_entry_compileAll]
  exact hget

end Grammar

end WordGrammar
