/-
What a grammar depends on.

A rule may be declared any number of times, and only its last declaration
reaches the table (`get?_declareAll`). A declaration that another one hides
can be malformed, refer to rules that do not exist or close a circle: it is
overwritten before anything is compiled. The table, and the sound changes
in their order, are all that compiling looks at. The places of the
declarations matter at one point only, where the error of a sound change is
given the place of its declaration, and there they change no more than the
line and the column (`unpositioned_placeError`).

So two sources that agree on the last declarations and on the sound changes
compile alike: `compile_redeclared`.
-/
import WordGrammar.Proofs.Grammar

namespace WordGrammar

-- ===================================================== the last declaration

/-- The alternatives that are declared last for a rule, if it is
declared. -/
def Statement.lastPatterns? (said : List Statement) (id : RuleId) :
    Option (List String) :=
  ((said.filterMap declared?).filter fun d => d.1 = id).getLast?.map (·.2)

/-- The pattern and the replacement of every sound change, in order. -/
def Statement.soundChanges (said : List Statement) :
    List (String × String) :=
  said.filterMap changed?

namespace RuleTable

/-- A declared table holds for a rule what was declared last for it. -/
theorem get?_declareAll (declarations : List (RuleId × List String))
    (id : RuleId) :
    (declareAll declarations).get? id
      = (declarations.filter fun d => d.1 = id).getLast?.map
        fun d => ⟨d.2, .raw⟩ := by
  induction declarations using List.reverseRecOn with
  | nil => exact get?_empty id
  | append_singleton declarations d ih =>
      have happend : declareAll (declarations ++ [d])
          = (declareAll declarations).declare d.1 d.2 := by
        unfold declareAll
        rw [List.foldl_append]
        rfl
      rw [happend, declare, get?_insert, ih, List.filter_append]
      by_cases hid : d.1 = id
      · rw [if_pos hid.symm, List.filter_cons_of_pos (by simpa using hid)]
        simp
      · rw [if_neg (Ne.symm hid),
          List.filter_cons_of_neg (by simpa using hid)]
        simp

end RuleTable

-- ========================================================= errors and places

/-- The error without the line and the column of its place. -/
def Error.unpositioned (e : Error) : Error :=
  { e with place := e.place.map fun place => { place with position := none } }

namespace Grammar

/-- Records whose rules are declared alike in the end give one table. -/
theorem tableOf_eq_of_lastPatterns {records records' : List Record}
    (h : ∀ id, Statement.lastPatterns? (records.map Record.statement) id
      = Statement.lastPatterns? (records'.map Record.statement) id) :
    tableOf records = tableOf records' := by
  refine RuleTable.ext fun id => ?_
  have hpatterns : ∀ l : List (RuleId × List String),
      l.getLast?.map (fun d => (⟨d.2, .raw⟩ : Rule))
        = (l.getLast?.map (·.2)).map fun patterns => ⟨patterns, .raw⟩ :=
    fun l => by rw [Option.map_map]; rfl
  rw [tableOf_eq_declareAll, tableOf_eq_declareAll,
    RuleTable.get?_declareAll, RuleTable.get?_declareAll, hpatterns,
    hpatterns, filterMap_declared?, filterMap_declared?]
  exact congrArg (Option.map fun patterns => (⟨patterns, .raw⟩ : Rule)) (h id)

/-- Which sound changes are looked through for the place of an error
depends on the number of declarations alone. -/
theorem map_fst_zip_congr {compiled : Morphology}
    {changes changes' : List (SoundChange × Span)}
    (h : changes.length = changes'.length) :
    (compiled.zip changes).map Prod.fst
      = (compiled.zip changes').map Prod.fst := by
  induction compiled generalizing changes changes' with
  | nil => rfl
  | cons t compiled ih =>
      cases changes with
      | nil => rw [List.eq_nil_of_length_eq_zero h.symm]
      | cons change changes =>
          cases changes' with
          | nil => cases h
          | cons change' changes' =>
              have hrest : changes.length = changes'.length :=
                Nat.succ.inj h
              simp only [List.zip_cons_cons, List.map_cons, ih hrest]

/-- The place that an error is given depends on where the sound changes are
declared by its line and its column alone. -/
theorem unpositioned_placeError {e : Error} {compiled : Morphology}
    {changes changes' : List (SoundChange × Span)}
    (h : changes.length = changes'.length) :
    (placeError e changes compiled).unpositioned
      = (placeError e changes' compiled).unpositioned := by
  -- what is found in the two lists differs in its place at most
  have hfound := congrArg (List.find? fun t => !t.isCompiled)
    (@map_fst_zip_congr compiled _ _ h)
  simp only [List.find?_map, Function.comp_def] at hfound
  unfold placeError
  dsimp only
  cases hleft : (compiled.zip changes).find? fun t => !t.1.isCompiled with
  | none =>
      rw [hleft] at hfound
      rw [Option.map_eq_none_iff.1 hfound.symm]
  | some failed =>
      rw [hleft] at hfound
      obtain ⟨failed', hright, -⟩ := Option.map_eq_some_iff.1 hfound.symm
      rw [hright]
      cases hplace : e.place with
      | none => rfl
      | some place => rfl

-- ============================================================== two sources

/-- Records with the same table and the same sound changes compile alike:
the events are the same, and so is what comes of it, but for the line and
the column of an error. -/
theorem ofRecords_alike {records records' : List Record}
    (htable : tableOf records = tableOf records')
    (hchanges : (changesOf records).map (·.1)
      = (changesOf records').map (·.1)) :
    (ofRecords records).events = (ofRecords records').events
      ∧ (ofRecords records).result.mapError Error.unpositioned
        = (ofRecords records').result.mapError Error.unpositioned := by
  have hlength : (changesOf records).length = (changesOf records').length := by
    simpa using congrArg List.length hchanges
  unfold ofRecords
  simp only [htable, hchanges]
  cases (tableOf records').compileAll.result with
  | error e => exact ⟨rfl, rfl⟩
  | ok order =>
      dsimp only
      cases (Morphology.compile ((changesOf records').map (·.1))
          (tableOf records').compileAll.table).result with
      | error e =>
          exact ⟨rfl, congrArg Except.error (unpositioned_placeError hlength)⟩
      | ok u => exact ⟨rfl, rfl⟩

/-- Only the last declaration of each rule and the order of the sound
changes matter. If two sources can be parsed, what they declare last for
each rule is the same, and so are their sound changes, then compiling them
has the same events in the same order; and both have the same grammar, or
both fail with the same error, the line and the column of its place
apart. -/
theorem compile_redeclared {source source' : String}
    {declarations declarations' : List Declaration}
    (hparse : Declaration.parse source = .ok declarations)
    (hparse' : Declaration.parse source' = .ok declarations')
    (hrules : ∀ id, Statement.lastPatterns?
        (Declaration.statements declarations) id
      = Statement.lastPatterns? (Declaration.statements declarations') id)
    (hchanges : Statement.soundChanges (Declaration.statements declarations)
      = Statement.soundChanges (Declaration.statements declarations')) :
    (compile source).events = (compile source').events
      ∧ (compile source).result.mapError Error.unpositioned
        = (compile source').result.mapError Error.unpositioned := by
  unfold compile
  rw [hparse, hparse']
  refine ofRecords_alike (tableOf_eq_of_lastPatterns hrules) ?_
  rw [changesOf_eq, changesOf_eq]
  exact congrArg (List.map fun change =>
    ({ pattern := change.1, replacement := change.2 } : SoundChange)) hchanges

/-- A declaration of `V` that is malformed and refers to a rule that does
not exist, hidden by a later one, and a sound change that is no regular
expression. Without the hidden declaration and the comment, and with the
sound change in front, the source fails in the same way on another line. -/
theorem compile_redeclared_hidden :
    let source := "V: Q(\n# vowels\nV: a e\n/(/ > \"\""
    let source' := "/(/ > \"\"\nV: a e"
    (compile source).events = (compile source').events
      ∧ (compile source).result.mapError Error.unpositioned
        = (compile source').result.mapError Error.unpositioned := by
  intro source source'
  have hparse : Declaration.parse source = .ok [
      .group (.named 'V') ["Q("] ⟨0, 5, 1, 1⟩, .comment "vowels" ⟨6, 14, 2, 1⟩,
      .group (.named 'V') ["a", "e"] ⟨15, 21, 3, 1⟩,
      .soundChange "(" "" ⟨22, 30, 4, 1⟩] := by decide +kernel
  have hparse' : Declaration.parse source' = .ok [
      .soundChange "(" "" ⟨0, 8, 1, 1⟩,
      .group (.named 'V') ["a", "e"] ⟨9, 15, 2, 1⟩] := by decide +kernel
  have hrules : ∀ id ∈ RuleId.all,
      Statement.lastPatterns? [.rule (.named 'V') ["Q("],
          .rule (.named 'V') ["a", "e"], .soundChange "(" ""] id
        = Statement.lastPatterns? [.soundChange "(" "",
          .rule (.named 'V') ["a", "e"]] id := by
    decide
  exact compile_redeclared hparse hparse'
    (fun id => hrules id (RuleId.mem_all id)) rfl

end Grammar

end WordGrammar
