/-
What compiling a grammar reports.

An observer is told of every rule that is compiled and then of every sound
change, up to the first failure. `Reports` has the ways in which compiling
records ends, each with all that is reported; the rules' share of it comes
from `RuleTable.compileAll_cases` and the sound changes' from
`Morphology.compileFrom_cases`.

The sound change that fails is not passed on by the loop: it is looked for
afterwards, as the first one that is not compiled. Since nothing that is
declared is compiled (`DeclaresChanges.isRaw`) and all sound changes before
the failure are, it is the one that failed (`placeError_failed`), and the
place is that of its declaration.
-/
import WordGrammar.Proofs.Declaration.Context

namespace WordGrammar

-- ========================================================== sound changes

/-- `SoundChange.Compiles table t after`: the sound change at an index is
compiled to `after`, which has its pattern with the markers replaced. -/
structure SoundChange.Compiles (table : RuleTable) (t : SoundChange × Nat)
    (after : SoundChange) : Prop where
  compile_eq : t.1.compile table (Morphology.owner t.2 t.1.pattern)
    = .ok after
  exists_expanded : ∃ expanded,
    replaceMarkers table (Morphology.owner t.2 t.1.pattern) t.1.pattern
        = .ok expanded
      ∧ after.expanded? = some expanded

/-- A sound change that was not compiled before is compiled from its
expanded pattern. -/
theorem SoundChange.compiles_of_compile {table : RuleTable}
    {t : SoundChange × Nat} {after : SoundChange}
    (hraw : t.1.isCompiled = false)
    (h : t.1.compile table (Morphology.owner t.2 t.1.pattern) = .ok after) :
    SoundChange.Compiles table t after := by
  refine ⟨h, ?_⟩
  obtain ⟨hcompiled, -⟩ | ⟨-, cause, -, hrun⟩ |
    ⟨expanded, -, hexpanded, ⟨message, hrun⟩ | ⟨regex, -, hrun⟩⟩ :=
    t.1.compile_cases table (Morphology.owner t.2 t.1.pattern)
  · rw [hraw] at hcompiled
    cases hcompiled
  · rw [hrun] at h
    cases h
  · rw [hrun] at h
    cases h
  · rw [hrun] at h
    cases h
    exact ⟨expanded, hexpanded, rfl⟩

/-- The same for a list of them. -/
theorem Morphology.CompilesTo.compiles {table : RuleTable} {index : Nat}
    {morphology compiled : Morphology}
    (hraw : ∀ t ∈ morphology, t.isCompiled = false)
    (h : CompilesTo table index morphology compiled) :
    List.Forall₂ (SoundChange.Compiles table) (morphology.zipIdx index)
      compiled := by
  have hnumbered : ∀ t ∈ morphology.zipIdx index, t.1.isCompiled = false :=
    fun t ht => hraw t.1 (List.fst_mem_of_mem_zipIdx ht)
  exact ((List.forall₂_and_left _ _).2 ⟨hnumbered, h⟩).imp
    fun t after hboth => SoundChange.compiles_of_compile hboth.1 hboth.2

namespace Grammar

/-- `DeclaresChanges records changes`: these are the sound changes that the
records declare, in their order, each as it is written there and with the
place of its record. -/
inductive DeclaresChanges : List Record → List (SoundChange × Span) → Prop
  | nil : DeclaresChanges [] []
  | rule {id patterns span records changes} :
      DeclaresChanges records changes →
      DeclaresChanges (.rule id patterns span :: records) changes
  | soundChange {pattern replacement span records changes} :
      DeclaresChanges records changes →
      DeclaresChanges (.soundChange pattern replacement span :: records)
        ((⟨pattern, replacement, none⟩, span) :: changes)

/-- Records declare the sound changes that are collected from them. -/
theorem declaresChanges_changesOf (records : List Record) :
    DeclaresChanges records (changesOf records) := by
  induction records with
  | nil => exact .nil
  | cons record records ih =>
      cases record with
      | rule => exact .rule ih
      | soundChange => exact .soundChange ih

/-- Sound changes are not compiled when they are declared. -/
theorem DeclaresChanges.isRaw {records : List Record}
    {changes : List (SoundChange × Span)}
    (h : DeclaresChanges records changes) :
    ∀ t ∈ changes, t.1.isCompiled = false := by
  induction h with
  | nil => exact List.forall_mem_nil _
  | rule _ ih => exact ih
  | soundChange _ ih => exact List.forall_mem_cons.2 ⟨rfl, ih⟩

/-- The place of a failure is where the sound change that failed is
declared. -/
theorem placeError_failed {past later : List (SoundChange × Span)}
    {t : SoundChange} {span : Span} {compiled rest : Morphology}
    {kind : ErrorKind} (hlength : compiled.length = past.length)
    (hcompiled : compiled.isCompiled = true)
    (hraw : t.isCompiled = false) :
    placeError ⟨kind, none⟩ (past ++ (t, span) :: later)
        (compiled ++ t :: rest)
      = ⟨kind, some ⟨some "grammar", some (span.line, span.column)⟩⟩ := by
  -- All sound changes before the one that failed are passed over.
  have hnone : (compiled.zip past).find? (fun t => !t.1.isCompiled)
      = none := by
    rw [List.find?_eq_none]
    intro pair hpair
    have hmem := (List.of_mem_zip hpair).1
    simp [List.all_eq_true.1 hcompiled pair.1 hmem]
  have hfound : ((compiled ++ t :: rest).zip
        (past ++ (t, span) :: later)).find? (fun t => !t.1.isCompiled)
      = some (t, t, span) := by
    rw [List.zip_append hlength, List.find?_append, hnone, Option.none_or,
      List.zip_cons_cons]
    exact List.find?_cons_of_pos (by simp [hraw])
  unfold placeError
  rw [hfound]
  rfl

-- ================================================================= records

/-- What compiling some records reports, and what comes of it.

If the references of the rules are not in order, nothing is reported. If a
rule has a malformed group, those rules are that come first in the order of
compilation. These errors have no place. If a sound change fails, all rules
are reported and the sound changes before it, and the error has the place
at which it is declared. Else all rules are reported, in the grammar's order
of compilation and each with the number of its alternatives, and then all
sound changes, each with its expanded pattern. -/
inductive Reports (records : List Record) : Run → Prop
  | badReference {id dep kind} :
      (tableOf records).FirstBadReference id dep →
      (tableOf records).badReferenceError id dep = ⟨kind, none⟩ →
      Reports records ⟨[], .error ⟨kind, none⟩⟩
  | circle {circle} : (tableOf records).IsCircle circle →
      Reports records ⟨[], .error ⟨.cyclicReference circle, none⟩⟩
  | malformed {past rest pattern offset message} :
      (tableOf records).schedule = .ok (past ++ rest) →
      Reports records
        ⟨RuleTable.ruleEvents (tableOf records).compileAll.table past,
          .error ⟨.malformedGroup pattern offset message, none⟩⟩
  | soundChange {order table past t span later compiled kind} :
      (tableOf records).schedule = .ok order →
      (tableOf records).compileAll.table = table →
      DeclaresChanges records (past ++ (t, span) :: later) →
      List.Forall₂ (SoundChange.Compiles table) (past.map (·.1)).zipIdx
        compiled →
      t.compile table (Morphology.owner past.length t.pattern)
        = .error ⟨kind, none⟩ →
      Reports records
        ⟨RuleTable.ruleEvents table order
            ++ Morphology.changeEvents 0 compiled,
          .error ⟨kind,
            some ⟨some "grammar", some (span.line, span.column)⟩⟩⟩
  | compiled {g changes} : (tableOf records).schedule = .ok g.order →
      (tableOf records).compileAll.table = g.rules →
      DeclaresChanges records changes →
      List.Forall₂ (SoundChange.Compiles g.rules)
        (changes.map (·.1)).zipIdx g.morphology →
      Reports records
        ⟨RuleTable.ruleEvents g.rules g.order
            ++ Morphology.changeEvents 0 g.morphology, .ok g⟩

section

variable {records : List Record}

/-- Where the rules compile, the sound changes follow: all of them compile, or
the first that does not is the one the error is placed at. -/
theorem reports_of_rules {order : List RuleId}
    (hschedule : (tableOf records).schedule = .ok order)
    (hrules : (tableOf records).compileAll
      = ⟨(tableOf records).compileAll.table,
        RuleTable.ruleEvents (tableOf records).compileAll.table order,
        .ok order⟩) :
    Reports records (ofRecords records) := by
  have hdeclares := declaresChanges_changesOf records
  have hraw : ∀ t ∈ (changesOf records).map (·.1), t.isCompiled = false :=
    List.forall_mem_map.2 hdeclares.isRaw
  unfold ofRecords
  rw [hrules]
  dsimp only
  obtain ⟨compiled, hcompiled, hrun⟩ |
    ⟨past, t, later, compiled, e, hsplit, hcompiled, hfail, hrun⟩ :=
    Morphology.compileFrom_cases (tableOf records).compileAll.table 0
      ((changesOf records).map (·.1))
  · rw [Morphology.compile, hrun]
    exact .compiled (g := ⟨_, compiled, order⟩) hschedule rfl hdeclares
      (hcompiled.compiles hraw)
  -- The list that stopped is that of the declared changes, so the one that
  -- failed has a span.
  · obtain ⟨past, changes, hchanges, rfl, hrest⟩ :=
      List.map_eq_append_iff.1 hsplit
    obtain ⟨⟨t, span⟩, later, rfl, rfl, rfl⟩ := List.map_eq_cons_iff.1 hrest
    obtain ⟨kind, place⟩ := e
    obtain rfl : place = none := (SoundChange.isPlain_of_compile hfail).2
    rw [hsplit] at hraw
    have hlength : compiled.length = past.length := by
      have hzip := hcompiled.length_eq
      simpa using hzip.symm
    have hplace := @placeError_failed past later t span compiled
      (later.map (·.1)) kind hlength hcompiled.isCompiled
      (hraw t (List.mem_append_right _ (List.mem_cons_self ..)))
    rw [List.length_map, Nat.zero_add] at hfail
    rw [Morphology.compile, hrun]
    dsimp only
    rw [hchanges, hplace]
    rw [hchanges] at hdeclares
    exact .soundChange hschedule rfl hdeclares
      (hcompiled.compiles fun t ht => hraw t (List.mem_append_left _ ht))
      hfail

/-- Compiling records ends in one of these ways. The rules come first, so
the sound changes matter only where all rules compile. -/
theorem reports_ofRecords : Reports records (ofRecords records) := by
  have hexp : (tableOf records).Expanded := by
    rw [tableOf_eq_declareAll]
    exact RuleTable.expanded_declareAll _
  obtain ⟨id, dep, hbad, hrules⟩ | ⟨circle, hcircle, hrules⟩
    | ⟨-, past, rest, pattern, offset, message, hschedule, hrules⟩
    | ⟨-, order, hschedule, hrules⟩ := RuleTable.compileAll_cases hexp
  · have hplain := RuleTable.isPlain_badReferenceError (tableOf records) id dep
    cases herror : (tableOf records).badReferenceError id dep with
    | mk kind place =>
        rw [herror] at hplain hrules
        obtain rfl : place = none := hplain.2
        unfold ofRecords
        rw [hrules]
        exact .badReference hbad herror
  · unfold ofRecords
    rw [hrules]
    exact .circle hcircle
  · have hrun : ofRecords records
        = ⟨RuleTable.ruleEvents (tableOf records).compileAll.table past,
          .error (.of (.malformedGroup pattern offset message))⟩ := by
      unfold ofRecords
      rw [hrules]
    rw [hrun]
    exact .malformed hschedule
  · exact reports_of_rules hschedule hrules

end

-- ================================================================== sources

/-- Compiling a source reports nothing if it cannot be read, and the error
has no place; else it reports what its records do. -/
theorem compile_reports (source : String) :
    (∃ message line column context,
        Declaration.parse source
            = .error ⟨.grammarSyntax message line column context, none⟩
          ∧ compile source
            = ⟨[], .error ⟨.grammarSyntax message line column context,
              none⟩⟩)
      ∨ ∃ declarations, Declaration.parse source = .ok declarations
        ∧ Reports (Record.ofDeclarations declarations) (compile source) := by
  unfold compile
  cases hparse : Declaration.parse source with
  | error e =>
      obtain ⟨span, message, -, rfl⟩ :=
        Declaration.exists_standsIn_of_parse hparse
      exact .inl ⟨message, span.line, span.column, span.lineText source,
        rfl, rfl⟩
  | ok declarations =>
      exact .inr ⟨declarations, rfl, reports_ofRecords⟩

/-- The second sound change is no regular expression; the first one is
reported, and the error is where the second one is declared. -/
example :
    let run := compile "/a/ > \"x\"\n# twice\n/(/ > \"y\""
    run.events = [.soundChange 0 "a"]
      ∧ (match run.result with
        | .ok _ => none
        | .error e => e.place) = some ⟨some "grammar", some (3, 1)⟩ := by
  decide +kernel

end Grammar

end WordGrammar
