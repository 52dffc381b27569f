/-
Everything that can be done to a table, and what compiling it then comes
to.

A table is declared into, rule by rule, and compiled, in single rules or
as a whole, in any order; a call that fails may be followed by any other.
`applyAll` runs such a history. Every table it leads to is `Expanded`,
which is all that the outcome of a compilation depends on: the main
statement lists the four outcomes with their order of precedence. A
reference that cannot be substituted is none of them.
-/
import WordGrammar.Proofs.RuleTable.Run

namespace WordGrammar.RuleTable

open Pattern (Balanced)

/-- A call that changes a table. -/
inductive Operation
  /-- Declare a rule by its patterns. -/
  | declare (id : RuleId) (patterns : List String)
  /-- Compile one rule, the entry rule included. -/
  | compile (id : RuleId)
  /-- Compile the whole table. -/
  | compileAll

/-- The table after a call, whether it succeeds or fails. -/
def apply (table : RuleTable) : Operation → RuleTable
  | .declare id patterns => table.declare id patterns
  | .compile id =>
      match table.compile id with
      | .ok after => after
      | .error _ => table
  | .compileAll => table.compileAll.table

/-- The table after some calls, in order. -/
def applyAll (table : RuleTable) (operations : List Operation) :
    RuleTable :=
  operations.foldl apply table

variable {table : RuleTable}

/-- What each call keeps, a history of such calls keeps. -/
theorem applyAll_preserves {P : RuleTable → Prop}
    {operations : List Operation}
    (hstep : ∀ table operation, operation ∈ operations → P table →
      P (table.apply operation)) :
    ∀ {table : RuleTable}, P table → P (table.applyAll operations) := by
  induction operations with
  | nil => intro table h; exact h
  | cons operation rest ih =>
      intro table h
      exact ih (fun table operation hmem =>
        hstep table operation (List.mem_cons_of_mem _ hmem))
        (hstep table operation (List.mem_cons_self ..) h)

/-- A property that compiling single rules keeps is kept by the call. -/
theorem apply_compile_preserves {P : RuleTable → Prop} {id : RuleId}
    (hstep : ∀ after, table.compile id = .ok after → P after)
    (h : P table) : P (table.apply (.compile id)) := by
  cases hcompile : table.compile id with
  | error e => simpa only [apply, hcompile] using h
  | ok after => simpa only [apply, hcompile] using hstep after hcompile

/-- No call, successful or not, leaves a compiled rule with anything but
distinct words. -/
theorem Expanded.apply (h : table.Expanded) (operation : Operation) :
    (table.apply operation).Expanded := by
  cases operation with
  | declare id patterns => exact h.declare id patterns
  | compile id =>
      exact apply_compile_preserves (fun _ hcompile => h.compile hcompile) h
  | compileAll => exact h.compileAll

/-- What is compiled in a table that calls have led to is distinct words
that are text alone. -/
theorem expanded_applyAll (operations : List Operation) :
    (empty.applyAll operations).Expanded :=
  applyAll_preserves (fun _ operation _ h => h.apply operation)
    expanded_empty

/-- Compiling a table that any history of calls has led to. In this order
of precedence: the first bad reference is reported, or a circle among the
rules other than the entry rule, and the table stays as it is; a pattern
that is not balanced, the entry rule's included, makes it fail for a
malformed group; and otherwise it succeeds. -/
theorem compileAll_outcome (operations : List Operation) :
    let table := empty.applyAll operations
    let run := table.compileAll
    ((∃ id dep, dep ∈ table.allReferences id
        ∧ table.IsBadReference id dep) →
      ∃ id dep, table.FirstBadReference id dep ∧ run.table = table
        ∧ run.result = .error (table.badReferenceError id dep))
    ∧ (table.HasGoodReferences →
      (table.HasCircle → run.table = table
        ∧ ∃ circle, table.IsCircle circle
          ∧ run.result = .error (.of (.cyclicReference circle)))
      ∧ (¬ table.HasCircle →
        ((∃ id rule, table.get? id = some rule
            ∧ ∃ source ∈ rule.patterns, ¬ Balanced source) →
          ∃ source offset message,
            run.result = .error (.of (.malformedGroup source offset message)))
        ∧ ((∀ id rule, table.get? id = some rule →
            ∀ source ∈ rule.patterns, Balanced source) →
          ∃ order, run.result = .ok order)))
    ∧ ∀ dep owner,
        run.result ≠ .error (.of (.uncompiledReference dep owner)) := by
  intro table run
  have hexp : table.Expanded := expanded_applyAll operations
  refine ⟨?_, fun hrefs => ⟨fun hcircle => ?_, fun hcircle => ⟨?_, ?_⟩⟩,
    compileAll_ne_uncompiledReference hexp⟩
  · rintro ⟨id, dep, hdep, hbad⟩
    rcases references_or_firstBadReference table with hrefs | hfirst
    · exact absurd hbad (hrefs id dep hdep)
    · obtain ⟨id, dep, hfirst⟩ := hfirst
      have hrun := compileAll_of_firstBadReference hfirst
      exact ⟨id, dep, hfirst, congrArg Run.table hrun,
        congrArg Run.result hrun⟩
  · obtain ⟨circle, hcycle, hrun⟩ := compileAll_of_hasCircle hrefs hcircle
    exact ⟨congrArg Run.table hrun, circle, hcycle,
      congrArg Run.result hrun⟩
  · rintro ⟨id, rule, hget, source, hsource, hbal⟩
    exact compileAll_of_unbalanced hexp hrefs hcircle hget
      fun h => hbal (h source hsource)
  · exact fun hbal =>
      (compileAll_of_wellFormed hexp ⟨hrefs, hcircle, hbal⟩).1

end WordGrammar.RuleTable
