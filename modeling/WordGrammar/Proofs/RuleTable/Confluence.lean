/-
Compiling in any order, stopping and going on.

After declarations alone, any calls that compile, in any order and each
of them successful or not, leave a table that tracks what was declared
(`Tracks.applyAll`). Hence they do not change whether the whole table can
be compiled, nor to what.

# Where a second compilation does more

Compiling the whole table twice is the same as compiling it once, unless a
rule other than the entry rule has a malformed pattern. The loop then
stops at that rule, and what it has compiled on the way can change the
order of the rules that it did not come to: the duplicates among a rule's
patterns no longer count for its workload, and a rule that was behind the
malformed one moves before it. `unfinished` is such a table.
-/
import WordGrammar.Proofs.RuleTable.Meaning
import WordGrammar.Proofs.RuleTable.Ranking

namespace WordGrammar.RuleTable

variable {origin table : RuleTable}

-- ========================================================== compiling calls

/-- The call compiles the whole table or a rule other than the entry
rule. -/
def Operation.IsCompilation : Operation → Prop
  | .declare .. => False
  | .compile id => id ≠ .entry
  | .compileAll => True

/-- A call that compiles writes nothing into the table but what rules mean.
-/
theorem Tracks.apply {operation : Operation} (h : origin.Tracks table)
    (hraw : origin.IsRaw) (hcall : operation.IsCompilation) :
    origin.Tracks (table.apply operation) := by
  cases operation with
  | declare id patterns => exact hcall.elim
  | compile id =>
      exact apply_compile_preserves
        (fun _ hcompile => h.compile hraw hcall hcompile) h
  | compileAll => exact h.compileAll hraw

/-- Calls that compile keep track of what was declared. -/
theorem Tracks.applyAll {operations : List Operation}
    (h : origin.Tracks table) (hraw : origin.IsRaw)
    (hcalls : ∀ operation ∈ operations, operation.IsCompilation) :
    origin.Tracks (table.applyAll operations) :=
  applyAll_preserves (fun _ operation hmem h =>
    h.apply hraw (hcalls operation hmem)) h

theorem Expanded.applyAll {operations : List Operation}
    (h : table.Expanded) : (table.applyAll operations).Expanded :=
  applyAll_preserves (fun _ operation _ h => h.apply operation) h

-- ============================================================= idempotence

/-- Compiling a table once more changes nothing, unless the first time
failed for a malformed group and a rule other than the entry rule has
one. -/
theorem compileAll_compileAll_table (hexp : table.Expanded)
    (h : IsMalformed table.compileAll.result →
      ∀ id rule, id ≠ .entry → table.get? id = some rule →
        rule.IsBalanced) :
    table.compileAll.table.compileAll.table = table.compileAll.table := by
  -- A bad reference or a circle is found again, the table being the same;
  -- otherwise all rules are compiled the first time.
  rcases references_or_firstBadReference table with hrefs | ⟨id, dep, hbad⟩
  · by_cases hcircle : table.HasCircle
    · obtain ⟨circle, -, hrun⟩ := compileAll_of_hasCircle hrefs hcircle
      rw [hrun]
      exact congrArg Run.table hrun
    · have hbal : ∀ id rule, id ≠ .entry → table.get? id = some rule →
          rule.IsBalanced := by
        intro id rule hid hget
        by_contra hbad
        exact hbad (h (compileAll_of_unbalanced hexp hrefs hcircle hget hbad)
          id rule hid hget)
      exact (isComplete_compileAll hexp hrefs hcircle hbal).2.compileAll_table
  · have hrun := compileAll_of_firstBadReference hbad
    rw [hrun]
    exact congrArg Run.table hrun

-- =============================================================== confluence

/-- Calls that compile, in any order and whether or not they succeed, do
not change whether a declared table compiles, nor to what. Compiling the
whole table then changes nothing when it is done again, unless it has
failed for a malformed group and a rule other than the entry rule has
one. -/
theorem compileAll_confluent (declarations : List (RuleId × List String))
    (operations : List Operation)
    (hcalls : ∀ operation ∈ operations, operation.IsCompilation) :
    let table := declareAll declarations
    let later := table.applyAll operations
    ((∃ order, later.compileAll.result = .ok order)
      ↔ ∃ order, table.compileAll.result = .ok order)
    ∧ ((∃ order, table.compileAll.result = .ok order) →
      later.compileAll.table = table.compileAll.table)
    ∧ ((IsMalformed later.compileAll.result →
        ∀ id rule, id ≠ .entry → later.get? id = some rule →
          rule.IsBalanced) →
      later.compileAll.table.compileAll.table = later.compileAll.table) := by
  intro table later
  have hraw : table.IsRaw := isRaw_declareAll declarations
  have hexp : table.Expanded := expanded_declareAll declarations
  have hexpLater : later.Expanded := hexp.applyAll
  have htracks : table.Tracks later :=
    (Tracks.refl table).applyAll hraw hcalls
  have hiff : later.WellFormed ↔ table.WellFormed :=
    htracks.wellFormed_iff hexpLater
  refine ⟨?_, fun hok => ?_, compileAll_compileAll_table hexpLater⟩
  · rw [compileAll_ok_iff hexpLater, compileAll_ok_iff hexp, hiff]
  · have hwell := (compileAll_ok_iff hexp).1 hok
    exact (htracks.compileAll hraw).eq
      ((Tracks.refl table).compileAll hraw) hraw
      (compileAll_of_wellFormed hexpLater (hiff.2 hwell)).2
      (compileAll_of_wellFormed hexp hwell).2

/-- The hypothesis and the conclusion at the syllables, after a call that
fails because the consonants are not compiled yet, one that compiles the
vowels and one that compiles everything. -/
theorem compileAll_confluent_syllables :
    let operations : List Operation :=
      [.compile (.named 'S'), .compile (.named 'V'), .compileAll]
    (∀ operation ∈ operations, operation.IsCompilation)
    ∧ ((declareAll syllables).applyAll operations).compileAll.table
      = (declareAll syllables).compileAll.table := by
  intro operations
  have hcalls : ∀ operation ∈ operations, operation.IsCompilation := by
    simp only [operations, List.forall_mem_cons, Operation.IsCompilation]
    exact ⟨by decide, by decide, trivial, by simp⟩
  obtain ⟨-, hsame, -⟩ := compileAll_confluent syllables operations hcalls
  exact ⟨hcalls, hsame ((compileAll_ok_iff (expanded_declareAll _)).2
    wellFormed_syllables)⟩

-- ================================================ not always idempotent

/-- A table with a malformed pattern in `X`. The rule `B` is behind it in
the order as long as the two equal patterns of `C` both count. -/
def unfinished : List (RuleId × List String) :=
  [(.named 'B', ["C"]), (.named 'C', ["a", "a"]), (.named 'D', ["d"]),
    (.named 'X', ["D("])]

/-- The table with the rules compiled that come before the malformed
one. -/
def halfway : RuleTable :=
  ((declareAll unfinished).insert (.named 'C') ⟨["a"], .compiled⟩).insert
    (.named 'D') ⟨["d"], .compiled⟩

/-- The malformed rule never compiles. -/
private theorem exists_compile_malformed
    (hget : table.get? (.named 'X') = some ⟨["D("], .raw⟩) :
    ∃ e, table.compile (.named 'X') = .error e := by
  cases hcompile : table.compile (.named 'X') with
  | error e => exact ⟨e, rfl⟩
  | ok after =>
      obtain ⟨rule, hrule, hcases⟩ := compile_cases hcompile
      rw [hget] at hrule
      cases hrule
      rcases hcases with ⟨hstate, -⟩ | ⟨-, hbal, -⟩
      · cases hstate
      · exact absurd hbal (by decide)

/-- The first time, the loop stops at `X` before it has come to `B`. -/
theorem compileAll_unfinished :
    (declareAll unfinished).compileAll.table = halfway := by
  have horder : (declareAll unfinished).schedule
      = .ok [.named 'C', .named 'D', .named 'X', .named 'B'] := by
    rw [@schedule_of_isRanking _
      [.named 'C', .named 'D', .named 'X', .named 'B'] (by decide +kernel)]
    decide +kernel
  have hC : (declareAll unfinished).compile (.named 'C')
      = .ok ((declareAll unfinished).insert (.named 'C')
        ⟨["a"], .compiled⟩) :=
    compile_written ["a", "a"] (by decide) (by decide) (by decide) (by decide)
  have hD : ((declareAll unfinished).insert (.named 'C')
      ⟨["a"], .compiled⟩).compile (.named 'D') = .ok halfway :=
    compile_written ["d"] (by decide) (by decide) (by decide) (by decide)
  obtain ⟨e, hX⟩ := @exists_compile_malformed halfway (by decide)
  rw [(compileAll_of_schedule horder).1, (compileEach_cons_of_ok hC).1,
    (compileEach_cons_of_ok hD).1, compileEach_cons_of_error hX]

/-- The second time, `B` is compiled before the loop stops at `X`. -/
theorem compileAll_not_idempotent :
    (declareAll unfinished).compileAll.table.compileAll.table
      ≠ (declareAll unfinished).compileAll.table := by
  -- With one pattern of `C` left, there is as little work in `B` as in `D`,
  -- and its letter comes first.
  have horder : halfway.schedule
      = .ok [.named 'C', .named 'D', .named 'B', .named 'X'] := by
    rw [@schedule_of_isRanking _
      [.named 'C', .named 'D', .named 'B', .named 'X'] (by decide +kernel)]
    decide +kernel
  have hB : halfway.compile (.named 'B')
      = .ok (halfway.insert (.named 'B') ⟨["a"], .compiled⟩) :=
    compile_written ["C"] (by decide) (by decide) (by decide) (by decide)
  obtain ⟨e, hX⟩ := @exists_compile_malformed
    (halfway.insert (.named 'B') ⟨["a"], .compiled⟩) (by decide)
  rw [compileAll_unfinished, (compileAll_of_schedule horder).1,
    (compileEach_cons_of_ok (compile_of_isCompiled (by decide))).1,
    (compileEach_cons_of_ok (compile_of_isCompiled (by decide))).1,
    (compileEach_cons_of_ok hB).1, compileEach_cons_of_error hX]
  change halfway.insert (.named 'B') ⟨["a"], .compiled⟩ ≠ halfway
  decide

end WordGrammar.RuleTable
