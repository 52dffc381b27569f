/-
Compiling a whole table.

`compileAll` ends in one of four ways, and this file has one lemma for
each: a bad reference and a circle leave the table as it is
(`compileAll_of_firstBadReference`, `compileAll_of_hasCircle`); of what
is left, a table with a malformed group is refused as such
(`compileAll_of_unbalanced`) and every other one succeeds with all rules
but the entry rule compiled (`compileAll_of_wellFormed`).

# The loop's invariant

While `compileEach` works through an ordered list, the part behind it is
compiled and the part ahead of it is still as in the table it started
from (`CompiledUpTo`). The order being ordered, what the next rule refers
to lies behind, so that only its own patterns can stop it
(`CompiledUpTo.next`). This holds from any table, also one where some
rules are compiled already: such a rule refers to nothing and is left as
it is.

# What is reported

The loop reports the rules that it compiles, so an initial part of its list.
A rule that is compiled stays as it is (`current_compileEach`), so each is
reported with the alternatives that it has in the end (`events_compileEach`).
`compileAll_cases` has the four outcomes with their reports.
-/
import WordGrammar.Proofs.RuleTable.Compile
import WordGrammar.Proofs.RuleTable.Order

namespace WordGrammar.RuleTable

open Pattern (Balanced)

variable {table : RuleTable}

-- ============================================================ the loop

/-- The loop stops at a rule that does not compile. -/
theorem compileEach_cons_of_error {id : RuleId} {rest : List RuleId}
    {e : Error} (h : table.compile id = .error e) :
    table.compileEach (id :: rest) = ⟨table, [], .error e⟩ := by
  rw [compileEach, h]

/-- After a rule that compiles, it goes on with the table as it is then. -/
theorem compileEach_cons_of_ok {id : RuleId} {rest : List RuleId}
    {next : RuleTable} (h : table.compile id = .ok next) :
    (table.compileEach (id :: rest)).table = (next.compileEach rest).table
      ∧ (table.compileEach (id :: rest)).result
        = (next.compileEach rest).result := by
  rw [compileEach, h]
  exact ⟨rfl, rfl⟩

/-- What compiling each single rule keeps, the loop keeps, wherever it
stops. -/
theorem compileEach_preserves {P : RuleTable → Prop} {ids : List RuleId}
    (hstep : ∀ table id after, id ∈ ids → P table →
      table.compile id = .ok after → P after) :
    ∀ {table : RuleTable}, P table → P (table.compileEach ids).table := by
  induction ids with
  | nil => intro table h; exact h
  | cons id rest ih =>
      intro table h
      cases hcompile : table.compile id with
      | error e => rw [compileEach_cons_of_error hcompile]; exact h
      | ok next =>
          rw [(compileEach_cons_of_ok hcompile).1]
          refine ih (fun table id after hid =>
            hstep table id after (List.mem_cons_of_mem _ hid)) ?_
          exact hstep table id next (List.mem_cons_self ..) h hcompile

/-- A malformed group is what an outcome reports. -/
def IsMalformed {α : Type} (result : Except Error α) : Prop :=
  ∃ source offset message,
    result = .error (.of (.malformedGroup source offset message))

/-- The middle of the loop: `past` is compiled, and all else is as in
`table`. -/
structure CompiledUpTo (table : RuleTable) (past : List RuleId)
    (now : RuleTable) : Prop where
  done : ∀ id ∈ past, now.isCompiled id = true
  ahead : ∀ id, id ∉ past → now.get? id = table.get? id

namespace CompiledUpTo

variable {past rest order : List RuleId} {now : RuleTable}

theorem start (table : RuleTable) : table.CompiledUpTo [] table where
  done := by simp
  ahead := fun _ _ => rfl

/-- One step of the loop. -/
theorem compile {id : RuleId} {next : RuleTable}
    (h : table.CompiledUpTo past now) (hcompile : now.compile id = .ok next) :
    table.CompiledUpTo (past ++ [id]) next where
  done := by
    intro other hother
    by_cases hne : other = id
    · exact hne ▸ isCompiled_of_compile hcompile
    · have hin : other ∈ past := by simpa [hne] using hother
      rw [isCompiled, get?_of_compile hcompile hne]
      exact h.done other hin
  ahead := by
    intro other hother
    simp only [List.mem_append, List.mem_singleton, not_or] at hother
    rw [get?_of_compile hcompile hother.2, h.ahead other hother.1]

/-- The next rule of an ordered list compiles if its patterns are
balanced; else it has a malformed group. -/
theorem next {id : RuleId} (h : table.CompiledUpTo past now)
    (hexp : table.Expanded) (hordered : table.Ordered order)
    (hsplit : order = past ++ id :: rest) :
    ∃ rule, table.get? id = some rule
      ∧ ((rule.IsBalanced ∧ ∃ next, now.compile id = .ok next)
        ∨ (¬ rule.IsBalanced ∧ IsMalformed (now.compile id))) := by
  have hnodup := hordered.nodup
  rw [hsplit] at hnodup
  have hnew : id ∉ past := fun hin =>
    (List.nodup_append.1 hnodup).2.2 id hin id (List.mem_cons_self ..) rfl
  obtain ⟨⟨patterns, state⟩, hget⟩ := contains_iff.1
    (hordered.declared id (by rw [hsplit]; simp)).2
  have hnow := (h.ahead id hnew).trans hget
  have hdeps : ∀ dep, Rule.RefersTo ⟨patterns, state⟩ dep →
      now.isCompiled dep = true := fun dep hdep =>
    h.done dep (hordered.first past id rest hsplit dep
      ((mem_allReferences hget).2 hdep))
  refine ⟨_, hget, ?_⟩
  cases state with
  | compiled =>
      exact .inl ⟨(hexp id patterns hget).isBalanced, now,
        compile_of_isCompiled (isCompiled_iff.2 ⟨patterns, hnow⟩)⟩
  | raw =>
      by_cases hbal : Rule.IsBalanced ⟨patterns, .raw⟩
      · exact .inl ⟨hbal, _, compile_raw hnow rfl hbal hdeps⟩
      · exact .inr ⟨hbal, compile_malformed hnow rfl hdeps hbal⟩

/-- The loop ends with the whole list compiled if all patterns ahead are
balanced. -/
theorem compileEach_ok (hexp : table.Expanded)
    (hordered : table.Ordered order)
    (hbal : ∀ id ∈ rest, ∀ rule, table.get? id = some rule →
      rule.IsBalanced) :
    ∀ {past : List RuleId} {now : RuleTable},
      table.CompiledUpTo past now → order = past ++ rest →
      (now.compileEach rest).result = .ok ()
        ∧ table.CompiledUpTo order (now.compileEach rest).table := by
  -- The list is taken up to `rest`; the part before it has moved to `past`.
  induction rest with
  | nil =>
      intro past now h hsplit
      rw [List.append_nil] at hsplit
      exact ⟨rfl, hsplit ▸ h⟩
  | cons id rest ih =>
      intro past now h hsplit
      obtain ⟨rule, hget, ⟨-, after, hcompile⟩ | ⟨hbad, -⟩⟩ :=
        h.next hexp hordered hsplit
      · rw [(compileEach_cons_of_ok hcompile).1,
          (compileEach_cons_of_ok hcompile).2]
        exact ih (fun id hid => hbal id (List.mem_cons_of_mem _ hid))
          (h.compile hcompile) (by simp [hsplit])
      · exact absurd (hbal id (List.mem_cons_self ..) rule hget) hbad

/-- The loop stops at a malformed group if there is one ahead. -/
theorem compileEach_malformed (hexp : table.Expanded)
    (hordered : table.Ordered order)
    (hbad : ∃ id ∈ rest, ∃ rule, table.get? id = some rule
      ∧ ¬ rule.IsBalanced) :
    ∀ {past : List RuleId} {now : RuleTable},
      table.CompiledUpTo past now → order = past ++ rest →
      IsMalformed (now.compileEach rest).result := by
  induction rest with
  | nil => obtain ⟨id, hid, -⟩ := hbad; cases hid
  | cons id rest ih =>
      intro past now h hsplit
      obtain ⟨rule, hget, ⟨hbal, after, hcompile⟩ | ⟨-, hmalformed⟩⟩ :=
        h.next hexp hordered hsplit
      · rw [(compileEach_cons_of_ok hcompile).2]
        refine ih ?_ (h.compile hcompile) (by simp [hsplit])
        obtain ⟨id', hid', rule', hget', hbad⟩ := hbad
        rcases List.mem_cons.1 hid' with rfl | hin
        · rw [hget] at hget'
          cases hget'
          exact absurd hbal hbad
        · exact ⟨id', hin, rule', hget', hbad⟩
      · obtain ⟨source, offset, message, herror⟩ := hmalformed
        rw [compileEach_cons_of_error herror]
        exact ⟨source, offset, message, rfl⟩

end CompiledUpTo

-- ====================================================== the entry rule

/-- The entry rule's check passes balanced patterns. -/
theorem checkPatterns_of_balanced {sources : List String}
    (h : ∀ source ∈ sources, Balanced source) :
    checkPatterns sources = .ok () := by
  induction sources with
  | nil => rfl
  | cons source rest ih =>
      rw [checkPatterns,
        Pattern.parse_of_balanced (h source (List.mem_cons_self ..))]
      exact ih fun s hs => h s (List.mem_cons_of_mem _ hs)

/-- And it stops at a malformed one. -/
theorem checkPatterns_malformed {sources : List String}
    (h : ∃ source ∈ sources, ¬ Balanced source) :
    IsMalformed (checkPatterns sources) := by
  induction sources with
  | nil => obtain ⟨source, hsource, -⟩ := h; cases hsource
  | cons first rest ih =>
      rw [checkPatterns]
      by_cases hfirst : Balanced first
      · obtain ⟨source, hsource, hbal⟩ := h
        rcases List.mem_cons.1 hsource with rfl | hin
        · exact absurd hfirst hbal
        · rw [Pattern.parse_of_balanced hfirst]
          exact ih ⟨source, hin, hbal⟩
      · obtain ⟨offset, message, hparse⟩ :=
          Pattern.parse_of_not_balanced hfirst
        rw [hparse]
        exact ⟨first, offset, message, rfl⟩

-- ======================================================= the whole table

/-- A table that can be compiled. -/
structure WellFormed (table : RuleTable) : Prop where
  references : table.HasGoodReferences
  circles : ¬ table.HasCircle
  balanced : ∀ id rule, table.get? id = some rule → rule.IsBalanced

/-- A first bad reference is reported and nothing is compiled. -/
theorem compileAll_of_firstBadReference {id dep : RuleId}
    (h : table.FirstBadReference id dep) :
    table.compileAll
      = ⟨table, [], .error (table.badReferenceError id dep)⟩ := by
  rw [compileAll, schedule, verifyReferences_eq_error h]
  rfl

/-- A circle is reported and nothing is compiled. -/
theorem compileAll_of_hasCircle
    (hrefs : table.HasGoodReferences) (h : table.HasCircle) :
    ∃ circle, table.IsCircle circle ∧ table.compileAll
      = ⟨table, [], .error (.of (.cyclicReference circle))⟩ := by
  cases hcycle : table.cycle? with
  | none => exact absurd h (cycle?_eq_none_iff.1 hcycle)
  | some circle =>
      refine ⟨circle, isCircle_of_cycle? hcycle, ?_⟩
      rw [compileAll, schedule, verifyReferences_eq_ok_iff.2 hrefs]
      simp only [hcycle]
      rfl

/-- With a schedule, compiling is the loop over it and the check of the
entry rule. -/
theorem compileAll_of_schedule {order : List RuleId}
    (h : table.schedule = .ok order) :
    table.compileAll.table = (table.compileEach order).table
      ∧ table.compileAll.result = (do
          (table.compileEach order).result
          (table.compileEach order).table.checkEntry
          .ok order) := by
  rw [compileAll, h]
  exact ⟨rfl, rfl⟩

/-- What compiling each single rule other than the entry rule keeps,
compiling the whole table keeps, whatever comes of it. -/
theorem compileAll_preserves {P : RuleTable → Prop}
    (hstep : ∀ table id after, id ≠ .entry → P table →
      table.compile id = .ok after → P after) (h : P table) :
    P table.compileAll.table := by
  cases hschedule : table.schedule with
  | error e => rw [compileAll, hschedule]; exact h
  | ok order =>
      rw [(compileAll_of_schedule hschedule).1]
      exact compileEach_preserves (fun table id after hid =>
        hstep table id after (ne_entry_of_mem_schedule hschedule id hid)) h

/-- The entry rule is never touched. -/
theorem get?_entry_compileAll :
    table.compileAll.table.get? .entry = table.get? .entry :=
  compileAll_preserves (P := fun now => now.get? .entry = table.get? .entry)
    (fun _ _ _ hid h hcompile =>
      (get?_of_compile hcompile hid.symm).trans h) rfl

/-- No rule is declared or forgotten. -/
theorem contains_compileAll (id : RuleId) :
    table.compileAll.table.contains id = table.contains id :=
  compileAll_preserves (P := fun now => now.contains id = table.contains id)
    (fun _ _ _ _ h hcompile => (contains_of_compile hcompile).trans h) rfl

/-- What is compiled on the way is distinct words, wherever it stops. -/
theorem Expanded.compileAll (h : table.Expanded) :
    table.compileAll.table.Expanded :=
  compileAll_preserves (fun _ _ _ _ h hcompile => h.compile hcompile) h

/-- Every declared rule but the entry rule is compiled. -/
def IsComplete (table : RuleTable) : Prop :=
  ∀ id, id ≠ .entry → table.contains id = true →
    table.isCompiled id = true

/-- If the patterns of all rules but the entry rule are balanced, all of
them compile, whatever the entry rule's patterns are. -/
theorem isComplete_compileAll (hexp : table.Expanded)
    (hrefs : table.HasGoodReferences) (hcircle : ¬ table.HasCircle)
    (hbal : ∀ id rule, id ≠ .entry → table.get? id = some rule →
      rule.IsBalanced) :
    (table.compileEach table.placeAll).result = .ok ()
      ∧ table.compileAll.table.IsComplete := by
  obtain ⟨hschedule, hordered, hcomplete⟩ := schedule_eq_ok hrefs hcircle
  obtain ⟨hresult, hcompiled⟩ := CompiledUpTo.compileEach_ok hexp hordered
    (fun id hid rule hget => hbal id rule (hordered.declared id hid).1 hget)
    (.start table) (List.nil_append _).symm
  refine ⟨hresult, fun id hid hdecl => ?_⟩
  rw [contains_compileAll] at hdecl
  rw [(compileAll_of_schedule hschedule).1]
  exact hcompiled.done id (hcomplete id hid hdecl)

/-- A complete table has nothing left to compile. -/
theorem IsComplete.compileAll_table (h : table.IsComplete) :
    table.compileAll.table = table := by
  refine compileAll_preserves (P := fun now => now = table) ?_ rfl
  rintro _ id after hid rfl hcompile
  obtain ⟨rule, hget, -⟩ := compile_cases hcompile
  rw [compile_of_isCompiled (h id hid (contains_iff.2 ⟨rule, hget⟩))]
    at hcompile
  cases hcompile
  rfl

/-- A well-formed table compiles, all of it but the entry rule. -/
theorem compileAll_of_wellFormed (hexp : table.Expanded)
    (h : table.WellFormed) :
    (∃ order, table.compileAll.result = .ok order)
      ∧ table.compileAll.table.IsComplete := by
  obtain ⟨hresult, hcomplete⟩ :=
    isComplete_compileAll hexp h.references h.circles
      fun id rule _ hget => h.balanced id rule hget
  have hrun :=
    compileAll_of_schedule (schedule_eq_ok h.references h.circles).1
  -- The check of the entry rule sees the patterns that were declared.
  have hentry : table.compileAll.table.checkEntry = .ok () := by
    refine checkPatterns_of_balanced fun source hsource => ?_
    rw [alternatives?, get?_entry_compileAll] at hsource
    cases hget : table.get? .entry with
    | none => rw [hget] at hsource; cases hsource
    | some rule =>
        rw [hget] at hsource
        exact h.balanced .entry rule hget source hsource
  rw [hrun.1] at hentry
  refine ⟨⟨table.placeAll, ?_⟩, hcomplete⟩
  rw [hrun.2, hresult]
  exact congrArg (· >>= fun _ => _) hentry

/-- A table whose references are in order and which has a pattern that is
not balanced is refused for a malformed group. -/
theorem compileAll_of_unbalanced (hexp : table.Expanded)
    (hrefs : table.HasGoodReferences) (hcircle : ¬ table.HasCircle)
    {id : RuleId} {rule : Rule} (hget : table.get? id = some rule)
    (hbad : ¬ rule.IsBalanced) :
    IsMalformed table.compileAll.result := by
  obtain ⟨hschedule, hordered, hcomplete⟩ := schedule_eq_ok hrefs hcircle
  have hrun := compileAll_of_schedule hschedule
  rw [hrun.2]
  by_cases hrest : ∃ id ∈ table.placeAll, ∃ rule,
      table.get? id = some rule ∧ ¬ rule.IsBalanced
  · obtain ⟨source, offset, message, herror⟩ :=
      CompiledUpTo.compileEach_malformed hexp hordered hrest (.start table)
        (List.nil_append _).symm
    exact ⟨source, offset, message, by rw [herror]; rfl⟩
  · -- all rules but the entry rule compile, and its check is what fails
    have hall : ∀ id rule, id ≠ .entry → table.get? id = some rule →
        rule.IsBalanced := by
      intro id rule hne hget
      by_contra hbad
      exact hrest ⟨id, hcomplete id hne (contains_iff.2 ⟨rule, hget⟩), rule,
        hget, hbad⟩
    have hid : id = .entry := by
      by_contra hne
      exact hbad (hall id rule hne hget)
    subst hid
    obtain ⟨hresult, -⟩ := isComplete_compileAll hexp hrefs hcircle hall
    have hentry : IsMalformed table.compileAll.table.checkEntry := by
      refine checkPatterns_malformed ?_
      rw [alternatives?, get?_entry_compileAll, hget]
      simpa [Rule.IsBalanced] using hbad
    rw [hrun.1] at hentry
    obtain ⟨source, offset, message, herror⟩ := hentry
    exact ⟨source, offset, message, by rw [hresult, herror]; rfl⟩

-- ======================================================== what is reported

/-- The events of some rules, each with the number of alternatives that the
table holds for it. -/
def ruleEvents (table : RuleTable) (ids : List RuleId) : List CompileEvent :=
  ids.map fun id => .rule id (table.current id).length

/-- The loop leaves a compiled rule as it is. -/
theorem current_compileEach {id : RuleId} (h : table.isCompiled id = true)
    (ids : List RuleId) :
    (table.compileEach ids).table.current id = table.current id := by
  obtain ⟨words, hget⟩ := isCompiled_iff.1 h
  have hkept : (table.compileEach ids).table.get? id
      = some ⟨words, .compiled⟩ := by
    refine compileEach_preserves
      (P := fun now => now.get? id = some ⟨words, .compiled⟩) ?_ hget
    intro now other after _ hnow hcompile
    by_cases hne : id = other
    · rw [← hne, compile_of_isCompiled (isCompiled_iff.2 ⟨words, hnow⟩)]
        at hcompile
      cases hcompile
      exact hnow
    · rw [get?_of_compile hcompile hne, hnow]
  rw [current_of_get? hkept, current_of_get? hget]

/-- The loop reports the rules that it compiles, each with the alternatives
that it has in the end, and these are all rules if nothing fails. -/
theorem events_compileEach (ids : List RuleId) :
    ∀ table : RuleTable, ∃ past rest, ids = past ++ rest
      ∧ (table.compileEach ids).events
        = ruleEvents (table.compileEach ids).table past
      ∧ ((table.compileEach ids).result = .ok () → rest = []) := by
  induction ids with
  | nil => exact fun table => ⟨[], [], rfl, rfl, fun _ => rfl⟩
  | cons id ids ih =>
      intro table
      cases hcompile : table.compile id with
      | error e =>
          rw [compileEach_cons_of_error hcompile]
          exact ⟨[], id :: ids, rfl, rfl, fun h => nomatch h⟩
      | ok next =>
          obtain ⟨past, rest, hsplit, hevents, hrest⟩ := ih next
          have hcount := current_compileEach
            (isCompiled_of_compile hcompile) ids
          rw [compileEach, hcompile]
          refine ⟨id :: past, rest, congrArg (id :: ·) hsplit, ?_, hrest⟩
          show CompileEvent.rule id (next.current id).length
              :: (next.compileEach ids).events = _
          rw [hevents, ← hcount]
          rfl

-- ========================================================= the outcomes

/-- Either the references of a table are in order or there is a first bad
one. -/
theorem references_or_firstBadReference (table : RuleTable) :
    table.HasGoodReferences
      ∨ ∃ id dep, table.FirstBadReference id dep := by
  by_cases hverify : table.verifyReferences = .ok ()
  · exact .inl (verifyReferences_eq_ok_iff.1 hverify)
  · right
    cases hfirst : table.firstBadReference? with
    | none => rw [verifyReferences, hfirst] at hverify; simp at hverify
    | some e =>
        rw [firstBadReference?_eq, List.findSome?_eq_some_iff] at hfirst
        obtain ⟨before, ⟨id, dep⟩, after, hsplit, hbad, hbefore⟩ := hfirst
        refine ⟨id, dep, before, after, hsplit, fun r hr =>
          referenceError?_eq_none_iff.1 (hbefore r hr), ?_⟩
        by_contra hgood
        rw [referenceError?_eq_none_iff.2 hgood] at hbad
        cases hbad

/-- Compilation succeeds only if there is a schedule and all of it
compiles. -/
theorem of_compileAll_eq_ok {order : List RuleId}
    (h : table.compileAll.result = .ok order) :
    table.schedule = .ok order
      ∧ (table.compileEach order).result = .ok () := by
  cases hschedule : table.schedule with
  | error e =>
      rw [compileAll, hschedule] at h
      cases h
  | ok order' =>
      rw [(compileAll_of_schedule hschedule).2] at h
      cases hrun : (table.compileEach order').result with
      | error e =>
          rw [hrun] at h
          cases h
      | ok u =>
          cases hentry : (table.compileEach order').table.checkEntry with
          | error e =>
              rw [hrun, hentry] at h
              cases h
          | ok u =>
              rw [hrun, hentry] at h
              cases h
              exact ⟨rfl, hrun⟩

/-- The four outcomes, each with what it says of the table, what is reported
and what comes of it. Nothing is reported if the references are not in order;
else the rules that come first in the order of compilation are, up to a
malformed group if there is one. -/
theorem compileAll_cases (hexp : table.Expanded) :
    (∃ id dep, table.FirstBadReference id dep ∧ table.compileAll
        = ⟨table, [], .error (table.badReferenceError id dep)⟩)
      ∨ (∃ circle, table.IsCircle circle ∧ table.compileAll
        = ⟨table, [], .error (.of (.cyclicReference circle))⟩)
      ∨ ((∃ id rule, table.get? id = some rule ∧ ¬ rule.IsBalanced)
        ∧ ∃ past rest source offset message,
          table.schedule = .ok (past ++ rest) ∧ table.compileAll
            = ⟨table.compileAll.table,
              ruleEvents table.compileAll.table past,
              .error (.of (.malformedGroup source offset message))⟩)
      ∨ (table.WellFormed
        ∧ ∃ order, table.schedule = .ok order ∧ table.compileAll
          = ⟨table.compileAll.table,
            ruleEvents table.compileAll.table order, .ok order⟩) := by
  obtain hrefs | ⟨id, dep, hbad⟩ := references_or_firstBadReference table
  · by_cases hcircle : table.HasCircle
    · exact .inr (.inl (compileAll_of_hasCircle hrefs hcircle))
    · right
      right
      have hschedule := (schedule_eq_ok hrefs hcircle).1
      -- Whatever comes of the loop, it reports a beginning of the schedule.
      obtain ⟨past, rest, hsplit, hevents, hrest⟩ :=
        events_compileEach table.placeAll table
      rw [← (compileAll_of_schedule hschedule).1] at hevents
      have hrun : table.compileAll = ⟨table.compileAll.table,
          ruleEvents table.compileAll.table past,
          table.compileAll.result⟩ := by
        rw [← hevents, compileAll, hschedule]
      by_cases hbal : ∃ id rule, table.get? id = some rule
          ∧ ¬ rule.IsBalanced
      · obtain ⟨id, rule, hget, hbad⟩ := hbal
        obtain ⟨source, offset, message, herror⟩ :=
          compileAll_of_unbalanced hexp hrefs hcircle hget hbad
        rw [hsplit] at hschedule
        rw [herror] at hrun
        exact .inl ⟨⟨id, rule, hget, hbad⟩, past, rest, source, offset,
          message, hschedule, hrun⟩
      · have hwell : table.WellFormed := by
          refine ⟨hrefs, hcircle, fun id rule hget => ?_⟩
          by_contra hbad
          exact hbal ⟨id, rule, hget, hbad⟩
        obtain ⟨order, hok⟩ := (compileAll_of_wellFormed hexp hwell).1
        obtain ⟨horder, hdone⟩ := of_compileAll_eq_ok hok
        rw [hschedule] at horder
        cases horder
        obtain rfl := hrest hdone
        rw [List.append_nil] at hsplit
        rw [hok, ← hsplit] at hrun
        exact .inr ⟨hwell, _, hschedule, hrun⟩
  · exact .inl ⟨id, dep, hbad, compileAll_of_firstBadReference hbad⟩

/-- A table compiles exactly if it is well formed. -/
theorem compileAll_ok_iff (hexp : table.Expanded) :
    (∃ order, table.compileAll.result = .ok order)
      ↔ table.WellFormed := by
  refine ⟨fun ⟨order, hok⟩ => ?_, fun h =>
    (compileAll_of_wellFormed hexp h).1⟩
  rcases compileAll_cases hexp with ⟨id, dep, -, hrun⟩ | ⟨circle, -, hrun⟩
    | ⟨-, past, rest, source, offset, message, -, hrun⟩ | ⟨hwell, -⟩
  · rw [hrun] at hok; cases hok
  · rw [hrun] at hok; cases hok
  · rw [hrun] at hok; cases hok
  · exact hwell

/-- No reference is ever found uncompiled: the order has seen to it. -/
theorem compileAll_ne_uncompiledReference (hexp : table.Expanded)
    (dep : RuleId) (owner : String) :
    table.compileAll.result
      ≠ .error (.of (.uncompiledReference dep owner)) := by
  intro h
  rcases compileAll_cases hexp with ⟨id, dep', -, hrun⟩ | ⟨circle, -, hrun⟩
    | ⟨-, past, rest, source, offset, message, -, hrun⟩
    | ⟨-, order, -, hrun⟩
  · rw [hrun] at h
    simp only [badReferenceError] at h
    split at h <;> cases h
  · rw [hrun] at h; cases h
  · rw [hrun] at h; cases h
  · rw [hrun] at h; cases h

end WordGrammar.RuleTable
