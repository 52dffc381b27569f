/-
What a rule means, and that compilation computes it in any order.

`Means` is the meaning of the rules of a table as they were declared: a
rule means the distinct words of its patterns, in order, where a reference
stands for what the rule referred to means. It is a relation defined by
induction, so a rule on a circle has no meaning, and neither has one that
leads to an undeclared rule, to the entry rule or to a malformed pattern.
No order of compilation is part of it, and `Means.unique` makes it a
partial function.

# The invariant of partial compilation

The compiler works in place and reads the alternatives of other rules as
it has overwritten them. `Tracks` is what holds after any number of calls
that compile and none that declares: a rule is as it was declared, or it
is compiled to what it means. One compiled rule keeps it (`Tracks.compile`)
because the rules it reads are compiled, hence hold what they mean. From
there the order of the calls is forgotten: two tables that track the same
declarations and in which all rules are compiled are equal (`Tracks.eq`),
and a table can be compiled exactly if what it tracks can
(`Tracks.wellFormed_iff`), since what has a meaning is neither on a circle
nor badly referenced nor malformed.
-/
import WordGrammar.Proofs.RuleTable.History

namespace WordGrammar.RuleTable

open Pattern (Balanced)

variable {origin table : RuleTable}

-- ============================================================== meaning

/-- `table.Means id words`: the declared rule `id` stands for `words`, the
first occurrences among the words of its patterns, if every rule it refers
to stands for the words `of` gives it. The entry rule has no such
meaning, and no other rule may refer to it. -/
inductive Means (table : RuleTable) : RuleId → List String → Prop
  | intro {id : RuleId} {rule : Rule} {of : RuleId → List String}
      (notEntry : id ≠ .entry) (declared : table.get? id = some rule)
      (balanced : rule.IsBalanced)
      (references : ∀ dep, rule.RefersTo dep → Means table dep (of dep)) :
      Means table id (rule.words of)

namespace Means

variable {id : RuleId} {words : List String}

theorem ne_entry (h : table.Means id words) : id ≠ .entry := by
  cases h with
  | intro notEntry => exact notEntry

theorem contains (h : table.Means id words) :
    table.contains id = true := by
  cases h with
  | intro _ declared => exact contains_iff.2 ⟨_, declared⟩

/-- A rule with a meaning has no malformed pattern. -/
theorem isBalanced {rule : Rule} (h : table.Means id words)
    (hget : table.get? id = some rule) : rule.IsBalanced := by
  cases h with
  | intro _ declared balanced =>
      rw [hget] at declared
      cases declared
      exact balanced

/-- A rule without references means its patterns, optional parts
expanded. -/
theorem of_no_references {rule : Rule} (hid : id ≠ .entry)
    (hget : table.get? id = some rule) (hbal : rule.IsBalanced)
    (hrefs : ∀ source ∈ rule.patterns, referencesOf source = []) :
    table.Means id (rule.words fun _ => []) := by
  refine .intro hid hget hbal fun dep ⟨source, hsource, hdep⟩ => ?_
  rw [hrefs source hsource] at hdep
  cases hdep

/-- What a rule with a meaning refers to has one too. -/
theorem of_mem_allReferences {dep : RuleId} (h : table.Means id words)
    (hdep : dep ∈ table.allReferences id) :
    ∃ words, table.Means dep words := by
  cases h with
  | intro _ declared _ references =>
      exact ⟨_, references dep ((mem_allReferences declared).1 hdep)⟩

/-- A rule means one list of words at most. -/
theorem unique {other : List String} (h : table.Means id words)
    (h' : table.Means id other) : words = other := by
  -- On the first of the two derivations; the words of the references agree,
  -- and so do those of the rule.
  induction h generalizing other with
  | intro _ declared _ _ ih =>
      cases h' with
      | intro _ declared' _ references' =>
          rw [declared] at declared'
          cases declared'
          exact Rule.words_congr fun dep hdep =>
            ih dep hdep (references' dep hdep)

/-- A rule with a meaning leads to no circle. -/
theorem grounded (h : table.Means id words) : table.Grounded id := by
  induction h with
  | intro _ declared _ _ ih =>
      exact .intro _ fun dep hdep =>
        ih dep ((mem_allReferences declared).1 hdep.2.2.2)

/-- If every declared rule has a pattern, every rule that means anything
means some word. -/
theorem ne_nil (hsome : ∀ id rule, table.get? id = some rule →
      rule.patterns ≠ []) (h : table.Means id words) : words ≠ [] := by
  induction h with
  | intro _ declared balanced _ ih =>
      exact Rule.words_ne_nil (hsome _ _ declared) balanced ih

end Means

-- ============================================================= tracking

/-- Every rule of the table is as it was declared. -/
def IsRaw (table : RuleTable) : Prop :=
  ∀ id rule, table.get? id = some rule → rule.state = .raw

/-- Every rule of `table` is as in `origin`, or compiled to what it means
there. -/
def Tracks (origin table : RuleTable) : Prop :=
  ∀ id, table.get? id = origin.get? id
    ∨ ∃ words, table.get? id = some ⟨words, .compiled⟩
        ∧ origin.Means id words

namespace Tracks

theorem refl (table : RuleTable) : table.Tracks table := fun _ => .inl rfl

/-- Compiling neither declares rules nor forgets them. -/
theorem contains_eq (h : origin.Tracks table) (id : RuleId) :
    table.contains id = origin.contains id := by
  rcases h id with hsame | ⟨words, hget, hmeans⟩
  · rw [contains, contains, hsame]
  · rw [hmeans.contains, contains, hget]
    rfl

/-- The entry rule has no meaning that could have been written into it. -/
theorem get?_entry (h : origin.Tracks table) :
    table.get? .entry = origin.get? .entry := by
  rcases h .entry with hsame | ⟨words, -, hmeans⟩
  · exact hsame
  · exact absurd rfl hmeans.ne_entry

/-- What is compiled holds what it means. -/
theorem means_of_get? {id : RuleId} {words : List String}
    (h : origin.Tracks table) (hraw : origin.IsRaw)
    (hget : table.get? id = some ⟨words, .compiled⟩) :
    origin.Means id words := by
  rcases h id with hsame | ⟨words', hget', hmeans⟩
  · rw [hget] at hsame
    cases hraw id _ hsame.symm
  · rw [hget] at hget'
    cases hget'
    exact hmeans

/-- Compiling a rule other than the entry rule writes what it means. -/
theorem compile {id : RuleId} {after : RuleTable}
    (h : origin.Tracks table) (hraw : origin.IsRaw) (hid : id ≠ .entry)
    (hcompile : table.compile id = .ok after) : origin.Tracks after := by
  obtain ⟨rule, hget, ⟨-, rfl⟩ | ⟨hstate, hbal, hdeps, rfl⟩⟩ :=
    compile_cases hcompile
  · exact h
  · have hdeclared : origin.get? id = some rule := by
      rcases h id with hsame | ⟨words, hcompiled, -⟩
      · rw [← hsame, hget]
      · rw [hget] at hcompiled
        cases hcompiled
        cases hstate
    have hmeans : origin.Means id (rule.words table.current) := by
      refine .intro hid hdeclared hbal fun dep hdep => ?_
      obtain ⟨words, hgetDep⟩ := isCompiled_iff.1 (hdeps dep hdep)
      rw [current_of_get? hgetDep]
      exact h.means_of_get? hraw hgetDep
    intro other
    rw [get?_insert]
    split
    next heq => exact .inr ⟨_, rfl, heq ▸ hmeans⟩
    next => exact h other

/-- Compiling the whole table writes what rules mean, wherever it stops. -/
theorem compileAll (h : origin.Tracks table) (hraw : origin.IsRaw) :
    origin.Tracks table.compileAll.table :=
  compileAll_preserves
    (fun _ _ _ hid h hcompile => h.compile hraw hid hcompile) h

/-- Two complete tables that track the same declarations are equal. -/
theorem eq {other : RuleTable} (h : origin.Tracks table)
    (h' : origin.Tracks other) (hraw : origin.IsRaw)
    (hall : table.IsComplete) (hall' : other.IsComplete) :
    table = other := by
  refine RuleTable.ext fun id => ?_
  by_cases hid : id = .entry
  · rw [hid, h.get?_entry, h'.get?_entry]
  · cases hdecl : origin.contains id with
    | false =>
        have hnone : ∀ {t : RuleTable}, origin.Tracks t →
            t.get? id = none := by
          intro t ht
          have := ht.contains_eq id
          rw [hdecl, contains] at this
          simpa using this
        rw [hnone h, hnone h']
    | true =>
        obtain ⟨words, hget⟩ :=
          isCompiled_iff.1 (hall id hid ((h.contains_eq id).trans hdecl))
        obtain ⟨words', hget'⟩ :=
          isCompiled_iff.1 (hall' id hid ((h'.contains_eq id).trans hdecl))
        rw [hget, hget', (h.means_of_get? hraw hget).unique
          (h'.means_of_get? hraw hget')]

/-- Compiled rules refer to nothing, so a table refers to no more than
what it tracks. -/
theorem allReferences_subset (h : origin.Tracks table)
    (hexp : table.Expanded) {id dep : RuleId}
    (hdep : dep ∈ table.allReferences id) :
    dep ∈ origin.allReferences id := by
  rcases h id with hsame | ⟨words, hget, -⟩
  · rw [allReferences, ← hsame]
    exact hdep
  · exact absurd ((mem_allReferences hget).1 hdep)
      ((hexp id words hget).not_refersTo dep)

/-- What is not compiled refers to the same rules as what it tracks. -/
theorem mem_allReferences_or (h : origin.Tracks table) {id dep : RuleId}
    (hdep : dep ∈ origin.allReferences id) :
    dep ∈ table.allReferences id ∨ ∃ words, origin.Means id words := by
  rcases h id with hsame | ⟨words, -, hmeans⟩
  · left
    rw [allReferences, hsame]
    exact hdep
  · exact .inr ⟨words, hmeans⟩

/-- Which references are bad depends on what is declared alone. -/
theorem isBadReference_iff (h : origin.Tracks table) {id dep : RuleId} :
    table.IsBadReference id dep ↔ origin.IsBadReference id dep := by
  rw [IsBadReference, IsBadReference, h.contains_eq]

/-- If a table can be compiled, so can what it tracks: what is compiled
has a meaning, hence good references, no circle and balanced patterns. -/
theorem wellFormed_origin (h : origin.Tracks table)
    (hwell : table.WellFormed) : origin.WellFormed where
  references := by
    intro id dep hdep hbad
    rcases h.mem_allReferences_or hdep with hin | ⟨words, hmeans⟩
    · exact hwell.references id dep hin (h.isBadReference_iff.2 hbad)
    · obtain ⟨words, hdep⟩ := hmeans.of_mem_allReferences hdep
      rcases hbad with hnone | ⟨hentry, -⟩
      · rw [hdep.contains] at hnone
        cases hnone
      · exact hdep.ne_entry hentry
  circles := by
    refine not_hasCircle_iff.2 fun id => ?_
    -- along the references of `table`, down to rules that mean something
    have hground := not_hasCircle_iff.1 hwell.circles id
    induction hground with
    | intro id _ ih =>
        refine .intro _ fun dep hdep => ?_
        rcases h.mem_allReferences_or hdep.2.2.2 with hin | ⟨_, hmeans⟩
        · exact ih dep ⟨hdep.1, hdep.2.1,
            (h.contains_eq dep).trans hdep.2.2.1, hin⟩
        · obtain ⟨_, hmeans⟩ := hmeans.of_mem_allReferences hdep.2.2.2
          exact hmeans.grounded
  balanced := by
    intro id rule hget
    rcases h id with hsame | ⟨words, -, hmeans⟩
    · exact hwell.balanced id rule (hsame.trans hget)
    · exact hmeans.isBalanced hget

/-- If what a table tracks can be compiled, so can the table: it refers to
no more. -/
theorem wellFormed (h : origin.Tracks table) (hexp : table.Expanded)
    (hwell : origin.WellFormed) : table.WellFormed where
  references := fun id dep hdep hbad =>
    hwell.references id dep (h.allReferences_subset hexp hdep)
      (h.isBadReference_iff.1 hbad)
  circles := by
    rintro ⟨id, hcircle⟩
    refine hwell.circles ⟨id, Relation.TransGen.mono ?_ id id hcircle⟩
    exact fun a b hab => ⟨hab.1, hab.2.1,
      (h.contains_eq b).symm.trans hab.2.2.1,
      h.allReferences_subset hexp hab.2.2.2⟩
  balanced := by
    intro id rule hget
    rcases h id with hsame | ⟨words, hcompiled, -⟩
    · exact hwell.balanced id rule (hsame.symm.trans hget)
    · rw [hget] at hcompiled
      cases hcompiled
      exact (hexp id words hget).isBalanced

/-- A table can be compiled exactly if what it tracks can. -/
theorem wellFormed_iff (h : origin.Tracks table)
    (hexp : table.Expanded) : table.WellFormed ↔ origin.WellFormed :=
  ⟨h.wellFormed_origin, h.wellFormed hexp⟩

end Tracks

-- ======================================================== declared tables

/-- The table that some declarations give, one after the other. -/
def declareAll (declarations : List (RuleId × List String)) : RuleTable :=
  declarations.foldl (fun table d => table.declare d.1 d.2) empty

/-- Declarations are calls like others. -/
theorem declareAll_eq_applyAll (declarations : List (RuleId × List String)) :
    declareAll declarations
      = empty.applyAll (declarations.map fun d => .declare d.1 d.2) := by
  rw [declareAll, applyAll, List.foldl_map]
  rfl

/-- In a declared table nothing is compiled that would have to be text. -/
theorem expanded_declareAll (declarations : List (RuleId × List String)) :
    (declareAll declarations).Expanded := by
  rw [declareAll_eq_applyAll]
  exact expanded_applyAll _

/-- The rules of a declared table are raw, with the patterns that some
declaration of theirs gives. -/
theorem declared_of_get? {declarations : List (RuleId × List String)}
    {id : RuleId} {rule : Rule}
    (h : (declareAll declarations).get? id = some rule) :
    rule.state = .raw ∧ (id, rule.patterns) ∈ declarations := by
  rw [declareAll_eq_applyAll] at h
  refine applyAll_preserves (P := fun table => ∀ id rule,
    table.get? id = some rule →
      rule.state = .raw ∧ (id, rule.patterns) ∈ declarations)
    ?_ ?_ id rule h
  · intro table operation hmem h id rule hget
    obtain ⟨d, hd, rfl⟩ := List.mem_map.1 hmem
    rw [apply, declare, get?_insert] at hget
    split at hget
    next heq =>
      cases hget
      exact ⟨rfl, heq ▸ hd⟩
    next => exact h id rule hget
  · intro id rule hget
    simp at hget

/-- A declared table has the rules that are declared, and no others. -/
theorem contains_declareAll {declarations : List (RuleId × List String)}
    {id : RuleId} :
    (declareAll declarations).contains id = true
      ↔ ∃ patterns, (id, patterns) ∈ declarations := by
  -- With any rules in the table before.
  have key : ∀ table : RuleTable,
      (declarations.foldl (fun table d => table.declare d.1 d.2)
          table).contains id = true
        ↔ table.contains id = true ∨ ∃ patterns, (id, patterns) ∈ declarations := by
    induction declarations with
    | nil => simp
    | cons d rest ih =>
        intro table
        rw [List.foldl_cons, ih, contains, declare, get?_insert]
        by_cases hid : id = d.1
        · subst hid
          simp only [if_pos, Option.isSome_some, true_or, true_iff]
          exact .inr ⟨d.2, List.mem_cons_self ..⟩
        · have hne : ∀ patterns, (id, patterns) ≠ d :=
            fun patterns heq => hid (congrArg Prod.fst heq)
          simp [hid, hne, contains]
  rw [declareAll, key, contains, get?_empty]
  simp

theorem isRaw_declareAll (declarations : List (RuleId × List String)) :
    (declareAll declarations).IsRaw :=
  fun _ _ hget => (declared_of_get? hget).1

/-- What can be checked of declarations to see that their table is well
formed: its references, a rank that goes down along them, and the
parentheses. -/
theorem wellFormed_declareAll {declarations : List (RuleId × List String)}
    (rank : RuleId → Nat)
    (hrefs : (declareAll declarations).verifyReferences = .ok ())
    (hrank : ∀ d ∈ declarations, d.1 ≠ .entry → ∀ source ∈ d.2,
      ∀ dep ∈ referencesOf source, rank dep < rank d.1)
    (hbal : ∀ d ∈ declarations, ∀ source ∈ d.2, Balanced source) :
    (declareAll declarations).WellFormed where
  references := verifyReferences_eq_ok_iff.1 hrefs
  circles := by
    refine not_hasCircle_of_rank rank fun a b hab => ?_
    obtain ⟨rule, hget⟩ :=
      contains_iff.1 (contains_of_mem_allReferences hab.2.2.2)
    obtain ⟨source, hsource, hb⟩ := (mem_allReferences hget).1 hab.2.2.2
    exact hrank _ (declared_of_get? hget).2 hab.1 source hsource b hb
  balanced := fun _ _ hget source hsource =>
    hbal _ (declared_of_get? hget).2 source hsource

/-- A well-formed table compiles a rule to what it means. -/
theorem get?_compileAll_of_means {id : RuleId} {words : List String}
    (hexp : table.Expanded) (hraw : table.IsRaw) (hwell : table.WellFormed)
    (h : table.Means id words) :
    table.compileAll.table.get? id = some ⟨words, .compiled⟩ := by
  obtain ⟨words', hget⟩ := isCompiled_iff.1
    ((compileAll_of_wellFormed hexp hwell).2 id h.ne_entry
      ((contains_compileAll id).trans h.contains))
  have htracks := (Tracks.refl table).compileAll hraw
  rw [hget, (htracks.means_of_get? hraw hget).unique h]

/-- Compiling a declared table, if it succeeds, leaves the entry rule as it
was declared and gives every other rule the words that it means over the
patterns as they were declared. -/
theorem compileAll_computes_meaning
    (declarations : List (RuleId × List String))
    (hok : ∃ order, (declareAll declarations).compileAll.result = .ok order) :
    let table := declareAll declarations
    let after := table.compileAll.table
    after.ids = table.ids
    ∧ after.get? .entry = table.get? .entry
    ∧ (∀ rule, after.get? .entry = some rule → rule.state = .raw)
    ∧ ∀ id, id ≠ .entry → table.contains id = true →
      ∃ words, after.get? id = some ⟨words, .compiled⟩
        ∧ ∀ other, table.Means id other ↔ other = words := by
  intro table after
  have hexp : table.Expanded := expanded_declareAll declarations
  have hraw : table.IsRaw := isRaw_declareAll declarations
  have htracks : table.Tracks after := (Tracks.refl table).compileAll hraw
  obtain ⟨-, hcomplete⟩ :=
    compileAll_of_wellFormed hexp ((compileAll_ok_iff hexp).1 hok)
  refine ⟨?_, get?_entry_compileAll, fun rule hget => ?_,
    fun id hid hdecl => ?_⟩
  · exact List.filter_congr fun id _ => contains_compileAll id
  · exact hraw .entry rule (get?_entry_compileAll.symm.trans hget)
  · obtain ⟨words, hget⟩ := isCompiled_iff.1
      (hcomplete id hid ((contains_compileAll id).trans hdecl))
    have hmeans := htracks.means_of_get? hraw hget
    exact ⟨words, hget, fun other =>
      ⟨fun h => h.unique hmeans, fun h => h ▸ hmeans⟩⟩

/-- Syllables of one consonant and two vowels, one of them also written
out. -/
def syllables : List (RuleId × List String) :=
  [(.named 'S', ["CV(n)", "pe"]), (.named 'C', ["p"]),
    (.named 'V', ["a", "e"]), (.entry, ["S(W)"])]

theorem wellFormed_syllables : (declareAll syllables).WellFormed :=
  wellFormed_declareAll (fun id => if id = .named 'S' then 1 else 0)
    (by decide) (by decide) (by decide)

/-- What the syllables mean, read off the patterns. -/
theorem means_syllables : (declareAll syllables).Means (.named 'S')
    ["pan", "pa", "pen", "pe"] := by
  have hC := @Means.of_no_references (declareAll syllables) (.named 'C')
    ⟨["p"], .raw⟩ (by decide) (by decide) (by decide) (by decide)
  have hV := @Means.of_no_references (declareAll syllables) (.named 'V')
    ⟨["a", "e"], .raw⟩ (by decide) (by decide) (by decide) (by decide)
  refine @Means.intro _ _ ⟨["CV(n)", "pe"], .raw⟩
    (fun dep => if dep = .named 'C' then ["p"] else ["a", "e"])
    (by decide) (by decide) (by decide) fun dep ⟨source, hsource, hdep⟩ => ?_
  -- The references of both patterns are consonants and vowels.
  have hall : ∀ source ∈ ["CV(n)", "pe"], ∀ dep ∈ referencesOf source,
      dep = .named 'C' ∨ dep = .named 'V' := by
    decide
  rcases hall source hsource dep hdep with rfl | rfl
  · exact hC
  · exact hV

/-- The hypothesis and the conclusion at the syllables: they compile, in
spite of the entry rule's reference to itself, and to what they mean. -/
theorem compileAll_computes_meaning_syllables :
    (∃ order, (declareAll syllables).compileAll.result = .ok order)
    ∧ (declareAll syllables).compileAll.table.get? (.named 'S')
      = some ⟨["pan", "pa", "pen", "pe"], .compiled⟩ := by
  have hok := (compileAll_ok_iff (expanded_declareAll _)).2
    wellFormed_syllables
  obtain ⟨-, -, -, hrules⟩ := compileAll_computes_meaning syllables hok
  obtain ⟨words, hget, hmeans⟩ :=
    hrules (.named 'S') (by decide) (by decide)
  exact ⟨hok, by rw [hget, (hmeans _).1 means_syllables]⟩

end WordGrammar.RuleTable
