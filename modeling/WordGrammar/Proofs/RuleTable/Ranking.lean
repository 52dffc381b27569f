/-
The order of compilation and the ranking of the rules.

The order departs from the ranking by workload and letter only where the
ranking has a rule before one that it refers to: as long as it does not,
each rule finds its dependencies in the order when its turn comes, none of
them is pulled in, and the rule is appended (`foldl_place_of_ranked`).
No two rules have the same rank, so there is one ranking, and sorting
finds it (`IsRanking.unique`, `isRanking_byWorkload`).
-/
import WordGrammar.Proofs.RuleTable.Order

namespace WordGrammar

theorem RuleId.nodup_all : RuleId.all.Nodup :=
  (List.nodup_finRange 26).map fun i j h => by
    rw [← index_ofIndex i, ← index_ofIndex j, h]

namespace RuleTable

variable {table : RuleTable}

-- =========================================================== the ranking

/-- Every rule of the order comes after those it depends on. -/
def DependenciesFirst (table : RuleTable) (order : List RuleId) : Prop :=
  ∀ before id after, order = before ++ id :: after →
    ∀ dep ∈ table.dependencies id, dep ∈ before

/-- One rule ranks before another: by its workload, and among rules of the
same workload by its letter. -/
def RanksBefore (table : RuleTable) (a b : RuleId) : Prop :=
  table.workload a < table.workload b
    ∨ table.workload a = table.workload b ∧ a.letter < b.letter

/-- The declared rules other than the entry rule in the order of their
ranks. -/
structure IsRanking (table : RuleTable) (ranked : List RuleId) : Prop where
  mem_iff : ∀ id, id ∈ ranked ↔ id ≠ .entry ∧ table.contains id = true
  ascending : ranked.Pairwise table.RanksBefore

instance (a b : RuleId) : Decidable (table.RanksBefore a b) :=
  inferInstanceAs (Decidable (_ ∨ _ ∧ _))

instance (ranked : List RuleId) : Decidable (table.IsRanking ranked) :=
  decidable_of_iff ((∀ id ∈ RuleId.all,
      id ∈ ranked ↔ id ≠ .entry ∧ table.contains id = true)
    ∧ ranked.Pairwise table.RanksBefore)
    ⟨fun h => ⟨fun id => h.1 id (RuleId.mem_all id), h.2⟩,
      fun h => ⟨fun id _ => h.mem_iff id, h.ascending⟩⟩

instance : Std.Asymm table.RanksBefore where
  asymm a b hab hba := by
    rcases hab with hab | ⟨hab, hlt⟩
    · rcases hba with hba | ⟨hba, -⟩ <;> omega
    · rcases hba with hba | ⟨-, hlt'⟩
      · omega
      · exact Char.lt_irrefl _ (Char.lt_trans hlt hlt')

/-- There is only one way to rank the rules. -/
theorem IsRanking.unique {ranked ranked' : List RuleId}
    (h : table.IsRanking ranked) (h' : table.IsRanking ranked') :
    ranked = ranked' :=
  h.ascending.eq_of_mem_iff h'.ascending fun id =>
    (h.mem_iff id).trans (h'.mem_iff id).symm

theorem rankLe_iff {a b : Nat × RuleId} :
    rankLe a b = true
      ↔ a.1 < b.1 ∨ a.1 = b.1 ∧ a.2.letter ≤ b.2.letter := by
  simp [rankLe]

/-- The comparison that sorting uses is transitive, by workload and then by
letter. -/
theorem rankLe_trans {a b c : Nat × RuleId} (hab : rankLe a b = true)
    (hbc : rankLe b c = true) : rankLe a c = true := by
  rw [rankLe_iff] at hab hbc ⊢
  rcases hab with hab | ⟨hab, hle⟩
  · exact .inl (by omega)
  · rcases hbc with hbc | ⟨hbc, hle'⟩
    · exact .inl (by omega)
    · exact .inr ⟨by omega, Char.le_trans hle hle'⟩

/-- And it compares any two rules. -/
theorem rankLe_total (a b : Nat × RuleId) :
    (rankLe a b || rankLe b a) = true := by
  rw [Bool.or_eq_true, rankLe_iff, rankLe_iff]
  rcases Nat.lt_trichotomy a.1 b.1 with hlt | heq | hlt
  · exact .inl (.inl hlt)
  · rcases Char.le_total a.2.letter b.2.letter with hle | hle
    · exact .inl (.inr ⟨heq, hle⟩)
    · exact .inr (.inr ⟨heq.symm, hle⟩)
  · exact .inr (.inl hlt)

/-- Different rules never have the same rank. -/
theorem ranksBefore_of_rankLe {a b : RuleId}
    (h : rankLe (table.workload a, a) (table.workload b, b) = true)
    (hne : a ≠ b) : table.RanksBefore a b := by
  rcases rankLe_iff.1 h with hlt | ⟨heq, hle⟩
  · exact .inl hlt
  · refine .inr ⟨heq, Char.not_le.1 fun hge => hne ?_⟩
    have hletter : a.letter = b.letter := Char.le_antisymm hle hge
    cases a
    cases b
    simp_all

/-- The ranking is read off the sorted list of workloads and letters. -/
theorem map_byWorkload :
    table.byWorkload.map (fun id => (table.workload id, id))
      = ((table.ids.filter (!·.isEntry)).map
          fun id => (table.workload id, id)).mergeSort rankLe := by
  rw [byWorkload, List.map_map, List.map_congr_left (g := id), List.map_id]
  intro p hp
  obtain ⟨id, -, rfl⟩ := List.mem_map.1 (List.mem_mergeSort.1 hp)
  rfl

/-- Sorting neither adds rules nor drops them. -/
theorem nodup_byWorkload : table.byWorkload.Nodup := by
  have hcandidates : (((table.ids.filter (!·.isEntry)).map
      fun id => (table.workload id, id)).map (·.2)).Nodup := by
    rw [List.map_map, Function.comp_def, List.map_id']
    exact (RuleId.nodup_all.filter _).filter _
  exact ((List.mergeSort_perm _ _).map _).nodup_iff.2 hcandidates

/-- Sorting ranks the rules. -/
theorem isRanking_byWorkload : table.IsRanking table.byWorkload where
  mem_iff id := mem_byWorkload
  ascending := by
    have hsorted := @List.pairwise_mergeSort _ rankLe
      (fun _ _ _ => rankLe_trans) rankLe_total
      ((table.ids.filter (!·.isEntry)).map fun id => (table.workload id, id))
    rw [← map_byWorkload, List.pairwise_map] at hsorted
    exact (hsorted.and nodup_byWorkload).imp
      fun h => ranksBefore_of_rankLe h.1 h.2

/-- The schedule of a table comes of its ranking, however that is found. -/
theorem schedule_of_isRanking {ranked : List RuleId}
    (h : table.IsRanking ranked) :
    table.schedule = (do
      table.verifyReferences
      match table.cycle? with
      | some cycle => .error (.of (.cyclicReference cycle))
      | none => .ok (ranked.foldl
          (fun order id => table.place ranked [] order id) [])) := by
  obtain rfl := h.unique isRanking_byWorkload
  rfl

-- ============================================== the order of the ranking

/-- Rules that are in an order already are not placed again. -/
theorem foldl_place_of_subset {ranked path order deps : List RuleId}
    (h : deps ⊆ order) :
    deps.foldl (fun order dep => table.place ranked path order dep) order
      = order := by
  induction deps with
  | nil => rfl
  | cons dep rest ih =>
      obtain ⟨hdep, hrest⟩ := List.cons_subset.1 h
      have hplace : table.place ranked path order dep = order := by
        rw [place, if_pos hdep]
      rw [List.foldl_cons, hplace, ih hrest]

/-- A rule whose dependencies are in the order is appended to it. -/
theorem place_of_subset {ranked order : List RuleId} {id : RuleId}
    (hnew : id ∉ order) (hdeps : table.dependencies id ⊆ order) :
    table.place ranked [] order id = order ++ [id] := by
  have hneeded : ranked.filter (· ∈ table.dependencies id) ⊆ order :=
    fun dep hdep => hdeps (by simpa using (List.mem_filter.1 hdep).2)
  rw [place, if_neg hnew, dif_neg (List.not_mem_nil)]
  dsimp only
  rw [foldl_place_of_subset hneeded]

/-- Rules that come with their dependencies first are placed as they
come. -/
theorem foldl_place_of_ranked {ranked todo : List RuleId} :
    ∀ {done : List RuleId}, (done ++ todo).Nodup →
      table.DependenciesFirst (done ++ todo) →
      todo.foldl (fun order id => table.place ranked [] order id) done
        = done ++ todo := by
  induction todo with
  | nil => intro done _ _; simp
  | cons id rest ih =>
      intro done hnodup hfirst
      -- The rule is not among those that are done, since it is not in the
      -- ranking twice.
      have hnew : id ∉ done := fun hid =>
        (List.nodup_append.1 hnodup).2.2 id hid id
          (List.mem_cons_self ..) rfl
      rw [List.foldl_cons,
        place_of_subset hnew fun dep => hfirst done id rest rfl dep]
      rw [List.append_cons] at hnodup hfirst
      rw [List.append_cons done id rest]
      exact ih hnodup hfirst

/-- A schedule lists every declared rule other than the entry rule once
and nothing else, each after the rules it depends on. Where ranking the
rules by workload and letter has that effect already, the schedule is the
ranking. -/
theorem schedule_topological {order : List RuleId}
    (h : table.schedule = .ok order) :
    order.Nodup
      ∧ (∀ id, id ∈ order ↔ id ≠ .entry ∧ table.contains id = true)
      ∧ table.DependenciesFirst order
      ∧ (∃ ranked, table.IsRanking ranked)
      ∧ ∀ ranked, table.IsRanking ranked →
        table.DependenciesFirst ranked → order = ranked := by
  obtain ⟨hordered, hcomplete⟩ := ordered_of_schedule h
  obtain ⟨-, -, rfl⟩ := schedule_eq_ok_iff.1 h
  refine ⟨hordered.nodup, fun id => ?_, ?_,
    ⟨table.byWorkload, isRanking_byWorkload⟩, fun ranked hranked hfirst => ?_⟩
  · exact ⟨hordered.declared id, fun hid => hcomplete id hid.1 hid.2⟩
  · intro before id after hsplit dep hdep
    exact hordered.first before id after hsplit dep (mem_dependencies.1 hdep)
  · obtain rfl := hranked.unique isRanking_byWorkload
    exact @foldl_place_of_ranked _ _ _ [] nodup_byWorkload hfirst

/-- The rule `A` is the most work here and comes last in the ranking, but
`B` depends on it. -/
theorem schedule_topological_detour :
    let table := ((((empty.declare (.named 'A') ["CCCCC"]).declare
      (.named 'B') ["A"]).declare (.named 'C') ["x", "y"]).declare .entry
      ["B"])
    table.schedule = .ok [.named 'C', .named 'A', .named 'B']
      ∧ table.byWorkload = [.named 'C', .named 'B', .named 'A']
      ∧ table.DependenciesFirst [.named 'C', .named 'A', .named 'B'] := by
  intro table
  have hranked : table.IsRanking [.named 'C', .named 'B', .named 'A'] := by
    decide +kernel
  have horder : table.schedule
      = .ok [.named 'C', .named 'A', .named 'B'] := by
    rw [schedule_of_isRanking hranked]
    decide +kernel
  exact ⟨horder, isRanking_byWorkload.unique hranked,
    (schedule_topological horder).2.2.1⟩

end RuleTable

end WordGrammar
