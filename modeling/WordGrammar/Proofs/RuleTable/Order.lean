/-
The order of compilation puts dependencies first.

`Ordered` is what a compilation needs of its order: no rule twice, only
declared rules other than the entry rule, and each rule after all that it
refers to. `place` keeps an order this way and adds a rule to it
(`places_place`), provided no walk from that rule is endless.

# Why the path never matters

`place` skips a rule that is waiting on its path, and an order that
skipped one would not be ordered. But every rule on the path leads to the
rule being placed, so a skipped rule would lead back to itself, which the
cycle check has excluded. For the same reason a rule is not in the order
yet when its turn comes after its dependencies: whatever placing them has
added can be reached from the rule (`Places.reached`).

A schedule exists exactly if every reference is good and there is no
circle, and it is then ordered and complete (`schedule_eq_ok_iff`,
`ordered_of_schedule`).
-/
import WordGrammar.Proofs.RuleTable.References
import WordGrammar.RuleTable.Order

namespace WordGrammar.RuleTable

open Relation (TransGen ReflTransGen)

variable {table : RuleTable}

-- ======================================================= what is ordered

/-- The references of every rule but the entry rule are declared, and
none is the entry rule. -/
def WellReferenced (table : RuleTable) : Prop :=
  ∀ id dep, id ≠ .entry → dep ∈ table.allReferences id →
    table.Refers id dep

/-- An order in which no rule comes twice, every rule is declared and is
not the entry rule, and every rule comes after those it refers to. -/
structure Ordered (table : RuleTable) (order : List RuleId) : Prop where
  nodup : order.Nodup
  declared : ∀ id ∈ order, id ≠ .entry ∧ table.contains id = true
  first : ∀ before id after, order = before ++ id :: after →
    ∀ dep ∈ table.allReferences id, dep ∈ before

theorem ordered_nil : table.Ordered [] where
  nodup := .nil
  declared := by simp
  first := by simp

/-- An order goes on with a new rule that refers only to rules in it. -/
theorem Ordered.snoc {order : List RuleId} {id : RuleId}
    (h : table.Ordered order) (hnew : id ∉ order) (hid : id ≠ .entry)
    (hdecl : table.contains id = true)
    (hdeps : ∀ dep ∈ table.allReferences id, dep ∈ order) :
    table.Ordered (order ++ [id]) where
  nodup := List.nodup_append.2 ⟨h.nodup, List.nodup_singleton id, by
    intro x hx y hy
    rw [List.mem_singleton] at hy
    rintro rfl
    exact hnew (hy ▸ hx)⟩
  declared := by
    intro x hx
    rcases List.mem_append.1 hx with hx | hx
    · exact h.declared x hx
    · rw [List.mem_singleton.1 hx]
      exact ⟨hid, hdecl⟩
  first := by
    intro before x after hsplit
    rcases List.eq_nil_or_concat after with rfl | ⟨after, last, rfl⟩
    · obtain ⟨rfl, hx⟩ := List.append_inj' hsplit rfl
      rw [List.singleton_inj] at hx
      exact hx ▸ hdeps
    · have hsplit' : order ++ [id] = (before ++ x :: after) ++ [last] := by
        simpa using hsplit
      obtain ⟨horder, -⟩ := List.append_inj' hsplit' rfl
      exact h.first before x after horder

-- ========================================================= placing a rule

/-- What placing the rules `ids` makes of the order `before`: it stays
ordered, keeps what it had, holds `ids`, and has nothing new that `ids`
do not lead to. -/
structure Places (table : RuleTable) (before ids after : List RuleId) :
    Prop where
  ordered : table.Ordered after
  keeps : before ⊆ after
  places : ids ⊆ after
  reached : ∀ x ∈ after,
    x ∈ before ∨ ∃ id ∈ ids, ReflTransGen table.Refers id x

/-- Placing several rules in turn places them all if placing each does. -/
private theorem places_of_foldl {ranked path ids : List RuleId}
    (hstep : ∀ before id, id ∈ ids → table.Ordered before →
      table.Places before [id] (table.place ranked path before id)) :
    ∀ {before : List RuleId}, table.Ordered before →
      table.Places before ids
        (ids.foldl (fun order id => table.place ranked path order id)
          before) := by
  induction ids with
  | nil =>
      intro before hbefore
      exact ⟨hbefore, List.Subset.refl _, List.nil_subset _,
        fun x hx => .inl hx⟩
  | cons id rest ih =>
      intro before hbefore
      have hfirst := hstep before id (List.mem_cons_self ..) hbefore
      have hrest := ih (fun before id hid =>
        hstep before id (List.mem_cons_of_mem _ hid)) hfirst.ordered
      rw [List.foldl_cons]
      refine ⟨hrest.ordered, List.Subset.trans hfirst.keeps hrest.keeps,
        ?_, fun x hx => ?_⟩
      · exact List.cons_subset.2
          ⟨hrest.keeps (hfirst.places (List.mem_cons_self ..)),
            hrest.places⟩
      · rcases hrest.reached x hx with hx | ⟨id', hid', hreach⟩
        · rcases hfirst.reached x hx with hx | ⟨id', hid', hreach⟩
          · exact .inl hx
          · rw [List.mem_singleton] at hid'
            exact .inr ⟨id, List.mem_cons_self .., hid' ▸ hreach⟩
        · exact .inr ⟨id', List.mem_cons_of_mem _ hid', hreach⟩

/-- After its dependencies `deps` a rule is placed, if it does not lead
back to itself: what they have brought in is below it, hence not it. -/
theorem Places.snoc {before deps after : List RuleId} {id : RuleId}
    (h : table.Places before deps after)
    (hdeps : ∀ dep, dep ∈ deps ↔ table.Refers id dep)
    (hrefs : table.WellReferenced) (hid : id ≠ .entry)
    (hdecl : table.contains id = true) (hnew : id ∉ before)
    (hcircle : ¬ TransGen table.Refers id id) :
    table.Places before [id] (after ++ [id]) := by
  have hstill : id ∉ after := by
    intro hin
    rcases h.reached id hin with hin | ⟨dep, hdep, hreach⟩
    · exact hnew hin
    · exact hcircle (.head' ((hdeps dep).1 hdep) hreach)
  refine ⟨h.ordered.snoc hstill hid hdecl fun dep hdep =>
    h.places ((hdeps dep).2 (hrefs id dep hid hdep)), ?_, ?_, ?_⟩
  · exact fun x hx => List.mem_append_left _ (h.keeps hx)
  · simp
  · intro x hx
    rcases List.mem_append.1 hx with hx | hx
    · rcases h.reached x hx with hx | ⟨dep, hdep, hreach⟩
      · exact .inl hx
      · exact .inr ⟨id, by simp, .head ((hdeps dep).1 hdep) hreach⟩
    · rw [List.mem_singleton.1 hx]
      exact .inr ⟨id, by simp, .refl⟩

/-- Placing a rule from which every walk ends. Every rule on the path
leads to it, and `ranked` has all rules that may be needed. -/
theorem places_place {ranked : List RuleId} {id : RuleId}
    (hrefs : table.WellReferenced)
    (hranked : ∀ x, x ≠ .entry → table.contains x = true → x ∈ ranked)
    (hid : id ≠ .entry) (hdecl : table.contains id = true)
    (hground : table.Grounded id) :
    ∀ {path before : List RuleId},
      (∀ p ∈ path, TransGen table.Refers p id) → table.Ordered before →
      table.Places before [id] (table.place ranked path before id) := by
  induction hground with
  | intro id hacc ih =>
      intro path before hpath hbefore
      have hcircle : ¬ TransGen table.Refers id id :=
        Grounded.not_transGen (.intro id hacc)
      unfold place
      split
      next hmem =>
        exact ⟨hbefore, List.Subset.refl _, by simpa using hmem,
          fun x hx => .inl hx⟩
      next hnew =>
        split
        next hmem => exact absurd (hpath id hmem) hcircle
        next =>
          dsimp only
          generalize hdeps : ranked.filter (· ∈ table.dependencies id)
            = deps
          have hmem : ∀ dep, dep ∈ deps ↔ table.Refers id dep := by
            intro dep
            rw [← hdeps, List.mem_filter, decide_eq_true_eq,
              mem_dependencies]
            constructor
            · exact fun h => hrefs id dep hid h.2
            · exact fun h => ⟨hranked dep h.2.1 h.2.2.1, h.2.2.2⟩
          have hfold := @places_of_foldl table ranked (id :: path) deps
            (fun before dep hdep hbefore => by
              have hrefers := (hmem dep).1 hdep
              refine ih dep hrefers hrefers.2.1 hrefers.2.2.1 ?_ hbefore
              intro p hp
              rcases List.mem_cons.1 hp with rfl | hp
              · exact .single hrefers
              · exact (hpath p hp).tail hrefers) before hbefore
          exact hfold.snoc hmem hrefs hid hdecl hnew hcircle

-- ============================================================ the order

/-- The rules are ranked without losing any. -/
theorem mem_byWorkload {id : RuleId} :
    id ∈ table.byWorkload ↔ id ≠ .entry ∧ table.contains id = true := by
  simp only [byWorkload, List.mem_map, List.mem_mergeSort,
    List.mem_filter, mem_ids, RuleId.isEntry]
  constructor
  · rintro ⟨-, ⟨id', ⟨hdecl, hid⟩, rfl⟩, rfl⟩
    exact ⟨by simpa using hid, hdecl⟩
  · rintro ⟨hid, hdecl⟩
    exact ⟨_, ⟨id, ⟨hdecl, by simpa using hid⟩, rfl⟩, rfl⟩

/-- The order of a table in which every walk ends is ordered and has
every declared rule but the entry rule. -/
theorem ordered_placeAll (hrefs : table.WellReferenced)
    (hground : ∀ id, table.Grounded id) :
    table.Ordered table.placeAll
      ∧ ∀ id, id ≠ .entry → table.contains id = true →
          id ∈ table.placeAll := by
  have hplaces := @places_of_foldl table table.byWorkload []
    table.byWorkload
    (fun before id hid hbefore =>
      places_place hrefs (fun x hx hdecl => mem_byWorkload.2 ⟨hx, hdecl⟩)
        (mem_byWorkload.1 hid).1 (mem_byWorkload.1 hid).2 (hground id)
        (by simp) hbefore) [] ordered_nil
  exact ⟨hplaces.ordered, fun id hid hdecl =>
    hplaces.places (mem_byWorkload.2 ⟨hid, hdecl⟩)⟩

/-- A table without bad references is well referenced. -/
theorem HasGoodReferences.wellReferenced (h : table.HasGoodReferences) :
    table.WellReferenced := by
  intro id dep hid hdep
  have hgood := h id dep hdep
  simp only [IsBadReference, not_or, not_and, Bool.not_eq_false] at hgood
  exact ⟨hid, fun hentry => hgood.2 hentry hid, hgood.1, hdep⟩

-- ========================================================== the schedule

/-- There is a schedule exactly if the table has neither a bad reference
nor a circle. -/
theorem schedule_eq_ok_iff {order : List RuleId} :
    table.schedule = .ok order
      ↔ table.HasGoodReferences ∧ ¬ table.HasCircle
        ∧ order = table.placeAll := by
  rw [← verifyReferences_eq_ok_iff, ← cycle?_eq_none_iff, schedule]
  cases hverify : table.verifyReferences with
  | error e => simp [bind, Except.bind]
  | ok u =>
      cases hcycle : table.cycle? with
      | some circle => simp [bind, Except.bind]
      | none => simp [bind, Except.bind, eq_comm]

/-- A schedule is ordered and has every declared rule but the entry
rule. -/
theorem ordered_of_schedule {order : List RuleId}
    (h : table.schedule = .ok order) :
    table.Ordered order
      ∧ ∀ id, id ≠ .entry → table.contains id = true → id ∈ order := by
  obtain ⟨hrefs, hcircle, rfl⟩ := schedule_eq_ok_iff.1 h
  exact ordered_placeAll hrefs.wellReferenced (not_hasCircle_iff.1 hcircle)

/-- A table with neither fault has a schedule, which is ordered and
complete. -/
theorem schedule_eq_ok
    (hrefs : table.HasGoodReferences) (hcircle : ¬ table.HasCircle) :
    table.schedule = .ok table.placeAll
      ∧ table.Ordered table.placeAll
      ∧ ∀ id, id ≠ .entry → table.contains id = true →
          id ∈ table.placeAll := by
  have hschedule := schedule_eq_ok_iff.2 ⟨hrefs, hcircle, rfl⟩
  exact ⟨hschedule, ordered_of_schedule hschedule⟩

/-- A schedule has no place for the entry rule. -/
theorem ne_entry_of_mem_schedule {order : List RuleId}
    (h : table.schedule = .ok order) : ∀ id ∈ order, id ≠ .entry :=
  fun id hid => ((ordered_of_schedule h).1.declared id hid).1

end WordGrammar.RuleTable
