/-
What the two checks of references decide.

The reference check goes through the rules in alphabetical order and
through each rule's references in order of first appearance.
`verifyReferences_eq_error` pins it to the plain list of all references
of the table: it reports the first bad one.

The cycle check is a depth-first walk. `Refers` is the graph it walks:
the declared rules other than the entry rule, with the references between
them. A rule is `Grounded` if every walk from it ends; over the
twenty-six letters that is the same as there being no circle
(`not_hasCircle_iff`). The two halves of the walk's correctness have
different invariants:

- what it reports is a circle (`isCircle_of_walk_error`), because the path
  is at all times a chain of references without repetition that leads to
  the rule it is at;
- if it reports nothing, every rule it came to is grounded
  (`clears_of_walk_ok`), because a rule is cleared only after all it
  refers to, so the cleared rules are grounded from the first to the last.

`cycle?_finds_circle` puts the halves together and spells out what a
circle is.
-/
import Mathlib.Data.Fintype.EquivFin
import Mathlib.Data.List.Chain
import Mathlib.Logic.Relation
import WordGrammar.RuleTable.References

namespace WordGrammar

instance : Finite RuleId :=
  Finite.of_injective RuleId.index fun _ _ h => RuleId.index_injective h

/-- The rule of a capital; the entry rule for any other character. -/
def RuleId.named (c : Char) : RuleId := (ofChar? c).getD entry

/-- The distinct items are the items. -/
theorem mem_distinctIds {ids : List RuleId} {id : RuleId} :
    id ∈ distinctIds ids ↔ id ∈ ids := by
  induction ids with
  | nil => rfl
  | cons first rest ih =>
      by_cases h : id = first
      · simp [distinctIds, h]
      · simp [distinctIds, h, ih]

/-- Searching the distinct items finds what searching them all does. -/
theorem findSome?_distinctIds {β : Type} (f : RuleId → Option β)
    (ids : List RuleId) :
    (distinctIds ids).findSome? f = ids.findSome? f := by
  have skip : ∀ (first : RuleId) (l : List RuleId), f first = none →
      (l.filter (· ≠ first)).findSome? f = l.findSome? f := by
    intro first l hnone
    induction l with
    | nil => rfl
    | cons a l ih =>
        by_cases h : a = first
        · rw [List.filter_cons_of_neg (by simpa using h), ih,
            List.findSome?_cons, h, hnone]
        · rw [List.filter_cons_of_pos (by simpa using h),
            List.findSome?_cons, List.findSome?_cons, ih]
  induction ids with
  | nil => rfl
  | cons first rest ih =>
      rw [distinctIds, List.findSome?_cons, List.findSome?_cons]
      cases hfirst : f first with
      | some b => rfl
      | none => rw [skip first _ hfirst, ih]

/-- The rules that a rule refers to. -/
def Rule.RefersTo (rule : Rule) (dep : RuleId) : Prop :=
  ∃ source ∈ rule.patterns, dep ∈ referencesOf source

namespace RuleTable

variable {table : RuleTable}

-- ======================================================= membership

theorem contains_iff {id : RuleId} :
    table.contains id = true ↔ ∃ rule, table.get? id = some rule := by
  rw [contains, Option.isSome_iff_exists]

theorem mem_ids {id : RuleId} :
    id ∈ table.ids ↔ table.contains id = true := by
  simp [ids, RuleId.mem_all]

theorem mem_dependencies {id dep : RuleId} :
    dep ∈ table.dependencies id ↔ dep ∈ table.allReferences id :=
  mem_distinctIds

/-- A rule's references are those of its alternatives. -/
theorem mem_allReferences {id dep : RuleId} {rule : Rule}
    (h : table.get? id = some rule) :
    dep ∈ table.allReferences id ↔ rule.RefersTo dep := by
  rw [allReferences, h, Rule.RefersTo]
  exact List.mem_flatMap

theorem contains_of_mem_allReferences {id dep : RuleId}
    (h : dep ∈ table.allReferences id) : table.contains id = true := by
  cases hget : table.get? id with
  | none => rw [allReferences, hget] at h; cases h
  | some rule => exact contains_iff.2 ⟨rule, hget⟩

-- ================================================= the reference check

/-- Every reference of the table with the rule that holds it: rules in
alphabetical order, references in order of appearance. -/
def references (table : RuleTable) : List (RuleId × RuleId) :=
  table.ids.flatMap fun id => (table.allReferences id).map (id, ·)

/-- Whether the rule `id` may not refer to `dep`: `dep` is not declared,
or it is the entry rule and `id` is another one. -/
def IsBadReference (table : RuleTable) (id dep : RuleId) : Prop :=
  table.contains dep = false ∨ (dep = .entry ∧ id ≠ .entry)

/-- The table has no bad reference. -/
def HasGoodReferences (table : RuleTable) : Prop :=
  ∀ id dep, dep ∈ table.allReferences id →
    ¬ table.IsBadReference id dep

/-- The error for a bad reference: it is unresolved if its target is not
declared, whatever the target is. -/
def badReferenceError (table : RuleTable) (id dep : RuleId) : Error :=
  if table.contains dep then .of (.entryRuleReferenced id.owner)
  else .of (.unresolvedReference dep id.owner)

/-- The first bad reference of the table. -/
def FirstBadReference (table : RuleTable) (id dep : RuleId) : Prop :=
  ∃ before after, table.references = before ++ (id, dep) :: after
    ∧ (∀ r ∈ before, ¬ table.IsBadReference r.1 r.2)
    ∧ table.IsBadReference id dep

/-- The list of references has just those of the rules. -/
theorem mem_references {id dep : RuleId} :
    (id, dep) ∈ table.references ↔ dep ∈ table.allReferences id := by
  simp only [references, List.mem_flatMap, List.mem_map, Prod.mk.injEq]
  constructor
  · rintro ⟨id', -, dep', hdep, rfl, rfl⟩
    exact hdep
  · intro h
    exact ⟨id, mem_ids.2 (contains_of_mem_allReferences h), dep, h, rfl,
      rfl⟩

/-- A reference is passed if it is not bad. -/
theorem referenceError?_eq_none_iff {id dep : RuleId} :
    table.referenceError? id dep = none
      ↔ ¬ table.IsBadReference id dep := by
  unfold referenceError? IsBadReference
  cases hdep : table.contains dep with
  | false => simp
  | true =>
      by_cases hentry : dep = .entry
      · by_cases hid : id = .entry <;> simp [RuleId.isEntry, hentry, hid]
      · simp [RuleId.isEntry, hentry]

/-- A bad one is reported, as undeclared in the first place. -/
theorem referenceError?_of_bad {id dep : RuleId}
    (h : table.IsBadReference id dep) :
    table.referenceError? id dep
      = some (table.badReferenceError id dep) := by
  unfold referenceError? badReferenceError
  rcases h with hdep | ⟨rfl, hid⟩
  · simp [hdep]
  · cases hdep : table.contains .entry with
    | false => simp
    | true => simp [RuleId.isEntry, hid]

/-- The check searches the list of all references. -/
theorem firstBadReference?_eq :
    table.firstBadReference?
      = table.references.findSome? fun r =>
          table.referenceError? r.1 r.2 := by
  unfold firstBadReference? references
  induction table.ids with
  | nil => rfl
  | cons id rest ih =>
      rw [List.findSome?_cons, List.flatMap_cons, List.findSome?_append,
        ← ih, List.findSome?_map, dependencies, findSome?_distinctIds]
      cases hid : (table.allReferences id).findSome?
          (table.referenceError? id) with
      | some e => simp [Function.comp_def, hid]
      | none => simp [Function.comp_def, hid]

/-- The check accepts the tables that have no bad reference. -/
theorem verifyReferences_eq_ok_iff :
    table.verifyReferences = .ok ()
      ↔ table.HasGoodReferences := by
  have hnone : table.verifyReferences = .ok ()
      ↔ table.firstBadReference? = none := by
    unfold verifyReferences
    cases table.firstBadReference? <;> simp
  rw [hnone, firstBadReference?_eq, List.findSome?_eq_none_iff]
  constructor
  · intro h id dep hdep
    exact referenceError?_eq_none_iff.1 (h (id, dep) (mem_references.2 hdep))
  · rintro h ⟨id, dep⟩ hr
    exact referenceError?_eq_none_iff.2 (h id dep (mem_references.1 hr))

/-- The check reports the first bad reference. -/
theorem verifyReferences_eq_error {id dep : RuleId}
    (h : table.FirstBadReference id dep) :
    table.verifyReferences
      = .error (table.badReferenceError id dep) := by
  obtain ⟨before, after, hsplit, hbefore, hbad⟩ := h
  have hfirst : table.firstBadReference?
      = some (table.badReferenceError id dep) := by
    rw [firstBadReference?_eq, List.findSome?_eq_some_iff]
    exact ⟨before, (id, dep), after, hsplit, referenceError?_of_bad hbad,
      fun r hr => referenceError?_eq_none_iff.2 (hbefore r hr)⟩
  rw [verifyReferences, hfirst]

-- ============================================================ circles

/-- The declared rule `b`, not the entry rule, is referred to by the rule
`a`, not the entry rule either. -/
def Refers (table : RuleTable) (a b : RuleId) : Prop :=
  a ≠ .entry ∧ b ≠ .entry ∧ table.contains b = true
    ∧ b ∈ table.allReferences a

/-- Some rule other than the entry rule leads back to itself. -/
def HasCircle (table : RuleTable) : Prop :=
  ∃ id, Relation.TransGen table.Refers id id

/-- Every walk along references from this rule ends. -/
def Grounded (table : RuleTable) (id : RuleId) : Prop :=
  Acc (Function.swap table.Refers) id

/-- A circle as a list: it returns to where it starts, repeats nothing
else, and every step is a reference. -/
structure IsCircle (table : RuleTable) (circle : List RuleId) : Prop where
  closed : ∃ id inner, circle = id :: inner ++ [id] ∧ (id :: inner).Nodup
  chain : List.IsChain table.Refers circle

/-- The walk goes on along the edges of the graph. -/
theorem mem_successors {a b : RuleId} (ha : a ≠ .entry) :
    b ∈ table.successors a ↔ table.Refers a b := by
  simp only [successors, List.mem_filter, mem_dependencies, Refers,
    RuleId.isEntry, Bool.and_eq_true, Bool.not_eq_true', beq_eq_false_iff_ne]
  constructor
  · rintro ⟨hmem, hb, hdecl⟩
    exact ⟨ha, hb, hdecl, hmem⟩
  · rintro ⟨-, hb, hdecl, hmem⟩
    exact ⟨hmem, hb, hdecl⟩

/-- A rule from which every walk ends does not lead back to itself. -/
theorem Grounded.not_transGen {id : RuleId} (h : table.Grounded id) :
    ¬ Relation.TransGen table.Refers id id := by
  induction h with
  | intro a _ ih =>
      intro hcircle
      -- the rule after `a` on its circle leads back to itself as well
      obtain ⟨b, hab, hba⟩ := Relation.TransGen.head'_iff.1 hcircle
      exact ih b hab (Relation.TransGen.tail' hba hab)

/-- Without a circle every walk ends, and conversely. -/
theorem not_hasCircle_iff :
    ¬ table.HasCircle ↔ ∀ id, table.Grounded id := by
  constructor
  · intro h id
    have hirrefl : Std.Irrefl
        (Relation.TransGen (Function.swap table.Refers)) :=
      ⟨fun a ha => h ⟨a, Relation.transGen_swap.1 ha⟩⟩
    have hwf := Finite.wellFounded_of_trans_of_irrefl
      (Relation.TransGen (Function.swap table.Refers))
    exact acc_transGen_iff.1 (hwf.apply id)
  · rintro h ⟨id, hid⟩
    exact (h id).not_transGen hid

/-- Rules that refer only to rules of lower rank have no circle. -/
theorem not_hasCircle_of_rank (rank : RuleId → Nat)
    (h : ∀ a b, table.Refers a b → rank b < rank a) :
    ¬ table.HasCircle :=
  not_hasCircle_iff.2 fun id =>
    Subrelation.accessible (fun {b a} hab => h a b hab)
      ((measure rank).wf.apply id)

/-- Going once around a circle leads back to where it starts. -/
theorem IsCircle.hasCircle {circle : List RuleId}
    (h : table.IsCircle circle) : table.HasCircle := by
  obtain ⟨⟨id, inner, rfl, -⟩, hchain⟩ := h
  refine ⟨id, ?_⟩
  cases inner with
  | nil => exact .single (List.isChain_cons_cons.1 hchain).1
  | cons next inner =>
      have hfirst := (List.isChain_cons_cons.1 hchain).1
      have hrest := (List.isChain_cons_cons.1 hchain).2
      have hto : Relation.ReflTransGen table.Refers next id :=
        List.relationReflTransGen_of_exists_isChain_cons _ hrest (by simp)
      exact Relation.TransGen.head' hfirst hto

-- ============================================================= the walk

/-- A run over a list fails where one of its steps does. -/
private theorem exists_error_of_foldlM {α β ε : Type}
    {f : β → α → Except ε β} {l : List α} {init : β} {e : ε}
    (h : l.foldlM f init = .error e) :
    ∃ a ∈ l, ∃ b, f b a = .error e := by
  induction l generalizing init with
  | nil => cases h
  | cons a l ih =>
      rw [List.foldlM_cons] at h
      cases hstep : f init a with
      | error e' =>
          rw [hstep] at h
          cases h
          exact ⟨a, List.mem_cons_self .., init, hstep⟩
      | ok b =>
          rw [hstep] at h
          obtain ⟨a', ha', hb⟩ := ih h
          exact ⟨a', List.mem_cons_of_mem _ ha', hb⟩

/-- Closing a path at a rule that it already holds gives a circle. The
path is read newest first and leads to `id`. -/
theorem isCircle_closeCycle {path : List RuleId} {id : RuleId}
    (hmem : id ∈ path) (hnodup : path.Nodup)
    (hpath : List.IsChain (fun a b => table.Refers b a) (id :: path)) :
    table.IsCircle (closeCycle path id) := by
  have hsplit : path = path.takeWhile (· ≠ id) ++ path.dropWhile (· ≠ id) :=
    List.takeWhile_append_dropWhile.symm
  generalize hinner : path.takeWhile (· ≠ id) = inner at hsplit
  have hne : ∀ x ∈ inner, x ≠ id := fun x hx => by
    have hall : inner.all (· ≠ id) = true :=
      hinner ▸ List.all_takeWhile
    simpa using List.all_eq_true.1 hall x hx
  cases hrest : path.dropWhile (· ≠ id) with
  | nil =>
      rw [hrest, List.append_nil] at hsplit
      exact absurd rfl (hne id (hsplit ▸ hmem))
  | cons first older =>
      have hfirst : first = id := by
        have hhead := List.head?_dropWhile_not (fun x => x ≠ id) path
        rw [hrest] at hhead
        simpa using hhead
      subst hfirst
      rw [hrest] at hsplit
      unfold closeCycle
      rw [hinner]
      refine ⟨⟨first, inner.reverse, rfl, ?_⟩, ?_⟩
      · rw [List.nodup_cons, List.mem_reverse, List.nodup_reverse]
        refine ⟨fun h => hne first h rfl, ?_⟩
        rw [hsplit] at hnodup
        exact hnodup.of_append_left
      · rw [hsplit, ← List.cons_append, List.append_cons] at hpath
        have hchain := List.isChain_reverse.2 hpath.left_of_append
        simpa using hchain

/-- What the walk reports is a circle, if it started at the end of a path
of references. -/
theorem isCircle_of_walk_error {path cleared : List RuleId} {id : RuleId}
    {circle : List RuleId} (hid : id ≠ .entry) (hnodup : path.Nodup)
    (hpath : List.IsChain (fun a b => table.Refers b a) (id :: path))
    (h : table.walk path cleared id = .error circle) :
    table.IsCircle circle := by
  unfold walk at h
  split at h
  · cases h
  · split at h
    next hmem =>
      cases h
      exact isCircle_closeCycle hmem hnodup hpath
    next hmem =>
      cases hfold : (table.successors id).foldlM
          (fun cleared dep => table.walk (id :: path) cleared dep)
          cleared with
      | ok cleared' => rw [hfold] at h; cases h
      | error circle' =>
          rw [hfold] at h
          cases h
          -- The circle was found further down, on a path that the rule has
          -- joined.
          obtain ⟨dep, hdep, cleared', hstep⟩ :=
            exists_error_of_foldlM hfold
          have hrefers := (mem_successors hid).1 hdep
          exact isCircle_of_walk_error hrefers.2.1
            (List.nodup_cons.2 ⟨hmem, hnodup⟩)
            (List.isChain_cons_cons.2 ⟨hrefers, hpath⟩) hstep
termination_by lettersOff path
decreasing_by exact lettersOff_cons_lt ‹_›

/-- What walking from the rules `starts` makes of the rules cleared
before: it keeps them, adds `starts`, and all it has are grounded. -/
structure Clears (table : RuleTable) (before starts after : List RuleId) :
    Prop where
  keeps : before ⊆ after
  clears : starts ⊆ after
  grounded : ∀ id ∈ after, table.Grounded id

/-- Walking from several rules in turn clears them if walking from each
does. -/
private theorem clears_of_foldlM {path starts : List RuleId}
    (hstep : ∀ before start after, start ∈ starts →
      (∀ id ∈ before, table.Grounded id) →
      table.walk path before start = .ok after →
      table.Clears before [start] after) :
    ∀ {before after : List RuleId}, (∀ id ∈ before, table.Grounded id) →
      starts.foldlM (fun cleared dep => table.walk path cleared dep) before
        = .ok after →
      table.Clears before starts after := by
  induction starts with
  | nil =>
      intro before after hbefore h
      cases h
      exact ⟨List.Subset.refl _, List.nil_subset _, hbefore⟩
  | cons start rest ih =>
      intro before after hbefore h
      rw [List.foldlM_cons] at h
      cases hwalk : table.walk path before start with
      | error e => rw [hwalk] at h; cases h
      | ok between =>
          rw [hwalk] at h
          have hfirst :=
            hstep before start between (List.mem_cons_self ..) hbefore hwalk
          have hrest := ih (fun before start after hstart =>
            hstep before start after (List.mem_cons_of_mem _ hstart))
            hfirst.grounded h
          refine ⟨List.Subset.trans hfirst.keeps hrest.keeps, ?_,
            hrest.grounded⟩
          exact List.cons_subset.2
            ⟨hrest.keeps (hfirst.clears (List.mem_cons_self ..)),
              hrest.clears⟩

/-- A walk that finds no circle clears the rule it started from: all the
rule refers to was cleared before it. -/
theorem clears_of_walk_ok {path before after : List RuleId} {id : RuleId}
    (hid : id ≠ .entry) (hbefore : ∀ x ∈ before, table.Grounded x)
    (h : table.walk path before id = .ok after) :
    table.Clears before [id] after := by
  unfold walk at h
  split at h
  next hmem =>
    cases h
    exact ⟨List.Subset.refl _, by simpa using hmem, hbefore⟩
  next =>
    split at h
    next => cases h
    next hpath =>
      cases hfold : (table.successors id).foldlM
          (fun cleared dep => table.walk (id :: path) cleared dep)
          before with
      | error e => rw [hfold] at h; cases h
      | ok between =>
          rw [hfold] at h
          cases h
          have hdeps := clears_of_foldlM
            (fun before dep after hdep hbefore hwalk =>
              clears_of_walk_ok ((mem_successors hid).1 hdep).2.1 hbefore
                hwalk) hbefore hfold
          refine ⟨fun x hx => List.mem_cons_of_mem _ (hdeps.keeps hx),
            by simp, fun x hx => ?_⟩
          -- The rule itself is grounded because all its successors are by
          -- now.
          rcases List.mem_cons.1 hx with rfl | hx
          · exact .intro _ fun dep hdep => hdeps.grounded dep
              (hdeps.clears ((mem_successors hid).2 hdep))
          · exact hdeps.grounded x hx
termination_by lettersOff path
decreasing_by exact lettersOff_cons_lt ‹_›

/-- The cycle check reports circles only. -/
theorem isCircle_of_cycle? {circle : List RuleId}
    (h : table.cycle? = some circle) : table.IsCircle circle := by
  unfold cycle? at h
  split at h
  next circle' hwalk =>
    cases h
    obtain ⟨id, hid, before, hstep⟩ := exists_error_of_foldlM hwalk
    rw [List.mem_filter] at hid
    refine isCircle_of_walk_error ?_ List.nodup_nil (.singleton id) hstep
    simpa [RuleId.isEntry] using hid.2
  next => cases h

/-- If the cycle check reports nothing, there is no circle. -/
theorem not_hasCircle_of_cycle? (h : table.cycle? = none) :
    ¬ table.HasCircle := by
  unfold cycle? at h
  split at h
  next => cases h
  next after hwalk =>
    have hstarts : ∀ id ∈ table.ids.filter (!·.isEntry), id ≠ .entry := by
      intro id hid
      simpa [RuleId.isEntry] using (List.mem_filter.1 hid).2
    have hclears := clears_of_foldlM
      (fun before start after hstart hbefore hstep =>
        clears_of_walk_ok (hstarts start hstart) hbefore hstep)
      (by simp) hwalk
    refine not_hasCircle_iff.2 fun id => .intro _ fun dep hdep => ?_
    have hdep' : dep ∈ table.ids.filter (!·.isEntry) :=
      List.mem_filter.2 ⟨mem_ids.2 hdep.2.2.1, by
        simpa [RuleId.isEntry] using hdep.2.1⟩
    exact hclears.grounded dep (hclears.clears hdep')

/-- The cycle check decides whether there is a circle. -/
theorem cycle?_eq_none_iff : table.cycle? = none ↔ ¬ table.HasCircle := by
  refine ⟨not_hasCircle_of_cycle?, fun h => ?_⟩
  cases hcycle : table.cycle? with
  | none => rfl
  | some circle => exact absurd (isCircle_of_cycle? hcycle).hasCircle h

/-- Along a chain of references every rule after the first is declared
and is not the entry rule. -/
theorem declared_of_isChain {first : RuleId} {rest : List RuleId}
    (h : List.IsChain table.Refers (first :: rest)) :
    ∀ id ∈ rest, id ≠ .entry ∧ table.contains id = true := by
  induction rest generalizing first with
  | nil => intro id hid; cases hid
  | cons next rest ih =>
      obtain ⟨hrefers, hrest⟩ := List.isChain_cons_cons.1 h
      exact List.forall_mem_cons.2
        ⟨⟨hrefers.2.1, hrefers.2.2.1⟩, ih hrest⟩

/-- Every rule on a circle is referred to from the circle, its first rule
at the end. -/
theorem IsCircle.declared {circle : List RuleId}
    (h : table.IsCircle circle) :
    ∀ id ∈ circle, id ≠ .entry ∧ table.contains id = true := by
  obtain ⟨⟨first, inner, rfl, -⟩, hchain⟩ := h
  have hrest := declared_of_isChain hchain
  exact List.forall_mem_cons.2 ⟨hrest first (by simp), hrest⟩

/-- The cycle check reports something exactly if the references among the
declared rules other than the entry rule have a circle, and then what it
reports is one: it ends where it starts, repeats nothing else, has no
place for the entry rule or an undeclared one, and follows references from
each rule to the next. -/
theorem cycle?_finds_circle (table : RuleTable) :
    (table.cycle?.isSome = true ↔ table.HasCircle)
    ∧ ∀ circle, table.cycle? = some circle →
      2 ≤ circle.length ∧ circle.head? = circle.getLast?
        ∧ circle.dropLast.Nodup
        ∧ (∀ id ∈ circle, id ≠ .entry ∧ table.contains id = true)
        ∧ circle.IsChain (fun a b => b ∈ table.dependencies a) := by
  constructor
  · rw [Option.isSome_iff_ne_none, ne_eq, cycle?_eq_none_iff, not_not]
  · intro circle h
    have hcircle := isCircle_of_cycle? h
    have hdeclared := hcircle.declared
    obtain ⟨⟨first, inner, rfl, hnodup⟩, hchain⟩ := hcircle
    refine ⟨by simp, ?_, ?_, hdeclared, ?_⟩
    · rw [List.getLast?_concat, List.cons_append, List.head?_cons]
    · rwa [List.dropLast_concat]
    · exact hchain.imp fun a b hrefers =>
        mem_dependencies.2 hrefers.2.2.2

end RuleTable

end WordGrammar
