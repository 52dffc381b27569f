/-
References between rules.

A rule depends on the rules that its current alternatives refer to. A
table is in order if every such rule is declared and the entry rule is
referred to by itself alone; `verifyReferences` reports the first
reference that breaks this, in alphabetical order of the rules and in
order of appearance within a rule. `cycle?` finds a circle of references
among the other rules by a depth-first walk.
-/
import WordGrammar.Error
import WordGrammar.Pattern
import WordGrammar.RuleTable.Basic

namespace WordGrammar

/-- The first occurrences of a list's items, in order. -/
def distinctIds : List RuleId → List RuleId
  | [] => []
  | id :: rest => id :: (distinctIds rest).filter (· ≠ id)

/-- How messages name a rule that holds a reference. -/
def RuleId.owner (id : RuleId) : String := s!"rule {id.text}"

namespace RuleTable

/-- Every reference in a rule's current alternatives, in order and with
repetitions. -/
def allReferences (table : RuleTable) (id : RuleId) : List RuleId :=
  match table.get? id with
  | some rule => rule.patterns.flatMap referencesOf
  | none => []

/-- The rules that a rule's current alternatives refer to, in order of
first appearance. -/
def dependencies (table : RuleTable) (id : RuleId) : List RuleId :=
  distinctIds (table.allReferences id)

/-- A measure of the work in compiling a rule: each reference counts the
alternatives of the rule it names, and one. -/
def workload (table : RuleTable) (id : RuleId) : Nat :=
  (table.allReferences id).foldr (fun dep total =>
    ((table.alternatives? dep).getD []).length + 1 + total) 0

-- ====================================================== the reference check

/-- What is wrong with a reference from `id` to `dep`, if anything. -/
def referenceError? (table : RuleTable) (id dep : RuleId) : Option Error :=
  if !table.contains dep then some (.of (.unresolvedReference dep id.owner))
  else if dep.isEntry && !id.isEntry then
    some (.of (.entryRuleReferenced id.owner))
  else none

/-- The first bad reference of the table. -/
def firstBadReference? (table : RuleTable) : Option Error :=
  table.ids.findSome? fun id =>
    (table.dependencies id).findSome? (table.referenceError? id)

/-- Accepts a table without bad references. -/
def verifyReferences (table : RuleTable) : Except Error Unit :=
  match table.firstBadReference? with
  | some e => .error e
  | none => .ok ()

-- ============================================================== cycles

/-- The rules that a walk along references may step to from `id`: its
declared dependencies other than the entry rule. -/
def successors (table : RuleTable) (id : RuleId) : List RuleId :=
  (table.dependencies id).filter fun dep =>
    !dep.isEntry && table.contains dep

/-- How many letters are not on a path. -/
def lettersOff (path : List RuleId) : Nat :=
  (RuleId.all.filter (· ∉ path)).length

theorem lettersOff_cons_lt {path : List RuleId} {id : RuleId}
    (h : id ∉ path) : lettersOff (id :: path) < lettersOff path := by
  have key : ∀ l : List RuleId, id ∈ l →
      (l.filter (· ∉ id :: path)).length < (l.filter (· ∉ path)).length := by
    intro l hmem
    have hle : ∀ l : List RuleId,
        (l.filter (· ∉ id :: path)).length
          ≤ (l.filter (· ∉ path)).length := by
      intro l
      rw [← List.countP_eq_length_filter, ← List.countP_eq_length_filter]
      refine List.countP_mono_left fun x _ hx => ?_
      simp only [List.mem_cons, not_or, decide_eq_true_eq] at hx ⊢
      exact hx.2
    induction l with
    | nil => cases hmem
    | cons a l ih =>
      by_cases ha : a = id
      · subst ha
        have := hle l
        simp [h]
        simpa using Nat.lt_succ_of_le this
      · have hin : id ∈ l := by
          rcases List.mem_cons.1 hmem with rfl | hin
          · exact absurd rfl ha
          · exact hin
        have := ih hin
        by_cases hp : a ∈ path
        · simp [ha, hp]
          simpa using this
        · simp [ha, hp]
          simpa using this
  exact key RuleId.all (RuleId.mem_all id)

/-- The part of a path, newest first, back to `id`, read forwards and
closed by `id` again. -/
def closeCycle (path : List RuleId) (id : RuleId) : List RuleId :=
  id :: (path.takeWhile (· ≠ id)).reverse ++ [id]

/-- Walks along references from `id`. `path` holds the rules being
walked, newest first, and `cleared` those known to lie on no circle; the
result is a circle or the rules cleared by now. -/
def walk (table : RuleTable) (path cleared : List RuleId) (id : RuleId) :
    Except (List RuleId) (List RuleId) :=
  if id ∈ cleared then .ok cleared
  else if _hpath : id ∈ path then .error (closeCycle path id)
  else do
    let cleared ← (table.successors id).foldlM
      (fun cleared dep => table.walk (id :: path) cleared dep) cleared
    .ok (id :: cleared)
termination_by lettersOff path
decreasing_by exact lettersOff_cons_lt _hpath

/-- Walks from each of some rules in turn. -/
def walkAll (table : RuleTable) (ids : List RuleId) :
    Except (List RuleId) (List RuleId) :=
  ids.foldlM (fun cleared id => table.walk [] cleared id) []

/-- A circle of references among the rules other than the entry rule, its
first rule repeated at the end. -/
def cycle? (table : RuleTable) : Option (List RuleId) :=
  match table.walkAll (table.ids.filter (!·.isEntry)) with
  | .error cycle => some cycle
  | .ok _ => none

end RuleTable

end WordGrammar
