/-
The order in which rules are compiled.

Rules are taken by ascending workload, letters deciding between equals; a
rule that comes up before the rules it depends on pulls those in first.
The entry rule is never compiled ahead of time and has no place in the
order.
-/
import WordGrammar.RuleTable.References

namespace WordGrammar.RuleTable

/-- Whether one rule is taken no later than another: by workload, then
by letter. -/
def rankLe (a b : Nat × RuleId) : Bool :=
  a.1 < b.1 || (a.1 == b.1 && a.2.letter ≤ b.2.letter)

/-- The rules other than the entry rule, by ascending workload. -/
def byWorkload (table : RuleTable) : List RuleId :=
  let candidates := table.ids.filter (!·.isEntry)
  ((candidates.map fun id => (table.workload id, id)).mergeSort
    rankLe).map (·.2)

/-- Appends a rule to an order after those of its dependencies that are
not in it yet. The dependencies are taken as they come in `ranked`, and
`path` holds the rules that are waiting for this one. -/
def place (table : RuleTable) (ranked path order : List RuleId)
    (id : RuleId) : List RuleId :=
  if id ∈ order then order
  else if _hpath : id ∈ path then order
  else
    let deps := table.dependencies id
    let order := (ranked.filter (· ∈ deps)).foldl
      (fun order dep => table.place ranked (id :: path) order dep) order
    order ++ [id]
termination_by lettersOff path
decreasing_by exact lettersOff_cons_lt _hpath

/-- The order in which to compile a table that is free of circles. -/
def placeAll (table : RuleTable) : List RuleId :=
  let ranked := table.byWorkload
  ranked.foldl (fun order id => table.place ranked [] order id) []

/-- The order in which to compile the rules; refused for a bad reference
and for a circle of references. -/
def schedule (table : RuleTable) : Except Error (List RuleId) := do
  table.verifyReferences
  match table.cycle? with
  | some cycle => .error (.of (.cyclicReference cycle))
  | none => .ok table.placeAll

end WordGrammar.RuleTable
