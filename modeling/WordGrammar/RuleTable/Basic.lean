/-
The table of rules.

A table gives some of the twenty-six letters a rule. A rule is raw as it
was declared, its alternatives being patterns, or compiled, its
alternatives being the words themselves. The table is a vector with one
slot for every letter; `get?` is its only view, `get?_insert` says what
an insertion does to it, and `ext` that nothing else can be seen of a
table.
-/
import WordGrammar.RuleId

namespace WordGrammar

/-- Whether a rule's alternatives are patterns or words. -/
inductive RuleState
  | raw
  | compiled
  deriving DecidableEq, Repr

/-- A rule's alternatives and how to take them. -/
structure Rule where
  patterns : List String
  state : RuleState
  deriving DecidableEq

/-- Whether the alternatives are words. -/
def Rule.isCompiled (rule : Rule) : Bool := rule.state == .compiled

/-- The rules by letter. -/
structure RuleTable where
  slots : Vector (Option Rule) 26
  deriving DecidableEq

namespace RuleTable

/-- The table without rules. -/
def empty : RuleTable := ⟨Vector.replicate 26 none⟩

/-- The rule of a letter. -/
def get? (table : RuleTable) (id : RuleId) : Option Rule :=
  table.slots[id.index]

/-- Gives a letter a rule, in place of any earlier one. -/
def insert (table : RuleTable) (id : RuleId) (rule : Rule) : RuleTable :=
  ⟨table.slots.set id.index (some rule)⟩

/-- Declares a rule by its patterns. -/
def declare (table : RuleTable) (id : RuleId) (patterns : List String) :
    RuleTable :=
  table.insert id ⟨patterns, .raw⟩

@[simp] theorem get?_empty (id : RuleId) : empty.get? id = none := by
  simp [empty, get?]

theorem get?_insert (table : RuleTable) (id other : RuleId) (rule : Rule) :
    (table.insert id rule).get? other
      = if other = id then some rule else table.get? other := by
  unfold insert get?
  by_cases h : other = id
  · subst h
    simp
  · have hne : (id.index : Nat) ≠ other.index := fun heq =>
      h (RuleId.index_injective (Fin.ext heq.symm))
    simp [h, hne]

theorem ext {a b : RuleTable} (h : ∀ id, a.get? id = b.get? id) :
    a = b := by
  cases a with
  | mk a =>
    cases b with
    | mk b =>
      congr 1
      refine Vector.ext fun i hi => ?_
      have hid := h (.ofIndex ⟨i, hi⟩)
      simpa [get?, RuleId.index_ofIndex] using hid

/-- The alternatives of a rule. -/
def alternatives? (table : RuleTable) (id : RuleId) :
    Option (List String) :=
  (table.get? id).map Rule.patterns

/-- Whether a letter has a rule. -/
def contains (table : RuleTable) (id : RuleId) : Bool :=
  (table.get? id).isSome

/-- Whether a letter has a compiled rule. -/
def isCompiled (table : RuleTable) (id : RuleId) : Bool :=
  (table.get? id).any Rule.isCompiled

/-- The letters that have a rule, in alphabetical order. -/
def ids (table : RuleTable) : List RuleId :=
  RuleId.all.filter table.contains

/-- The rules with their letters, in alphabetical order. -/
def toList (table : RuleTable) : List (RuleId × Rule) :=
  RuleId.all.filterMap fun id => (table.get? id).map (id, ·)

/-- The number of rules. -/
def size (table : RuleTable) : Nat := table.toList.length

/-- Whether there are no rules. -/
def isEmpty (table : RuleTable) : Bool := table.toList.isEmpty

/-- Whether the entry rule has an alternative to start from. -/
def hasEntry (table : RuleTable) : Bool :=
  (table.get? .entry).any fun rule => !rule.patterns.isEmpty

end RuleTable

end WordGrammar
