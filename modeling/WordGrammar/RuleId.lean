/-
Rule names.

A rule is named by one capital letter of the ASCII alphabet; any other
character in a pattern is text. There are twenty-six names, `index`
numbers them in alphabetical order and `all` lists them in that order.
The entry rule `W` is where every word starts.
-/
namespace WordGrammar

/-- The name of a rule: an ASCII capital. -/
structure RuleId where
  letter : Char
  isCapital : letter.isUpper = true
  deriving DecidableEq

namespace RuleId

/-- The rule a character refers to, if it is a capital. -/
def ofChar? (c : Char) : Option RuleId :=
  if h : c.isUpper = true then some ⟨c, h⟩ else none

/-- The entry rule. -/
def entry : RuleId := ⟨'W', by decide⟩

/-- Whether this is the entry rule. -/
def isEntry (id : RuleId) : Bool := id == entry

theorem isEntry_iff {id : RuleId} : id.isEntry = true ↔ id = entry := by
  simp [isEntry]

/-- The letter as a text. -/
def text (id : RuleId) : String := String.singleton id.letter

theorem ofChar?_letter (id : RuleId) : ofChar? id.letter = some id := by
  simp [ofChar?, id.isCapital]

theorem ofChar?_eq_some {c : Char} {id : RuleId} :
    ofChar? c = some id ↔ c = id.letter := by
  constructor
  · intro h
    unfold ofChar? at h
    split at h
    · cases h
      rfl
    · cases h
  · rintro rfl
    exact ofChar?_letter id

theorem ofChar?_eq_none {c : Char} :
    ofChar? c = none ↔ c.isUpper = false := by
  unfold ofChar?
  split <;> simp_all

-- ========================================================== numbering

theorem letter_bounds (id : RuleId) :
    65 ≤ id.letter.toNat ∧ id.letter.toNat ≤ 90 := by
  have h : id.letter.val ≥ 'A'.val ∧ id.letter.val ≤ 'Z'.val :=
    of_decide_eq_true id.isCapital
  exact ⟨UInt32.le_iff_toNat_le.1 h.1, UInt32.le_iff_toNat_le.1 h.2⟩

/-- The place of the letter in the alphabet, from 0. -/
def index (id : RuleId) : Fin 26 :=
  ⟨id.letter.toNat - 65, by have h := id.letter_bounds; omega⟩

/-- The rule at a place in the alphabet. -/
def ofIndex (i : Fin 26) : RuleId :=
  ⟨Char.ofNat (65 + i), by revert i; decide⟩

theorem index_ofIndex (i : Fin 26) : (ofIndex i).index = i := by
  revert i
  decide

theorem index_injective {a b : RuleId} (h : a.index = b.index) : a = b := by
  have ha := a.letter_bounds
  have hb := b.letter_bounds
  have hnat : a.letter.toNat = b.letter.toNat := by
    have h' := congrArg Fin.val h
    simp only [index] at h'
    omega
  have hletter : a.letter = b.letter :=
    Char.ext (UInt32.toNat_inj.1 hnat)
  cases a
  cases b
  simp_all

theorem ofIndex_index (id : RuleId) : ofIndex id.index = id :=
  index_injective (index_ofIndex id.index)

/-- Every rule name, in alphabetical order. -/
def all : List RuleId := (List.finRange 26).map ofIndex

theorem mem_all (id : RuleId) : id ∈ all :=
  List.mem_map.2 ⟨id.index, List.mem_finRange _, ofIndex_index id⟩

end RuleId

end WordGrammar
