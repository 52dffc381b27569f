/-
What can come of a draw.

`Yields` follows one path through the questions of a draw: an item may be
answered if some random word selects it, a coin may fall either way. It is
exactly what streams of words can do: whatever a run from any source
returns is yielded (`yields_of_run`), and for every yielded value there is
a list of words that makes a run return it and is used up by it
(`exists_run_of_yields`). Draws are compared with other descriptions of
their outcomes through `Yields` alone, so that no later proof speaks of
words.

# Which items a word can select

The word `w` selects the item `w * n / 2 ^ 32` out of `n`, if the low half
of the product is accepted. For the first multiple of `n` from
`i * 2 ^ 32` on, the low half is below `n`, which is always accepted: the
zone is `n` shifted up, less one. So every one of fewer than `2 ^ 32`
items is selected by some word (`exists_selects`).
-/
import Mathlib.Tactic.Positivity
import WordGrammar.Random.Draw

namespace WordGrammar.Draw

variable {α β σ : Type} [WordSource σ]

-- =========================================================== selecting

/-- The word is accepted for `more + 1` items and stands for the item
`i`. -/
def Selects (more : Nat) (w : UInt32) (i : Fin (more + 1)) : Prop :=
  w.toNat * (more + 1) % UInt32.size ≤ zone (more + 1)
    ∧ w.toNat * (more + 1) / UInt32.size = i

/-- The zone takes in every number below that of the items. -/
theorem le_zone (n : Nat) : n - 1 ≤ zone n := by
  rw [zone, Nat.shiftLeft_eq]
  exact Nat.sub_le_sub_right (Nat.le_mul_of_pos_right n (by positivity)) 1

/-- Below `size * n` there is a multiple of `n` in the first `n` numbers
from `i * size` on. -/
theorem exists_multiple {n i size : Nat} (hi : i < n) (hn : n < size) :
    ∃ w < size, ∃ r < n, w * n = i * size + r := by
  -- The multiple of `n` that is reached by rounding up.
  let w := (i * size + (n - 1)) / n
  have hle : w * n ≤ i * size + (n - 1) := Nat.div_mul_le_self _ _
  have hlt : i * size + (n - 1) < w * n + n :=
    Nat.lt_div_mul_add (Nat.zero_lt_of_lt hi)
  obtain ⟨r, hr⟩ : ∃ r, w * n = i * size + r :=
    Nat.exists_eq_add_of_le (by omega)
  have hw : w * n < size * n := by
    calc w * n ≤ i * size + (n - 1) := hle
      _ < i * size + size := by omega
      _ = (i + 1) * size := (Nat.succ_mul i size).symm
      _ ≤ n * size := Nat.mul_le_mul_right size hi
      _ = size * n := Nat.mul_comm n size
  exact ⟨w, Nat.lt_of_mul_lt_mul_right hw, r, by omega, hr⟩

/-- Every one of fewer than `2 ^ 32` items is selected by some word. -/
theorem exists_selects {more : Nat} (hmore : more + 1 < UInt32.size)
    (i : Fin (more + 1)) : ∃ w, Selects more w i := by
  obtain ⟨w, hw, r, hr, heq⟩ := exists_multiple i.isLt hmore
  have hrsize : r < UInt32.size := hr.trans hmore
  refine ⟨UInt32.ofNatLT w hw, ?_⟩
  rw [Selects, UInt32.toNat_ofNatLT, heq, Nat.mul_comm i.val,
    Nat.mul_add_mod, Nat.mod_eq_of_lt hrsize,
    Nat.mul_add_div (Nat.zero_lt_of_lt hmore), Nat.div_eq_of_lt hrsize]
  exact ⟨(Nat.le_of_lt_succ hr).trans (le_zone (more + 1)), rfl⟩

/-- What is drawn from a source is selected by one of its words. -/
theorem selects_of_index? {more : Nat} {s s' : σ} {i : Fin (more + 1)}
    (h : index? more s = some (i, s')) : ∃ w, Selects more w i := by
  rw [index?] at h
  split at h
  next => cases h
  next w rest hnext =>
      dsimp only at h
      split at h
      next haccept =>
          cases h
          exact ⟨w, haccept, rfl⟩
      -- A word that is not accepted is dropped, and another one drawn.
      next => exact selects_of_index? h
termination_by WordSource.left s
decreasing_by exact WordSource.left_next ‹_›

/-- A word that selects an item makes a script draw it. -/
theorem index?_script {more : Nat} {w : UInt32} {i : Fin (more + 1)}
    (h : Selects more w i) (words : List UInt32) (zeros : Nat) :
    index? more (⟨w :: words, zeros⟩ : Script)
      = some (i, ⟨words, zeros⟩) := by
  rw [index?]
  split
  next hnext => cases hnext
  next hnext =>
      cases hnext
      dsimp only
      rw [if_pos h.1]
      exact congrArg (fun j => some (j, _)) (Fin.ext h.2)

theorem toss?_script (b : Bool) (words : List UInt32) (zeros : Nat) :
    toss? (⟨0 :: (if b then 0 else 0x80000000) :: words, zeros⟩ : Script)
      = some (b, ⟨words, zeros⟩) := by
  cases b <;> rfl

-- ============================================================ yielding

/-- `d.Yields a`: some answers to the questions of `d` lead to `a`. -/
inductive Yields : Draw α → α → Prop
  | done {a : α} : Yields (done a) a
  | choose {more : Nat} {next : Fin (more + 1) → Draw α} {w : UInt32}
      {i : Fin (more + 1)} {a : α} :
      Selects more w i → Yields (next i) a → Yields (choose more next) a
  | flip {next : Bool → Draw α} {b : Bool} {a : α} :
      Yields (next b) a → Yields (flip next) a

/-- Whatever a run returns is yielded, whatever the source. -/
theorem yields_of_run {d : Draw α} :
    ∀ {s s' : σ} {a : α}, d.run s = some (a, s') → d.Yields a := by
  -- Along the questions of the draw, each answered by what the run got from
  -- the source.
  induction d with
  | done value =>
      intro s s' a h
      cases h
      exact .done
  | choose more next ih =>
      intro s s' a h
      rw [run] at h
      split at h
      next => cases h
      next i rest hindex =>
          obtain ⟨w, hw⟩ := selects_of_index? hindex
          exact .choose hw (ih i h)
  | flip next ih =>
      intro s s' a h
      rw [run] at h
      split at h
      next => cases h
      next b rest htoss => exact .flip (ih b h)

/-- Some words make a run return a yielded value, and it takes no other
words. -/
theorem exists_run_of_yields {d : Draw α} {a : α} (h : d.Yields a) :
    ∃ words, ∀ more zeros,
      d.run (⟨words ++ more, zeros⟩ : Script) = some (a, ⟨more, zeros⟩) := by
  induction h with
  | done => exact ⟨[], fun more zeros => rfl⟩
  | @choose _ next w i a hw hnext ih =>
      obtain ⟨words, hwords⟩ := ih
      refine ⟨w :: words, fun more zeros => ?_⟩
      rw [List.cons_append, run, index?_script hw]
      exact hwords more zeros
  | @flip next b a hnext ih =>
      obtain ⟨words, hwords⟩ := ih
      refine ⟨0 :: (if b then 0 else 0x80000000) :: words,
        fun more zeros => ?_⟩
      rw [List.cons_append, List.cons_append, run, toss?_script]
      exact hwords more zeros

/-- A value is yielded exactly if some script makes a run return it. -/
theorem yields_iff {d : Draw α} {a : α} :
    d.Yields a ↔ ∃ s s' : Script, d.run s = some (a, s') := by
  constructor
  · intro h
    obtain ⟨words, hwords⟩ := exists_run_of_yields h
    exact ⟨_, _, hwords [] 0⟩
  · rintro ⟨s, s', h⟩
    exact yields_of_run h

-- ================================================== yields of each draw

/-- A draw that asks nothing yields its value. -/
theorem yields_done {a b : α} : (Draw.done a).Yields b ↔ b = a := by
  constructor
  · rintro ⟨⟩
    rfl
  · rintro rfl
    exact .done

/-- A draw that goes on yields what its continuation yields for some value
of its first part. -/
theorem yields_bind {d : Draw α} {f : α → Draw β} {b : β} :
    (d.bind f).Yields b ↔ ∃ a, d.Yields a ∧ (f a).Yields b := by
  constructor
  · induction d with
    | done value => exact fun h => ⟨value, .done, h⟩
    | choose more next ih =>
        rintro (_ | ⟨hw, hnext⟩)
        obtain ⟨a, ha, hb⟩ := ih _ hnext
        exact ⟨a, .choose hw ha, hb⟩
    | flip next ih =>
        rintro (_ | _ | hnext)
        obtain ⟨a, ha, hb⟩ := ih _ hnext
        exact ⟨a, .flip ha, hb⟩
  · rintro ⟨a, ha, hb⟩
    induction ha with
    | done => exact hb
    | choose hw _ ih => exact .choose hw (ih hb)
    | flip _ ih => exact .flip (ih hb)

/-- What is picked is one of the items. -/
theorem mem_of_yields_pick? {items : List α} {a : α}
    (h : (pick? items).Yields (some a)) : a ∈ items := by
  cases items with
  | nil => cases h
  | cons item rest =>
      rcases h with _ | ⟨-, hnext⟩
      exact List.mem_of_getElem? (yields_done.1 hnext).symm

/-- Of fewer than `2 ^ 32` items each can be picked. -/
theorem yields_pick? {items : List α} {a : α}
    (hlength : items.length < UInt32.size) (h : a ∈ items) :
    (pick? items).Yields (some a) := by
  cases items with
  | nil => cases h
  | cons item rest =>
      obtain ⟨i, hi, rfl⟩ := List.mem_iff_getElem.1 h
      obtain ⟨w, hw⟩ := exists_selects hlength ⟨i, hi⟩
      refine .choose hw (yields_done.2 ?_)
      exact (List.getElem?_eq_getElem hi).symm

/-- Nothing is picked only where there is nothing. -/
theorem eq_nil_of_yields_pick? {items : List α}
    (h : (pick? items).Yields none) : items = [] := by
  cases items with
  | nil => rfl
  | cons item rest =>
      rcases h with _ | @⟨_, _, _, i, _, -, hnext⟩
      have hnone : (item :: rest)[i.val]? = none :=
        (yields_done.1 hnext).symm
      exact absurd i.isLt (Nat.not_lt.2 (List.getElem?_eq_none_iff.1 hnone))

theorem yields_coin (b : Bool) : coin.Yields b := .flip .done

/-- The word 0 selects the first item, however many there are. -/
theorem selects_zero (more : Nat) : Selects more 0 0 := by
  rw [Selects]
  simp

/-- Something comes of every draw. -/
theorem exists_yields (d : Draw α) : ∃ a, d.Yields a := by
  induction d with
  | done value => exact ⟨value, .done⟩
  | choose more next ih =>
      obtain ⟨a, ha⟩ := ih 0
      exact ⟨a, .choose (selects_zero more) ha⟩
  | flip next ih =>
      obtain ⟨a, ha⟩ := ih false
      exact ⟨a, .flip ha⟩

-- ======================================================= one after another

/-- A draw that goes on runs its continuation where its first part has
left the source. -/
theorem run_bind {d : Draw α} {f : α → Draw β} :
    ∀ {s : σ}, (d.bind f).run s
      = (d.run s).bind fun drawn => (f drawn.1).run drawn.2 := by
  induction d with
  | done value => exact rfl
  | choose more next ih =>
      intro s
      rw [bind, run, run]
      split
      · rfl
      · exact ih _
  | flip next ih =>
      intro s
      rw [bind, run, run]
      split
      · rfl
      · exact ih _

end WordGrammar.Draw
