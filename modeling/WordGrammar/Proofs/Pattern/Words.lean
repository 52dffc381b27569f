/-
The words a pattern stands for.

`words` is the meaning of a pattern when the words of every rule are
known: the product of its parts, in the order of pairs, where the first
component varies slowest; an optional part stands for the words of its body
and then for nothing. It has no look-up that could fail, and nothing of the
way in which words are put together (`concatWords_eq`). `expand_eq_ok` and
`lookup_of_expand_ok` together say that expanding a pattern succeeds
exactly if every reference can be looked up, also where an earlier part
has no words at all, and that it then computes `words`.

`Spells` says the same of a single word, part by part and without lists:
`mem_words_iff` is the bridge that the random walk through a pattern is
compared over.
-/
import Mathlib.Data.List.ProdSigma
import WordGrammar.Pattern.Expand
import WordGrammar.Proofs.Pattern.Reading

namespace WordGrammar

/-- Putting words together goes through their pairs in order. -/
theorem concatWords_eq (left right : List String) :
    concatWords left right = (left ×ˢ right).map fun (v, w) => v ++ w := by
  show _ = (left.flatMap fun v => right.map (Prod.mk v)).map _
  rw [List.map_flatMap]
  simp only [List.map_map]
  rfl

/-- A word put together from a pair has its two parts in the lists. -/
theorem mem_map_product {left right : List String} {word : String} :
    word ∈ (left ×ˢ right).map (fun (v, w) => v ++ w)
      ↔ ∃ v ∈ left, ∃ w ∈ right, v ++ w = word := by
  simp [List.mem_product, and_assoc]

/-- Words that are put together from two lists are there if both lists have
some. -/
theorem map_product_ne_nil {left right : List String} (hl : left ≠ [])
    (hr : right ≠ []) :
    (left ×ˢ right).map (fun (v, w) => v ++ w) ≠ [] := by
  obtain ⟨v, hv⟩ := List.exists_mem_of_ne_nil left hl
  obtain ⟨w, hw⟩ := List.exists_mem_of_ne_nil right hr
  exact List.ne_nil_of_mem (mem_map_product.2 ⟨v, hv, w, hw, rfl⟩)

namespace Pattern

-- ================================================================ words

/-- The words a pattern stands for, in order, if a rule stands for the
words that `of` gives it. -/
def words (of : RuleId → List String) : Pattern → List String
  | empty => [""]
  | literal text rest => (rest.words of).map (text ++ ·)
  | reference id rest => (of id ×ˢ rest.words of).map fun (v, w) => v ++ w
  | optional body rest =>
      ((body.words of ++ [""]) ×ˢ rest.words of).map fun (v, w) => v ++ w

/-- The words of a pattern depend on those of its references alone. -/
theorem words_congr {f g : RuleId → List String} {p : Pattern}
    (h : ∀ dep ∈ p.references, f dep = g dep) : p.words f = p.words g := by
  -- Along the pattern, whose references are those of its parts.
  induction p with
  | empty => rfl
  | literal text rest ih => rw [words, words, ih h]
  | reference id rest ih =>
      rw [words, words, h id (List.mem_cons_self ..),
        ih fun dep hdep => h dep (List.mem_cons_of_mem _ hdep)]
  | optional body rest ihBody ihRest =>
      rw [words, words,
        ihBody fun dep hdep => h dep (List.mem_append_left _ hdep),
        ihRest fun dep hdep => h dep (List.mem_append_right _ hdep)]

/-- A pattern stands for some word if each of its references does. -/
theorem words_ne_nil {of : RuleId → List String} {p : Pattern}
    (h : ∀ dep ∈ p.references, of dep ≠ []) : p.words of ≠ [] := by
  induction p with
  | empty => simp [words]
  | literal text rest ih => simpa [words] using ih h
  | reference id rest ih =>
      exact map_product_ne_nil (h id (List.mem_cons_self ..))
        (ih fun dep hdep => h dep (List.mem_cons_of_mem _ hdep))
  | optional body rest ihBody ihRest =>
      exact map_product_ne_nil (by simp)
        (ihRest fun dep hdep => h dep (List.mem_append_right _ hdep))

/-- The words of a plain pattern are text alone if those of its
references are. -/
theorem textOnly_of_mem_words {of : RuleId → List String} {p : Pattern}
    (hp : p.IsPlain)
    (h : ∀ dep ∈ p.references, ∀ w ∈ of dep, TextOnly w) :
    ∀ w ∈ p.words of, TextOnly w := by
  induction p with
  | empty =>
      intro w hw
      rw [words, List.mem_singleton] at hw
      exact hw ▸ textOnly_empty
  | literal text rest ih =>
      intro w hw
      obtain ⟨v, hv, rfl⟩ := List.mem_map.1 hw
      exact hp.1.append (ih hp.2 h v hv)
  | reference id rest ih =>
      intro w hw
      obtain ⟨a, ha, b, hb, rfl⟩ := mem_map_product.1 hw
      exact (h id (List.mem_cons_self ..) a ha).append
        (ih hp (fun dep hdep => h dep (List.mem_cons_of_mem _ hdep)) b hb)
  | optional body rest ihBody ihRest =>
      intro w hw
      obtain ⟨a, ha, b, hb, rfl⟩ := mem_map_product.1 hw
      have hb' := ihRest hp.2
        (fun dep hdep => h dep (List.mem_append_right _ hdep)) b hb
      -- An optional part gives a word of its body or the empty word.
      rcases List.mem_append.1 ha with ha | ha
      · exact (ihBody hp.1
          (fun dep hdep => h dep (List.mem_append_left _ hdep)) a ha).append
          hb'
      · rw [List.mem_singleton] at ha
        exact (ha ▸ textOnly_empty).append hb'

/-- The words that a written pattern stands for; none if it cannot be
read. -/
def readWords (of : RuleId → List String) (source : String) :
    List String :=
  match parse source with
  | .ok p => p.words of
  | .error _ => []

/-- A balanced text stands for the words of what is built of it. -/
theorem readWords_of_balanced {of : RuleId → List String}
    {source : String} (h : Balanced source) :
    readWords of source = (build source.toList).words of := by
  rw [readWords, parse_of_balanced h]

/-- Written patterns too depend on the words of their references alone. -/
theorem readWords_congr {f g : RuleId → List String} {source : String}
    (h : ∀ dep ∈ referencesOf source, f dep = g dep) :
    readWords f source = readWords g source := by
  unfold readWords
  cases hparse : parse source with
  | error e => rfl
  | ok p =>
      obtain ⟨hbal, rfl⟩ := parse_eq_ok_iff.1 hparse
      rw [← references_build hbal] at h
      exact words_congr h

-- ============================================================ expanding

/-- Expanding computes the words if every reference can be looked up. -/
theorem expand_eq_ok {lookup : RuleId → Except Error (List String)}
    {of : RuleId → List String} {p : Pattern}
    (h : ∀ dep ∈ p.references, lookup dep = .ok (of dep)) :
    p.expand lookup = .ok (p.words of) := by
  induction p with
  | empty => rfl
  | literal text rest ih =>
      rw [expand, ih h]
      rfl
  | reference id rest ih =>
      rw [expand, h id (List.mem_cons_self ..),
        ih fun dep hdep => h dep (List.mem_cons_of_mem _ hdep), words,
        ← concatWords_eq]
      rfl
  | optional body rest ihBody ihRest =>
      rw [expand,
        ihBody fun dep hdep => h dep (List.mem_append_left _ hdep),
        ihRest fun dep hdep => h dep (List.mem_append_right _ hdep), words,
        ← concatWords_eq]
      rfl

/-- Expanding succeeds only if every reference can be looked up. -/
theorem lookup_of_expand_ok {lookup : RuleId → Except Error (List String)}
    {p : Pattern} {ws : List String} (h : p.expand lookup = .ok ws) :
    ∀ dep ∈ p.references, ∃ ds, lookup dep = .ok ds := by
  -- Each part is expanded before the words are put together, whether or not
  -- any come of it; so each look-up must have been made.
  induction p generalizing ws with
  | empty => intro dep hdep; cases hdep
  | literal text rest ih =>
      cases hrest : rest.expand lookup with
      | error e => rw [expand, hrest] at h; cases h
      | ok after => exact ih hrest
  | reference id rest ih =>
      cases hid : lookup id with
      | error e => rw [expand, hid] at h; cases h
      | ok here =>
          cases hrest : rest.expand lookup with
          | error e => rw [expand, hid, hrest] at h; cases h
          | ok after =>
              intro dep hdep
              rcases List.mem_cons.1 hdep with rfl | hdep
              · exact ⟨here, hid⟩
              · exact ih hrest dep hdep
  | optional body rest ihBody ihRest =>
      cases hbody : body.expand lookup with
      | error e => rw [expand, hbody] at h; cases h
      | ok here =>
          cases hrest : rest.expand lookup with
          | error e => rw [expand, hbody, hrest] at h; cases h
          | ok after =>
              intro dep hdep
              rcases List.mem_append.1 hdep with hdep | hdep
              · exact ihBody hbody dep hdep
              · exact ihRest hrest dep hdep

-- ============================================================= spelling

/-- `p.Spells word w`: the word `w` is put together from the parts of
`p`, a reference to a rule giving any `v` with `word id v`, and an
optional part a word of its body or nothing. -/
inductive Spells (word : RuleId → String → Prop) :
    Pattern → String → Prop
  | empty : Spells word empty ""
  | literal {text : String} {rest : Pattern} {w : String} :
      Spells word rest w → Spells word (literal text rest) (text ++ w)
  | reference {id : RuleId} {rest : Pattern} {v w : String} :
      word id v → Spells word rest w →
      Spells word (reference id rest) (v ++ w)
  | kept {body rest : Pattern} {v w : String} :
      Spells word body v → Spells word rest w →
      Spells word (optional body rest) (v ++ w)
  | dropped {body rest : Pattern} {w : String} :
      Spells word rest w → Spells word (optional body rest) w

/-- What a pattern spells depends on what its references stand for
alone. -/
theorem Spells.mono {word word' : RuleId → String → Prop} {p : Pattern}
    {w : String} (h : p.Spells word w)
    (hword : ∀ dep ∈ p.references, ∀ v, word dep v → word' dep v) :
    p.Spells word' w := by
  induction h with
  | empty => exact .empty
  | literal _ ih => exact .literal (ih hword)
  | reference hv _ ih =>
      exact .reference (hword _ (List.mem_cons_self ..) _ hv)
        (ih fun dep hdep => hword dep (List.mem_cons_of_mem _ hdep))
  | kept _ _ ihBody ihRest =>
      exact .kept
        (ihBody fun dep hdep => hword dep (List.mem_append_left _ hdep))
        (ihRest fun dep hdep => hword dep (List.mem_append_right _ hdep))
  | dropped _ ih =>
      exact .dropped
        (ih fun dep hdep => hword dep (List.mem_append_right _ hdep))

/-- The words of a pattern are those it spells. -/
theorem mem_words_iff {of : RuleId → List String} {p : Pattern} :
    ∀ {w : String},
      w ∈ p.words of ↔ p.Spells (fun id v => v ∈ of id) w := by
  induction p with
  | empty =>
      intro w
      rw [words, List.mem_singleton]
      exact ⟨fun h => h ▸ .empty, fun h => by cases h; rfl⟩
  | literal text rest ih =>
      intro w
      rw [words, List.mem_map]
      constructor
      · rintro ⟨v, hv, rfl⟩
        exact .literal (ih.1 hv)
      · rintro (_ | hrest)
        exact ⟨_, ih.2 hrest, rfl⟩
  | reference id rest ih =>
      intro w
      rw [words, mem_map_product]
      constructor
      · rintro ⟨a, ha, b, hb, rfl⟩
        exact .reference ha (ih.1 hb)
      · intro h
        cases h with
        | reference hid hrest => exact ⟨_, hid, _, ih.2 hrest, rfl⟩
  | optional body rest ihBody ihRest =>
      intro w
      rw [words, mem_map_product]
      constructor
      · rintro ⟨a, ha, b, hb, rfl⟩
        rcases List.mem_append.1 ha with ha | ha
        · exact .kept (ihBody.1 ha) (ihRest.1 hb)
        · obtain rfl := List.mem_singleton.1 ha
          rw [String.empty_append]
          -- The empty word came from leaving the part out.
          exact .dropped (ihRest.1 hb)
      · intro h
        cases h with
        | kept hbody hrest =>
            exact ⟨_, List.mem_append_left _ (ihBody.2 hbody), _,
              ihRest.2 hrest, rfl⟩
        | dropped hrest =>
            exact ⟨"", by simp, w, ihRest.2 hrest, by simp⟩

end Pattern

end WordGrammar
