/-
What a compiled rule looks like, whatever has been done to its table.

`Expanded` says in terms of text what every history of calls keeps true of
the compiled rules. This file reads it in the terms of the other parts of
the compiler. To the reader of patterns, text alone is one literal or
nothing (`parse_of_textOnly`), so that reading an alternative of a compiled
rule gives the alternative back. To the walks along references, a compiled
rule is a leaf: it depends on nothing, and there is no work in it
(`dependencies_of_isExpanded`, `workload_of_isExpanded`).
-/
import WordGrammar.Proofs.RuleTable.History

namespace WordGrammar

namespace Pattern

-- ======================================================== text as a pattern

/-- The pattern that is written as a text without references and
parentheses: nothing, or a single literal. -/
def ofText (word : String) : Pattern :=
  if word = "" then .empty else .literal word .empty

theorem isLiteral_ofText (word : String) : (ofText word).isLiteral = true := by
  unfold ofText
  split <;> rfl

theorem print_ofText (word : String) : (ofText word).print = word.toList := by
  unfold ofText
  split
  · next hempty => simp [hempty, print]
  · simp [print]

/-- A character joins the literal that it stands before. -/
theorem consLiteral_ofText (c : Char) (cs : List Char) :
    consLiteral c (ofText (String.ofList cs))
      = ofText (String.ofList (c :: cs)) := by
  cases cs with
  | nil => simp [ofText, consLiteral]
  | cons d cs => simp [ofText, consLiteral]

/-- Text is built into a literal, and no sequence waits outside it. -/
theorem foldr_add_of_isText {cs : List Char} (h : ∀ c ∈ cs, IsText c) :
    cs.foldr Partial.add ⟨.empty, []⟩ = ⟨ofText (String.ofList cs), []⟩ := by
  induction cs with
  | nil => rfl
  | cons c rest ih =>
      have hc : IsText c := h c (List.mem_cons_self ..)
      rw [List.foldr_cons, ih fun d hd => h d (List.mem_cons_of_mem _ hd),
        ← consLiteral_ofText]
      unfold Partial.add
      rw [if_neg hc.not_close, if_neg hc.not_open, hc.not_reference]

/-- Text alone is read as itself. -/
theorem parse_of_textOnly {word : String} (h : TextOnly word) :
    parse word = .ok (ofText word) := by
  rw [parse_of_balanced h.balanced, build, foldr_add_of_isText h,
    String.ofList_toList]

/-- The characters that stand for themselves are all but the capitals and
the parentheses. -/
theorem isText_iff {c : Char} :
    IsText c ↔ c.isUpper = false ∧ c ≠ '(' ∧ c ≠ ')' := by
  constructor
  · rintro ⟨hreference, hopen, hclose⟩
    exact ⟨RuleId.ofChar?_eq_none.1 hreference, hopen, hclose⟩
  · rintro ⟨hupper, hopen, hclose⟩
    exact ⟨RuleId.ofChar?_eq_none.2 hupper, hopen, hclose⟩

end Pattern

namespace RuleTable

variable {table : RuleTable} {id : RuleId} {rule : Rule}

-- ============================================================== leaves

theorem allReferences_of_isExpanded (hget : table.get? id = some rule)
    (h : rule.IsExpanded) : table.allReferences id = [] := by
  refine List.eq_nil_iff_forall_not_mem.2 fun dep hdep => ?_
  exact h.not_refersTo dep ((mem_allReferences hget).1 hdep)

/-- A compiled rule depends on nothing. -/
theorem dependencies_of_isExpanded (hget : table.get? id = some rule)
    (h : rule.IsExpanded) : table.dependencies id = [] := by
  rw [dependencies, allReferences_of_isExpanded hget h]
  rfl

/-- And there is no work in it. -/
theorem workload_of_isExpanded (hget : table.get? id = some rule)
    (h : rule.IsExpanded) : table.workload id = 0 := by
  rw [workload, allReferences_of_isExpanded hget h]
  rfl

-- ========================================================== every history

/-- After any history of calls, the alternatives of a compiled rule are
distinct, and none of them has a capital or a parenthesis in it; each is
read as a pattern that is text alone and written as the alternative. Such
a rule depends on nothing, and its workload is zero. -/
theorem compiled_of_applyAll (operations : List Operation) {id : RuleId}
    {words : List String}
    (hget : (empty.applyAll operations).get? id = some ⟨words, .compiled⟩) :
    words.Nodup
    ∧ (∀ word ∈ words,
        (∀ c ∈ word.toList, c.isUpper = false ∧ c ≠ '(' ∧ c ≠ ')')
        ∧ ∃ p, Pattern.parse word = .ok p ∧ p.isLiteral = true
          ∧ p.print = word.toList)
    ∧ (empty.applyAll operations).dependencies id = []
    ∧ (empty.applyAll operations).workload id = 0 := by
  have hexpanded : Rule.IsExpanded ⟨words, .compiled⟩ :=
    expanded_applyAll operations id words hget
  refine ⟨hexpanded.nodup, fun word hword => ?_,
    dependencies_of_isExpanded hget hexpanded,
    workload_of_isExpanded hget hexpanded⟩
  have htext : Pattern.TextOnly word := hexpanded.textOnly word hword
  exact ⟨fun c hc => Pattern.isText_iff.1 (htext c hc), Pattern.ofText word,
    Pattern.parse_of_textOnly htext, Pattern.isLiteral_ofText word,
    Pattern.print_ofText word⟩

/-- Two patterns of the entry rule that share a word. The entry rule does
not compile before the vowels have; after them it does, and its words are
distinct. -/
theorem compiled_of_applyAll_shared :
    let operations : List Operation := [
      .declare (.named 'V') ["a", "e"], .declare .entry ["pV", "pV(n)"],
      .compile .entry, .compile (.named 'V'), .compile .entry]
    let words := ["pa", "pe", "pan", "pen"]
    (empty.applyAll operations).get? .entry = some ⟨words, .compiled⟩
      ∧ words.Nodup ∧ (empty.applyAll operations).dependencies .entry = [] := by
  intro operations words
  let declared := (empty.declare (.named 'V') ["a", "e"]).declare .entry
    ["pV", "pV(n)"]
  let vowels := declared.insert (.named 'V') ⟨["a", "e"], .compiled⟩
  have hearly : declared.apply (.compile .entry) = declared := by
    have herror : declared.compile .entry = .error
        (.of (.uncompiledReference (.named 'V') "rule W")) := by rfl
    simp only [apply, herror]
  have hvowels : declared.apply (.compile (.named 'V')) = vowels := by
    have hok : declared.compile (.named 'V') = .ok vowels :=
      compile_written ["a", "e"] (by decide) (by decide) (by decide)
        (by decide)
    simp only [apply, hok]
  have hentry : vowels.apply (.compile .entry)
      = vowels.insert .entry ⟨words, .compiled⟩ := by
    have hok : vowels.compile .entry
        = .ok (vowels.insert .entry ⟨words, .compiled⟩) :=
      compile_written ["pV", "pV(n)"] (by decide) (by decide) (by decide)
        (by decide)
    simp only [apply, hok]
  have hafter : empty.applyAll operations
      = vowels.insert .entry ⟨words, .compiled⟩ := by
    change ((declared.apply (.compile .entry)).apply
      (.compile (.named 'V'))).apply (.compile .entry) = _
    rw [hearly, hvowels, hentry]
  have hget : (empty.applyAll operations).get? .entry
      = some ⟨words, .compiled⟩ := by
    rw [hafter, get?_insert, if_pos rfl]
  obtain ⟨hnodup, -, hdependencies, -⟩ := compiled_of_applyAll operations hget
  exact ⟨hget, hnodup, hdependencies⟩

end RuleTable

end WordGrammar
