/-
Compiling one rule.

`compile_cases` says when a rule compiles and to what: a compiled rule is
left alone; a raw one needs every pattern balanced and every rule it
refers to compiled, and becomes the distinct words of its patterns over
the current words of those rules (`compile_raw`). `compile_malformed` says
what can still go wrong once the rules it refers to are compiled. Nothing
after this file opens `compile`.

`Expanded` is the invariant of every table there is: what is compiled
holds distinct words that are text alone. A compiled rule therefore
refers to nothing and is balanced, and a run of the compiler never has to
tell compiled rules from raw ones when it looks for references and
patterns.
-/
import WordGrammar.Proofs.Pattern.Words
import WordGrammar.Proofs.RuleTable.References
import WordGrammar.RuleTable.Compile

namespace WordGrammar

open Pattern (Balanced TextOnly readWords)

-- ======================================================= distinct words

/-- Going on from the words kept so far drops those and what repeats. -/
theorem keepUnseen_eq {words : List String} :
    ∀ {seen : Std.HashSet String} {kept : List String},
      (∀ w, w ∈ seen ↔ w ∈ kept) →
      keepUnseen seen kept words
        = kept.reverse ++ (words.filter (· ∉ kept)).eraseDups := by
  induction words with
  | nil => intro seen kept _; simp [keepUnseen]
  | cons word rest ih =>
      intro seen kept h
      rw [keepUnseen]
      -- The set and the list of kept words have the same members
      -- throughout.
      by_cases hword : word ∈ kept
      · rw [if_pos (Std.HashSet.contains_iff_mem.2 ((h word).2 hword)),
          ih h, List.filter_cons_of_neg (by simpa using hword)]
      · have hseen : ∀ w, w ∈ seen.insert word ↔ w ∈ word :: kept := by
          intro w
          rw [Std.HashSet.mem_insert, List.mem_cons, h w, beq_iff_eq,
            eq_comm]
        rw [if_neg (by
            rw [Std.HashSet.contains_iff_mem, h word]; exact hword),
          ih hseen, List.filter_cons_of_pos (by simpa using hword),
          List.eraseDups_cons, List.filter_filter]
        simp only [List.reverse_cons, List.append_assoc,
          List.singleton_append]
        congr 4
        funext w
        by_cases hw : w = word <;> simp [hw]

/-- The distinct words are the first occurrences, in order. -/
theorem distinctWords_eq (words : List String) :
    distinctWords words = words.eraseDups := by
  rw [distinctWords, keepUnseen_eq (by simp)]
  simp

/-- Keeping first occurrences keeps every word once. -/
theorem nodup_eraseDups (words : List String) :
    words.eraseDups.Nodup := by
  cases words with
  | nil => exact List.nodup_nil
  | cons word rest =>
      rw [List.eraseDups_cons, List.nodup_cons]
      refine ⟨fun hmem => ?_, nodup_eraseDups _⟩
      simp [List.mem_eraseDups] at hmem
termination_by words.length
decreasing_by
  have := List.length_filter_le (fun w => !w == word) rest
  simp only [List.length_cons]
  omega

-- ================================================================ rules

/-- The distinct words that a rule's alternatives stand for. -/
def Rule.words (rule : Rule) (of : RuleId → List String) : List String :=
  (rule.patterns.flatMap (readWords of)).eraseDups

/-- Every alternative of the rule is balanced. -/
def Rule.IsBalanced (rule : Rule) : Prop :=
  ∀ source ∈ rule.patterns, Balanced source

instance (rule : Rule) : Decidable rule.IsBalanced :=
  inferInstanceAs (Decidable (∀ source ∈ rule.patterns, Balanced source))

/-- The alternatives are distinct words that are text alone. -/
structure Rule.IsExpanded (rule : Rule) : Prop where
  nodup : rule.patterns.Nodup
  textOnly : ∀ word ∈ rule.patterns, TextOnly word

namespace Rule

/-- The words of a rule depend on those of its references alone. -/
theorem words_congr {rule : Rule} {f g : RuleId → List String}
    (h : ∀ dep, rule.RefersTo dep → f dep = g dep) :
    rule.words f = rule.words g := by
  unfold words
  congr 1
  rw [List.flatMap_def, List.flatMap_def]
  congr 1
  refine List.map_congr_left fun source hsource => ?_
  exact Pattern.readWords_congr fun dep hdep => h dep ⟨source, hsource, hdep⟩

/-- The words of a rule are those of its patterns that can be read. -/
theorem mem_words {rule : Rule} {of : RuleId → List String} {w : String} :
    w ∈ rule.words of ↔ ∃ source ∈ rule.patterns, ∃ p,
      Pattern.parse source = .ok p ∧ w ∈ p.words of := by
  rw [words, List.mem_eraseDups, List.mem_flatMap]
  refine exists_congr fun source => and_congr_right fun _ => ?_
  rw [readWords]
  cases Pattern.parse source <;> simp

/-- The words of a balanced rule are text alone if those of its
references are. -/
theorem isExpanded_words {rule : Rule} {of : RuleId → List String}
    (hbal : rule.IsBalanced)
    (h : ∀ dep, rule.RefersTo dep → ∀ w ∈ of dep, TextOnly w) :
    Rule.IsExpanded ⟨rule.words of, .compiled⟩ where
  nodup := nodup_eraseDups _
  textOnly := by
    intro word hword
    obtain ⟨source, hsource, hin⟩ :=
      List.mem_flatMap.1 (List.mem_eraseDups.1 hword)
    have hbal := hbal source hsource
    rw [Pattern.readWords_of_balanced hbal] at hin
    refine Pattern.textOnly_of_mem_words (Pattern.isPlain_build hbal)
      (fun dep hdep => ?_) word hin
    rw [Pattern.references_build hbal] at hdep
    exact h dep ⟨source, hsource, hdep⟩

/-- A balanced rule that has a pattern has a word if each of its
references has. -/
theorem words_ne_nil {rule : Rule} {of : RuleId → List String}
    (hsome : rule.patterns ≠ []) (hbal : rule.IsBalanced)
    (h : ∀ dep, rule.RefersTo dep → of dep ≠ []) : rule.words of ≠ [] := by
  obtain ⟨source, hsource⟩ := List.exists_mem_of_ne_nil _ hsome
  have hne : readWords of source ≠ [] := by
    rw [Pattern.readWords_of_balanced (hbal source hsource)]
    refine Pattern.words_ne_nil fun dep hdep => ?_
    rw [Pattern.references_build (hbal source hsource)] at hdep
    exact h dep ⟨source, hsource, hdep⟩
  obtain ⟨word, hword⟩ := List.exists_mem_of_ne_nil _ hne
  exact List.ne_nil_of_mem
    (List.mem_eraseDups.2 (List.mem_flatMap.2 ⟨source, hsource, hword⟩))

/-- A compiled rule would pass the check of its patterns again. -/
theorem IsExpanded.isBalanced {rule : Rule} (h : rule.IsExpanded) :
    rule.IsBalanced :=
  fun source hsource => (h.textOnly source hsource).balanced

/-- A compiled rule refers to nothing: no word of it has a capital. -/
theorem IsExpanded.not_refersTo {rule : Rule} (h : rule.IsExpanded)
    (dep : RuleId) : ¬ rule.RefersTo dep := by
  rintro ⟨source, hsource, hdep⟩
  rw [(h.textOnly source hsource).referencesOf] at hdep
  cases hdep

end Rule

namespace RuleTable

variable {table : RuleTable}

-- ============================================================ look-ups

/-- What the table holds for a rule now, patterns or words. -/
def current (table : RuleTable) (id : RuleId) : List String :=
  (table.alternatives? id).getD []

theorem current_of_get? {id : RuleId} {rule : Rule}
    (h : table.get? id = some rule) : table.current id = rule.patterns := by
  rw [current, alternatives?, h]
  rfl

/-- A rule is compiled if the table has words for it. -/
theorem isCompiled_iff {id : RuleId} :
    table.isCompiled id = true
      ↔ ∃ words, table.get? id = some ⟨words, .compiled⟩ := by
  unfold isCompiled
  cases hget : table.get? id with
  | none => simp
  | some rule =>
      cases rule with
      | mk patterns state => cases state <;> simp [Rule.isCompiled]

/-- A rule can be substituted exactly if it is compiled. -/
theorem substitute_eq_ok_iff {owner : String} {dep : RuleId}
    {words : List String} :
    table.substitute owner dep = .ok words
      ↔ table.get? dep = some ⟨words, .compiled⟩ := by
  unfold substitute
  cases hget : table.get? dep with
  | none => simp
  | some rule =>
      cases rule with
      | mk patterns state =>
          cases state with
          | raw =>
              cases dep.isEntry <;> simp [Rule.isCompiled]
          | compiled => simp [Rule.isCompiled]

/-- The words put for a compiled rule are those that it has now. -/
theorem substitute_of_isCompiled {owner : String} {dep : RuleId}
    (h : table.isCompiled dep = true) :
    table.substitute owner dep = .ok (table.current dep) := by
  obtain ⟨words, hget⟩ := isCompiled_iff.1 h
  rw [substitute_eq_ok_iff, current_of_get? hget, hget]

-- =========================================================== expanding

/-- A balanced pattern whose references are compiled expands to its
words. -/
theorem expandSource_eq_ok {owner source : String}
    (hbal : Balanced source)
    (hdeps : ∀ dep ∈ referencesOf source, table.isCompiled dep = true) :
    table.expandSource owner source
      = .ok (readWords table.current source) := by
  rw [expandSource, Pattern.parse_of_balanced hbal,
    Pattern.readWords_of_balanced hbal]
  refine Pattern.expand_eq_ok fun dep hdep => ?_
  rw [Pattern.references_build hbal] at hdep
  exact substitute_of_isCompiled (hdeps dep hdep)

/-- Only a balanced pattern whose references are compiled expands. -/
theorem of_expandSource_eq_ok {owner source : String}
    {words : List String} (h : table.expandSource owner source = .ok words) :
    Balanced source
      ∧ ∀ dep ∈ referencesOf source, table.isCompiled dep = true := by
  by_cases hbal : Balanced source
  · rw [expandSource, Pattern.parse_of_balanced hbal] at h
    refine ⟨hbal, fun dep hdep => ?_⟩
    rw [← Pattern.references_build hbal] at hdep
    obtain ⟨ds, hds⟩ := Pattern.lookup_of_expand_ok h dep hdep
    exact isCompiled_iff.2 ⟨ds, substitute_eq_ok_iff.1 hds⟩
  · obtain ⟨offset, message, hparse⟩ := Pattern.parse_of_not_balanced hbal
    rw [expandSource, hparse] at h
    cases h

/-- Balanced patterns whose references are compiled expand one after the
other. -/
theorem expandSources_eq_ok {owner : String} {sources : List String}
    (hbal : ∀ source ∈ sources, Balanced source)
    (hdeps : ∀ source ∈ sources, ∀ dep ∈ referencesOf source,
      table.isCompiled dep = true) :
    table.expandSources owner sources
      = .ok (sources.flatMap (readWords table.current)) := by
  induction sources with
  | nil => rfl
  | cons source rest ih =>
      rw [expandSources,
        expandSource_eq_ok (hbal source (List.mem_cons_self ..))
          (hdeps source (List.mem_cons_self ..)),
        ih (fun s hs => hbal s (List.mem_cons_of_mem _ hs))
          (fun s hs => hdeps s (List.mem_cons_of_mem _ hs))]
      rfl

/-- Only balanced patterns whose references are compiled all expand. -/
theorem of_expandSources_eq_ok {owner : String} {sources : List String}
    {words : List String}
    (h : table.expandSources owner sources = .ok words) :
    ∀ source ∈ sources, Balanced source
      ∧ ∀ dep ∈ referencesOf source, table.isCompiled dep = true := by
  induction sources generalizing words with
  | nil => intro source hsource; cases hsource
  | cons first rest ih =>
      rw [expandSources] at h
      cases hfirst : table.expandSource owner first with
      | error e => rw [hfirst] at h; cases h
      | ok here =>
          cases hrest : table.expandSources owner rest with
          | error e => rw [hfirst, hrest] at h; cases h
          | ok after =>
              intro source hsource
              rcases List.mem_cons.1 hsource with rfl | hsource
              · exact of_expandSource_eq_ok hfirst
              · exact ih hrest source hsource

/-- If all references are compiled, only a malformed group can stop the
expansion. -/
theorem expandSources_malformed {owner : String} {sources : List String}
    (hdeps : ∀ source ∈ sources, ∀ dep ∈ referencesOf source,
      table.isCompiled dep = true)
    (hbad : ∃ source ∈ sources, ¬ Balanced source) :
    ∃ source offset message, table.expandSources owner sources
      = .error (.of (.malformedGroup source offset message)) := by
  induction sources with
  | nil => obtain ⟨source, hsource, -⟩ := hbad; cases hsource
  | cons first rest ih =>
      rw [expandSources]
      by_cases hfirst : Balanced first
      · obtain ⟨source, hsource, hbal⟩ := hbad
        have hin : source ∈ rest := by
          rcases List.mem_cons.1 hsource with rfl | hin
          · exact absurd hfirst hbal
          · exact hin
        obtain ⟨source, offset, message, hrest⟩ :=
          ih (fun s hs => hdeps s (List.mem_cons_of_mem _ hs))
            ⟨source, hin, hbal⟩
        rw [expandSource_eq_ok hfirst
          (hdeps first (List.mem_cons_self ..)), hrest]
        exact ⟨source, offset, message, rfl⟩
      · obtain ⟨offset, message, hparse⟩ :=
          Pattern.parse_of_not_balanced hfirst
        rw [expandSource, hparse]
        exact ⟨first, offset, message, rfl⟩

-- ==================================================== compiling a rule

theorem compile_of_isCompiled {id : RuleId}
    (h : table.isCompiled id = true) : table.compile id = .ok table := by
  obtain ⟨words, hget⟩ := isCompiled_iff.1 h
  rw [compile, hget]
  rfl

/-- A raw rule whose patterns are balanced and whose references are
compiled becomes its words. -/
theorem compile_raw {id : RuleId} {rule : Rule}
    (hget : table.get? id = some rule) (hraw : rule.state = .raw)
    (hbal : rule.IsBalanced)
    (hdeps : ∀ dep, rule.RefersTo dep → table.isCompiled dep = true) :
    table.compile id
      = .ok (table.insert id ⟨rule.words table.current, .compiled⟩) := by
  have hnot : rule.isCompiled = false := by simp [Rule.isCompiled, hraw]
  rw [compile, hget]
  dsimp only
  rw [hnot, expandSources_eq_ok hbal fun source hsource dep hdep =>
    hdeps dep ⟨source, hsource, hdep⟩]
  simp only [Rule.words, ← distinctWords_eq]
  rfl

/-- A raw rule written out: what it refers to is checked pattern by
pattern, and `words` are its words. -/
theorem compile_written {id : RuleId} {words : List String}
    (sources : List String)
    (hget : table.get? id = some ⟨sources, .raw⟩)
    (hbal : Rule.IsBalanced ⟨sources, .raw⟩)
    (hdeps : ∀ source ∈ sources, ∀ dep ∈ referencesOf source,
      table.isCompiled dep = true)
    (hwords : Rule.words ⟨sources, .raw⟩ table.current = words) :
    table.compile id = .ok (table.insert id ⟨words, .compiled⟩) := by
  rw [← hwords]
  exact compile_raw hget rfl hbal fun dep ⟨source, hsource, hdep⟩ =>
    hdeps source hsource dep hdep

/-- What a successful compilation of a rule has found and done. -/
theorem compile_cases {id : RuleId} {after : RuleTable}
    (h : table.compile id = .ok after) :
    ∃ rule, table.get? id = some rule
      ∧ ((rule.state = .compiled ∧ after = table)
        ∨ (rule.state = .raw ∧ rule.IsBalanced
          ∧ (∀ dep, rule.RefersTo dep → table.isCompiled dep = true)
          ∧ after = table.insert id
              ⟨rule.words table.current, .compiled⟩)) := by
  cases hget : table.get? id with
  | none => rw [compile, hget] at h; cases h
  | some rule =>
      refine ⟨rule, rfl, ?_⟩
      -- A raw rule compiles only by the way of `compile_raw`, all of whose
      -- conditions can be read off the outcome.
      cases hstate : rule.state with
      | compiled =>
          have hcompiled : table.isCompiled id = true := by
            rw [isCompiled, hget]
            simp [Rule.isCompiled, hstate]
          rw [compile_of_isCompiled hcompiled] at h
          cases h
          exact .inl ⟨rfl, rfl⟩
      | raw =>
          right
          cases hwords : table.expandSources id.owner rule.patterns with
          | error e =>
              rw [compile, hget] at h
              simp only [Rule.isCompiled, hstate, hwords] at h
              cases h
          | ok words =>
              have hall := of_expandSources_eq_ok hwords
              have hbal : rule.IsBalanced := fun s hs => (hall s hs).1
              have hdeps : ∀ dep, rule.RefersTo dep →
                  table.isCompiled dep = true := by
                rintro dep ⟨s, hs, hdep⟩
                exact (hall s hs).2 dep hdep
              rw [compile_raw hget hstate hbal hdeps] at h
              cases h
              exact ⟨rfl, hbal, hdeps, rfl⟩

/-- If the rules it refers to are compiled, a rule that does not compile
has a malformed group. -/
theorem compile_malformed {id : RuleId} {rule : Rule}
    (hget : table.get? id = some rule) (hraw : rule.state = .raw)
    (hdeps : ∀ dep, rule.RefersTo dep → table.isCompiled dep = true)
    (hbad : ¬ rule.IsBalanced) :
    ∃ source offset message, table.compile id
      = .error (.of (.malformedGroup source offset message)) := by
  have hnot : rule.isCompiled = false := by simp [Rule.isCompiled, hraw]
  have hexists : ∃ source ∈ rule.patterns, ¬ Balanced source := by
    simpa [Rule.IsBalanced] using hbad
  obtain ⟨source, offset, message, herror⟩ :=
    @expandSources_malformed table id.owner rule.patterns
      (fun s hs dep hdep => hdeps dep ⟨s, hs, hdep⟩) hexists
  refine ⟨source, offset, message, ?_⟩
  rw [compile, hget]
  dsimp only
  rw [hnot, herror]
  rfl

/-- Compiling a rule leaves the other rules alone. -/
theorem get?_of_compile {id other : RuleId} {after : RuleTable}
    (h : table.compile id = .ok after) (hne : other ≠ id) :
    after.get? other = table.get? other := by
  obtain ⟨rule, -, ⟨-, rfl⟩ | ⟨-, -, -, rfl⟩⟩ := compile_cases h
  · rfl
  · rw [get?_insert, if_neg hne]

/-- A rule that has been compiled is compiled. -/
theorem isCompiled_of_compile {id : RuleId} {after : RuleTable}
    (h : table.compile id = .ok after) : after.isCompiled id = true := by
  obtain ⟨rule, hget, ⟨hstate, rfl⟩ | ⟨-, -, -, rfl⟩⟩ := compile_cases h
  · cases rule
    obtain rfl := hstate
    exact isCompiled_iff.2 ⟨_, hget⟩
  · exact isCompiled_iff.2 ⟨_, by rw [get?_insert, if_pos rfl]⟩

/-- Compiling a rule declares none. -/
theorem contains_of_compile {id other : RuleId} {after : RuleTable}
    (h : table.compile id = .ok after) :
    after.contains other = table.contains other := by
  by_cases hne : other = id
  · subst hne
    obtain ⟨rule, hget, -⟩ := compile_cases h
    obtain ⟨words, hafter⟩ := isCompiled_iff.1 (isCompiled_of_compile h)
    rw [contains, contains, hget, hafter]
    rfl
  · rw [contains, contains, get?_of_compile h hne]

-- ========================================================== the invariant

/-- Every compiled rule of the table holds distinct words that are text
alone. -/
def Expanded (table : RuleTable) : Prop :=
  ∀ id words, table.get? id = some ⟨words, .compiled⟩ →
    Rule.IsExpanded ⟨words, .compiled⟩

theorem expanded_empty : empty.Expanded := by
  intro id words h
  simp at h

/-- A declared rule is raw, so nothing is asked of it. -/
theorem Expanded.declare (h : table.Expanded) (id : RuleId)
    (patterns : List String) : (table.declare id patterns).Expanded := by
  intro other words hget
  rw [RuleTable.declare, get?_insert] at hget
  split at hget
  · cases hget
  · exact h other words hget

/-- A rule is compiled to distinct words, and these are made up of text and
of words of compiled rules. -/
theorem Expanded.compile {id : RuleId} {after : RuleTable}
    (h : table.Expanded) (hcompile : table.compile id = .ok after) :
    after.Expanded := by
  obtain ⟨rule, -, ⟨-, rfl⟩ | ⟨-, hbal, hdeps, rfl⟩⟩ :=
    compile_cases hcompile
  · exact h
  · intro other words hget
    rw [get?_insert] at hget
    split at hget
    · cases hget
      refine Rule.isExpanded_words hbal fun dep hdep w hw => ?_
      obtain ⟨words, hdep⟩ := isCompiled_iff.1 (hdeps dep hdep)
      rw [current_of_get? hdep] at hw
      exact (h dep words hdep).textOnly w hw
    · exact h other words hget

end RuleTable

end WordGrammar
