/-
Grammars whose words stay on one line.

What a line declares stays on that line, whatever the text around it, and
from there on nothing brings in a line end: the words of a pattern are put
together from its text and from words of other rules
(`Pattern.inline_of_spells`), so a table that is compiled still holds no line
end (`RuleTable.IsInline.compileAll`), and neither does its language; a sound
change puts in what its template has (`SoundChange.IsInline.apply`); and the
options only take characters out. So a grammar that compiles holds no line end
(`Grammar.isInline_of_compile`), and no word that it generates has one
(`Generation.inline_of_generate?`).
-/
import WordGrammar.Proofs.Declaration.Print
import WordGrammar.Proofs.Generation.Options
import WordGrammar.Proofs.Morphology.Replacement

namespace WordGrammar

open Text

-- ================================================================= patterns

/-- What a pattern spells stays on one line if it does and what may stand for
its references. -/
theorem Pattern.inline_of_spells {word : RuleId → String → Prop}
    {p : Pattern} {w : String} (h : p.Spells word w)
    (hword : ∀ id v, word id v → Inline v.toList) (hp : Inline p.print) :
    Inline w.toList := by
  -- Along the parts that the word was put together from, each of which is
  -- printed in the pattern.
  induction h with
  | empty => exact inline_nil
  | literal _ ih =>
      obtain ⟨htext, hrest⟩ := inline_append.1 hp
      rw [String.toList_append]
      exact inline_append.2 ⟨htext, ih hrest⟩
  | reference hv _ ih =>
      rw [String.toList_append]
      exact inline_append.2 ⟨hword _ _ hv, ih (inline_cons.1 hp).2⟩
  | kept _ _ ihBody ihRest =>
      obtain ⟨hbody, hrest⟩ := inline_append.1 (inline_cons.1 hp).2
      rw [String.toList_append]
      exact inline_append.2 ⟨ihBody hbody, ihRest (inline_cons.1 hrest).2⟩
  | dropped _ ih =>
      exact ih (inline_cons.1 (inline_append.1 (inline_cons.1 hp).2).2).2

/-- The text of a pattern that is read is all that is written in it. -/
theorem Pattern.inline_of_parse {source : String} {p : Pattern}
    (h : parse source = .ok p) (hsource : Inline source.toList) :
    Inline p.print := by
  obtain ⟨hbal, rfl⟩ := parse_eq_ok_iff.1 h
  rw [print_build hbal]
  exact hsource

-- =================================================================== tables

namespace RuleTable

variable {table : RuleTable}

/-- No rule of the table holds a line end. -/
def IsInline (table : RuleTable) : Prop :=
  ∀ id rule, table.get? id = some rule →
    ∀ source ∈ rule.patterns, Inline source.toList

/-- A table that is declared without line ends holds none. -/
theorem isInline_declareAll {declarations : List (RuleId × List String)}
    (h : ∀ d ∈ declarations, ∀ source ∈ d.2, Inline source.toList) :
    (declareAll declarations).IsInline :=
  fun _ _ hget => h _ (declared_of_get? hget).2

/-- The alternatives of a rule as they stand are without line ends. -/
theorem IsInline.current (h : table.IsInline) (id : RuleId) :
    ∀ source ∈ table.current id, Inline source.toList := by
  intro source hsource
  cases hget : table.get? id with
  | none => simp [RuleTable.current, alternatives?, hget] at hsource
  | some rule =>
      rw [current_of_get? hget] at hsource
      exact h id rule hget source hsource

/-- Compiling a rule puts words in the place of its patterns, which are made
up of text of the table. -/
theorem IsInline.compile (h : table.IsInline) {id : RuleId}
    {after : RuleTable} (hcompile : table.compile id = .ok after) :
    after.IsInline := by
  obtain ⟨rule, hrule, ⟨-, rfl⟩ | ⟨-, -, -, rfl⟩⟩ := compile_cases hcompile
  · exact h
  · intro other rule' hget
    rw [get?_insert] at hget
    split at hget
    · cases hget
      intro w hw
      obtain ⟨source, hsource, p, hp, hw⟩ := Rule.mem_words.1 hw
      exact Pattern.inline_of_spells (Pattern.mem_words_iff.1 hw)
        (fun dep => h.current dep)
        (Pattern.inline_of_parse hp (h id rule hrule source hsource))
    · exact h other rule' hget

/-- So the whole table can be compiled. -/
theorem IsInline.compileAll (h : table.IsInline) :
    table.compileAll.table.IsInline :=
  compileAll_preserves (fun _ _ _ _ h hcompile => h.compile hcompile) h

/-- The language of such a table has no line end. -/
theorem IsInline.languageWithin (h : table.IsInline) {levels : Nat} :
    ∀ {w : String}, table.LanguageWithin levels w → Inline w.toList := by
  induction levels with
  | zero => exact fun h => h.elim
  | succ levels ih =>
      rintro w ⟨source, hsource, p, hp, hspells⟩
      -- What stands for a reference is a word of the next level, or of a
      -- compiled rule.
      refine Pattern.inline_of_spells hspells (fun id v hv => ?_)
        (Pattern.inline_of_parse hp (h.current .entry source hsource))
      unfold Replaces at hv
      split at hv
      · exact ih hv
      · obtain ⟨words, hwords, hv⟩ := hv
        exact h id _ hwords v hv

end RuleTable

-- ============================================================ sound changes

/-- Neither the replacement of the sound change nor its template holds a line
end. -/
structure SoundChange.IsInline (t : SoundChange) : Prop where
  replacement : Inline t.replacement.toList
  template : ∀ c ∈ t.compiled, Inline c.template.toList

namespace SoundChange.IsInline

variable {t after : SoundChange}

/-- The template of a compiled sound change is written with the characters
of its replacement. -/
theorem compile (h : t.IsInline) {table : RuleTable} {owner : String}
    (hcompile : t.compile table owner = .ok after) : after.IsInline := by
  obtain ⟨-, hrun⟩ | ⟨-, e, -, hrun⟩ |
    ⟨expanded, -, -, ⟨message, hrun⟩ | ⟨regex, -, hrun⟩⟩ :=
    t.compile_cases table owner
  · rw [hrun] at hcompile
    cases hcompile
    exact h
  · rw [hrun] at hcompile
    cases hcompile
  · rw [hrun] at hcompile
    cases hcompile
  · rw [hrun] at hcompile
    cases hcompile
    refine ⟨h.replacement, fun c hc => ?_⟩
    cases hc
    rw [String.toList_ofList]
    exact inline_templateOf h.replacement

/-- A word that is changed stays on one line. -/
theorem apply (h : t.IsInline) {word word' : String}
    (hword : Inline word.toList) (happly : t.apply word = .ok word') :
    Inline word'.toList := by
  unfold SoundChange.apply at happly
  split at happly
  · cases happly
  · next c hc =>
      obtain rfl := Except.ok.inj happly
      exact Regex.inline_replaceAll (h.template c hc) hword

end SoundChange.IsInline

namespace Morphology

variable {morphology : Morphology}

/-- Compiling sound changes brings in no line end, also where it stops at
one that fails. -/
theorem isInline_compileFrom {table : RuleTable}
    (h : ∀ t ∈ morphology, t.IsInline) :
    ∀ {index : Nat}, ∀ t ∈ (compileFrom table index morphology).morphology,
      t.IsInline := by
  induction morphology with
  | nil => exact fun t ht => nomatch ht
  | cons t rest ih =>
      intro index
      obtain ⟨hhere, hrest⟩ := List.forall_mem_cons.1 h
      cases ht : t.compile table (owner index t.pattern) with
      | error e =>
          rw [compileFrom_cons_of_error ht]
          exact h
      | ok after =>
          rw [compileFrom_cons_of_ok ht]
          exact List.forall_mem_cons.2 ⟨hhere.compile ht, ih hrest⟩

/-- A word with all sound changes applied stays on one line. -/
theorem inline_changed (h : ∀ t ∈ morphology, t.IsInline)
    {word word' : String} (hword : Inline word.toList)
    (hchanged : morphology.changed word = .ok word') :
    Inline word'.toList := by
  induction morphology generalizing word with
  | nil =>
      cases hchanged
      exact hword
  | cons t rest ih =>
      obtain ⟨hhere, hrest⟩ := List.forall_mem_cons.1 h
      obtain ⟨next, happly, hnext⟩ := of_changed_cons_eq_ok hchanged
      exact ih hrest (hhere.apply hword happly) hnext

end Morphology

-- ================================================================= grammars

/-- Neither the rules of the grammar nor its sound changes hold a line
end. -/
structure Grammar.IsInline (g : Grammar) : Prop where
  rules : g.rules.IsInline
  morphology : ∀ t ∈ g.morphology, t.IsInline

/-- Whatever an accepted text says is well formed. -/
theorem Declaration.wellFormed_of_parse {source : String}
    {declarations : List Declaration}
    (h : parse source = .ok declarations) :
    ∀ statement ∈ statements declarations, statement.WellFormed :=
  (exists_parse_iff.1 ⟨declarations, h, rfl⟩).wellFormed
    (lined_lines _).inline

namespace Grammar

/-- A grammar that compiles holds no line end. -/
theorem isInline_of_compile {source : String} {g : Grammar}
    (h : (compile source).result = .ok g) : g.IsInline := by
  obtain ⟨declarations, hparse, h⟩ := compile_eq_ok_iff.1 h
  obtain ⟨order, -, -, rfl⟩ := ofRecords_eq_ok_iff.1 h
  have hsaid := Declaration.wellFormed_of_parse hparse
  refine ⟨?_, Morphology.isInline_compileFrom ?_⟩
  · rw [tableOf_eq_declareAll, filterMap_declared?]
    refine (RuleTable.isInline_declareAll ?_).compileAll
    intro d hd source hsource c hc
    obtain ⟨statement, hstatement, hdeclared⟩ := List.mem_filterMap.1 hd
    cases statement with
    | rule id patterns =>
        cases hdeclared
        exact not_isLineEnd_of_not_isBlank
          (((hsaid _ hstatement).2 source hsource).not_isBlank c hc)
    | soundChange pattern replacement => cases hdeclared
  · rw [changesOf_eq]
    intro t ht
    obtain ⟨change, hchange, rfl⟩ := List.mem_map.1 ht
    obtain ⟨statement, hstatement, hchanged⟩ := List.mem_filterMap.1 hchange
    cases statement with
    | rule id patterns => cases hchanged
    | soundChange pattern replacement =>
        cases hchanged
        exact ⟨(hsaid _ hstatement).2.1, fun c hc => nomatch hc⟩

/-- A word of one line is changed to a word of one line. -/
theorem IsInline.derive {g : Grammar} (h : g.IsInline)
    {word word' : String} (hword : Inline word.toList)
    (hderive : (g.morphology.derive word).result = .ok word') :
    Inline word'.toList :=
  Morphology.inline_changed h.morphology hword
    (Morphology.result_derive.symm.trans hderive)

end Grammar

namespace Generation

/-- Leaving out syllable marks only shortens a word. -/
theorem inline_stripSyllables {word : String} (h : Inline word.toList) :
    Inline (stripSyllables word).toList := by
  unfold stripSyllables
  rw [String.toList_ofList]
  exact fun c hc => h c (List.mem_filter.1 hc).1

/-- Every word that a grammar generates stays on one line, from any source of
random words and under any options. -/
theorem inline_of_generate? {source : String} {g : Grammar}
    (hcompile : (Grammar.compile source).result = .ok g) {σ : Type}
    [WordSource σ] {s s' : σ} {options : Options} {derivation : Derivation}
    {word : String}
    (hrun : generate? g.rules g.morphology options s = some (derivation, s'))
    (hword : derivation.result = .ok word) : Inline word.toList := by
  have hinline := Grammar.isInline_of_compile hcompile
  cases hdrawn : (drawWord g.rules).run s with
  | none => rw [generate?, hdrawn] at hrun; cases hrun
  | some result =>
      obtain ⟨drawn, rest⟩ := result
      rw [generate?_of_run hdrawn] at hrun
      cases hrun
      cases drawn with
      | error e => cases hword
      | ok drawn =>
          -- A word is drawn from the language of the grammar, and then
          -- changed and stripped.
          have hlanguage : g.rules.Language drawn :=
            languageWithin_of_gives (Draw.yields_of_run hdrawn)
          have hdrawn := hinline.rules.languageWithin hlanguage
          obtain ⟨changed, hchanged, hresult⟩ := finishDrawn_word
            (Grammar.isCompiled_of_compile hcompile) options drawn
          have hinlined : Inline changed.toList := by
            split at hchanged
            · exact Morphology.inline_changed hinline.morphology hdrawn
                hchanged
            · cases hchanged
              exact hdrawn
          rw [hresult] at hword
          cases hword
          split
          · exact hinlined
          · exact inline_stripSyllables hinlined

end Generation

end WordGrammar
