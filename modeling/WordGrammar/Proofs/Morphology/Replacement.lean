/-
What a replacement is made of.

Replacing the matches of an expression puts together parts of the word and of
the template: every character of the outcome stands in one of the two
(`mem_replaceAll`), whatever the expression matches. A template is written
with the characters of the replacement and with the signs of references
(`templateOf_subset`). Neither has a line end, so texts that stay on one line are
replaced by texts that do (`inline_replaceAll`, `inline_templateOf`).
-/
import WordGrammar.Proofs.Morphology.Template

namespace WordGrammar

open Text (Inline isLineEnd)

namespace Regex

variable {c : Char}

-- ============================================================= templates

/-- A dollar sign that is a character stands for itself. -/
theorem eq_of_dollarPiece {rest : List Char}
    (h : (dollarPiece rest).1 = .character c) : c = '$' := by
  unfold dollarPiece at h
  split at h
  · cases h; rfl
  · dsimp only at h
    split at h
    · cases h
    · cases h; rfl
  · dsimp only at h
    split at h
    · cases h; rfl
    · cases h

/-- The characters among the pieces of a template stand in it. -/
theorem mem_templatePieces {cs : List Char}
    (h : .character c ∈ templatePieces cs) : c ∈ cs := by
  induction cs using templatePieces.induct with
  | case1 => rw [templatePieces] at h; cases h
  -- a dollar sign opens a reference, or stands for itself
  | case2 rest piece used hpiece ih =>
      rw [templatePieces, if_pos rfl, hpiece] at h
      rcases List.mem_cons.1 h with hhere | hafter
      · have hdollar : (dollarPiece rest).1 = .character c := by
          rw [hpiece, hhere]
        exact eq_of_dollarPiece hdollar ▸ List.mem_cons_self ..
      · exact List.mem_cons_of_mem _ (List.mem_of_mem_drop (ih hafter))
  -- any other character
  | case3 d rest hd ih =>
      rw [templatePieces, if_neg hd] at h
      rcases List.mem_cons.1 h with hhere | hafter
      · cases hhere
        exact List.mem_cons_self ..
      · exact List.mem_cons_of_mem _ (ih hafter)

/-- A filled template consists of its own characters and of captured text.
-/
theorem mem_fillTemplate {pieces : List TemplatePiece}
    {captured : CaptureName → List Char}
    (h : c ∈ fillTemplate pieces captured) :
    .character c ∈ pieces ∨ ∃ name, c ∈ captured name := by
  obtain ⟨piece, hpiece, hc⟩ := List.mem_flatMap.1 h
  cases piece with
  | character d =>
      obtain rfl := List.mem_singleton.1 hc
      exact .inl hpiece
  | capture name => exact .inr ⟨name, hc⟩

-- ============================================================ replacement

theorem mem_slice {text : Array Char} {first last : Nat}
    (h : c ∈ slice text first last) : c ∈ text.toList := by
  rw [slice, Array.toList_extract] at h
  exact List.mem_of_mem_drop (List.mem_of_mem_take h)

/-- What a group has captured is a part of the text. -/
theorem mem_captured {regex : Regex} {text : Array Char} {m : Match}
    {name : CaptureName} (h : c ∈ regex.captured text m name) :
    c ∈ text.toList := by
  unfold captured at h
  split at h
  · exact mem_slice h
  · cases h

/-- Replacing puts together parts of the word and of the template. -/
theorem mem_replaceAll {regex : Regex} {template word : String}
    (h : c ∈ (regex.replaceAll template word).toList) :
    c ∈ word.toList ∨ c ∈ template.toList := by
  rw [replaceAll, String.toList_ofList] at h
  rcases List.mem_append.1 h with hreplaced | hrest
  · obtain ⟨⟨start, m⟩, -, hc⟩ := List.mem_flatMap.1 hreplaced
    rcases List.mem_append.1 hc with hbefore | hfilled
    · exact .inl (mem_slice hbefore)
    · rcases mem_fillTemplate hfilled with hpiece | ⟨name, hcaptured⟩
      · exact .inr (mem_templatePieces hpiece)
      · exact .inl (mem_captured hcaptured)
  · exact .inl (mem_slice hrest)

/-- Replacing in a text of one line leaves one line, if the template is one.
-/
theorem inline_replaceAll {regex : Regex} {template word : String}
    (htemplate : Inline template.toList) (hword : Inline word.toList) :
    Inline (regex.replaceAll template word).toList :=
  fun c hc => (mem_replaceAll hc).elim (hword c) (htemplate c)

end Regex

-- ========================================================= from replacements

/-- The characters that a template has of its own: those that references are
written with. -/
def templateSigns : List Char := ['$', '\x7b', '\x7d', '0']

/-- A reference is written with its name and the signs for it. -/
theorem templateReference_subset (name : List Char) :
    templateReference name ⊆ name ++ templateSigns := by
  refine List.append_subset.2 ⟨List.append_subset.2 ⟨?_, ?_⟩, ?_⟩
  · exact List.subset_append_of_subset_right _ (by decide)
  · exact List.subset_append_left _ _
  · exact List.subset_append_of_subset_right _ (by decide)

/-- What an escape becomes is written with its own characters and the signs
of references, and the text after it goes on. -/
theorem templateOf_subset_of_opens {cs rest : List Char}
    {piece : ReplacementPiece} (h : ReplacementPiece.Opens cs piece rest)
    (hrest : templateOf rest ⊆ rest ++ templateSigns) :
    templateOf cs ⊆ cs ++ templateSigns := by
  have hreference : ∀ {name : List Char}, name ⊆ cs ++ templateSigns →
      templateReference name ⊆ cs ++ templateSigns :=
    fun hname => List.Subset.trans (templateReference_subset _)
      (List.append_subset.2 ⟨hname, List.subset_append_right _ _⟩)
  have hafter : rest ⊆ cs → templateOf rest ⊆ cs ++ templateSigns :=
    fun hsubset => List.Subset.trans hrest (List.append_subset.2
      ⟨List.subset_append_of_subset_left _ hsubset,
        List.subset_append_right _ _⟩)
  cases h with
  | group hdigit =>
      rw [templateOf_group hdigit]
      exact List.append_subset.2 ⟨hreference (by simp), hafter (by simp)⟩
  | wholeMatch =>
      rw [templateOf_wholeMatch]
      exact List.append_subset.2
        ⟨hreference (by simp [templateSigns]), hafter (by simp)⟩
  | backslash =>
      rw [templateOf_backslash]
      exact List.cons_subset.2 ⟨by simp, hafter (by simp)⟩
  | named hne hname =>
      rw [templateOf_named hne hname]
      exact List.append_subset.2 ⟨hreference fun _ hc => by simp [hc],
        hafter fun _ hc => by simp [hc]⟩

/-- A template is written with the characters of its replacement and those of
references. -/
theorem templateOf_subset (cs : List Char) :
    templateOf cs ⊆ cs ++ templateSigns := by
  obtain ⟨pieces, hreads⟩ := ReplacementPiece.exists_reads cs
  induction hreads with
  | nil =>
      rw [templateOf]
      exact List.nil_subset _
  | escape hopens _ ih => exact templateOf_subset_of_opens hopens ih
  | @character c cs _ hnone _ ih =>
      rw [ReplacementPiece.templateOf_of_not_opens hnone]
      refine List.append_subset.2 ⟨?_, ?_⟩
      · split
        · simp [templateSigns]
        · simp
      · exact List.subset_cons_of_subset _ ih

/-- The template of a replacement of one line is one line. -/
theorem inline_templateOf {cs : List Char} (h : Inline cs) :
    Inline (templateOf cs) := by
  have hsigns : Inline templateSigns := by decide
  exact fun c hc =>
    (List.mem_append.1 (templateOf_subset cs hc)).elim (h c) (hsigns c)

end WordGrammar
