/-
Where the markers of a pattern stand, and what takes their place.

A marker is a joiner that is directly followed by a capital (`markerAt?`). If
an odd number of backslashes stands before the joiner, the last of them belongs
to the marker. Both are questions about positions of the source; nothing is
said of a scan. `replaced` gives every position what it contributes: the
joiner of a marker the alternatives of its rule, the letter and the backslash
of a marker nothing, and every other position its own character.

# Where a step of the scan starts

`replaceMarkersWith` walks over the source in strides of one to three
characters. It never starts in the middle of a run of backslashes at an odd
place, nor on the letter of a marker; from such a start the rest of the source
contributes what it would contribute alone (`IsStart.replacedAt_append`). So
the strides add up (`IsStart.replaced_append`), and the scan is the rule about
positions (`replaceMarkersWith_eq`). The markers come up from left to right, whence the
error is that of the leftmost one whose rule cannot be substituted:
`replaceMarkers_outcome`.
-/
import WordGrammar.Morphology.Marker
import WordGrammar.Proofs.RuleTable.Compile
import WordGrammar.Proofs.Text.Lines

namespace WordGrammar

-- ============================================================== positions

/-- The marker whose joiner stands at a position. -/
def markerAt? (source : List Char) (i : Nat) : Option Marker :=
  match source.drop i with
  | '|' :: letter :: _ => (RuleId.ofChar? letter).map .choice
  | '&' :: letter :: _ => (RuleId.ofChar? letter).map .sequence
  | _ => none

/-- The markers of a source, from left to right. -/
def markersOf (source : List Char) : List Marker :=
  (List.range source.length).filterMap (markerAt? source)

/-- How many backslashes stand directly before a position. -/
def slashesBefore (source : List Char) (i : Nat) : Nat :=
  ((source.take i).reverse.takeWhile (· = '\\')).length

/-- The position holds the letter of a marker, or the backslash that belongs
to one. -/
def IsInMarker (source : List Char) (i : Nat) : Prop :=
  (0 < i ∧ (markerAt? source (i - 1)).isSome = true)
    ∨ ((markerAt? source (i + 1)).isSome = true
      ∧ slashesBefore source (i + 1) % 2 = 1)

instance (source : List Char) (i : Nat) : Decidable (IsInMarker source i) :=
  inferInstanceAs (Decidable (_ ∨ _))

/-- A choice between escaped alternatives, or all of them in a row. -/
def Marker.expansion (words : RuleId → List String) : Marker → List Char
  | choice id =>
      ['|'].intercalate ((words id).map fun w => Regex.escapeText w.toList)
  | sequence id => (words id).flatMap fun w => Regex.escapeText w.toList

/-- What a position of the source contributes to the expanded pattern. -/
def replacedAt (words : RuleId → List String) (source : List Char)
    (i : Nat) : List Char :=
  match markerAt? source i with
  | some marker => marker.expansion words
  | none => if IsInMarker source i then [] else source[i]?.toList

/-- The source with each marker replaced and every other character in its
place. -/
def replaced (words : RuleId → List String) (source : List Char) :
    List Char :=
  (List.range source.length).flatMap (replacedAt words source)

variable {words : RuleId → List String}

/-- What the scan writes for a marker. -/
theorem Marker.replacement_eq (marker : Marker) :
    marker.replacement (words marker.id) = marker.expansion words := by
  cases marker with
  | choice id => rfl
  | sequence id =>
      have hjoined : ∀ texts : List (List Char),
          [].intercalate texts = texts.flatten := by
        intro texts
        induction texts with
        | nil => rfl
        | cons text texts ih =>
            cases texts with
            | nil => simp
            | cons next texts =>
                rw [List.intercalate_cons_cons, ih, List.append_nil]
                rfl
      rw [expansion, List.flatMap_def]
      exact hjoined _

/-- A source starts with a marker if its first two characters make one. -/
theorem markerAt?_zero (joiner letter : Char) (rest : List Char) :
    markerAt? (joiner :: letter :: rest) 0
      = Marker.ofChars? joiner letter := by
  unfold markerAt? Marker.ofChars?
  rw [List.drop_zero]
  by_cases hbar : joiner = '|'
  · subst hbar
    cases hletter : RuleId.ofChar? letter <;> simp [hletter]
  · by_cases hand : joiner = '&'
    · subst hand
      cases hletter : RuleId.ofChar? letter <;> simp [hletter]
    · cases RuleId.ofChar? letter <;> simp [hbar, hand]

/-- A position in the rest of a source has the marker that the rest has
there. -/
theorem markerAt?_append (before rest : List Char) (i : Nat) :
    markerAt? (before ++ rest) (before.length + i) = markerAt? rest i := by
  have hdrop : (before ++ rest).drop (before.length + i) = rest.drop i := by
    rw [← List.drop_drop, List.drop_left]
  unfold markerAt?
  rw [hdrop]

/-- A source without markers stays as it is. -/
theorem replaced_of_markersOf_eq_nil {source : List Char}
    (h : markersOf source = []) : replaced words source = source := by
  have hnone : ∀ i, markerAt? source i = none := by
    intro i
    by_cases hi : i < source.length
    · exact List.filterMap_eq_nil_iff.1 h i (List.mem_range.2 hi)
    · unfold markerAt?
      rw [List.drop_eq_nil_of_le (Nat.le_of_not_lt hi)]
  have hself : replacedAt words source = fun i => source[i]?.toList := by
    funext i
    unfold replacedAt IsInMarker
    simp [hnone]
  rw [replaced, hself]
  -- What is left is a fact about lists: the characters at all positions are
  -- the text.
  clear h hnone hself
  induction source with
  | nil => rfl
  | cons c source ih =>
      rw [List.length_cons, List.range_succ_eq_map, List.flatMap_cons,
        List.flatMap_map]
      simp only [List.getElem?_cons_succ, ih]
      rfl

-- ================================================================ strides

/-- After an even number of backslashes, runs of backslashes in the rest of a
source keep their parity. -/
theorem slashesBefore_append {before : List Char} (rest : List Char) (i : Nat)
    (heven : slashesBefore before before.length % 2 = 0) :
    slashesBefore (before ++ rest) (before.length + i) % 2
      = slashesBefore rest i % 2 := by
  unfold slashesBefore at heven ⊢
  rw [List.take_length] at heven
  rw [List.take_length_add_append, List.reverse_append, List.takeWhile_append]
  -- The run before the position either goes on into `before`, which adds an
  -- even number, or ends in the rest.
  split
  · next hall =>
      rw [List.length_append, hall]
      omega
  · rfl

/-- The scan may start after `before`: an even number of backslashes comes to
its end there, and no marker goes across. -/
structure IsStart (before rest : List Char) : Prop where
  even : slashesBefore before before.length % 2 = 0
  apart : before = []
    ∨ markerAt? (before ++ rest) (before.length - 1) = none

/-- From a start of the scan on, a position is in a marker if it is in one
of the rest: the character before it is not a joiner, and the backslashes
before it do not count. -/
theorem IsStart.isInMarker_iff {before rest : List Char}
    (h : IsStart before rest) (i : Nat) :
    IsInMarker (before ++ rest) (before.length + i)
      ↔ IsInMarker rest i := by
  unfold IsInMarker
  rw [Nat.add_assoc, markerAt?_append, slashesBefore_append rest _ h.even]
  refine or_congr ?_ Iff.rfl
  cases i with
  | zero =>
      constructor
      · intro hletter
        obtain ⟨hpos, hmarker⟩ := hletter
        rcases h.apart with rfl | hnone
        · exact absurd hpos (by simp)
        · rw [Nat.add_zero, hnone] at hmarker
          cases hmarker
      · intro hletter
        exact absurd hletter.1 (by simp)
  | succ i =>
      rw [← Nat.add_assoc, Nat.add_sub_cancel, markerAt?_append,
        Nat.add_sub_cancel]
      simp

/-- From a start of the scan on, the rest of a source contributes what it
contributes alone. -/
theorem IsStart.replacedAt_append {before rest : List Char}
    (h : IsStart before rest) (i : Nat) :
    replacedAt words (before ++ rest) (before.length + i)
      = replacedAt words rest i := by
  unfold replacedAt
  rw [markerAt?_append,
    List.getElem?_append_right (Nat.le_add_right before.length i),
    Nat.add_sub_cancel_left]
  cases markerAt? rest i with
  | some marker => rfl
  | none => simp only [h.isInMarker_iff]

/-- The strides add up: what stands before a start contributes by itself. -/
theorem IsStart.replaced_append {before rest : List Char}
    (h : IsStart before rest) :
    replaced words (before ++ rest)
      = (List.range before.length).flatMap
          (replacedAt words (before ++ rest)) ++ replaced words rest := by
  unfold replaced
  rw [List.length_append, List.range_add, List.flatMap_append,
    List.flatMap_map]
  simp only [h.replacedAt_append]

/-- The markers of a text are those whose joiner is in its first part, and
those of the rest. -/
theorem markersOf_append (before rest : List Char) :
    markersOf (before ++ rest)
      = (List.range before.length).filterMap (markerAt? (before ++ rest))
        ++ markersOf rest := by
  unfold markersOf
  rw [List.length_append, List.range_add, List.filterMap_append,
    List.filterMap_map]
  congr 2
  funext i
  exact markerAt?_append before rest i

-- A stride over a marker, with and without its backslash, and a stride over
-- text: two characters if the first is a backslash, else one.

variable {joiner letter : Char} {rest : List Char} {marker : Marker}

/-- A marker is a joiner and a capital. -/
theorem Marker.of_ofChars? (h : ofChars? joiner letter = some marker) :
    (joiner = '|' ∨ joiner = '&') ∧ letter.isUpper = true := by
  unfold ofChars? at h
  cases hletter : RuleId.ofChar? letter with
  | none => rw [hletter] at h; cases h
  | some id =>
      rw [hletter] at h
      refine ⟨?_, RuleId.ofChar?_eq_some.1 hletter ▸ id.isCapital⟩
      by_cases hbar : joiner = '|'
      · exact .inl hbar
      · by_cases hand : joiner = '&'
        · exact .inr hand
        · simp [hbar, hand] at h

/-- Only a joiner starts a marker. -/
theorem markerAt?_zero_of_ne {c : Char} (hbar : c ≠ '|') (hand : c ≠ '&') :
    markerAt? (c :: rest) 0 = none := by
  cases rest with
  | nil =>
      unfold markerAt?
      simp
  | cons d rest =>
      cases hmarker : Marker.ofChars? c d with
      | none => rw [markerAt?_zero, hmarker]
      | some marker =>
          rcases (Marker.of_ofChars? hmarker).1 with rfl | rfl
          · exact absurd rfl hbar
          · exact absurd rfl hand

/-- A capital is neither a joiner nor a backslash. -/
theorem ne_of_isUpper (h : letter.isUpper = true) :
    letter ≠ '|' ∧ letter ≠ '&' ∧ letter ≠ '\\' := by
  refine ⟨?_, ?_, ?_⟩
  all_goals
    intro heq
    subst heq
    cases h

/-- A stride over a marker: it contributes its expansion, and its letter
nothing. -/
theorem replaced_marker (h : Marker.ofChars? joiner letter = some marker) :
    markersOf (joiner :: letter :: rest) = marker :: markersOf rest
      ∧ replaced words (joiner :: letter :: rest)
        = marker.expansion words ++ replaced words rest := by
  obtain ⟨hbar, hand, hslash⟩ := ne_of_isUpper (Marker.of_ofChars? h).2
  have hjoiner : markerAt? ([joiner, letter] ++ rest) 0 = some marker :=
    (markerAt?_zero _ _ _).trans h
  have hletter : markerAt? ([joiner, letter] ++ rest) 1 = none :=
    (markerAt?_append [joiner] (letter :: rest) 0).trans
      (markerAt?_zero_of_ne hbar hand)
  have hstart : IsStart [joiner, letter] rest := by
    refine ⟨?_, .inr hletter⟩
    unfold slashesBefore
    simp [hslash]
  have hcovered : IsInMarker ([joiner, letter] ++ rest) 1 :=
    .inl ⟨Nat.one_pos, by rw [hjoiner]; rfl⟩
  constructor
  · refine (markersOf_append [joiner, letter] rest).trans ?_
    show ([0, 1] : List Nat).filterMap _ ++ _ = _
    rw [List.filterMap_cons_some hjoiner, List.filterMap_cons_none hletter]
    rfl
  · refine hstart.replaced_append.trans ?_
    show ([0, 1] : List Nat).flatMap _ ++ _ = _
    simp only [List.flatMap_cons, replacedAt, hjoiner, hletter,
      if_pos hcovered]
    simp

/-- A stride over a marker with its backslash, which contributes nothing
either. -/
theorem replaced_slash_marker
    (h : Marker.ofChars? joiner letter = some marker) :
    markersOf ('\\' :: joiner :: letter :: rest) = marker :: markersOf rest
      ∧ replaced words ('\\' :: joiner :: letter :: rest)
        = marker.expansion words ++ replaced words rest := by
  obtain ⟨hbar, hand, hslash⟩ := ne_of_isUpper (Marker.of_ofChars? h).2
  have hbackslash : markerAt? (['\\', joiner, letter] ++ rest) 0 = none :=
    markerAt?_zero_of_ne (by decide) (by decide)
  have hjoiner : markerAt? (['\\', joiner, letter] ++ rest) 1
      = some marker :=
    (markerAt?_append ['\\'] (joiner :: letter :: rest) 0).trans
      ((markerAt?_zero _ _ _).trans h)
  have hletter : markerAt? (['\\', joiner, letter] ++ rest) 2 = none :=
    (markerAt?_append ['\\', joiner] (letter :: rest) 0).trans
      (markerAt?_zero_of_ne hbar hand)
  have hstart : IsStart ['\\', joiner, letter] rest := by
    refine ⟨?_, .inr hletter⟩
    unfold slashesBefore
    simp [hslash]
  have hescape : IsInMarker (['\\', joiner, letter] ++ rest) 0 :=
    .inr ⟨by rw [hjoiner]; rfl, rfl⟩
  have hcovered : IsInMarker (['\\', joiner, letter] ++ rest) 2 :=
    .inl ⟨Nat.two_pos, by rw [hjoiner]; rfl⟩
  constructor
  · refine (markersOf_append ['\\', joiner, letter] rest).trans ?_
    show ([0, 1, 2] : List Nat).filterMap _ ++ _ = _
    rw [List.filterMap_cons_none hbackslash,
      List.filterMap_cons_some hjoiner, List.filterMap_cons_none hletter]
    rfl
  · refine hstart.replaced_append.trans ?_
    show ([0, 1, 2] : List Nat).flatMap _ ++ _ = _
    simp only [List.flatMap_cons, replacedAt, hbackslash, hjoiner, hletter,
      if_pos hescape, if_pos hcovered]
    simp

/-- A stride over one character that is text. -/
theorem replaced_character (h : Marker.ofChars? joiner letter = none)
    (hslash : joiner ≠ '\\') :
    markersOf (joiner :: letter :: rest) = markersOf (letter :: rest)
      ∧ replaced words (joiner :: letter :: rest)
        = joiner :: replaced words (letter :: rest) := by
  have hjoiner : markerAt? ([joiner] ++ letter :: rest) 0 = none :=
    (markerAt?_zero _ _ _).trans h
  have hstart : IsStart [joiner] (letter :: rest) := by
    refine ⟨?_, .inr hjoiner⟩
    unfold slashesBefore
    simp [hslash]
  have hapart : ¬ IsInMarker ([joiner] ++ letter :: rest) 0 := by
    intro hin
    cases hin with
    | inl hletter => exact absurd hletter.1 (Nat.lt_irrefl 0)
    | inr hescape =>
        have hodd := hescape.2
        unfold slashesBefore at hodd
        simp [hslash] at hodd
  constructor
  · refine (markersOf_append [joiner] (letter :: rest)).trans ?_
    show ([0] : List Nat).filterMap _ ++ _ = _
    rw [List.filterMap_cons_none hjoiner]
    rfl
  · refine hstart.replaced_append.trans ?_
    show ([0] : List Nat).flatMap _ ++ _ = _
    simp only [List.flatMap_cons, replacedAt, hjoiner, if_neg hapart]
    rfl

/-- A stride over a backslash and a character that it does not make part of
a marker. It matters that both are passed: were the second one a backslash,
the next start would come in the middle of a run. -/
theorem replaced_slash_character
    (h : Marker.ofChars? joiner letter = none) :
    markersOf ('\\' :: joiner :: letter :: rest) = markersOf (letter :: rest)
      ∧ replaced words ('\\' :: joiner :: letter :: rest)
        = '\\' :: joiner :: replaced words (letter :: rest) := by
  have hbackslash : markerAt? (['\\', joiner] ++ letter :: rest) 0 = none :=
    markerAt?_zero_of_ne (by decide) (by decide)
  have hjoiner : markerAt? (['\\', joiner] ++ letter :: rest) 1 = none :=
    (markerAt?_append ['\\'] (joiner :: letter :: rest) 0).trans
      ((markerAt?_zero _ _ _).trans h)
  have heven : ∀ l : List Char,
      slashesBefore (['\\', joiner] ++ l) 2 % 2 = 0 := by
    intro l
    unfold slashesBefore
    by_cases hslash : joiner = '\\' <;> simp [hslash]
  have hstart : IsStart ['\\', joiner] (letter :: rest) :=
    ⟨heven [], .inr hjoiner⟩
  have hescape : ¬ IsInMarker (['\\', joiner] ++ letter :: rest) 0 := by
    intro hin
    cases hin with
    | inl hletter => exact absurd hletter.1 (Nat.lt_irrefl 0)
    | inr hescape =>
        rw [hjoiner] at hescape
        cases hescape.1
  have hapart : ¬ IsInMarker (['\\', joiner] ++ letter :: rest) 1 := by
    intro hin
    cases hin with
    | inl hletter =>
        rw [hbackslash] at hletter
        cases hletter.2
    | inr hescape =>
        rw [heven] at hescape
        cases hescape.2
  constructor
  · refine (markersOf_append ['\\', joiner] (letter :: rest)).trans ?_
    show ([0, 1] : List Nat).filterMap _ ++ _ = _
    rw [List.filterMap_cons_none hbackslash,
      List.filterMap_cons_none hjoiner]
    rfl
  · refine hstart.replaced_append.trans ?_
    show ([0, 1] : List Nat).flatMap _ ++ _ = _
    simp only [List.flatMap_cons, replacedAt, hbackslash, hjoiner,
      if_neg hescape, if_neg hapart]
    rfl

-- =============================================================== the scan

/-- Why the rule of a marker cannot be substituted, if it cannot. -/
def Marker.refusal? (substitute : RuleId → Except Error (List String))
    (marker : Marker) : Option Error :=
  match substitute marker.id with
  | .error e => some e
  | .ok _ => none

/-- A marker is not refused if its rule can be substituted. -/
theorem Marker.refusal?_eq_none_iff
    {substitute : RuleId → Except Error (List String)} :
    marker.refusal? substitute = none
      ↔ ∃ found, substitute marker.id = .ok found := by
  unfold refusal?
  cases substitute marker.id <;> simp

/-- A refusal is the error of substituting. -/
theorem Marker.refusal?_eq_some_iff
    {substitute : RuleId → Except Error (List String)} {e : Error} :
    marker.refusal? substitute = some e
      ↔ substitute marker.id = .error e := by
  unfold refusal?
  cases substitute marker.id <;> simp

/-- What comes of a scan over some markers that writes a text: the first
refusal if there is one. -/
def unlessRefused (substitute : RuleId → Except Error (List String))
    (markers : List Marker) (text : List Char) : Except Error (List Char) :=
  match markers.findSome? (Marker.refusal? substitute) with
  | some e => .error e
  | none => .ok text

/-- A marker more on the left. Its own refusal comes first. -/
theorem unlessRefused_cons
    {substitute : RuleId → Except Error (List String)}
    (hwords : ∀ id found, substitute id = .ok found → words id = found)
    (marker : Marker) (markers : List Marker) (text : List Char) :
    (do
        let alternatives ← substitute marker.id
        let after ← unlessRefused substitute markers text
        .ok (marker.replacement alternatives ++ after))
      = unlessRefused substitute (marker :: markers)
          (marker.expansion words ++ text) := by
  unfold unlessRefused
  rw [List.findSome?_cons]
  cases hfound : substitute marker.id with
  | error e =>
      rw [Marker.refusal?_eq_some_iff.2 hfound]
      rfl
  | ok found =>
      rw [Marker.refusal?_eq_none_iff.2 ⟨found, hfound⟩,
        ← hwords marker.id found hfound, ← Marker.replacement_eq]
      cases markers.findSome? (Marker.refusal? substitute) <;> rfl

/-- Text on the left is not refused. -/
theorem unlessRefused_append
    {substitute : RuleId → Except Error (List String)}
    (markers : List Marker) (before text : List Char) :
    (do
        let after ← unlessRefused substitute markers text
        .ok (before ++ after))
      = unlessRefused substitute markers (before ++ text) := by
  unfold unlessRefused
  cases markers.findSome? (Marker.refusal? substitute) <;> rfl

/-- One character does not make a marker. -/
theorem markersOf_short {source : List Char} (h : source.length ≤ 1) :
    markersOf source = [] := by
  match source, h with
  | [], _ => rfl
  | [c], _ =>
      have hnone : markerAt? [c] 0 = none := by
        unfold markerAt?
        simp
      show ([0] : List Nat).filterMap _ = []
      rw [List.filterMap_cons_none hnone]
      rfl

/-- Two characters that are not a marker have none. -/
theorem markersOf_pair (h : Marker.ofChars? joiner letter = none) :
    markersOf [joiner, letter] = [] := by
  have hjoiner : markerAt? ([joiner] ++ [letter]) 0 = none :=
    (markerAt?_zero _ _ _).trans h
  refine (markersOf_append [joiner] [letter]).trans ?_
  show ([0] : List Nat).filterMap _ ++ _ = _
  rw [List.filterMap_cons_none hjoiner, markersOf_short (by simp)]
  rfl

/-- The scan replaces every marker, unless it comes to one that is refused:
then the first refusal is its result. -/
theorem replaceMarkersWith_eq
    {substitute : RuleId → Except Error (List String)}
    (hwords : ∀ id found, substitute id = .ok found → words id = found)
    (source : List Char) :
    replaceMarkersWith substitute source
      = unlessRefused substitute (markersOf source)
          (replaced words source) := by
  induction source using replaceMarkersWith.induct with
  -- a backslash and a marker after it
  | case1 joiner letter rest marker hmarker ih =>
      obtain ⟨hmarkers, htext⟩ :=
        @replaced_slash_marker words _ _ rest _ hmarker
      rw [replaceMarkersWith, hmarker, hmarkers, htext, ih]
      exact unlessRefused_cons hwords _ _ _
  -- a backslash and two other characters
  | case2 joiner letter rest hmarker ih =>
      obtain ⟨hmarkers, htext⟩ :=
        @replaced_slash_character words _ _ rest hmarker
      rw [replaceMarkersWith, hmarker, hmarkers, htext, ih]
      exact unlessRefused_append _ ['\\', joiner] _
  -- a marker
  | case3 joiner letter rest hslash marker hmarker ih =>
      obtain ⟨hmarkers, htext⟩ := @replaced_marker words _ _ rest _ hmarker
      rw [replaceMarkersWith, hmarker, hmarkers, htext, ih]
      · exact unlessRefused_cons hwords _ _ _
      · exact hslash
  -- two other characters, the first of which is passed
  | case4 joiner letter rest hslash hmarker ih =>
      have htext : markersOf (joiner :: letter :: rest)
            = markersOf (letter :: rest)
          ∧ replaced words (joiner :: letter :: rest)
            = joiner :: replaced words (letter :: rest) := by
        by_cases hjoiner : joiner = '\\'
        · -- a backslash as the last character but one
          cases rest with
          | cons c rest => exact (hslash c rest hjoiner rfl).elim
          | nil =>
              have hpair := markersOf_pair hmarker
              have hshort : markersOf [letter] = [] :=
                markersOf_short (by simp)
              rw [hpair, hshort, replaced_of_markersOf_eq_nil hpair,
                replaced_of_markersOf_eq_nil hshort]
              exact ⟨rfl, rfl⟩
        · exact replaced_character hmarker hjoiner
      rw [replaceMarkersWith, hmarker, htext.1, htext.2, ih]
      · exact unlessRefused_append _ [joiner] _
      · exact hslash
  -- at most one character is left
  | case5 short hthree htwo =>
      have hshort : short.length ≤ 1 := by
        match short with
        | [] => exact Nat.zero_le 1
        | [c] => exact Nat.le_refl 1
        | a :: b :: rest => exact absurd rfl (htwo a b rest)
      rw [replaceMarkersWith, markersOf_short hshort,
        replaced_of_markersOf_eq_nil (markersOf_short hshort)]
      · rfl
      · exact hthree
      · exact htwo

/-- The scan of a pattern, with the rules of the table. -/
theorem replaceMarkers_eq (table : RuleTable) (owner source : String) :
    replaceMarkers table owner source
      = match (markersOf source.toList).findSome?
            (Marker.refusal? (table.substitute owner)) with
        | some e => .error e
        | none =>
            .ok (String.ofList (replaced table.current source.toList)) := by
  have hwords : ∀ id found, table.substitute owner id = .ok found →
      table.current id = found := fun id found hfound =>
    RuleTable.current_of_get? (RuleTable.substitute_eq_ok_iff.1 hfound)
  rw [replaceMarkers, replaceMarkersWith_eq hwords, unlessRefused]
  cases (markersOf source.toList).findSome?
      (Marker.refusal? (table.substitute owner)) with
  | none => rfl
  | some e => rfl

/-- Replacing markers fails only if some rule cannot be substituted. -/
theorem exists_substitute_of_replaceMarkers {table : RuleTable}
    {owner source : String} {e : Error}
    (h : replaceMarkers table owner source = .error e) :
    ∃ id, table.substitute owner id = .error e := by
  rw [replaceMarkers_eq] at h
  cases hrefused : (markersOf source.toList).findSome?
      (Marker.refusal? (table.substitute owner)) with
  | none =>
      rw [hrefused] at h
      cases h
  | some refusal =>
      rw [hrefused] at h
      cases h
      obtain ⟨marker, -, hmarker⟩ := List.exists_of_findSome?_eq_some hrefused
      exact ⟨marker.id, Marker.refusal?_eq_some_iff.1 hmarker⟩

/-- Replacing the markers of a pattern replaces every marker by the current
alternatives of its rule and touches nothing else, if every rule can be
substituted; else it reports the leftmost marker whose rule cannot be. A
pattern without markers is left as it is. -/
theorem replaceMarkers_outcome (table : RuleTable) (owner source : String) :
    (((∀ marker ∈ markersOf source.toList, ∃ found,
            table.substitute owner marker.id = .ok found)
        ∧ replaceMarkers table owner source
          = .ok (String.ofList (replaced table.current source.toList)))
      ∨ ∃ before marker after e,
          markersOf source.toList = before ++ marker :: after
            ∧ (∀ earlier ∈ before, ∃ found,
              table.substitute owner earlier.id = .ok found)
            ∧ table.substitute owner marker.id = .error e
            ∧ replaceMarkers table owner source = .error e)
      ∧ (markersOf source.toList = [] →
        replaceMarkers table owner source = .ok source) := by
  rw [replaceMarkers_eq]
  constructor
  · cases hrefused : (markersOf source.toList).findSome?
        (Marker.refusal? (table.substitute owner)) with
    | none =>
        refine .inl ⟨fun marker hmarker => ?_, rfl⟩
        exact Marker.refusal?_eq_none_iff.1
          (List.findSome?_eq_none_iff.1 hrefused marker hmarker)
    | some e =>
        obtain ⟨before, marker, after, hsplit, hmarker, hearlier⟩ :=
          List.findSome?_eq_some_iff.1 hrefused
        exact .inr ⟨before, marker, after, e, hsplit, fun earlier hmem =>
          Marker.refusal?_eq_none_iff.1 (hearlier earlier hmem),
          Marker.refusal?_eq_some_iff.1 hmarker, rfl⟩
  · intro hnone
    rw [hnone, List.findSome?_nil, replaced_of_markersOf_eq_nil hnone]
    show Except.ok (String.ofList source.toList) = _
    rw [String.ofList_toList]

/-- One backslash goes with its marker, and of two none does; a joiner in
front of a small letter is text. -/
example : replaced (fun _ => ["a", "."]) "\\|V\\\\|V&V|v".toList
    = "a|\\.\\\\a|\\.a\\.|v".toList := by decide

end WordGrammar
