/-
What generators make.

The words that a generator makes are followed up to the first failure
(`Generator.Makes`); what one who asks for a number of them gets is read off
that series. Taking words asks for a number of them (`take_of_makes`), the
endless stream shows them one by one (`untilFailure_words`), and so do calls
that are passed nothing but the random words (`words_eq_callEach`). Words
taken in two goes are those taken in one (`take_add`).
-/
import WordGrammar.Generator

namespace WordGrammar

-- ================================================================= series

/-- Words in the order in which they are made, and the failure of the word
after them, if it comes to that. -/
structure Series where
  words : List String
  failure? : Option Error

namespace Series

/-- Whether a series is what comes of asking for `count` words: all of them,
or fewer and a failure. -/
def Fills (series : Series) (count : Nat) : Prop :=
  match series.failure? with
  | none => series.words.length = count
  | some _ => series.words.length < count

/-- What one gets who asks for the first `count` words. -/
def result (series : Series) (count : Nat) : Except Error (List String) :=
  if count ≤ series.words.length then .ok (series.words.take count)
  else match series.failure? with
    | none => .ok series.words
    | some e => .error e

/-- The words and then the failure, one by one. -/
def items (series : Series) : List (Except Error String) :=
  series.words.map .ok ++ (series.failure?.map .error).toList

/-- The series with a word in front. -/
def cons (word : String) (series : Series) : Series :=
  { series with words := word :: series.words }

/-- A word in front answers for one word asked for. -/
theorem fills_cons {word : String} {series : Series} {count : Nat} :
    (series.cons word).Fills (count + 1) ↔ series.Fills count := by
  cases hfailure : series.failure? with
  | none => simp only [Fills, cons, hfailure, List.length_cons,
      Nat.add_right_cancel_iff]
  | some e => simp only [Fills, cons, hfailure, List.length_cons,
      Nat.add_lt_add_iff_right]

/-- No series with a word comes of asking for none. -/
theorem not_fills_cons_zero {word : String} {series : Series} :
    ¬(series.cons word).Fills 0 := by
  cases hfailure : series.failure? with
  | none => simp [Fills, cons, hfailure]
  | some e => simp [Fills, cons, hfailure]

theorem result_zero {series : Series} : series.result 0 = .ok [] :=
  if_pos (Nat.zero_le _)

/-- A word in front is the first that one gets. -/
theorem result_cons {word : String} {series : Series} {count : Nat} :
    (series.cons word).result (count + 1)
      = (series.result count).map (word :: ·) := by
  simp only [result, cons, List.length_cons, Nat.add_le_add_iff_right,
    List.take_succ_cons]
  split
  · rfl
  · cases series.failure? <;> rfl

end Series

/-- Outcomes up to and including the first failure. -/
def untilFailure : List (Except Error String) → List (Except Error String)
  | [] => []
  | .error e :: _ => [.error e]
  | .ok word :: rest => .ok word :: untilFailure rest

-- ========================================================== what is made

namespace Generator

/-- `generator.Makes series`: called again and again, the generator returns
the words of the series and then the failure, if there is one. -/
inductive Makes : Generator → Series → Prop
  /-- Not called again. -/
  | done {generator : Generator} : Makes generator ⟨[], none⟩
  /-- Called for the last time. -/
  | failure {generator next : Generator} {e : Error}
      (hcall : generator.generate = (.error e, next)) :
      Makes generator ⟨[], some e⟩
  /-- Called for a word and for what comes after it. -/
  | word {generator next : Generator} {word : String} {series : Series}
      (hcall : generator.generate = (.ok word, next))
      (hrest : Makes next series) :
      Makes generator (series.cons word)

/-- However many words are asked for, there is a series that comes of it. -/
theorem exists_makes (generator : Generator) (count : Nat) :
    ∃ series, generator.Makes series ∧ series.Fills count := by
  induction count generalizing generator with
  | zero => exact ⟨_, .done, rfl⟩
  | succ count ih =>
      rcases hcall : generator.generate with ⟨e | word, next⟩
      · exact ⟨_, .failure hcall, Nat.succ_pos count⟩
      · obtain ⟨series, hmakes, hfills⟩ := ih next
        exact ⟨_, .word hcall hmakes, Series.fills_cons.2 hfills⟩

section

variable {generator next : Generator} {series : Series} {e : Error}
  {word : String}

/-- Taking words stops at a failure. -/
theorem take_of_error (h : generator.generate = (.error e, next))
    (count : Nat) : generator.take (count + 1) = (.error e, next) := by
  rw [take, h]

/-- The words that are taken begin with the one that is made first. -/
theorem take_of_ok (h : generator.generate = (.ok word, next))
    (count : Nat) :
    generator.take (count + 1)
      = ((next.take count).1.map (word :: ·), (next.take count).2) := by
  rw [take, h]

/-- Taking words gives what the series has. -/
theorem take_of_makes (h : generator.Makes series) {count : Nat}
    (hfills : series.Fills count) {first : Nat} (hfirst : first ≤ count) :
    (generator.take first).1 = series.result first := by
  -- Along the series. What is taken may be less than what the series was
  -- made for.
  induction h generalizing count first with
  | done =>
      obtain rfl : 0 = count := hfills
      obtain rfl := Nat.le_zero.1 hfirst
      rfl
  | failure hcall =>
      cases first with
      | zero => rfl
      | succ first => rw [take_of_error hcall]; rfl
  | word hcall hrest ih =>
      cases first with
      | zero => rw [Series.result_zero]; rfl
      | succ first =>
          obtain ⟨count, rfl⟩ := Nat.exists_eq_add_of_le' hfirst
          rw [take_of_ok hcall, Series.result_cons,
            ih (Series.fills_cons.1 hfills) (Nat.le_add_left first count)]

/-- The stream of words shows the series. -/
theorem untilFailure_words (h : generator.Makes series) {count : Nat}
    (hfills : series.Fills count) :
    untilFailure (generator.words count) = series.items := by
  induction h generalizing count with
  | done =>
      obtain rfl : 0 = count := hfills
      rfl
  | failure hcall =>
      obtain ⟨count, rfl⟩ := Nat.exists_eq_add_of_lt hfills
      rw [words, hcall]
      rfl
  | word hcall hrest ih =>
      cases count with
      | zero => exact absurd hfills Series.not_fills_cons_zero
      | succ count =>
          rw [words, hcall, untilFailure, ih (Series.fills_cons.1 hfills)]
          rfl

/-- Words taken in two goes. -/
theorem take_add (first second : Nat) :
    (generator.take (first + second)).1
      = (generator.take first).1.bind fun words =>
          ((generator.take first).2.take second).1.map (words ++ ·) := by
  induction first generalizing generator with
  | zero =>
      rw [Nat.zero_add, take]
      cases (generator.take second).1 <;> rfl
  | succ first ih =>
      rw [Nat.succ_add]
      rcases hcall : generator.generate with ⟨e | word, next⟩
      · rw [take_of_error hcall, take_of_error hcall]
        rfl
      · rw [take_of_ok hcall, take_of_ok hcall, ih]
        cases (next.take first).1 with
        | error e => rfl
        | ok words => cases ((next.take first).2.take second).1 <;> rfl

end

end Generator

-- ================================================== calls without a generator

namespace Generation

variable {σ : Type} [WordSource σ]

/-- The outcomes of `count` calls in a row, going on after failures; the
calls for which the random words do not suffice fail. -/
def callEach (rules : RuleTable) (morphology : Morphology)
    (options : Options) (count : Nat) (s : σ) : List (Except Error String) :=
  let made := generateEach rules morphology options count s
  made.map (·.1.result)
    ++ List.replicate (count - made.length) (.error usedUp)

end Generation

namespace Generator

open Generation (usedUp)

/-- Once the random words do not suffice, they never do. -/
theorem words_of_usedUp {generator : Generator}
    (h : generator.generate = (.error usedUp, generator)) (count : Nat) :
    generator.words count = List.replicate count (.error usedUp) := by
  induction count with
  | zero => rfl
  | succ count ih => rw [words, h, List.replicate_succ, ← ih]

/-- The stream of words is that of calls with the random words of the
generator. -/
theorem words_eq_callEach (generator : Generator) (count : Nat) :
    generator.words count
      = Generation.callEach generator.grammar.rules
          generator.grammar.morphology generator.options count
          generator.random := by
  induction count generalizing generator with
  | zero => rfl
  | succ count ih =>
      rw [Generation.callEach, Generation.generateEach]
      cases hcall : Generation.generate? generator.grammar.rules
          generator.grammar.morphology generator.options
          generator.random with
      | none =>
          -- From here on the generator stays as it is, and every call fails
          -- alike.
          have hused : generator.generate = (.error usedUp, generator) := by
            rw [generate, hcall]
          exact words_of_usedUp hused (count + 1)
      | some made =>
          rw [words, generate, hcall]
          simp only [ih, Generation.callEach, List.map_cons,
            List.length_cons, Nat.add_sub_add_right, List.cons_append]

end Generator

end WordGrammar
