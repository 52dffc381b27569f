/-
What the options do to the words that are generated.

Chance plays its part before the options do theirs: a word is drawn, and
only then passed through morphology and stripped of its markers. So a run
under any options makes the same draws as a run without morphology that
keeps the markers. `Follows` is what the options make of the word that is
drawn, `follows_finishDrawn` says so for one call, and `generateEach_follows`
for any number of calls in a row, failures included.
-/
import Mathlib.Data.List.Forall2
import WordGrammar.Proofs.Generation.Outcome

namespace WordGrammar

namespace Generation

-- ================================================================ one call

/-- `Follows morphology options base call`: the call fails as the base call
does; and if that returns a word, the call returns it with all sound
changes applied, exactly if the options ask for morphology and there are
any, and then without markers, exactly if the options do not keep them. -/
structure Follows (morphology : Morphology) (options : Options)
    (base call : Except Error String) : Prop where
  error : ∀ e, call = .error e ↔ base = .error e
  word : ∀ word, base = .ok word → ∃ changed,
    (if options.morphology && !morphology.isEmpty then
        morphology.changed word
      else .ok word) = .ok changed
      ∧ call = .ok (if options.keepSyllables then changed
        else stripSyllables changed)

/-- The options of a call that returns words as they are drawn. -/
def asDrawn (debug : Bool) : Options := { keepSyllables := true, debug }

/-- Without morphology and with the markers kept, a call returns what was
drawn. -/
theorem result_finishDrawn_asDrawn {morphology : Morphology} {debug : Bool}
    (drawn : Except Error String) :
    (finishDrawn morphology (asDrawn debug) drawn).result = drawn := by
  cases drawn <;> rfl

/-- A word that is drawn is changed first and then stripped. -/
theorem finishDrawn_word {morphology : Morphology}
    (h : morphology.isCompiled = true) (options : Options) (word : String) :
    ∃ changed,
      (if options.morphology && !morphology.isEmpty then
          morphology.changed word
        else .ok word) = .ok changed
      ∧ (finishDrawn morphology options (.ok word)).result
        = .ok (if options.keepSyllables then changed
          else stripSyllables changed) := by
  rw [finishDrawn, finish]
  cases options.morphology && !morphology.isEmpty with
  | true =>
      obtain ⟨after, hafter⟩ := Morphology.exists_derive h word
      rw [← Morphology.result_derive]
      exact ⟨after, hafter, congrArg (Except.map _) hafter⟩
  | false => exact ⟨word, rfl, rfl⟩

/-- Whatever was drawn, the options make of it what follows the call that
returns it as it is. -/
theorem follows_finishDrawn {morphology : Morphology}
    (h : morphology.isCompiled = true) (options : Options) (debug : Bool)
    (drawn : Except Error String) :
    Follows morphology options
      (finishDrawn morphology (asDrawn debug) drawn).result
      (finishDrawn morphology options drawn).result := by
  rw [result_finishDrawn_asDrawn]
  cases drawn with
  | error e =>
      refine ⟨fun _ => Iff.rfl, fun word hword => ?_⟩
      cases hword
  | ok word =>
      obtain ⟨changed, hchanged, hresult⟩ := finishDrawn_word h options word
      rw [hresult]
      refine ⟨fun e => ⟨fun herror => ?_, fun herror => ?_⟩,
        fun word' hword => ?_⟩
      · cases herror
      · cases herror
      · cases hword
        exact ⟨changed, hchanged, rfl⟩

-- ========================================================== calls in a row

variable {σ ω : Type} [WordSource σ]

/-- Words one after the other, going on after failures, with what is seen of
their derivations passed to an observer; each with the random words and the
observer as they are afterwards. -/
def observeEach (observe : ω → Observation → ω) (rules : RuleTable)
    (morphology : Morphology) (options : Options) :
    Nat → σ → ω → List (Except Error String × σ × ω)
  | 0, _, _ => []
  | count + 1, s, observer =>
      match generate? rules morphology options s with
      | none => []
      | some (derivation, s) =>
          let observer := derivation.seen.foldl observe observer
          (derivation.result, s, observer)
            :: observeEach observe rules morphology options count s observer

/-- Call by call: both runs draw with the same random words, and leave the
same ones to the next call. -/
theorem forall₂_observeEach {rules : RuleTable} {morphology : Morphology}
    (h : morphology.isCompiled = true) (options : Options) (debug : Bool)
    (observe : ω → Observation → ω) (count : Nat) (s : σ) (observer : ω) :
    List.Forall₂ (fun base call => call.2.1 = base.2
        ∧ Follows morphology options base.1.result call.1)
      (generateEach rules morphology (asDrawn debug) count s)
      (observeEach observe rules morphology options count s observer) := by
  induction count generalizing s observer with
  | zero => exact .nil
  | succ count ih =>
      rw [generateEach, observeEach]
      cases hdrawn : (drawWord rules).run s with
      | none =>
          rw [generate?, generate?, hdrawn]
          exact .nil
      | some drawn =>
          obtain ⟨drawn, s'⟩ := drawn
          rw [generate?_of_run hdrawn, generate?_of_run hdrawn]
          exact .cons ⟨rfl, follows_finishDrawn h options debug drawn⟩
            (ih s' _)

/-- The options do not disturb the random words. With a grammar that
compiles, under any options and with any observer, each of any number of
calls leaves the same random words as the call of a run without morphology
that keeps the markers, and follows it: it fails exactly if that one does,
with the same error, and else returns the same word, changed by morphology
first and stripped of its markers then, as the options say. -/
theorem generateEach_follows {source : String} {g : Grammar}
    (hcompile : (Grammar.compile source).result = .ok g)
    (options : Options) (debug : Bool) (observe : ω → Observation → ω)
    (count : Nat) (s : σ) (observer : ω) :
    List.Forall₂ (fun base call => call.2.1 = base.2
        ∧ Follows g.morphology options base.1.result call.1)
      (generateEach g.rules g.morphology (asDrawn debug) count s)
      (observeEach observe g.rules g.morphology options count s observer) :=
  forall₂_observeEach (Grammar.isCompiled_of_compile hcompile) options debug
    observe count s observer

/-- A grammar with a syllable marker in its only word and a sound change.
Two calls that apply it and strip the marker, observed by a writer of
chains, return the word changed and stripped. -/
theorem generateEach_follows_stripped : ∃ g,
    (Grammar.compile "W: a-b\n/a-/ > \"o-\"").result = .ok g
      ∧ List.Forall₂ (fun base call => call.2.1 = base.2
          ∧ Follows g.morphology { morphology := true } base.1.result call.1)
        (generateEach g.rules g.morphology (asDrawn false) 2
          (⟨[], 8⟩ : Script))
        (observeEach ChainPrinter.observe g.rules g.morphology
          { morphology := true } 2 ⟨[], 8⟩ {})
      ∧ (observeEach ChainPrinter.observe g.rules g.morphology
          { morphology := true } 2 (⟨[], 8⟩ : Script) {}).map Prod.fst
        = [.ok "ob", .ok "ob"] := by
  have hcompile : (Grammar.compile "W: a-b\n/a-/ > \"o-\"").result
      = .ok ((Grammar.compile "W: a-b\n/a-/ > \"o-\"").result.toOption.getD
        {}) := by
    have hsome : (Grammar.compile
        "W: a-b\n/a-/ > \"o-\"").result.toOption.isSome = true := by
      decide +kernel
    cases hresult : (Grammar.compile "W: a-b\n/a-/ > \"o-\"").result with
    | error e => rw [hresult] at hsome; cases hsome
    | ok g => rfl
  exact ⟨_, hcompile, generateEach_follows hcompile _ _ _ _ _ _,
    by decide +kernel⟩

end Generation

end WordGrammar
