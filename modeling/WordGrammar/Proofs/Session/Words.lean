/-
The words of sessions.

A session makes words as a generator does that has its grammar, its options
and its random words (`generate_generator`): the tracer has no part in it. So
it makes a number of them as the generator takes them, and is left with the
random words that the generator is left with (`generateMany_generator`); and
asked for them in several batches, it makes those of one batch that is as
large as all together (`generateBatches_eq_take`).
-/
import Mathlib.Algebra.GroupWithZero.Nat
import WordGrammar.Proofs.Generator
import WordGrammar.Proofs.Session

namespace WordGrammar

namespace Session

/-- The generator with a session's grammar, options and random words. -/
def generator (session : Session) : Generator where
  grammar := session.grammar
  options := session.options
  random := session.random

/-- Words in batches, one after the other up to the first failure. -/
def generateBatches (session : Session) :
    List Nat → Except Error (List String)
  | [] => .ok []
  | count :: counts =>
      let turn := session.generateMany count
      match turn.result with
      | .error e => .error e
      | .ok words =>
          (turn.session.generateBatches counts).map (words ++ ·)

/-- What leaves a session as it was leaves its generator so. -/
theorem Keeps.generator {session later : Session} (h : session.Keeps later) :
    later.generator = session.generator := by
  rw [h]
  rfl

/-- A session makes a word as its generator does. -/
theorem generate_generator (session : Session) :
    (session.generate.result, session.generate.session.generator)
      = session.generator.generate := by
  simp only [Session.generate, Generator.generate, generator]
  cases Generation.generate? session.grammar.rules session.grammar.morphology
      session.options session.random with
  | none => rfl
  | some made =>
      exact congr (congrArg Prod.mk (result_report made.1))
        (keeps_report made.1).generator

/-- Words made after others follow those as the generator takes them. -/
theorem generateMore_generator (session : Session) (words : List String)
    (diagnostics : List Diagnostic) (count : Nat) :
    let turn := session.generateMore words diagnostics count
    (turn.result, turn.session.generator)
      = ((session.generator.take count).1.map (words.reverse ++ ·),
        (session.generator.take count).2) := by
  induction count generalizing session words diagnostics with
  | zero =>
      rw [generateMore, Generator.take]
      exact congrArg (fun all => (Except.ok all, session.generator))
        (List.append_nil words.reverse).symm
  | succ count ih =>
      have hgenerate := generate_generator session
      rw [generateMore]
      cases hresult : session.generate.result with
      | error e =>
          rw [hresult] at hgenerate
          rw [Generator.take_of_error hgenerate.symm]
          rfl
      | ok word =>
          rw [hresult] at hgenerate
          rw [Generator.take_of_ok hgenerate.symm]
          -- The words made so far are kept in reverse, with the new one on
          -- top.
          refine (ih session.generate.session (word :: words) _).trans ?_
          cases (session.generate.session.generator.take count).1 with
          | error e => rfl
          | ok more => simp only [Except.map, List.reverse_cons,
              List.append_assoc, List.singleton_append]

/-- A session makes words as its generator takes them. -/
theorem generateMany_generator (session : Session) (count : Nat) :
    ((session.generateMany count).result,
        (session.generateMany count).session.generator)
      = session.generator.take count := by
  refine (generateMore_generator session [] [] count).trans ?_
  refine congrArg (fun result => (result, _)) ?_
  cases (session.generator.take count).1 <;> rfl

/-- Words in batches are words in one batch. -/
theorem generateBatches_eq_take (session : Session) (counts : List Nat) :
    session.generateBatches counts
      = (session.generator.take counts.sum).1 := by
  induction counts generalizing session with
  | nil => rfl
  | cons count counts ih =>
      have hmany := generateMany_generator session count
      rw [List.sum_cons, Generator.take_add, ← hmany, generateBatches]
      cases hresult : (session.generateMany count).result with
      | error e => rfl
      | ok words => exact congrArg (Except.map _) (ih _)

-- ============================================================ after a load

section

variable (session : Session) {source : String} {g : Grammar}

/-- Loading a text changes the grammar of the generator and nothing else
about it. -/
theorem load_generator (h : (Grammar.compile source).result = .ok g)
    (origin : String) :
    (session.load source origin).session.generator
      = { session.generator with grammar := g } :=
  (load_ok h).2.generator

/-- A session that a file was loaded into makes the words of its text. -/
theorem loadPath_generator {read : String → Except String String}
    {path : String} (hread : read (session.resolve path) = .ok source)
    (h : (Grammar.compile source).result = .ok g) :
    (session.loadPath read path).result = .ok ()
      ∧ (session.loadPath read path).session.generator
        = { session.generator with grammar := g } := by
  obtain ⟨hresult, directory, hsession⟩ := loadPath_ok hread (load_ok h).1
  refine ⟨hresult, ?_⟩
  rw [hsession]
  exact session.load_generator h path

end

end Session

end WordGrammar
