/-
Generators: a compiled grammar with random words of its own.

A generator makes words one after the other. They can be taken a number at
a time, which ends at the first failure, or listed as the endless stream
they are, which goes on after a failure from where that has left the random
words.
-/
import WordGrammar.Generation
import WordGrammar.Random.KeyStream

namespace WordGrammar

/-- A grammar, what happens to its words, and the random words for the
next one. -/
structure Generator where
  grammar : Grammar
  options : Options := {}
  random : KeyStream

namespace Generator

open Generation (usedUp)

/-- A generator with the random words of a seed. -/
def seeded (grammar : Grammar) (options : Options) (seed : UInt64) :
    Generator where
  grammar := grammar
  options := options
  random := .ofSeed seed

/-- Makes a word; the random words are those that are left after it. -/
def generate (generator : Generator) : Except Error String × Generator :=
  match Generation.generate? generator.grammar.rules
      generator.grammar.morphology generator.options generator.random with
  | none => (.error usedUp, generator)
  | some (derivation, random) =>
      (derivation.result, { generator with random })

/-- Makes words, up to the first failure. -/
def take (generator : Generator) :
    Nat → Except Error (List String) × Generator
  | 0 => (.ok [], generator)
  | count + 1 =>
      match generator.generate with
      | (.error e, generator) => (.error e, generator)
      | (.ok word, generator) =>
          let (words, generator) := generator.take count
          (words.map (word :: ·), generator)

/-- The first items of the endless stream of words. -/
def words (generator : Generator) : Nat → List (Except Error String)
  | 0 => []
  | count + 1 =>
      let (word, generator) := generator.generate
      word :: generator.words count

end Generator

end WordGrammar
