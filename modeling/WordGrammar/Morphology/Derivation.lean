/-
Derivations: how morphology changes a word.

Applying sound changes to a word is observed as a run: it begins with the
word, has a step for each sound change that had an effect, and finishes
with the result; a run that fails does not finish. `ChainPrinter` turns
observations into lines, one chain of forms for each finished run that
had a step.
-/
import WordGrammar.Morphology

namespace WordGrammar

/-- Something seen while sound changes are applied. -/
inductive Observation
  /-- A word is about to be changed. -/
  | begin (word : String)
  /-- The sound change at an index had an effect. -/
  | step (index : Nat) (before after : String)
  /-- All sound changes have been applied. -/
  | finish (word : String)
  deriving DecidableEq, Repr

/-- The outcome of applying sound changes and what was seen on the
way. -/
structure Derivation where
  result : Except Error String
  seen : List Observation

namespace Derivation

/-- Applies the sound changes that are numbered from `index` on. -/
def applyFrom (index : Nat) (word : String) : Morphology → Derivation
  | [] => ⟨.ok word, [.finish word]⟩
  | t :: rest =>
      match t.apply word with
      | .error e => ⟨.error e, []⟩
      | .ok next =>
          let derivation := applyFrom (index + 1) next rest
          if next = word then derivation
          else
            { derivation with
              seen := .step index word next :: derivation.seen }

end Derivation

/-- Applies every sound change to a word, in order. -/
def Morphology.derive (morphology : Morphology) (word : String) :
    Derivation :=
  let derivation := Derivation.applyFrom 0 word morphology
  { derivation with seen := .begin word :: derivation.seen }

/-- A writer of chains: the forms of the run that is going on, newest
first, and the lines written, newest first. -/
structure ChainPrinter where
  forms : List String := []
  lines : List String := []
  deriving DecidableEq, Repr

namespace ChainPrinter

/-- How a chain of forms is written. -/
def chainText (forms : List String) : String :=
  " => ".intercalate forms

/-- Takes in one observation. -/
def observe (printer : ChainPrinter) : Observation → ChainPrinter
  | .begin word => { printer with forms := [word] }
  | .step _ _ after => { printer with forms := after :: printer.forms }
  | .finish _ =>
      if 1 < printer.forms.length then
        ⟨[], chainText printer.forms.reverse :: printer.lines⟩
      else { printer with forms := [] }

/-- Takes in observations in order. -/
def observeAll (printer : ChainPrinter) (seen : List Observation) :
    ChainPrinter :=
  seen.foldl observe printer

/-- The lines written, oldest first. -/
def written (printer : ChainPrinter) : List String :=
  printer.lines.reverse

end ChainPrinter

/-- The lines that a new printer writes for some observations. -/
def chainLines (seen : List Observation) : List String :=
  (ChainPrinter.observeAll {} seen).written

end WordGrammar
