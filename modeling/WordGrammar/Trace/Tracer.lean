/-
The tracer: it decides what is recorded and what is shown.

A tracer that is switched off takes no notice of anything. Otherwise
loads and finished words are always recorded, compilation and morphology
steps as the configuration says. Events of compilation belong to no word;
all others belong to the word that was begun last.
-/
import WordGrammar.Morphology.Derivation
import WordGrammar.Trace.Buffer

namespace WordGrammar.Trace

/-- What to record and how much of it to keep. -/
structure Config where
  enabled : Bool := false
  capacity : Nat := Buffer.defaultCapacity
  /-- Show each record as it is made. -/
  shown : Bool := true
  /-- Record the compilation of rules and sound changes. -/
  compile : Bool := false
  /-- Record each sound change that has an effect on a word. -/
  morphology : Bool := true
  /-- Show records with their times. -/
  timestamps : Bool := false
  deriving DecidableEq, Repr

namespace Config

/-- Derivations are recorded. -/
def derivations : Config := { enabled := true }

/-- Everything is recorded, with times. -/
def verbose : Config where
  enabled := true
  capacity := 10000
  shown := true
  compile := true
  morphology := true
  timestamps := true

/-- Whether an event of a type is recorded by a tracer that is on. -/
def records (config : Config) : EventType → Bool
  | .ruleCompiled | .changeCompiled => config.compile
  | .morphologyStep => config.morphology
  | .grammarLoaded | .wordGenerated => true

end Config

/-- A record that is to be shown, and whether with its time. -/
structure Shown where
  timestamps : Bool
  record : Record
  deriving DecidableEq

end Trace

open Trace

/-- A tracer and its trace. -/
structure Tracer where
  config : Config
  /-- Whether records are shown; it starts as configured. -/
  shown : Bool
  buffer : Buffer
  /-- The number of the word that was begun last. -/
  word : Nat := 0
  /-- The clock when the tracer began, in nanoseconds. -/
  began : Nat := 0
  /-- The clock as far as the tracer knows; whoever drives it sets it. -/
  clock : Nat := 0
  deriving DecidableEq

namespace Tracer

/-- A new tracer that begins when the clock shows `clock`. -/
def new (config : Config) (clock : Nat) : Tracer where
  config := config
  shown := config.shown
  buffer := .empty config.capacity
  began := clock
  clock := clock

/-- A new tracer that is switched off. -/
def off (clock : Nat) : Tracer := new {} clock

/-- Whether the tracer is on. -/
def isOn (tracer : Tracer) : Bool := tracer.config.enabled

/-- The tracer switched on or off. -/
def switch (tracer : Tracer) (on : Bool) : Tracer :=
  { tracer with config := { tracer.config with enabled := on } }

/-- Begins the next word. -/
def beginWord (tracer : Tracer) : Tracer :=
  { tracer with word := tracer.word + 1 }

/-- The trace without its records. -/
def clear (tracer : Tracer) : Tracer :=
  { tracer with buffer := tracer.buffer.clear }

/-- Records an event, if it is to be recorded; shows the newest record
then, if there is one and it is to be shown. -/
def record (tracer : Tracer) (event : Event) : Tracer × List Shown :=
  if tracer.isOn && tracer.config.records event.type then
    let word := if event.isCompile then 0 else tracer.word
    let (_, buffer) :=
      tracer.buffer.push word (tracer.clock - tracer.began) event
    let shown := match buffer.last? with
      | some newest =>
          if tracer.shown then [⟨tracer.config.timestamps, newest⟩] else []
      | none => []
    ({ tracer with buffer }, shown)
  else (tracer, [])

/-- Records events in order. -/
def recordAll (tracer : Tracer) : List Event → Tracer × List Shown
  | [] => (tracer, [])
  | event :: rest =>
      let (tracer, first) := tracer.record event
      let (tracer, more) := tracer.recordAll rest
      (tracer, first ++ more)

end Tracer

/-- The trace event of a success in compiling. -/
def Trace.Event.ofCompile : CompileEvent → Event
  | .rule id alternatives => .ruleCompiled id alternatives
  | .soundChange index expanded => .changeCompiled index expanded

/-- The trace event of an observation, if it is a step. -/
def Trace.Event.ofObservation? : Observation → Option Event
  | .step index before after => some (.morphologyStep index before after)
  | .begin _ | .finish _ => none

end WordGrammar
