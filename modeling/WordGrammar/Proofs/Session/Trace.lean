/-
The trace of a session.

Whatever is done with a session, its tracer is told in order what each
action reports (`reports`), and as long as its buffer has room it keeps
just the events that it accepts at the time (`exists_follows_performAll`).
A call that makes a word begins a word of the trace if the tracer is on,
and then reports the sound changes that have an effect and, if it
succeeds, the word that it returns; compiling reports nothing that belongs
to a word. So the n-th of those calls has a record of its own in the trace
(`trace_words`), whatever happens before, between and after them.
-/
import WordGrammar.Proofs.Morphology.Derivation
import WordGrammar.Proofs.Session
import WordGrammar.Proofs.Trace.Filing

namespace WordGrammar

open Trace (Event)

-- ===================================================== words and changes

/-- How a change is recorded. -/
def Change.event (c : Change) : Event :=
  .morphologyStep c.index c.before c.after

/-- How the end of a word is recorded: not at all if it failed. -/
def Trace.Event.finished : Except Error String → List Event
  | .ok word => [.wordGenerated word]
  | .error _ => []

namespace Derivation

/-- What is reported of a derivation. -/
def events (derivation : Derivation) : List Event :=
  derivation.seen.filterMap Event.ofObservation?
    ++ Event.finished derivation.result

/-- `Derives morphology word changes result`: in order, the sound changes
make these changes of the word, up to the end or to the first one that
fails, and that is the result. -/
inductive Derives (morphology : Morphology) (word : String) :
    List Change → Except Error String → Prop
  | finished {changes : List Change} {result : String} :
      Recounts morphology word changes result →
      Derives morphology word changes (.ok result)
  | failed {past later : Morphology} {t : SoundChange}
      {changes : List Change} {reached : String} {e : Error} :
      morphology = past ++ t :: later →
      Recounts past word changes reached → t.apply reached = .error e →
      Derives morphology word changes (.error e)

/-- Changes that are linked from a word to its result are linked one to the
next. -/
theorem linked_isChain {word result : String} {changes : List Change}
    (h : word :: changes.map Change.after
      = changes.map Change.before ++ [result]) :
    changes.IsChain fun c d => c.after = d.before := by
  induction changes generalizing word with
  | nil => exact .nil
  | cons c changes ih =>
      have hrest := (List.cons.inj h).2
      cases changes with
      | nil => exact .singleton c
      | cons d changes =>
          exact .cons_cons (List.cons.inj hrest).1 (ih hrest)

/-- Each change starts from where the one before it ended. -/
theorem Derives.isChain {morphology : Morphology} {word : String}
    {changes : List Change} {result : Except Error String}
    (h : Derives morphology word changes result) :
    changes.IsChain fun c d => c.after = d.before := by
  cases h with
  | finished hchanges => exact linked_isChain hchanges.linked
  | failed _ hchanges _ => exact linked_isChain hchanges.linked

/-- Of what is observed, the changes are recorded. -/
theorem filterMap_observation (changes : List Change) :
    (changes.map Change.observation).filterMap Event.ofObservation?
      = changes.map Change.event := by
  induction changes with
  | nil => rfl
  | cons c changes ih => exact congrArg (c.event :: ·) ih

/-- What is reported of a word that is changed are its changes. -/
theorem exists_derives (morphology : Morphology) (word : String) :
    ∃ changes, Derives morphology word changes
        (morphology.derive word).result
      ∧ (morphology.derive word).seen.filterMap Event.ofObservation?
        = changes.map Change.event := by
  unfold Morphology.derive
  obtain ⟨changes, result, hchain, hrun⟩ |
    ⟨past, t, later, changes, reached, e, hsplit, hchain, hfail, hrun⟩ :=
    applyFrom_cases 0 word morphology
  -- The end of the word is observed too, but recorded with the result.
  · refine ⟨changes, ?_, ?_⟩
    · rw [hrun]
      exact .finished hchain.recounts
    · rw [hrun]
      show (changes.map Change.observation
        ++ [Observation.finish result]).filterMap Event.ofObservation? = _
      rw [List.filterMap_append, filterMap_observation]
      exact List.append_nil _
  · refine ⟨changes, ?_, ?_⟩
    · rw [hrun]
      exact .failed hsplit hchain.recounts hfail
    · rw [hrun]
      exact filterMap_observation changes

/-- What is reported of a word that is finished as the options say. -/
theorem exists_derives_finish (morphology : Morphology) (options : Options)
    (word : String) :
    ∃ changes outcome, Derives
        (if options.morphology then morphology else []) word changes outcome
      ∧ (Generation.finish morphology options word).result
        = outcome.map (fun word => if options.keepSyllables then word
          else Generation.stripSyllables word)
      ∧ (Generation.finish morphology options word).seen.filterMap
        Event.ofObservation? = changes.map Change.event := by
  unfold Generation.finish
  dsimp only
  by_cases hchange : (options.morphology && !morphology.isEmpty) = true
  · have hon : options.morphology = true := (Bool.and_eq_true_iff.1 hchange).1
    obtain ⟨changes, hderives, hseen⟩ := exists_derives morphology word
    rw [if_pos hchange, if_pos hon]
    exact ⟨changes, _, hderives, rfl, hseen⟩
  · -- without sound changes it is as if there were none to apply
    have hnone : (if options.morphology then morphology else []) = [] := by
      cases hon : options.morphology with
      | false => rfl
      | true => simpa [hon] using hchange
    obtain ⟨changes, hderives, hseen⟩ := exists_derives [] word
    rw [if_neg hchange, hnone]
    exact ⟨changes, .ok word, hderives, rfl, hseen⟩

end Derivation

namespace Session

-- ============================================================== actions

/-- A call that makes a word. -/
inductive WordCall
  | generate
  | transform (word : String)

namespace WordCall

/-- What a call returns and leaves behind. -/
def turn (session : Session) : WordCall → Turn String
  | generate => session.generate
  | transform word => session.transform word

/-- The derivation of the word that a call makes; none if the random words
do not suffice for it. -/
def derivation? (session : Session) : WordCall → Option Derivation
  | generate => (Generation.generate? session.grammar.rules
      session.grammar.morphology session.options session.random).map Prod.fst
  | transform word => some (session.grammar.morphology.derive word)

/-- What is reported of the word that a call makes. -/
def events (session : Session) (call : WordCall) : List Event :=
  ((call.derivation? session).map Derivation.events).getD []

/-- `call.Makes session changes result`: these are the changes that the
call makes of its word, or of the one that it draws, and this is what comes
of it in the end. -/
inductive Makes (session : Session) :
    WordCall → List Change → Except Error String → Prop
  | transform {word : String} {changes : List Change}
      {result : Except Error String} :
      Derivation.Derives session.grammar.morphology word changes result →
      Makes session (.transform word) changes result
  | generate {word : String} {random : KeyStream} {changes : List Change}
      {result : Except Error String} :
      (Generation.drawWord session.grammar.rules).run session.random
        = some (.ok word, random) →
      Derivation.Derives
        (if session.options.morphology then session.grammar.morphology
          else []) word changes result →
      Makes session .generate changes (result.map fun word =>
        if session.options.keepSyllables then word
        else Generation.stripSyllables word)
  | undrawn {e : Error} {random : KeyStream} :
      (Generation.drawWord session.grammar.rules).run session.random
        = some (.error e, random) →
      Makes session .generate [] (.error e)

/-- The changes that a call makes of its word are linked. -/
theorem Makes.isChain {session : Session} {call : WordCall}
    {changes : List Change} {result : Except Error String}
    (h : call.Makes session changes result) :
    changes.IsChain fun c d => c.after = d.before := by
  cases h with
  | transform hderives => exact hderives.isChain
  | generate _ hderives => exact hderives.isChain
  | undrawn => exact .nil

end WordCall

/-- Something that is done with a session, or the clock going on. -/
inductive Action
  | load (source origin : String)
  | declare (line : String)
  | make (call : WordCall)
  | setOptions (options : Options)
  | reseed (seed : UInt64)
  /-- The tracer is switched on or off. -/
  | switch (on : Bool)
  | setClock (clock : Nat)

/-- The session after an action, whether it succeeds or fails. -/
def perform (session : Session) : Action → Session
  | .load source origin => (session.load source origin).session
  | .declare line => (session.declare line).session
  | .make call => (call.turn session).session
  | .setOptions options => { session with options }
  | .reseed seed => session.reseed seed
  | .switch on => { session with tracer := session.tracer.switch on }
  | .setClock clock => session.setClock clock

/-- The session after some actions, one after the other. -/
def performAll (session : Session) (actions : List Action) : Session :=
  actions.foldl perform session

/-- What is reported of compiling a source. -/
def compileEvents (source : String) : List Event :=
  (Grammar.compile source).events.map Event.ofCompile

/-- What an action reports, in order. -/
def reports (session : Session) : Action → List Event
  | .load source origin =>
      compileEvents source ++ match (Grammar.compile source).result with
        | .ok grammar => [.grammarLoaded origin grammar.rules.size
            grammar.morphology.length]
        | .error _ => []
  | .declare line => compileEvents (appendLine session.source line)
  | .make call => call.events session
  | .setOptions _ | .reseed _ | .switch _ | .setClock _ => []

/-- The events of an action that the tracer accepts, as it is when the
action is taken. -/
def recorded (session : Session) (action : Action) : List Event :=
  (session.reports action).filter session.tracer.accepts

/-- The accepted events of some actions, one after the other. -/
def recordedAll (session : Session) : List Action → List Event
  | [] => []
  | action :: rest =>
      session.recorded action ++ (session.perform action).recordedAll rest

/-- The call that makes a word of the trace, if the action is one: it is
made while the tracer is on, and the random words suffice for it. -/
def tracedCall? (session : Session) : Action → Option WordCall
  | .make call =>
      if session.tracer.isOn && (call.derivation? session).isSome then
        some call
      else none
  | _ => none

/-- The calls among some actions that make a word of the trace, each with
the session it is made in. -/
def tracedCalls (session : Session) : List Action → List (Session × WordCall)
  | [] => []
  | action :: rest =>
      (session.tracedCall? action).toList.map (session, ·)
        ++ (session.perform action).tracedCalls rest

-- ============================================================ one action

section

variable {session : Session}

/-- Compiling reports compile events only. -/
theorem isCompile_compileEvents (source : String) :
    ∀ event ∈ compileEvents source, event.isCompile = true := by
  intro event hevent
  obtain ⟨compiled, -, rfl⟩ := List.mem_map.1 hevent
  cases compiled <;> rfl

/-- A load tells the tracer what it reports; of a text that does not compile
that is what compiling it reports. -/
theorem tracer_load (source origin : String) :
    (session.load source origin).session.tracer
      = (session.tracer.recordAll
        (session.reports (.load source origin))).1 := by
  unfold reports
  rw [Tracer.recordAll_append]
  cases hcompile : (Grammar.compile source).result with
  | error e =>
      have hresult : (session.compileTraced source).result = .error e :=
        hcompile
      rw [load, hresult]
      rfl
  | ok grammar =>
      have hresult : (session.compileTraced source).result = .ok grammar :=
        hcompile
      rw [load, hresult]
      rfl

/-- A declaration tells the tracer what compiling the longer source reports.
-/
theorem tracer_declare (line : String) :
    (session.declare line).session.tracer
      = (session.tracer.recordAll (session.reports (.declare line))).1 := by
  unfold declare
  dsimp only
  split <;> rfl

/-- Reporting a derivation to a tracer that is on begins a word. -/
theorem tracer_report (derivation : Derivation) :
    (session.report derivation).session.tracer
      = if session.tracer.isOn then
          (session.tracer.beginWord.recordAll derivation.events).1
        else session.tracer := by
  unfold report
  split
  · rfl
  · rfl

namespace WordCall

variable {call : WordCall}

/-- A call for which the random words do not suffice leaves the session as
it was. -/
theorem turn_of_none (h : call.derivation? session = none) :
    (call.turn session).session = session := by
  cases call with
  | transform => cases h
  | generate =>
      have hnone := Option.map_eq_none_iff.1 h
      simp only [turn, Session.generate, hnone]

/-- A call returns what comes of its derivation, and reports that. -/
theorem turn_of_some {derivation : Derivation}
    (h : call.derivation? session = some derivation) :
    (call.turn session).result = derivation.result
      ∧ (call.turn session).session.tracer
        = if session.tracer.isOn then
            (session.tracer.beginWord.recordAll derivation.events).1
          else session.tracer := by
  cases call with
  | transform word =>
      cases h
      exact ⟨result_report _, tracer_report _⟩
  | generate =>
      obtain ⟨⟨_, random⟩, hmade, rfl⟩ := Option.map_eq_some_iff.1 h
      simp only [turn, Session.generate, hmade]
      exact ⟨result_report _, tracer_report _⟩

/-- What is reported of a call are the changes it makes of a word and, if
it succeeds, what it returns. -/
theorem exists_makes (h : (call.derivation? session).isSome = true) :
    ∃ changes, call.Makes session changes (call.turn session).result
      ∧ call.events session = changes.map Change.event
        ++ Event.finished (call.turn session).result := by
  obtain ⟨derivation, hderivation⟩ := Option.isSome_iff_exists.1 h
  rw [(turn_of_some hderivation).1]
  have hevents : call.events session = derivation.events := by
    rw [events, hderivation]
    rfl
  rw [hevents]
  cases call with
  | transform word =>
      cases hderivation
      obtain ⟨changes, hderives, hseen⟩ :=
        Derivation.exists_derives session.grammar.morphology word
      refine ⟨changes, .transform hderives, ?_⟩
      rw [Derivation.events, hseen]
  | generate =>
      obtain ⟨⟨_, random⟩, hmade, rfl⟩ :=
        Option.map_eq_some_iff.1 hderivation
      obtain ⟨⟨drawn, _⟩, hdrawn, hmade⟩ := Option.bind_eq_some_iff.1 hmade
      cases hmade
      -- A word that could not be drawn has no changes.
      cases drawn with
      | error e => exact ⟨[], .undrawn hdrawn, rfl⟩
      | ok word =>
          obtain ⟨changes, outcome, hderives, hresult, hseen⟩ :=
            Derivation.exists_derives_finish session.grammar.morphology
              session.options word
          refine ⟨changes, ?_, ?_⟩
          · show Makes session .generate changes
              (Generation.finish _ _ word).result
            rw [hresult]
            exact .generate hdrawn hderives
          · show (Generation.finish _ _ word).events
              = _ ++ Event.finished (Generation.finish _ _ word).result
            rw [Derivation.events, hseen]

/-- What is reported of a word is no compile event. -/
theorem isCompile_events :
    ∀ event ∈ call.events session, event.isCompile = false := by
  intro event hevent
  by_cases h : (call.derivation? session).isSome = true
  · obtain ⟨changes, -, hevents⟩ := exists_makes h
    rw [hevents] at hevent
    rcases List.mem_append.1 hevent with hevent | hevent
    · obtain ⟨c, -, rfl⟩ := List.mem_map.1 hevent
      rfl
    · cases hresult : (call.turn session).result with
      | error e => rw [hresult] at hevent; cases hevent
      | ok word =>
          rw [hresult] at hevent
          obtain rfl := List.mem_singleton.1 hevent
          rfl
  · rw [Option.not_isSome_iff_eq_none] at h
    rw [events, h] at hevent
    cases hevent

/-- A tracer that is on and records changes accepts all that is reported of
a word. -/
theorem accepts_events (hon : session.tracer.isOn = true)
    (hmorphology : session.tracer.config.morphology = true) :
    (call.events session).filter session.tracer.accepts
      = call.events session := by
  refine List.filter_eq_self.2 fun event hevent => ?_
  have hcompile := isCompile_events event hevent
  unfold Tracer.accepts
  rw [hon, Bool.true_and]
  cases event with
  | grammarLoaded | ruleCompiled | changeCompiled => cases hcompile
  | morphologyStep => exact hmorphology
  | wordGenerated => rfl

/-- A call that is not traced leaves the tracer alone, and nothing that it
reports is recorded. -/
theorem turn_of_untraced
    (h : ¬ (session.tracer.isOn && (call.derivation? session).isSome)
      = true) :
    (call.turn session).session.tracer = session.tracer
      ∧ session.recorded (.make call) = [] := by
  cases hderivation : call.derivation? session with
  | none =>
      refine ⟨by rw [turn_of_none hderivation], ?_⟩
      show (call.events session).filter _ = []
      rw [events, hderivation]
      rfl
  | some derivation =>
      have hoff : session.tracer.isOn = false := by
        simpa [hderivation] using h
      refine ⟨?_, ?_⟩
      · rw [(turn_of_some hderivation).2, if_neg (by simp [hoff])]
      · exact List.filter_eq_nil_iff.2 fun event _ => by
          simp [Tracer.accepts, hoff]

/-- A call that is traced begins a word and has what it reports recorded
as that of the word. -/
theorem exists_follows_turn (hon : session.tracer.isOn = true)
    (hsome : (call.derivation? session).isSome = true)
    (hmorphology : session.tracer.config.morphology = true)
    (hroom : session.tracer.buffer.records.length
      + (call.events session).length ≤ session.tracer.buffer.capacity) :
    ∃ new, session.tracer.Follows (call.turn session).session.tracer
        [call.events session] new
      ∧ new.map Trace.Record.event = call.events session := by
  obtain ⟨derivation, hderivation⟩ := Option.isSome_iff_exists.1 hsome
  have hevents : call.events session = derivation.events := by
    rw [events, hderivation]
    rfl
  have hfilter : (call.events session).filter
      session.tracer.beginWord.accepts = call.events session :=
    accepts_events hon hmorphology
  rw [(turn_of_some hderivation).2, if_pos hon, ← hevents]
  obtain ⟨new, htakes, hnew⟩ :=
    @Tracer.exists_takes_recordAll session.tracer.beginWord
      (call.events session) (by rw [hfilter]; exact hroom)
  rw [hfilter] at hnew
  have hfollows := htakes.follows_word fun record hrecord =>
    isCompile_events record.event (hnew ▸ List.mem_map_of_mem hrecord)
  rw [hnew] at hfollows
  exact ⟨new, hfollows, hnew⟩

end WordCall

/-- A tracer that is told of compiling only begins no word. -/
theorem exists_follows_compile {events : List Event}
    {tracer : Tracer} (hevents : ∀ event ∈ events, event.isCompile = true)
    (hroom : tracer.buffer.records.length
      + (events.filter tracer.accepts).length ≤ tracer.buffer.capacity) :
    ∃ new, tracer.Follows (tracer.recordAll events).1 [] new
      ∧ new.map Trace.Record.event = events.filter tracer.accepts := by
  obtain ⟨new, htakes, hnew⟩ := Tracer.exists_takes_recordAll hroom
  refine ⟨new, htakes.follows_compile fun record hrecord => ?_, hnew⟩
  have hmem : record.event ∈ events.filter tracer.accepts :=
    hnew ▸ List.mem_map_of_mem hrecord
  exact hevents _ (List.mem_filter.1 hmem).1

/-- Nor does a load report anything of a word. -/
theorem isCompile_reports_load (source origin : String) :
    ∀ event ∈ session.reports (.load source origin),
      event.isCompile = true := by
  intro event hevent
  rcases List.mem_append.1 hevent with hevent | hevent
  · exact isCompile_compileEvents source event hevent
  · split at hevent
    · obtain rfl := List.mem_singleton.1 hevent
      rfl
    · cases hevent

/-- A call that makes a word of the trace. -/
theorem tracedCall?_make {call : WordCall} :
    session.tracedCall? (.make call)
      = if session.tracer.isOn && (call.derivation? session).isSome then
          some call
        else none := rfl

/-- An action adds to the trace the events that it reports, as far as they
are accepted, and begins a word if it is a call for one that is traced. -/
theorem exists_follows_perform {action : Action}
    (hmorphology : session.tracer.config.morphology = true)
    (hroom : session.tracer.buffer.records.length
      + (session.recorded action).length ≤ session.tracer.buffer.capacity) :
    ∃ new, session.tracer.Follows (session.perform action).tracer
        ((session.tracedCall? action).toList.map
          (WordCall.events session)) new
      ∧ new.map Trace.Record.event = session.recorded action := by
  cases action with
  | load source origin =>
      show ∃ new, session.tracer.Follows
        (session.load source origin).session.tracer [] new ∧ _
      rw [tracer_load]
      exact exists_follows_compile (isCompile_reports_load source origin)
        hroom
  | declare line =>
      show ∃ new, session.tracer.Follows
        (session.declare line).session.tracer [] new ∧ _
      rw [tracer_declare]
      exact exists_follows_compile (isCompile_compileEvents _) hroom
  | make call =>
      show ∃ new, session.tracer.Follows
        (call.turn session).session.tracer _ new ∧ _
      rw [tracedCall?_make]
      by_cases htraced : (session.tracer.isOn
          && (call.derivation? session).isSome) = true
      · obtain ⟨hon, hsome⟩ := Bool.and_eq_true_iff.1 htraced
        have hall : session.recorded (.make call) = call.events session :=
          WordCall.accepts_events hon hmorphology
        rw [if_pos htraced, hall]
        rw [hall] at hroom
        exact WordCall.exists_follows_turn hon hsome hmorphology hroom
      · obtain ⟨htracer, hnone⟩ := WordCall.turn_of_untraced htraced
        rw [if_neg htraced, htracer, hnone]
        exact ⟨[], .refl, rfl⟩
  | setOptions | reseed | switch | setClock =>
      exact ⟨[], ⟨rfl, .refl, .nil, rfl⟩, rfl⟩

end

-- ============================================================== whole runs

/-- What any number of actions add to the trace: all that is recorded of
them in order, and a word for each call that is traced. -/
theorem exists_follows_performAll {session : Session}
    (actions : List Action)
    (hmorphology : session.tracer.config.morphology = true)
    (hroom : session.tracer.buffer.records.length
      + (session.recordedAll actions).length
        ≤ session.tracer.buffer.capacity) :
    ∃ new, session.tracer.Follows (session.performAll actions).tracer
        ((session.tracedCalls actions).map fun traced =>
          traced.2.events traced.1) new
      ∧ new.map Trace.Record.event = session.recordedAll actions := by
  -- Action by action: the tracer stands as the one before left it, with as
  -- much less room as that recorded.
  induction actions generalizing session with
  | nil => exact ⟨[], .refl, rfl⟩
  | cons action rest ih =>
      rw [recordedAll, List.length_append] at hroom
      have hroom' : session.tracer.buffer.records.length
          + (session.recorded action).length
            ≤ session.tracer.buffer.capacity := by omega
      obtain ⟨here, hhere, hevents⟩ :=
        exists_follows_perform hmorphology hroom'
      have hlength : here.length = (session.recorded action).length := by
        rw [← hevents, List.length_map]
      have hrest : (session.perform action).tracer.buffer.records.length
          + ((session.perform action).recordedAll rest).length
            ≤ (session.perform action).tracer.buffer.capacity := by
        rw [hhere.grows.records, hhere.grows.capacity, List.length_append]
        omega
      obtain ⟨later, hlater, hmore⟩ :=
        ih (hhere.morphology.trans hmorphology) hrest
      refine ⟨here ++ later, ?_, ?_⟩
      · have hall := hhere.trans hlater
        have hcalls : (session.tracedCall? action).toList.map
              (WordCall.events session)
            = ((session.tracedCall? action).toList.map (session, ·)).map
              fun traced => traced.2.events traced.1 := by
          rw [List.map_map]
          rfl
        rw [hcalls, ← List.map_append] at hall
        exact hall
      · rw [List.map_append, hevents, hmore]
        rfl

/-- A traced call was made with the tracer on, and made a word. -/
theorem mem_tracedCalls {session before : Session} {call : WordCall}
    {actions : List Action}
    (h : (before, call) ∈ session.tracedCalls actions) :
    before.tracer.isOn = true
      ∧ (call.derivation? before).isSome = true := by
  induction actions generalizing session with
  | nil => cases h
  | cons action rest ih =>
      rcases List.mem_append.1 h with h | h
      · obtain ⟨traced, htraced, heq⟩ := List.mem_map.1 h
        cases heq
        rw [Option.mem_toList] at htraced
        unfold tracedCall? at htraced
        split at htraced
        · split at htraced
          · next hon =>
              cases htraced
              exact Bool.and_eq_true_iff.1 hon
          · cases htraced
        · cases htraced
      · exact ih h

/-- The trace of a session with a new tracer that records changes, after
any actions, if there is room for all that is recorded of them. It holds
just that, in the order in which it happened and numbered in that order.
What belongs to no word was compiled, and nothing else. Under `n + 1` there
is the call number `n` of those that make a word while the tracer is on,
counting from 0: the changes of its word in order, each starting from where
the one before it ended, and then what the call returned, exactly if it
succeeded. Nothing is filed under a later number. -/
theorem trace_words {session : Session} {config : Trace.Config}
    {clock : Nat} (actions : List Action)
    (hfresh : session.tracer = .new config clock)
    (hmorphology : config.morphology = true)
    (hroom : (session.recordedAll actions).length ≤ config.capacity) :
    let trace := (session.performAll actions).tracer.buffer
    let calls := session.tracedCalls actions
    trace.records.map Trace.Record.event = session.recordedAll actions
      ∧ trace.records.map Trace.Record.id = List.range trace.records.length
      ∧ (∀ record ∈ trace.records,
        record.word = 0 ↔ record.event.isCompile = true)
      ∧ (∀ n before call, calls[n]? = some (before, call) → ∃ changes,
        call.Makes before changes (call.turn before).result
          ∧ changes.IsChain (fun c d => c.after = d.before)
          ∧ (trace.ofWord (n + 1)).map Trace.Record.event
            = changes.map Change.event
              ++ Event.finished (call.turn before).result)
      ∧ ∀ n, calls.length < n → trace.ofWord n = [] := by
  intro trace calls
  have hchanges : session.tracer.config.morphology = true := by
    rw [hfresh]
    exact hmorphology
  have hroom' : session.tracer.buffer.records.length
      + (session.recordedAll actions).length
        ≤ session.tracer.buffer.capacity := by
    rw [hfresh]
    exact (Nat.zero_add _).trans_le hroom
  obtain ⟨new, hfollows, hevents⟩ :=
    exists_follows_performAll actions hchanges hroom'
  rw [hfresh] at hfollows
  have hrecords : trace.records = new := hfollows.grows.records
  have hfiles := hfollows.files
  have hword : ∀ n, (trace.ofWord (n + 1)).map Trace.Record.event
      = (calls.map fun traced => traced.2.events traced.1)[n]?.getD [] := by
    intro n
    have hfiled := hfiles.ofWord n
    rw [show (Tracer.new config clock).word = 0 from rfl, Nat.zero_add,
      Nat.add_comm 1 n] at hfiled
    rw [Trace.Buffer.ofWord, hrecords]
    exact hfiled
  refine ⟨hrecords ▸ hevents, ?_, ?_, fun n before call hcall => ?_,
    fun n hn => ?_⟩
  · rw [hrecords, hfollows.grows.ids, List.range_eq_range']
    rfl
  · rw [hrecords]
    exact hfiles.word_eq_zero_iff
  · obtain ⟨-, hsome⟩ := mem_tracedCalls (List.mem_of_getElem? hcall)
    obtain ⟨changes, hmakes, hreported⟩ := WordCall.exists_makes hsome
    refine ⟨changes, hmakes, hmakes.isChain, ?_⟩
    rw [hword, List.getElem?_map, hcall]
    exact hreported
  -- No call has this number, so there is nothing that could have been filed
  -- under it.
  · obtain ⟨m, rfl⟩ := Nat.exists_eq_succ_of_ne_zero
      (Nat.ne_of_gt (Nat.zero_lt_of_lt hn))
    have hnone : calls[m]? = none :=
      List.getElem?_eq_none (Nat.le_of_lt_succ hn)
    refine List.map_eq_nil_iff.1 ((hword m).trans ?_)
    rw [List.getElem?_map, hnone]
    rfl

/-- A word that is changed, one that is made while the tracer is off, a
text that does not compile, and a word that is drawn. -/
theorem trace_words_switched :
    let config : Trace.Config :=
      { enabled := true, capacity := 9, compile := true }
    let session := { Session.new (.ofSeed 7) "." with
      tracer := .new config 0 }
    let actions : List Action :=
      [.load "W: ta\n/a/ > \"e\"\n/e/ > \"i\"" "g", .make (.transform "ta"),
        .switch false, .make (.transform "a"), .switch true,
        .declare "V: Q", .setOptions { morphology := true },
        .make .generate]
    let trace := (session.performAll actions).tracer.buffer
    (session.recordedAll actions).length = 9
      ∧ trace.records.map Trace.Record.id = List.range trace.records.length
      ∧ (trace.ofWord 2).map Trace.Record.event
        = [.morphologyStep 0 "ta" "te", .morphologyStep 1 "te" "ti",
          .wordGenerated "ti"]
      ∧ trace.ofWord 3 = [] := by
  intro config session actions trace
  have hlength : (session.recordedAll actions).length = 9 := by
    decide +kernel
  have hcalls : (session.tracedCalls actions).length = 2 := by
    decide +kernel
  obtain ⟨-, hids, -, -, hnone⟩ :=
    @trace_words session config 0 actions rfl rfl (Nat.le_of_eq hlength)
  exact ⟨hlength, hids, by decide +kernel, hnone 3 (by rw [hcalls]; decide)⟩

end Session

end WordGrammar
