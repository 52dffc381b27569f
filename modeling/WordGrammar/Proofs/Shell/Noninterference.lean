/-
Watching the shell does not change what it does.

The tracer and the debug switch only show things on the side. Sessions that
agree on all else (`Session.Agrees`) answer every operation alike and still
agree afterwards: there is one lemma for each operation of a session, and
one for a line of the shell (`agrees_evaluate`). The lines that turn the
tracer or the debug switch keep a session in agreement with what it was
(`agrees_evaluate_switch`). By induction over the lines, any number of them
can be put in or left out without a change to the other answers
(`evaluateAll_switches`).
-/
import WordGrammar.Proofs.Session
import WordGrammar.Shell.Evaluate

namespace WordGrammar

namespace Session

-- ============================================================== agreement

/-- The sessions differ in their tracers and debug switches at most. -/
structure Agrees (a b : Session) : Prop where
  grammar : a.grammar = b.grammar
  source : a.source = b.source
  origin : a.origin = b.origin
  directory : a.directory = b.directory
  morphology : a.options.morphology = b.options.morphology
  keepSyllables : a.options.keepSyllables = b.options.keepSyllables
  random : a.random = b.random

end Session

/-- The turns have the same result, and sessions that agree; what they
show on the side may differ. -/
structure Turn.Agrees {α : Type} (a b : Turn α) : Prop where
  result : a.result = b.result
  session : a.session.Agrees b.session

namespace Session

section

variable {a b c : Session}

theorem Agrees.refl (a : Session) : a.Agrees a :=
  ⟨rfl, rfl, rfl, rfl, rfl, rfl, rfl⟩

theorem Agrees.symm (h : a.Agrees b) : b.Agrees a where
  grammar := h.grammar.symm
  source := h.source.symm
  origin := h.origin.symm
  directory := h.directory.symm
  morphology := h.morphology.symm
  keepSyllables := h.keepSyllables.symm
  random := h.random.symm

theorem Agrees.trans (h : a.Agrees b) (h' : b.Agrees c) : a.Agrees c where
  grammar := h.grammar.trans h'.grammar
  source := h.source.trans h'.source
  origin := h.origin.trans h'.origin
  directory := h.directory.trans h'.directory
  morphology := h.morphology.trans h'.morphology
  keepSyllables := h.keepSyllables.trans h'.keepSyllables
  random := h.random.trans h'.random

/-- What differs in its tracer at most agrees. -/
theorem Keeps.agrees (h : a.Keeps b) : a.Agrees b := by
  rw [h]
  exact ⟨rfl, rfl, rfl, rfl, rfl, rfl, rfl⟩

/-- Sessions that agree still do after steps that are only traced. -/
theorem Agrees.keeps {a' b' : Session} (h : a.Agrees b) (ha : a.Keeps a')
    (hb : b.Keeps b') : a'.Agrees b' :=
  ha.agrees.symm.trans (h.trans hb.agrees)

-- ============================================================ the grammar

/-- The source alone decides whether a grammar is loaded, and which. -/
theorem Agrees.load (h : a.Agrees b) (source origin : String) :
    (a.load source origin).Agrees (b.load source origin) := by
  cases hcompile : (Grammar.compile source).result with
  | error e =>
      exact ⟨(load_error hcompile).1.trans (load_error hcompile).1.symm,
        h.keeps (load_error hcompile).2 (load_error hcompile).2⟩
  | ok g =>
      have hput : { a with grammar := g, source, origin }.Agrees
          { b with grammar := g, source, origin } :=
        { h with grammar := rfl, source := rfl, origin := rfl }
      exact ⟨(load_ok hcompile).1.trans (load_ok hcompile).1.symm,
        hput.keeps (load_ok hcompile).2 (load_ok hcompile).2⟩

theorem Agrees.resolve (h : a.Agrees b) (path : String) :
    a.resolve path = b.resolve path := by
  rw [Session.resolve, Session.resolve, h.directory]

/-- A file that is loaded changes the directory to the same one. -/
theorem Agrees.loadPath (h : a.Agrees b)
    (read : String → Except String String) (path : String) :
    (a.loadPath read path).Agrees (b.loadPath read path) := by
  have hresolve := h.resolve path
  cases hread : read (a.resolve path) with
  | error message =>
      have hread' := hresolve ▸ hread
      rw [loadPath_unreadable hread, loadPath_unreadable hread', hresolve]
      exact ⟨rfl, h⟩
  | ok source =>
      have hread' := hresolve ▸ hread
      have hturn := h.load source path
      cases hload : (a.load source path).result with
      | error e =>
          have hload' := hturn.result.symm.trans hload
          rw [loadPath_error hread hload, loadPath_error hread' hload']
          exact hturn
      | ok u =>
          have hload' := hturn.result.symm.trans hload
          simp only [Session.loadPath, hread', hload, hload',
            hresolve, hturn.session.directory]
          exact ⟨rfl, { hturn.session with directory := rfl }⟩

/-- A line is added to the same source, so it compiles in both sessions or
in neither. -/
theorem Agrees.declare (h : a.Agrees b) (line : String) :
    (a.declare line).Agrees (b.declare line) := by
  have hsource : appendLine a.source line = appendLine b.source line := by
    rw [h.source]
  cases hcompile : (Grammar.compile (appendLine a.source line)).result with
  | error e =>
      have hcompile' := hsource ▸ hcompile
      exact ⟨(declare_error hcompile).1.trans (declare_error hcompile').1.symm,
        h.keeps (declare_error hcompile).2 (declare_error hcompile').2⟩
  | ok g =>
      have hcompile' := hsource ▸ hcompile
      have hput : { a with
            grammar := g, source := appendLine a.source line }.Agrees
          { b with grammar := g, source := appendLine b.source line } :=
        { h with grammar := rfl, source := hsource }
      exact ⟨(declare_ok hcompile).1.trans (declare_ok hcompile').1.symm,
        hput.keeps (declare_ok hcompile).2 (declare_ok hcompile').2⟩

-- ================================================================== words

/-- A derivation is shown on the side and has the same result. -/
theorem Agrees.report (h : a.Agrees b) (derivation : Derivation) :
    (a.report derivation).Agrees (b.report derivation) :=
  ⟨(result_report derivation).trans (result_report derivation).symm,
    h.keeps (keeps_report derivation) (keeps_report derivation)⟩

/-- The words drawn do not depend on whether derivations are shown. -/
theorem Agrees.generate? (h : a.Agrees b) :
    Generation.generate? a.grammar.rules a.grammar.morphology a.options
        a.random
      = Generation.generate? b.grammar.rules b.grammar.morphology b.options
        b.random := by
  have hfinish : ∀ morphology drawn,
      Generation.finishDrawn morphology a.options drawn
        = Generation.finishDrawn morphology b.options drawn := by
    intro morphology drawn
    cases drawn with
    | error e => rfl
    | ok word =>
        simp only [Generation.finishDrawn, Generation.finish, h.morphology,
          h.keepSyllables]
  simp only [Generation.generate?, hfinish, h.grammar, h.random]

/-- The next word is the same in both sessions, and takes the same random
words. -/
theorem Agrees.generate (h : a.Agrees b) :
    a.generate.Agrees b.generate := by
  have hdrawn := h.generate?
  unfold Session.generate
  rw [hdrawn]
  split
  · exact ⟨rfl, h⟩
  · have hafter : ∀ random : KeyStream,
        { a with random }.Agrees { b with random } :=
      fun random => { h with random := rfl }
    exact (hafter _).report _

/-- So are the next ones, up to the first that fails; what has been shown on
the side so far may differ. -/
theorem Agrees.generateMore (h : a.Agrees b) (words : List String)
    (shown shown' : List Diagnostic) (count : Nat) :
    (a.generateMore words shown count).Agrees
      (b.generateMore words shown' count) := by
  induction count generalizing a b words shown shown' with
  | zero => exact ⟨rfl, h⟩
  | succ count ih =>
      have hturn := h.generate
      simp only [Session.generateMore, ← hturn.result]
      cases a.generate.result with
      | error e => exact ⟨rfl, hturn.session⟩
      | ok word => exact ih hturn.session _ _ _

theorem Agrees.generateMany (h : a.Agrees b) (count : Nat) :
    (a.generateMany count).Agrees (b.generateMany count) :=
  h.generateMore [] [] [] count

/-- A word goes through the same sound changes in both sessions. -/
theorem Agrees.transform (h : a.Agrees b) (word : String) :
    (a.transform word).Agrees (b.transform word) := by
  rw [Session.transform, Session.transform, h.grammar]
  exact h.report _

end

end Session

-- =============================================================== the shell

namespace Shell

section

variable {a b : Session}

/-- A switch is set to the same position in both sessions. -/
theorem agrees_applySetting (h : a.Agrees b) (setting : Setting)
    (on : Bool) :
    (applySetting a setting on).Agrees (applySetting b setting on) := by
  cases setting with
  | morphology => exact { h with morphology := rfl }
  | syllables => exact { h with keepSyllables := rfl }
  | debug | trace => exact { h with }

theorem agrees_respond {α : Type} {turn turn' : Turn α}
    (h : turn.Agrees turn') {f f' : α → Response} (hf : f = f') :
    (respond turn f).Agrees (respond turn' f') := by
  subst hf
  exact ⟨congrArg (Except.map f) h.result, h.session⟩

theorem agrees_answer (h : a.Agrees b) (result : Except Error Response) :
    (answer a result).Agrees (answer b result) := ⟨rfl, h⟩

/-- A command does the same in sessions that agree. -/
theorem agrees_execute (h : a.Agrees b)
    (read : String → Except String String) (command : Command) :
    (execute a read command).Agrees (execute b read command) := by
  cases command with
  | load path =>
      have hturn := h.loadPath read path
      refine agrees_respond hturn ?_
      rw [hturn.session.grammar]
  | generate count => exact agrees_respond (h.generateMany count) rfl
  | showRule id =>
      simp only [execute, describeRule, h.grammar]
      exact agrees_answer h _
  | listRules =>
      simp only [execute, listRules, h.grammar]
      exact agrees_answer h _
  | transform word => exact agrees_respond (h.transform word) rfl
  | set setting on =>
      exact agrees_answer (agrees_applySetting h setting on) _
  | seed seed =>
      have hseeded : (a.reseed (UInt64.ofNat seed)).Agrees
          (b.reseed (UInt64.ofNat seed)) := { h with random := rfl }
      exact agrees_answer hseeded _
  | help | quit => exact agrees_answer h _
  | declare line => exact agrees_respond (h.declare line) rfl

/-- A line does the same in sessions that agree. -/
theorem agrees_evaluate (h : a.Agrees b)
    (read : String → Except String String) (line : String) :
    (evaluate a read line).Agrees (evaluate b read line) := by
  unfold evaluate
  split
  · exact agrees_answer h _
  · split
    · exact agrees_answer h _
    · exact agrees_execute h read _

end

-- ================================================================ switches

/-- A line of the shell, and the files as they are when it is typed. -/
structure Line where
  text : String
  read : String → Except String String

/-- Whether a line turns the tracer or the debug switch on or off. -/
def Line.isSwitch (line : Line) : Bool :=
  match Command.parse line.text with
  | .ok (.set .debug _) | .ok (.set .trace _) => true
  | _ => false

/-- Turning a switch leaves a session in agreement with what it was. -/
theorem agrees_evaluate_switch {line : Line} (h : line.isSwitch = true)
    (session : Session) :
    (evaluate session line.read line.text).Agrees
      (answer session (.ok .nothing)) := by
  have hsame := Session.Agrees.refl session
  unfold evaluate
  split
  · exact agrees_answer hsame _
  · unfold Line.isSwitch at h
    split at h
    · next hparse =>
        rw [hparse]
        exact ⟨rfl, { hsame with }⟩
    · next hparse =>
        rw [hparse]
        exact ⟨rfl, { hsame with }⟩
    · cases h

/-- Carries out lines one after the other; each is returned with the
answer to it. -/
def evaluateAll (session : Session) :
    List Line → List (Line × Except Error Response) × Session
  | [] => ([], session)
  | line :: rest =>
      let turn := evaluate session line.read line.text
      let (answers, last) := evaluateAll turn.session rest
      ((line, turn.result) :: answers, last)

/-- The answers to the lines that turn no switch. -/
def withoutSwitches (answers : List (Line × Except Error Response)) :
    List (Line × Except Error Response) :=
  answers.filter fun answer => !answer.1.isSwitch

/-- Lines that turn a switch can be left out. -/
theorem evaluateAll_filter {a b : Session} (h : a.Agrees b)
    (lines : List Line) :
    withoutSwitches (evaluateAll a lines).1
        = (evaluateAll b (lines.filter (!·.isSwitch))).1
      ∧ (evaluateAll a lines).2.Agrees
        (evaluateAll b (lines.filter (!·.isSwitch))).2 := by
  -- A line that turns a switch is passed over on the right, and does not
  -- lead the left session away from it; any other is carried out in both.
  induction lines generalizing a b with
  | nil => exact ⟨rfl, h⟩
  | cons line rest ih =>
      cases hswitch : line.isSwitch with
      | true =>
          have hturn := agrees_evaluate_switch hswitch a
          obtain ⟨hanswers, hlast⟩ := ih (hturn.session.trans h)
          simp only [evaluateAll, withoutSwitches, List.filter_cons,
            hswitch, Bool.not_true, Bool.false_eq_true, if_false]
          exact ⟨hanswers, hlast⟩
      | false =>
          have hturn := agrees_evaluate h line.read line.text
          obtain ⟨hanswers, hlast⟩ := ih hturn.session
          simp only [evaluateAll, withoutSwitches, List.filter_cons,
            hswitch, Bool.not_false, if_true]
          exact ⟨congr (congrArg List.cons (congrArg _ hturn.result))
            hanswers, hlast⟩

/-- Tracing and debug printing never change results. In sessions that
differ in the tracer and the debug switch at most, lines that differ in
the lines that turn these two at most have the same answers otherwise, one
by one; and the sessions differ no more afterwards. -/
theorem evaluateAll_switches {a b : Session} (h : a.Agrees b)
    {lines lines' : List Line}
    (hlines : lines.filter (!·.isSwitch) = lines'.filter (!·.isSwitch)) :
    withoutSwitches (evaluateAll a lines).1
        = withoutSwitches (evaluateAll b lines').1
      ∧ (evaluateAll a lines).2.Agrees (evaluateAll b lines').2 := by
  obtain ⟨hanswers, hlast⟩ := evaluateAll_filter h lines
  obtain ⟨hanswers', hlast'⟩ :=
    evaluateAll_filter (Session.Agrees.refl b) lines'
  rw [hlines] at hanswers hlast
  exact ⟨hanswers.trans hanswers'.symm, hlast.trans hlast'.symm⟩

/-- A session that is traced from the second line on, and one that is
traced before and shows derivations as well. -/
theorem evaluateAll_switches_watched :
    let read : String → Except String String := fun _ => .error "no files"
    let quiet := Session.new (.ofSeed 7) "."
    let watched := { quiet with
      options := { debug := true }, tracer := .new .verbose 0 }
    let lines : List Line := [⟨"V: a e", read⟩, ⟨":set trace on", read⟩,
      ⟨"W: pV", read⟩, ⟨":gen 3", read⟩]
    let lines' : List Line := [⟨":set debug off", read⟩, ⟨"V: a e", read⟩,
      ⟨"W: pV", read⟩, ⟨":set debug on", read⟩, ⟨":gen 3", read⟩]
    withoutSwitches (evaluateAll quiet lines).1
        = withoutSwitches (evaluateAll watched lines').1
      ∧ (evaluateAll quiet lines).2.Agrees (evaluateAll watched lines').2 := by
  intro read quiet watched lines lines'
  have hagrees : quiet.Agrees watched := ⟨rfl, rfl, rfl, rfl, rfl, rfl, rfl⟩
  have hparse : ∀ p ∈ [("V: a e", Command.declare "V: a e"),
      ("W: pV", .declare "W: pV"), (":gen 3", .generate 3),
      (":set trace on", .set .trace true), (":set debug on", .set .debug true),
      (":set debug off", .set .debug false)],
      Command.parse p.1 = .ok p.2 := by decide +kernel
  have hlines : lines.filter (!·.isSwitch) = lines'.filter (!·.isSwitch) := by
    simp only [List.forall_mem_cons] at hparse
    obtain ⟨hvowels, hwords, hcount, htrace, hon, hoff, -⟩ := hparse
    simp [lines, lines', Line.isSwitch, hvowels, hwords, hcount, htrace, hon,
      hoff]
  exact evaluateAll_switches hagrees hlines

end Shell

end WordGrammar
