/-
The words that a run of the command line writes.

A run that writes words writes those that the generator of its session makes,
with separators between them, until they are enough or one fails
(`ends_writeWords`). A session that a file was loaded into has the generator
with the grammar of the file's text (`Session.loadPath_generator`); so the
run writes the words that all other ways of asking for them return, and fails
where they fail (`frontEnds_make_series`).
-/
import WordGrammar.CommandLine.Run
import WordGrammar.Proofs.Session.Words

namespace WordGrammar

namespace CommandLine

-- ============================================================ what is written

/-- What an action puts on standard output. -/
def Action.written : Action → String
  | .effect (.output text) => text
  | _ => ""

/-- What actions put on standard output. -/
def written (actions : List Action) : String :=
  String.join (actions.map Action.written)

/-- `outcome.Ends text failure?`: the run has put the text on standard output,
and failed, or else succeeded. -/
structure Outcome.Ends (outcome : Outcome) (text : String)
    (failure? : Option Error) : Prop where
  written : written outcome.actions = text
  ended : match failure? with
    | none => outcome.code = 0
    | some e =>
        outcome.code = 1 ∧ outcome.actions.getLast? = some (failed e)

/-- What ends the last line: nothing if the run goes on or has failed. -/
def lineEnd (settings : Settings) (failure? : Option Error) : String :=
  if settings.infinite || failure?.isSome then "" else "\n"

theorem written_append (actions more : List Action) :
    written (actions ++ more) = written actions ++ written more := by
  rw [written, List.map_append, String.join_append]
  rfl

theorem written_output (text : String) :
    written [.effect (.output text)] = text :=
  (String.join_cons ..).trans (String.append_empty ..)

/-- Diagnostics are not put on standard output. -/
theorem written_shown (diagnostics : List Diagnostic) :
    written (shown diagnostics) = "" := by
  induction diagnostics with
  | nil => rfl
  | cons diagnostic rest ih =>
      exact (String.join_cons ..).trans ((String.empty_append ..).trans ih)

/-- What is done on the side before a run does not count as its text. -/
theorem Outcome.Ends.after {outcome : Outcome} {text : String}
    {failure? : Option Error} (h : outcome.Ends text failure?)
    {before : List Action} (hbefore : CommandLine.written before = "") :
    { outcome with actions := before ++ outcome.actions }.Ends text
      failure? := by
  obtain ⟨htext, hended⟩ := h
  refine ⟨?_, ?_⟩
  · rw [written_append, hbefore, String.empty_append, htext]
  · cases failure? with
    | none => exact hended
    | some e =>
        exact ⟨hended.1, by rw [List.getLast?_append, hended.2]; rfl⟩

-- ========================================================== words in a row

/-- The text of words that are written after `before` others. -/
def wordsText (settings : Settings) : Nat → List String → String
  | _, [] => ""
  | before, word :: rest =>
      wordText settings before word ++ wordsText settings (before + 1) rest

/-- After other words, every word has the separator before it. -/
theorem wordsText_succ (settings : Settings) (before : Nat)
    {words : List String} (h : words ≠ []) :
    wordsText settings (before + 1) words
      = settings.separator ++ settings.separator.intercalate words := by
  induction words generalizing before with
  | nil => exact absurd rfl h
  | cons word rest ih =>
      have hword : wordText settings (before + 1) word
        = settings.separator ++ word := if_neg (Nat.succ_ne_zero before)
      rw [wordsText, hword]
      by_cases hrest : rest = []
      · subst hrest
        rw [wordsText, String.append_empty, String.intercalate_singleton]
      · rw [ih (before + 1) hrest,
          String.intercalate_cons_of_ne_nil hrest, String.append_assoc,
          String.append_assoc]

/-- From the first word on, the separator stands between the words. -/
theorem wordsText_zero (settings : Settings) (words : List String) :
    wordsText settings 0 words = settings.separator.intercalate words := by
  cases words with
  | nil => exact String.intercalate_nil.symm
  | cons word rest =>
      have hword : wordText settings 0 word = word := rfl
      rw [wordsText, hword]
      by_cases hrest : rest = []
      · subst hrest
        rw [wordsText, String.append_empty, String.intercalate_singleton]
      · rw [wordsText_succ settings 0 hrest,
          String.intercalate_cons_of_ne_nil hrest, String.append_assoc]

section

variable {settings : Settings} {session : Session} {before : Nat}
  {actions : List Action}

/-- The first word that cannot be made ends the run. -/
theorem writeWords_of_error {e : Error}
    (h : session.generate.result = .error e) (count : Nat) :
    writeWords settings session before actions (count + 1)
      = ⟨actions.reverse ++ shown session.generate.diagnostics ++ [failed e],
        1⟩ := by
  rw [writeWords, h]
  simp only [List.reverse_cons, List.reverse_append, List.reverse_reverse]

/-- A word that is made is written, and the run goes on. -/
theorem writeWords_of_ok {word : String}
    (h : session.generate.result = .ok word) (count : Nat) :
    writeWords settings session before actions (count + 1)
      = writeWords settings session.generate.session (before + 1)
          (.effect (.output (wordText settings before word))
            :: ((shown session.generate.diagnostics).reverse ++ actions))
          count := by
  rw [writeWords, h]

end

/-- The words that a session makes are written after what was written
before. -/
theorem ends_writeWords (settings : Settings) {session : Session}
    {series : Series} {count : Nat} (h : session.generator.Makes series)
    (hfills : series.Fills count) (before : Nat) (actions : List Action) :
    (writeWords settings session before actions count).Ends
      (written actions.reverse ++ (wordsText settings before series.words
        ++ lineEnd settings series.failure?)) series.failure? := by
  generalize hgenerator : session.generator = generator at h
  -- Along the series. The actions are collected in reverse, which is undone
  -- once, at the end of the run.
  induction h generalizing session count before actions with
  | done =>
      obtain rfl : 0 = count := hfills
      refine ⟨?_, rfl⟩
      rw [writeWords, lineEnd, wordsText, String.empty_append,
        List.reverse_append, written_append]
      cases settings.infinite <;> rfl
  | @failure generator next e hcall =>
      obtain ⟨count, rfl⟩ := Nat.exists_eq_add_of_lt hfills
      have hgenerate := session.generate_generator
      rw [hgenerator, hcall, Prod.mk.injEq] at hgenerate
      rw [writeWords_of_error hgenerate.1]
      refine ⟨?_, rfl, List.getLast?_concat⟩
      rw [written_append, written_append, written_shown, wordsText, lineEnd,
        Option.isSome_some, Bool.or_true, if_pos rfl]
      simp only [String.append_assoc]
      rfl
  | @word generator next word series hcall hrest ih =>
      cases count with
      | zero => exact absurd hfills Series.not_fills_cons_zero
      | succ count =>
          have hgenerate := session.generate_generator
          rw [hgenerator, hcall, Prod.mk.injEq] at hgenerate
          rw [writeWords_of_ok hgenerate.1]
          have hrun := ih (Series.fills_cons.1 hfills) (before + 1)
            (.effect (.output (wordText settings before word))
              :: ((shown session.generate.diagnostics).reverse ++ actions))
            hgenerate.2
          rw [List.reverse_cons, List.reverse_append, List.reverse_reverse,
            written_append, written_append, written_shown, written_output,
            String.append_empty, String.append_assoc] at hrun
          rw [Series.cons, wordsText, String.append_assoc]
          exact hrun

-- =============================================================== whole runs

/-- A run that is given a seed starts from the generator of this seed,
without a grammar yet. -/
theorem generator_start {settings : Settings} {seed : UInt64}
    (hseed : settings.seed = some seed.toNat) (random : KeyStream)
    (directory : String) :
    (start settings random directory).generator
      = .seeded {} settings.options seed := by
  rw [start, hseed]
  exact congrArg (Generator.seeded {} settings.options)
    (UInt64.ofNat_toNat (x := seed))

theorem directory_start (settings : Settings) (random : KeyStream)
    (directory : String) :
    (start settings random directory).directory = directory := by
  rw [start]
  split <;> rfl

/-- A run whose file is loaded announces the words and writes them. -/
theorem run_of_loaded {settings : Settings} {random : KeyStream}
    {directory : String} {read : String → Except String String}
    {turn : Turn Unit}
    (hload : (start settings random directory).loadPath read settings.file
      = turn)
    (hresult : turn.result = .ok ())
    (hinteractive : settings.interactive = false)
    (lines : List Shell.Input) (patience : Nat) :
    let outcome := writeWords settings turn.session 0 []
      (if settings.infinite then patience else settings.number)
    run settings random directory read lines patience
      = { outcome with
          actions := shown turn.diagnostics
            ++ [.loadTime, announcement settings] ++ outcome.actions } := by
  simp only [run, hload, hresult, hinteractive, Bool.false_eq_true, if_false,
    List.append_assoc, List.cons_append, List.nil_append]

/-- A run that writes words writes those of the generator with the grammar of
its file, its options and its seed. -/
theorem ends_run {settings : Settings} {seed : UInt64} {source : String}
    {g : Grammar} {read : String → Except String String}
    {directory : String} {patience : Nat} {series : Series}
    (hseed : settings.seed = some seed.toNat)
    (hinteractive : settings.interactive = false)
    (hread : read (Path.join directory settings.file) = .ok source)
    (hcompile : (Grammar.compile source).result = .ok g)
    (hmakes : (Generator.seeded g settings.options seed).Makes series)
    (hfills : series.Fills
      (if settings.infinite then patience else settings.number))
    (random : KeyStream) (lines : List Shell.Input) :
    (run settings random directory read lines patience).Ends
      (settings.separator.intercalate series.words
        ++ lineEnd settings series.failure?) series.failure? := by
  have hresolve : read ((start settings random directory).resolve
      settings.file) = .ok source := by
    rw [Session.resolve, directory_start, hread]
  obtain ⟨hresult, hgenerator⟩ :=
    Session.loadPath_generator _ hresolve hcompile
  rw [generator_start hseed] at hgenerator
  rw [run_of_loaded rfl hresult hinteractive]
  generalize (start settings random directory).loadPath read settings.file
    = turn at hgenerator
  have hbefore : written (shown turn.diagnostics
      ++ [.loadTime, announcement settings]) = "" := by
    rw [written_append, written_shown]
    rfl
  have hmakes' : turn.session.generator.Makes series := by
    rw [hgenerator]
    exact hmakes
  have hwords :=
    (ends_writeWords settings hmakes' hfills 0 []).after hbefore
  rw [wordsText_zero] at hwords
  exact hwords

end CommandLine

-- ============================================================= the results

/-- All front ends make the same words. With a grammar that compiles, for any
options, any seed and any number of words there is one series of that many
words, or of fewer and a failure, and it is what all who ask for it get: those
who take the words from a generator, or any first part of them; who list its
stream, or make calls in a row, up to the first failure; who ask a session for
the words, whatever its tracer, in one batch or in several; and who let the
command line write them, which writes the words of the series and nothing but
separators between them, and fails exactly if the series does. -/
theorem frontEnds_make_series {source : String} {g : Grammar}
    (hcompile : (Grammar.compile source).result = .ok g)
    (options : Options) (seed : UInt64) (count : Nat) :
    let generator := Generator.seeded g options seed
    ∃ series : Series, series.Fills count
      ∧ (∀ first ≤ count,
          (generator.take first).1 = series.result first)
      ∧ untilFailure (generator.words count) = series.items
      ∧ untilFailure (Generation.callEach g.rules g.morphology options count
          (KeyStream.ofSeed seed)) = series.items
      ∧ (∀ (prior : Session) (origin : String) (tracer : Tracer),
          let session := prior.applyAll [.load source origin,
            .setOptions options, .setTracer tracer, .reseed seed]
          (∀ first ≤ count,
            (session.generateMany first).result = series.result first)
          ∧ ∀ counts : List Nat, counts.sum ≤ count →
            session.generateBatches counts = series.result counts.sum)
      ∧ ∀ (settings : CommandLine.Settings) (random : KeyStream)
          (directory : String) (read : String → Except String String)
          (lines : List Shell.Input) (patience : Nat),
          settings.options = options →
          settings.seed = some seed.toNat →
          settings.interactive = false →
          (if settings.infinite then patience else settings.number) = count →
          read (Path.join directory settings.file) = .ok source →
          (CommandLine.run settings random directory read lines patience).Ends
            (settings.separator.intercalate series.words
              ++ CommandLine.lineEnd settings series.failure?)
            series.failure? := by
  intro generator
  obtain ⟨series, hmakes, hfills⟩ := generator.exists_makes count
  have htake : ∀ first ≤ count,
      (generator.take first).1 = series.result first :=
    fun first hfirst => Generator.take_of_makes hmakes hfills hfirst
  have hwords := Generator.untilFailure_words hmakes hfills
  refine ⟨series, hfills, htake, hwords, ?_, ?_, ?_⟩
  · rw [← hwords, Generator.words_eq_callEach]
    rfl
  · intro prior origin tracer session
    have hsession : session.generator = generator :=
      congrArg (fun made => { made with options, random := .ofSeed seed })
        (prior.load_generator hcompile origin)
    refine ⟨fun first hfirst => ?_, fun counts hcounts => ?_⟩
    · have hmany := session.generateMany_generator first
      rw [hsession] at hmany
      exact (congrArg Prod.fst hmany).trans (htake first hfirst)
    · rw [session.generateBatches_eq_take, hsession, htake _ hcounts]
  · rintro settings random directory read lines patience rfl hseed
      hinteractive rfl hread
    exact CommandLine.ends_run hseed hinteractive hread hcompile hmakes hfills
      random lines

/-- Two words of a grammar with a vowel to choose, taken from a generator and
written by a run of the command line. -/
theorem frontEnds_make_series_pair : ∃ g,
    (Grammar.compile "V: a e\nW: pV").result = .ok g
      ∧ ∃ series : Series, series.Fills 2
        ∧ ((Generator.seeded g {} 7).take 2).1 = series.result 2
        ∧ (CommandLine.run { file := "words", number := 2, seed := some 7 }
            (.ofSeed 0) "." (fun _ => .ok "V: a e\nW: pV") [] 0).Ends
          ("\n".intercalate series.words ++ CommandLine.lineEnd
            { file := "words", number := 2, seed := some 7 } series.failure?)
          series.failure? := by
  have hcompile : (Grammar.compile "V: a e\nW: pV").result
      = .ok ((Grammar.compile "V: a e\nW: pV").result.toOption.getD {}) := by
    have hsome : (Grammar.compile
        "V: a e\nW: pV").result.toOption.isSome = true := by
      decide +kernel
    cases hresult : (Grammar.compile "V: a e\nW: pV").result with
    | error e => rw [hresult] at hsome; cases hsome
    | ok g => rfl
  obtain ⟨series, hfills, htake, -, -, -, hrun⟩ :=
    frontEnds_make_series hcompile {} 7 2
  exact ⟨_, hcompile, series, hfills, htake 2 (Nat.le_refl 2),
    hrun { file := "words", number := 2, seed := some 7 } (.ofSeed 0) "."
      (fun _ => .ok "V: a e\nW: pV") [] 0 rfl rfl rfl rfl rfl⟩

end WordGrammar
