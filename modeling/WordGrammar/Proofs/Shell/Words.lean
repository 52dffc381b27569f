/-
Words never break a line of the shell.

However a session was come by (`Session.Reachable`), its source compiles to
its grammar (`Session.Reachable.faithful`), and a grammar that compiles makes
no word with a line end in it (`Generation.inline_of_generate?`), nor does it
change a word without one into a word with one. So what the shell prints for a
word is one line, and the lines that it prints for several words are the words.
-/
import WordGrammar.Proofs.Grammar.Inline
import WordGrammar.Proofs.Session.Words
import WordGrammar.Proofs.Shell.Command
import WordGrammar.Proofs.Shell.Noninterference

namespace WordGrammar

open Text (Inline inline_iff)

/-- The text has neither a line feed nor a carriage return. -/
def HasNoLineEnd (text : String) : Prop :=
  '\n' ∉ text.toList ∧ '\r' ∉ text.toList

theorem hasNoLineEnd_iff {text : String} :
    HasNoLineEnd text ↔ Inline text.toList := inline_iff.symm

-- ========================================================= reachable sessions

namespace Session

/-- Sessions that calls and lines of the shell lead to, in any order, whether
they succeed or fail. -/
inductive Reachable : Session → Prop
  | new (random : KeyStream) (directory : String) :
      Reachable (new random directory)
  | call {session : Session} (h : Reachable session) (call : Call) :
      Reachable (session.apply call)
  | line {session : Session} (h : Reachable session) (line : Shell.Line) :
      Reachable (Shell.evaluate session line.read line.text).session

/-- Generating words keeps a session faithful. -/
theorem faithful_generateMore {session : Session} (hs : session.Faithful)
    (words : List String) (diagnostics : List Diagnostic) (count : Nat) :
    (session.generateMore words diagnostics count).session.Faithful := by
  induction count generalizing session words diagnostics with
  | zero => exact hs
  | succ count ih =>
      rw [generateMore]
      cases session.generate.result with
      | error e => exact faithful_generate hs
      | ok word => exact ih (faithful_generate hs) _ _

end Session

namespace Shell

/-- A command keeps a session faithful. -/
theorem faithful_execute {session : Session} (hs : session.Faithful)
    (read : String → Except String String) (command : Command) :
    (execute session read command).session.Faithful := by
  cases command with
  | load path => exact Session.faithful_loadPath hs
  | generate count => exact Session.faithful_generateMore hs [] [] count
  | transform word => exact (Session.keeps_report _).faithful hs
  | set setting on => cases setting <;> exact hs
  | declare line => exact Session.faithful_declare hs line
  | showRule | listRules | seed | help | quit => exact hs

/-- So does a line of the shell. -/
theorem faithful_evaluate {session : Session} (hs : session.Faithful)
    (line : Line) :
    (evaluate session line.read line.text).session.Faithful := by
  unfold evaluate
  split
  · exact hs
  · split
    · exact hs
    · exact faithful_execute hs line.read _

end Shell

/-- Whatever led to a session, its source compiles to its grammar. -/
theorem Session.Reachable.faithful {session : Session}
    (h : session.Reachable) : session.Faithful := by
  induction h with
  | new random directory => exact faithful_new random directory
  | call _ call ih => exact faithful_apply ih call
  | line _ line ih => exact Shell.faithful_evaluate ih line

theorem Session.Reachable.evaluateAll {session : Session}
    (h : session.Reachable) (lines : List Shell.Line) :
    (Shell.evaluateAll session lines).2.Reachable := by
  induction lines generalizing session with
  | nil => exact h
  | cons line rest ih => exact ih (h.line line)

-- ===================================================================== words

namespace Generator

variable {generator next : Generator} {word : String}

/-- A word that a generator makes is generated with its grammar, and only
the random words are other ones afterwards. -/
theorem of_generate_eq_ok (h : generator.generate = (.ok word, next)) :
    ∃ derivation random, Generation.generate? generator.grammar.rules
        generator.grammar.morphology generator.options generator.random
        = some (derivation, random)
      ∧ derivation.result = .ok word
      ∧ next = { generator with random } := by
  unfold generate at h
  split at h
  · cases h
  · next derivation random hmade =>
      obtain ⟨hresult, hnext⟩ := Prod.mk.inj h
      exact ⟨derivation, random, hmade, hresult, hnext.symm⟩

/-- All words that are taken stay on one line, and none is missing. -/
theorem inline_of_take {source : String}
    (hcompile : (Grammar.compile source).result = .ok generator.grammar)
    {count : Nat} {words : List String}
    (h : (generator.take count).1 = .ok words) :
    words.length = count ∧ ∀ word ∈ words, Inline word.toList := by
  induction count generalizing generator words with
  | zero =>
      cases h
      exact ⟨rfl, fun word hword => nomatch hword⟩
  | succ count ih =>
      rcases hcall : generator.generate with ⟨e | word, next⟩
      · rw [take_of_error hcall] at h
        cases h
      -- The generator goes on with the same grammar, so the hypothesis
      -- holds of the next word too.
      · obtain ⟨derivation, random, hmade, hresult, hnext⟩ :=
          of_generate_eq_ok hcall
        have hcompile' : (Grammar.compile source).result
            = .ok next.grammar := by
          rw [hnext]
          exact hcompile
        rw [take_of_ok hcall] at h
        cases hrest : (next.take count).1 with
        | error e => rw [hrest] at h; cases h
        | ok rest =>
            rw [hrest] at h
            cases h
            obtain ⟨hlength, hinline⟩ := ih hcompile' hrest
            exact ⟨congrArg (· + 1) hlength, List.forall_mem_cons.2
              ⟨Generation.inline_of_generate? hcompile hmade hresult,
                hinline⟩⟩

end Generator

namespace Shell

/-- A line with a command that is no declaration carries the command out. -/
theorem evaluate_of_parse {session : Session} {line : Line}
    {command : Command} (h : Command.parse line.text = .ok command)
    (hdeclare : ∀ line, command ≠ .declare line) :
    evaluate session line.read line.text
      = execute session line.read command := by
  unfold evaluate
  split
  · next hblank =>
      rw [Command.parse, hblank] at h
      cases h
      exact absurd rfl (hdeclare _)
  · rw [h]

/-- The word of a command stands between blanks. -/
theorem Command.inline_of_parse {line word : String}
    (h : Command.parse line = .ok (.transform word)) : Inline word.toList := by
  obtain ⟨words, -, -, -, -, hsaid, -⟩ := isWrittenAs_of_parse h nofun
  cases hsaid with
  | transform _ hword =>
      exact fun c hc => Text.not_isLineEnd_of_not_isBlank (hword.2 c hc)

/-- An answer comes of a turn that succeeded. -/
theorem of_respond_eq_ok {α : Type} {turn : Turn α} {f : α → Response}
    {response : Response} (h : (respond turn f).result = .ok response) :
    ∃ a, turn.result = .ok a ∧ f a = response := by
  rw [respond] at h
  cases hresult : turn.result with
  | error e => rw [hresult] at h; cases h
  | ok a =>
      rw [hresult] at h
      exact ⟨a, rfl, Except.ok.inj h⟩

/-- Lines that are printed one after the other can be told apart. -/
theorem split_intercalate {words : List String} (hne : words ≠ [])
    (h : ∀ word ∈ words, Inline word.toList) :
    (("\n".intercalate words).split '\n').toList.map (·.copy) = words := by
  have hfeed : ∀ word ∈ words, '\n' ∉ word.toList :=
    fun word hword => (inline_iff.1 (h word hword)).1
  have hsplit := String.toList_split_intercalate hfeed
  rwa [if_neg hne] at hsplit

/-- Words never break a line. In a session that any calls and lines have led
to, no word that is generated has a line end in it, under any options and from
any random words, and neither has the word that a sound change command prints.
So if several words are printed, splitting the text at its line feeds gives
back the list of the words that were generated, in their order. -/
theorem hasNoLineEnd_of_reachable {session : Session}
    (h : session.Reachable) :
    (∀ (options : Options) (word : String),
      { session with options }.generate.result = .ok word →
      HasNoLineEnd word)
    ∧ (∀ (σ : Type) [WordSource σ] (s s' : σ) (options : Options)
        (derivation : Derivation) (word : String),
      Generation.generate? session.grammar.rules session.grammar.morphology
        options s = some (derivation, s') →
      derivation.result = .ok word → HasNoLineEnd word)
    ∧ (∀ (line : Line) (word text : String),
      Command.parse line.text = .ok (.transform word) →
      (evaluate session line.read line.text).result = .ok (.output text) →
      HasNoLineEnd text)
    ∧ ∀ (line : Line) (count : Nat) (text : String), 1 ≤ count →
      Command.parse line.text = .ok (.generate count) →
      (evaluate session line.read line.text).result = .ok (.output text) →
      ∃ words, (session.generateMany count).result = .ok words
        ∧ words.length = count
        ∧ (text.split '\n').toList.map (·.copy) = words := by
  have hcompile : (Grammar.compile session.source).result
      = .ok session.grammar := h.faithful
  have hmade : ∀ {σ : Type} [WordSource σ] {s s' : σ} {options : Options}
      {derivation : Derivation} {word : String},
      Generation.generate? session.grammar.rules session.grammar.morphology
        options s = some (derivation, s') →
      derivation.result = .ok word → HasNoLineEnd word :=
    fun hrun hword => hasNoLineEnd_iff.2
      (Generation.inline_of_generate? hcompile hrun hword)
  refine ⟨fun options word hword => ?_,
    fun σ _ s s' options derivation word hrun hword => hmade hrun hword,
    fun line word text hline htext => ?_,
    fun line count text hcount hline htext => ?_⟩
  · have hcall := { session with options }.generate_generator
    rw [hword] at hcall
    obtain ⟨derivation, random, hrun, hresult, -⟩ :=
      Generator.of_generate_eq_ok hcall.symm
    exact hmade hrun hresult
  · rw [evaluate_of_parse hline (fun _ => nofun)] at htext
    obtain ⟨_, htransform, htext⟩ := of_respond_eq_ok htext
    cases htext
    have hderive := (Session.result_report _).symm.trans htransform
    exact hasNoLineEnd_iff.2 ((Grammar.isInline_of_compile hcompile).derive
      (Command.inline_of_parse hline) hderive)
  · rw [evaluate_of_parse hline (fun _ => nofun)] at htext
    obtain ⟨words, hwords, htext⟩ := of_respond_eq_ok htext
    cases htext
    have hmany := session.generateMany_generator count
    rw [hwords] at hmany
    obtain ⟨hlength, hinline⟩ :=
      Generator.inline_of_take hcompile (congrArg Prod.fst hmany).symm
    have hne : words ≠ [] := List.ne_nil_of_length_pos (hlength ▸ hcount)
    exact ⟨words, hwords, hlength, split_intercalate hne hinline⟩

/-- A replacement that is written with an escaped backslash before an `n`. The
two words that are printed have the backslash and the letter in them. -/
theorem hasNoLineEnd_of_reachable_escaped :
    let read : String → Except String String := fun _ => .error "no files"
    let lines : List Line := [⟨"W: pan", read⟩, ⟨"/n/ > \"\\\\n\"", read⟩,
      ⟨":set morphology on", read⟩]
    let session := (evaluateAll (Session.new (.ofSeed 7) ".") lines).2
    (evaluate session read ":gen 2").result = .ok (.output "pa\\n\npa\\n")
      ∧ ∃ words, (session.generateMany 2).result = .ok words
        ∧ words.length = 2
        ∧ ("pa\\n\npa\\n".split '\n').toList.map (·.copy) = words := by
  intro read lines session
  have hreachable : session.Reachable :=
    (Session.Reachable.new (.ofSeed 7) ".").evaluateAll lines
  have hparse : Command.parse ":gen 2" = .ok (.generate 2) := by
    decide +kernel
  have hprinted : (evaluate session read ":gen 2").result
      = .ok (.output "pa\\n\npa\\n") := by
    decide +kernel
  obtain ⟨-, -, -, hsplit⟩ := hasNoLineEnd_of_reachable hreachable
  exact ⟨hprinted,
    hsplit ⟨":gen 2", read⟩ 2 "pa\\n\npa\\n" (by decide) hparse hprinted⟩

end Shell

end WordGrammar
