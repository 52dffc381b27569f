/-
Sessions and the grammars they hold.

The grammar of a session is at all times the one its source compiles to
(`Faithful`): every call puts the two in place together or neither
(`faithful_apply`). A declaration that is appended goes on a line of its
own, so the longer source declares what the old one does and then what
the line does (`declaresAll_appendLine`); compiling it is compiling the
records of both (`compile_appendLine`).
-/
import WordGrammar.Proofs.Declaration.Append
import WordGrammar.Proofs.Grammar
import WordGrammar.Session

namespace WordGrammar

namespace Session

/-- A call on a session; what it shows and returns is left aside. -/
inductive Call
  | load (source origin : String)
  | loadPath (read : String → Except String String) (path : String)
  | declare (line : String)
  | generate
  | transform (word : String)
  | setOptions (options : Options)
  | reseed (seed : UInt64)
  | setTracer (tracer : Tracer)

/-- The session after a call, whether it succeeds or fails. -/
def apply (session : Session) : Call → Session
  | .load source origin => (session.load source origin).session
  | .loadPath read path => (session.loadPath read path).session
  | .declare line => (session.declare line).session
  | .generate => session.generate.session
  | .transform word => (session.transform word).session
  | .setOptions options => { session with options }
  | .reseed seed => session.reseed seed
  | .setTracer tracer => { session with tracer }

/-- The session after some calls, one after the other. -/
def applyAll (session : Session) (calls : List Call) : Session :=
  calls.foldl apply session

/-- The grammar is the one that the source compiles to. -/
def Faithful (session : Session) : Prop :=
  (Grammar.compile session.source).result = .ok session.grammar

/-- `session.Keeps later`: the later session differs in its tracer at
most. -/
def Keeps (session later : Session) : Prop :=
  later = { session with tracer := later.tracer }

section

variable {session later : Session}

theorem Keeps.refl : session.Keeps session := rfl

/-- Recording events changes the tracer alone. -/
theorem keeps_trace (events : List Trace.Event) :
    session.Keeps (session.trace events).1 := rfl

/-- Neither the source nor the grammar is in the tracer. -/
theorem Keeps.faithful (h : session.Keeps later) (hs : session.Faithful) :
    later.Faithful := by
  rw [h]
  exact hs

-- ======================================================= loading a source

/-- Compiling a text shows in the trace and puts nothing in place yet. -/
theorem keeps_compileTraced (source : String) :
    session.Keeps (session.compileTraced source).session :=
  keeps_trace _

/-- Loading a source that does not compile changes nothing. -/
theorem load_error {source origin : String} {e : Error}
    (h : (Grammar.compile source).result = .error e) :
    (session.load source origin).result = .error e
      ∧ session.Keeps (session.load source origin).session := by
  have hresult : (session.compileTraced source).result = .error e := h
  rw [load, hresult]
  exact ⟨rfl, keeps_compileTraced source⟩

/-- Loading a source that compiles puts it and its grammar in place. -/
theorem load_ok {source origin : String} {g : Grammar}
    (h : (Grammar.compile source).result = .ok g) :
    (session.load source origin).result = .ok ()
      ∧ { session with grammar := g, source, origin }.Keeps
        (session.load source origin).session := by
  have hresult : (session.compileTraced source).result = .ok g := h
  rw [load, hresult]
  exact ⟨rfl, rfl⟩

/-- A load that fails leaves everything but the trace as it was. -/
theorem load_keeps_of_error {source origin : String} {e : Error}
    (h : (session.load source origin).result = .error e) :
    session.Keeps (session.load source origin).session := by
  cases hcompile : (Grammar.compile source).result with
  | error e' => exact (load_error hcompile).2
  | ok g =>
      rw [(load_ok hcompile).1] at h
      cases h

/-- A load puts the source and its grammar in place together. -/
theorem faithful_load (hs : session.Faithful) (source origin : String) :
    (session.load source origin).session.Faithful := by
  cases hcompile : (Grammar.compile source).result with
  | error e => exact (load_error hcompile).2.faithful hs
  | ok g => exact (load_ok hcompile).2.faithful hcompile

-- ========================================================= loading a file

section

variable {read : String → Except String String} {path : String}

/-- A file that cannot be read is not even traced. -/
theorem loadPath_unreadable {message : String}
    (h : read (session.resolve path) = .error message) :
    session.loadPath read path
      = ⟨.error (.of (.unreadable (session.resolve path) message)), session,
        []⟩ := by
  simp only [loadPath, h]

/-- It makes no difference to a text that does not compile that it came from
a file. -/
theorem loadPath_error {source : String} {e : Error}
    (h : read (session.resolve path) = .ok source)
    (hload : (session.load source path).result = .error e) :
    session.loadPath read path = session.load source path := by
  simp only [loadPath, h, hload]

/-- A text from a file that compiles also moves the directory that later
paths start from. -/
theorem loadPath_ok {source : String}
    (h : read (session.resolve path) = .ok source)
    (hload : (session.load source path).result = .ok ()) :
    (session.loadPath read path).result = .ok ()
      ∧ ∃ directory, (session.loadPath read path).session
        = { (session.load source path).session with directory } := by
  simp only [loadPath, h, hload]
  exact ⟨trivial, _, rfl⟩

/-- A load of a file that fails leaves everything but the trace as it was,
whether the file cannot be read or its text does not compile. -/
theorem loadPath_keeps_of_error {e : Error}
    (h : (session.loadPath read path).result = .error e) :
    session.Keeps (session.loadPath read path).session := by
  cases hread : read (session.resolve path) with
  | error message =>
      rw [loadPath_unreadable hread]
      exact .refl
  | ok source =>
      cases hload : (session.load source path).result with
      | error e' =>
          rw [loadPath_error hread hload]
          exact load_keeps_of_error hload
      | ok u =>
          rw [(loadPath_ok hread hload).1] at h
          cases h

theorem faithful_loadPath (hs : session.Faithful) :
    (session.loadPath read path).session.Faithful := by
  cases hread : read (session.resolve path) with
  | error message =>
      rw [loadPath_unreadable hread]
      exact hs
  | ok source =>
      have hfaithful := faithful_load hs source path
      cases hload : (session.load source path).result with
      | error e => rwa [loadPath_error hread hload]
      | ok u =>
          obtain ⟨-, directory, hsession⟩ := loadPath_ok hread hload
          rw [hsession]
          exact hfaithful

end

-- ================================================ appending a declaration

/-- A declaration that does not compile is not appended. -/
theorem declare_error {line : String} {e : Error}
    (h : (Grammar.compile (appendLine session.source line)).result
      = .error e) :
    (session.declare line).result = .error e
      ∧ session.Keeps (session.declare line).session := by
  have hresult : (session.compileTraced
      (appendLine session.source line)).result = .error e := h
  simp only [declare, hresult]
  exact ⟨trivial, keeps_compileTraced _⟩

/-- A declaration that compiles is appended, and the grammar is that of the
longer source. -/
theorem declare_ok {line : String} {g : Grammar}
    (h : (Grammar.compile (appendLine session.source line)).result = .ok g) :
    (session.declare line).result = .ok ()
      ∧ { session with
          grammar := g, source := appendLine session.source line }.Keeps
        (session.declare line).session := by
  have hresult : (session.compileTraced
      (appendLine session.source line)).result = .ok g := h
  simp only [declare, hresult]
  exact ⟨trivial, rfl⟩

/-- An append that fails leaves everything but the trace as it was. -/
theorem declare_keeps_of_error {line : String} {e : Error}
    (h : (session.declare line).result = .error e) :
    session.Keeps (session.declare line).session := by
  cases hcompile :
      (Grammar.compile (appendLine session.source line)).result with
  | error e' => exact (declare_error hcompile).2
  | ok g =>
      rw [(declare_ok hcompile).1] at h
      cases h

theorem faithful_declare (hs : session.Faithful) (line : String) :
    (session.declare line).session.Faithful := by
  cases hcompile :
      (Grammar.compile (appendLine session.source line)).result with
  | error e => exact (declare_error hcompile).2.faithful hs
  | ok g => exact (declare_ok hcompile).2.faithful hcompile

/-- The gap puts what follows on a line of its own. -/
theorem declaresAll_gap {cs gap rest : List Char}
    (hgap : gap = if cs = [] || cs.getLast? = some '\n' then [] else ['\n'])
    {said : List Statement} :
    DeclaresAll (Text.lines (cs ++ gap ++ rest)) said
      ↔ ∃ before after, DeclaresAll (Text.lines cs) before
        ∧ DeclaresAll (Text.lines rest) after ∧ said = before ++ after := by
  -- the gap depends on the last character: there is none, it is a line feed
  -- already, or it is something else
  rcases List.eq_nil_or_concat cs with rfl | ⟨cs, c, rfl⟩
  · obtain rfl : gap = [] := hgap
    simp [declaresAll_lines_nil]
  rw [List.concat_eq_append] at *
  by_cases hc : c = '\n'
  · subst hc
    obtain rfl : gap = [] := by simpa using hgap
    rw [List.append_nil, List.append_assoc, declaresAll_append .lineFeed]
    simp only [declaresAll_append_blank (b := '\n') (by decide)]
  · obtain rfl : gap = ['\n'] := by simpa [hc] using hgap
    rw [List.append_assoc, declaresAll_append .lineFeed]

/-- An appended text declares its own things after those of the source. -/
theorem declaresAll_appendLine {source line : String}
    {said : List Statement} :
    DeclaresAll (Text.lines (appendLine source line).toList) said
      ↔ ∃ before after, DeclaresAll (Text.lines source.toList) before
        ∧ DeclaresAll (Text.lines line.toList) after
        ∧ said = before ++ after := by
  rw [appendLine, String.toList_ofList, List.append_assoc,
    declaresAll_gap rfl]
  simp only [declaresAll_append_blank (b := '\n') (by decide),
    declaresAll_trimEnd]

/-- Compiling a source with a line appended is compiling the records of
the two. -/
theorem compile_appendLine {source line : String} {g : Grammar} :
    (Grammar.compile (appendLine source line)).result = .ok g
      ↔ ∃ declared added, Declaration.parse source = .ok declared
        ∧ Declaration.parse line = .ok added
        ∧ (Grammar.ofRecords (Record.ofDeclarations declared
          ++ Record.ofDeclarations added)).result = .ok g := by
  rw [Grammar.compile_eq_ok_iff]
  constructor
  · rintro ⟨all, hall, hcompile⟩
    -- what counts for compilation is what is declared, not where it stands
    obtain ⟨_, _, hbefore, hafter, hsaid⟩ := declaresAll_appendLine.1
      (Declaration.exists_parse_iff.1 ⟨all, hall, rfl⟩)
    obtain ⟨declared, hdeclared, rfl⟩ :=
      Declaration.exists_parse_iff.2 hbefore
    obtain ⟨added, hadded, rfl⟩ := Declaration.exists_parse_iff.2 hafter
    refine ⟨declared, added, hdeclared, hadded,
      (Grammar.ofRecords_congr ?_).1 hcompile⟩
    rw [List.map_append]
    exact hsaid
  · rintro ⟨declared, added, hdeclared, hadded, hcompile⟩
    obtain ⟨all, hall, hsaid⟩ := Declaration.exists_parse_iff.2
      (declaresAll_appendLine.2 ⟨_, _,
        Declaration.exists_parse_iff.1 ⟨declared, hdeclared, rfl⟩,
        Declaration.exists_parse_iff.1 ⟨added, hadded, rfl⟩, rfl⟩)
    refine ⟨all, hall, (Grammar.ofRecords_congr ?_).1 hcompile⟩
    rw [List.map_append]
    exact hsaid.symm

-- ================================================================= words

/-- Reporting a derivation does not change what comes of it. -/
theorem result_report (derivation : Derivation) :
    (session.report derivation).result = derivation.result := by
  unfold report
  split
  · split <;> rfl
  · rfl

/-- Reporting a derivation changes the tracer at most. -/
theorem keeps_report (derivation : Derivation) :
    session.Keeps (session.report derivation).session := by
  unfold report
  split
  · split <;> rfl
  · rfl

/-- Making a word moves on the random words, which the grammar does not
depend on. -/
theorem faithful_generate (hs : session.Faithful) :
    session.generate.session.Faithful := by
  unfold generate
  split
  · exact hs
  · exact (keeps_report _).faithful hs

end

-- =============================================================== sessions

/-- Without a source there is no grammar to begin with. -/
theorem faithful_new (random : KeyStream) (directory : String) :
    (new random directory).Faithful := by
  have hlines : DeclaresAll (Text.lines "".toList) [] :=
    declaresAll_lines_nil.2 rfl
  obtain ⟨declarations, hparse, hnothing⟩ :=
    Declaration.exists_parse_iff.2 hlines
  -- the grammar of no records at all, by evaluation
  have hempty : (Grammar.ofRecords []).result = .ok {} := by
    with_unfolding_all rfl
  refine Grammar.compile_eq_ok_iff.2 ⟨declarations, hparse,
    (Grammar.ofRecords_congr ?_).1 hempty⟩
  rw [List.map_nil]
  exact hnothing.symm

/-- One call, whether it succeeds or fails, keeps source and grammar
together. -/
theorem faithful_apply {session : Session} (hs : session.Faithful)
    (call : Call) : (session.apply call).Faithful := by
  cases call with
  | load source origin => exact faithful_load hs source origin
  | loadPath read path => exact faithful_loadPath hs
  | declare line => exact faithful_declare hs line
  | generate => exact faithful_generate hs
  | transform word => exact (keeps_report _).faithful hs
  | setOptions | reseed | setTracer => exact hs

/-- Any calls keep them together. -/
theorem faithful_applyAll {session : Session} (hs : session.Faithful)
    (calls : List Call) : (session.applyAll calls).Faithful := by
  induction calls generalizing session with
  | nil => exact hs
  | cons call calls ih => exact ih (faithful_apply hs call)

-- ============================================================ the results

/-- After any calls on a new session, its source compiles to its grammar.
Appending a text succeeds exactly if the text can be parsed and the
records of the source and then of the text compile, and the session then
has the grammar they compile to. A load or an append that fails leaves
everything but the trace as it was. -/
theorem grammar_of_calls (random : KeyStream) (directory : String)
    (calls : List Call) :
    let session := (new random directory).applyAll calls
    (Grammar.compile session.source).result = .ok session.grammar
    ∧ (∀ line,
      ((session.declare line).result = .ok ()
        ↔ ∃ declared added g,
          Declaration.parse session.source = .ok declared
            ∧ Declaration.parse line = .ok added
            ∧ (Grammar.ofRecords (Record.ofDeclarations declared
              ++ Record.ofDeclarations added)).result = .ok g)
      ∧ ∀ declared added g,
        Declaration.parse session.source = .ok declared →
        Declaration.parse line = .ok added →
        (Grammar.ofRecords (Record.ofDeclarations declared
          ++ Record.ofDeclarations added)).result = .ok g →
        (session.declare line).session.grammar = g)
    ∧ (∀ source origin e, (session.load source origin).result = .error e →
      session.Keeps (session.load source origin).session)
    ∧ (∀ read path e, (session.loadPath read path).result = .error e →
      session.Keeps (session.loadPath read path).session)
    ∧ ∀ line e, (session.declare line).result = .error e →
      session.Keeps (session.declare line).session := by
  intro session
  refine ⟨faithful_applyAll (faithful_new random directory) calls,
    fun line => ⟨⟨fun h => ?_, ?_⟩,
      fun declared added g hdeclared hadded hg => ?_⟩,
    fun source origin e => load_keeps_of_error,
    fun read path e => loadPath_keeps_of_error,
    fun line e => declare_keeps_of_error⟩
  · cases hcompile :
        (Grammar.compile (appendLine session.source line)).result with
    | error e =>
        rw [(declare_error hcompile).1] at h
        cases h
    | ok g =>
        obtain ⟨declared, added, hdeclared, hadded, hg⟩ :=
          compile_appendLine.1 hcompile
        exact ⟨declared, added, g, hdeclared, hadded, hg⟩
  · rintro ⟨declared, added, g, hdeclared, hadded, hg⟩
    exact (declare_ok (compile_appendLine.2
      ⟨declared, added, hdeclared, hadded, hg⟩)).1
  · have hcompile : (Grammar.compile
        (appendLine session.source line)).result = .ok g :=
      compile_appendLine.2 ⟨declared, added, hdeclared, hadded, hg⟩
    rw [(declare_ok hcompile).2]

end Session

end WordGrammar
