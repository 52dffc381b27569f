/-
What a syntax error shows of the source.

A syntax error is at a token, and so at a place in the source
(`exists_standsIn_of_parse`). Its line number counts every line ending, but
the line it shows is cut out at line feeds alone. `Surrounds` splits the
source around the line that a place is on, which gives both: the number of
the line and the column within it (`Parted.exists_surrounds`), and what is
shown, which is the line with all that only carriage returns part it from
(`Span.lineAround_append`). Compiling fails with a syntax error only where
reading does (`Grammar.parse_eq_error_of_compile`). So in either case the
error names a line of the source, and shows that very line exactly if no
carriage return alone parts it from its neighbours (`syntaxError_context`).
-/
import WordGrammar.Proofs.Grammar
import WordGrammar.Proofs.Morphology.Marker
import WordGrammar.Proofs.Token.Tiling

namespace WordGrammar

open Text

-- ============================================= the line around a place

namespace Text

/-- `Surrounds before after line cs`: between the two texts, the first of
them empty or ending with a line ending and the second empty or beginning
with one, `line` is a line of the text `cs`. -/
structure Surrounds (before after line cs : List Char) : Prop where
  split : cs = before ++ (line ++ after)
  inline : Inline line
  lastLine_eq : lastLine before = []
  atLineEnd : AtLineEnd after
  lines_eq : lines cs
    = (lines before).dropLast ++ line :: (lines after).tail

section

variable {a b cs : List Char}

/-- An ending stays one if less of the text follows. -/
theorem LineEnding.of_append {ending : List Char}
    (h : LineEnding ending (a ++ b)) : LineEnding ending a := by
  generalize hrest : a ++ b = rest at h
  cases h with
  | lineFeed => exact .lineFeed
  | both => exact .both
  | carriageReturn hhead =>
      refine .carriageReturn fun hfeed => hhead ?_
      rw [← hrest, List.head?_append, hfeed, Option.some_or]

/-- A text is what stands before its last line, and that line. -/
theorem exists_lastLine (cs : List Char) :
    ∃ before, cs = before ++ lastLine cs ∧ Inline (lastLine cs)
      ∧ lines before = (lines cs).dropLast ++ [[]] := by
  -- Stated of any lines that make up the text, so that the induction can be
  -- on them.
  suffices h : ∀ {cs ls}, Lined cs ls → ∃ before,
      cs = before ++ ls.getLastD [] ∧ Inline (ls.getLastD [])
        ∧ lines before = ls.dropLast ++ [[]] from h (lined_lines cs)
  intro cs ls h
  induction h with
  | last hline => exact ⟨[], rfl, hline, rfl⟩
  | @line line ending rest more hline hending hrest ih =>
      obtain ⟨before, hsplit, hinline, hbefore⟩ := ih
      have hending' : LineEnding ending before :=
        LineEnding.of_append (hsplit ▸ hending)
      have hmore := hrest.ne_nil
      have hlast := @getLastD_cons_of_ne_nil line _ hmore
      refine ⟨line ++ (ending ++ before), ?_, hlast ▸ hinline, ?_⟩
      · rw [hlast, List.append_assoc, List.append_assoc, ← hsplit]
      · rw [lines_append_of_inline hline, lines_ending hending', hbefore,
          List.modifyHead_cons, List.append_nil,
          List.dropLast_cons_of_ne_nil hmore, List.cons_append]

/-- A text is its first line and what stands after that. -/
theorem exists_firstLine (cs : List Char) :
    ∃ line after, cs = line ++ after ∧ Inline line ∧ AtLineEnd after
      ∧ lines cs = line :: (lines after).tail := by
  have h := lined_lines cs
  generalize lines cs = ls at h
  cases h with
  | last hline =>
      exact ⟨cs, [], (List.append_nil cs).symm, hline, atLineEnd_nil, rfl⟩
  | line hline hending hrest =>
      refine ⟨_, _, rfl, hline, hending.atLineEnd, ?_⟩
      rw [lines_ending hending, List.tail_cons, hrest.lines_eq]

/-- A line that is empty so far has a line ending before it. -/
theorem isLineEnd_of_lastLine_eq_nil (h : lastLine cs = []) :
    ∀ c ∈ cs.getLast?, isLineEnd c = true := by
  intro c hc
  by_contra hend
  obtain ⟨init, rfl⟩ := List.getLast?_eq_some_iff.1 hc
  have hone : Inline [c] :=
    inline_cons.2 ⟨by simpa using hend, inline_nil⟩
  rw [lastLine_append_inline hone] at h
  exact absurd h (by simp)

/-- The place between two parts of a text is on a line of it. -/
theorem Parted.exists_surrounds (h : Parted a b) :
    ∃ before there after, a = before ++ lastLine a ∧ b = there ++ after
      ∧ Surrounds before after (lastLine a ++ there) (a ++ b)
      ∧ (lines before).length = (lines a).length := by
  obtain ⟨before, hbefore, hhere, hlines⟩ := exists_lastLine a
  obtain ⟨there, after, rfl, hthere, hafter, hlines'⟩ := exists_firstLine b
  refine ⟨before, there, after, hbefore, rfl, ⟨?_, ?_, ?_, hafter, ?_⟩, ?_⟩
  · rw [List.append_assoc, ← List.append_assoc before, ← hbefore]
  · exact inline_append.2 ⟨hhere, hthere⟩
  · rw [lastLine, hlines, List.getLastD_concat]
  · rw [lines_append h, hlines', hlines, List.dropLast_concat,
      List.modifyHead_cons]
  · have hlength := length_lines_pos a
    rw [hlines, List.length_append, List.length_dropLast,
      List.length_singleton]
    omega

/-- The text before a line is made up of the lines before it. -/
theorem Surrounds.lines_before {before after line : List Char}
    (h : Surrounds before after line cs) :
    lines before = (lines before).dropLast ++ [[]] := by
  have hlast := h.lastLine_eq
  rw [lastLine, List.getLastD_eq_getLast?,
    List.getLast?_eq_some_getLast (lines_ne_nil before),
    Option.getD_some] at hlast
  conv_lhs => rw [← List.dropLast_append_getLast (lines_ne_nil before),
    hlast]

/-- If no carriage return stands alone, line feeds set a line apart. -/
theorem Surrounds.of_paired {before after line : List Char}
    (h : Surrounds before after line cs) (hne : line ≠ [])
    (hpaired : ∀ a b, cs = a ++ '\r' :: b → b.head? = some '\n') :
    (∀ c ∈ before.getLast?, c = '\n')
      ∧ ∀ c ∈ after.takeWhile (· ≠ '\n'), c = '\r' := by
  have hsplit := h.split
  constructor
  · intro c hc
    -- A carriage return before the line would have to be followed by a line
    -- feed, but it is followed by the line.
    rcases isLineEnd_eq_true.1
      (isLineEnd_of_lastLine_eq_nil h.lastLine_eq c hc) with hend | rfl
    · exact hend
    · obtain ⟨init, rfl⟩ := List.getLast?_eq_some_iff.1 hc
      obtain ⟨d, line, rfl⟩ := List.exists_cons_of_ne_nil hne
      rw [List.append_assoc] at hsplit
      obtain rfl : d = '\n' := Option.some.inj (hpaired init _ hsplit)
      exact absurd (inline_cons.1 h.inline).1 (by decide)
  · intro c hc
    cases after with
    | nil => cases hc
    | cons d after =>
        rcases isLineEnd_eq_true.1 (h.atLineEnd d rfl) with rfl | rfl
        · cases hc
        · rw [← List.append_assoc] at hsplit
          obtain ⟨rest, rfl⟩ :=
            List.head?_eq_some_iff.1 (hpaired _ after hsplit)
          exact List.mem_singleton.1 hc

end

end Text

namespace Span

/-- A text without the carriage returns at its end. -/
def trimReturns (cs : List Char) : List Char :=
  (cs.reverse.dropWhile (· = '\r')).reverse

section

variable {before after here there line cs : List Char}

/-- Carriage returns are taken off the end of what follows a line, not off
the line. -/
theorem trimReturns_append (h : ∀ c ∈ line.getLast?, c ≠ '\r') :
    trimReturns (line ++ cs) = line ++ trimReturns cs := by
  have hstop : ∀ c ∈ line.reverse.head?, decide (c = '\r') = false := by
    intro c hc
    rw [List.head?_reverse] at hc
    exact decide_eq_false (h c hc)
  rw [trimReturns, List.reverse_append, dropWhile_append_of_stop hstop,
    List.reverse_append, List.reverse_reverse, trimReturns]

theorem trimReturns_eq_nil :
    trimReturns cs = [] ↔ ∀ c ∈ cs, c = '\r' := by
  simp [trimReturns]

/-- Nothing is shown before a line just if a line feed stands there, or
nothing at all. -/
theorem afterLastLineFeed_eq_nil :
    afterLastLineFeed cs = [] ↔ ∀ c ∈ cs.getLast?, c = '\n' := by
  rw [afterLastLineFeed, List.reverse_eq_nil_iff, ← List.head?_reverse]
  cases cs.reverse <;> simp

/-- There is no line feed on a line. -/
theorem forall_ne_lineFeed (h : Inline cs) :
    ∀ c ∈ cs, decide (c ≠ '\n') = true := by
  intro c hc
  refine decide_eq_true fun heq => ?_
  have hend := h c hc
  rw [heq] at hend
  cases hend

/-- The part of a line before a place is shown with what line feeds do not
part from it. -/
theorem afterLastLineFeed_append (h : Inline here) :
    afterLastLineFeed (before ++ here)
      = afterLastLineFeed before ++ here := by
  have hfeed : ∀ c ∈ here.reverse, decide (c ≠ '\n') = true :=
    fun c hc => forall_ne_lineFeed h c (List.mem_reverse.1 hc)
  rw [afterLastLineFeed, List.reverse_append,
    List.takeWhile_append_of_pos hfeed, List.reverse_append,
    List.reverse_reverse, afterLastLineFeed]

/-- What is shown of the source around a place on a line. -/
theorem lineAround_append (hline : Inline (here ++ there))
    (hne : here ++ there ≠ []) :
    lineAround (before ++ here) (there ++ after)
      = afterLastLineFeed before ++ ((here ++ there)
        ++ trimReturns (after.takeWhile (· ≠ '\n'))) := by
  obtain ⟨hhere, hthere⟩ := inline_append.1 hline
  -- The line is there and does not end with a carriage return, so none of
  -- it is trimmed.
  have hlast : ∀ c ∈ (afterLastLineFeed before
      ++ (here ++ there)).getLast?, c ≠ '\r' := by
    intro c hc heq
    obtain ⟨d, hd⟩ := Option.ne_none_iff_exists'.1
      (mt List.getLast?_eq_none_iff.1 hne)
    rw [List.getLast?_append, hd, Option.some_or] at hc
    have hend := hline d (List.mem_of_getLast? hd)
    rw [Option.mem_some_iff.1 hc, heq] at hend
    cases hend
  rw [← List.append_assoc, ← trimReturns_append hlast, lineAround,
    afterLastLineFeed_append hhere,
    List.takeWhile_append_of_pos (forall_ne_lineFeed hthere)]
  simp only [trimReturns, List.append_assoc]

end

end Span

-- ======================================================== bytes and places

/-- What is shown for a span is cut out around the place where it
starts. -/
theorem Span.lineText_of_place {source : String} {before rest : List Char}
    {stop : Nat} (h : source.toList = before ++ rest) :
    lineText (.fromCursor (.between before rest) stop) source
      = String.ofList (lineAround before rest) := by
  have hsplit : Text.splitBytes?
      (fromCursor (.between before rest) stop).start source.toList
        = some (before, rest) := by
    rw [h]
    exact splitBytes?_append before rest
  rw [lineText, hsplit]

-- ====================================================== places of errors

/-- Splitting into lines adds no tokens. -/
theorem TokenLine.mem_of_mem_split {tokens : List Token}
    {line : TokenLine} {token : Token} (hline : line ∈ split tokens)
    (htoken : token ∈ line.tokens ++ [line.terminator]) :
    token ∈ tokens := by
  -- The first token either is a line by itself or joins the first of the
  -- later lines.
  induction tokens generalizing line with
  | nil => cases hline
  | cons first rest ih =>
      rw [split] at hline
      split at hline
      · rcases List.mem_cons.1 hline with rfl | hline
        · exact List.mem_cons.2 (.inl (List.mem_singleton.1 htoken))
        · exact List.mem_cons_of_mem _ (ih hline htoken)
      · cases hsplit : split rest with
        | nil => rw [hsplit] at hline; cases hline
        | cons next lines =>
            rw [hsplit] at hline ih
            rcases List.mem_cons.1 hline with rfl | hline
            · rcases List.mem_cons.1 htoken with rfl | htoken
              · exact List.mem_cons_self ..
              · exact List.mem_cons_of_mem _
                  (ih (List.mem_cons_self ..) htoken)
            · exact List.mem_cons_of_mem _
                (ih (List.mem_cons_of_mem _ hline) htoken)

namespace Declaration

/-- The error of the first line that has no form is at a token of that
line. -/
theorem exists_token_of_ofLines {source : String}
    {tokenLines : List TokenLine} {e : Error}
    (h : ofLines source tokenLines = .error e) :
    ∃ line ∈ tokenLines, ∃ token ∈ line.tokens ++ [line.terminator],
      ∃ message, e = syntaxError source token.span message := by
  induction tokenLines with
  | nil => cases h
  | cons line tokenLines ih =>
      have hread := readsAs_ofLine source line
      rw [ofLines] at h
      cases hhere : ofLine source line with
      | error e' =>
          rw [hhere] at h hread
          cases h
          obtain ⟨-, span, hspan, message, rfl⟩ := hread
          obtain ⟨token, htoken, rfl⟩ := List.mem_map.1 hspan
          exact ⟨line, List.mem_cons_self .., token, htoken, message, rfl⟩
      | ok here =>
          rw [hhere] at h
          cases hafter : ofLines source tokenLines with
          | ok after => rw [hafter] at h; cases h
          | error e' =>
              rw [hafter] at h
              cases h
              obtain ⟨line', hline, token, htoken, message, rfl⟩ := ih hafter
              exact ⟨line', List.mem_cons_of_mem _ hline, token, htoken,
                message, rfl⟩

/-- A syntax error is at a place in the source. -/
theorem exists_standsIn_of_parse {source : String} {e : Error}
    (h : parse source = .error e) : ∃ span message,
      span.StandsIn source.toList ∧ e = syntaxError source span message := by
  obtain ⟨line, hline, token, htoken, message, rfl⟩ :=
    exists_token_of_ofLines h
  exact ⟨token.span, message, standsIn_of_mem_tokenize
    (TokenLine.mem_of_mem_split hline htoken), rfl⟩

end Declaration

-- ================================================= errors of compilation

/-- An error that says nothing of a place, and is no syntax error. -/
def Error.IsPlain (e : Error) : Prop :=
  e.kind.isSyntax = false ∧ e.place = none

/-- A reference that cannot be resolved is reported without a place. -/
theorem RuleTable.isPlain_badReferenceError (table : RuleTable)
    (id dep : RuleId) : (table.badReferenceError id dep).IsPlain := by
  unfold badReferenceError
  split
  · exact ⟨rfl, rfl⟩
  · exact ⟨rfl, rfl⟩

/-- So is a marker that cannot be replaced. -/
theorem RuleTable.isPlain_of_substitute {table : RuleTable} {owner : String}
    {dep : RuleId} {e : Error} (h : table.substitute owner dep = .error e) :
    e.IsPlain := by
  unfold substitute at h
  split at h
  · cases h
    exact ⟨rfl, rfl⟩
  · split at h
    · cases h
    · split at h
      · cases h
        exact ⟨rfl, rfl⟩
      · cases h
        exact ⟨rfl, rfl⟩

/-- No error of compiling the rules has a place. -/
theorem RuleTable.isPlain_of_compileAll {table : RuleTable}
    (hexp : table.Expanded) {e : Error}
    (h : table.compileAll.result = .error e) : e.IsPlain := by
  obtain ⟨id, dep, -, hrun⟩ | ⟨circle, -, hrun⟩
    | ⟨-, past, rest, source, offset, message, -, hrun⟩
    | ⟨-, order, -, hrun⟩ := compileAll_cases hexp
  · rw [hrun] at h
    cases h
    exact isPlain_badReferenceError table id dep
  · rw [hrun] at h
    cases h
    exact ⟨rfl, rfl⟩
  · rw [hrun] at h
    cases h
    exact ⟨rfl, rfl⟩
  · rw [hrun] at h
    cases h

/-- Nor has one of compiling a sound change, before it is placed. -/
theorem SoundChange.isPlain_of_compile {t : SoundChange} {table : RuleTable}
    {owner : String} {e : Error} (h : t.compile table owner = .error e) :
    e.IsPlain := by
  obtain ⟨-, hrun⟩ | ⟨-, cause, hmarkers, hrun⟩ |
    ⟨expanded, -, -, ⟨message, hrun⟩ | ⟨regex, -, hrun⟩⟩ :=
    t.compile_cases table owner
  · rw [hrun] at h
    cases h
  · rw [hrun] at h
    cases h
    obtain ⟨id, hsubstitute⟩ := exists_substitute_of_replaceMarkers hmarkers
    exact RuleTable.isPlain_of_substitute hsubstitute
  · rw [hrun] at h
    cases h
    exact ⟨rfl, rfl⟩
  · rw [hrun] at h
    cases h

namespace Grammar

/-- Placing an error leaves what it says. -/
theorem kind_placeError {e : Error} {changes : List (SoundChange × Span)}
    {compiled : Morphology} :
    (placeError e changes compiled).kind = e.kind := by
  unfold placeError
  dsimp only
  split <;> rfl

/-- Declarations that have been read do not fail with a syntax error. -/
theorem isSyntax_of_ofRecords {records : List Record} {e : Error}
    (h : (ofRecords records).result = .error e) :
    e.kind.isSyntax = false := by
  unfold ofRecords at h
  dsimp only at h
  cases hresult : (tableOf records).compileAll.result with
  | error cause =>
      rw [hresult] at h
      cases h
      rw [tableOf_eq_declareAll] at hresult
      exact (RuleTable.isPlain_of_compileAll
        (RuleTable.expanded_declareAll _) hresult).1
  | ok order =>
      rw [hresult] at h
      obtain ⟨compiled, -, hrun⟩ |
        ⟨past, t, later, compiled, cause, -, -, hfail, hrun⟩ :=
        Morphology.compileFrom_cases (tableOf records).compileAll.table 0
          ((changesOf records).map (·.1))
      · rw [Morphology.compile, hrun] at h
        cases h
      · rw [Morphology.compile, hrun] at h
        cases h
        rw [kind_placeError]
        exact (SoundChange.isPlain_of_compile hfail).1

/-- The syntax errors of compiling a source are those of reading it. -/
theorem parse_eq_error_of_compile {source : String} {e : Error}
    (h : (compile source).result = .error e)
    (hkind : e.kind.isSyntax = true) :
    Declaration.parse source = .error e := by
  unfold compile at h
  cases hparse : Declaration.parse source with
  | error e' =>
      rw [hparse] at h
      exact congrArg Except.error (Except.error.inj h)
  | ok declarations =>
      rw [hparse] at h
      have hnot := isSyntax_of_ofRecords h
      rw [hkind] at hnot
      cases hnot

end Grammar

-- ============================================================== contexts

namespace Declaration

theorem ne_nil_of_not_declares {line : List Char}
    (h : ∀ said, ¬ Declares line said) : line ≠ [] := by
  rintro rfl
  exact h none (.remark (.blank fun _ h => nomatch h))

/-- Around the place of a syntax error stands the line that it names. -/
theorem exists_surrounds_of_parse {source : String} {e : Error}
    (h : parse source = .error e) :
    ∃ before here there after message,
      Surrounds before after (here ++ there) source.toList
        ∧ here ++ there ≠ []
        ∧ e = .of (.grammarSyntax message (lines before).length
          (here.length + 1)
          (String.ofList (Span.afterLastLineFeed before ++ ((here ++ there)
            ++ Span.trimReturns (after.takeWhile (· ≠ '\n')))))) := by
  obtain ⟨span, message, ⟨first, text, more, hsource, hparted, rfl⟩, rfl⟩ :=
    exists_standsIn_of_parse h
  have hplace := Cursor.between_eq_of_parted hparted
  obtain ⟨before, there, after, hfirst, hrest, hline, hnumber⟩ :=
    hparted.exists_surrounds
  have hread := readsLines_parse source
  rw [h] at hread
  obtain ⟨earlier, line, later, span, message', hlines, -, hno, hspan,
    herror⟩ := hread
  -- the first line without a form and the line of the token are one
  have hsame : line = lastLine first ++ there := by
    have hnumber' : (lines first).length = span.line := by
      injection congrArg Error.kind herror with _ hline
      rw [← hline, Span.fromCursor, hplace]
    have hlength : ((lines before).dropLast).length = earlier.length := by
      rw [List.length_dropLast]
      omega
    rw [hsource, hline.lines_eq] at hlines
    exact (List.cons.inj (List.append_inj hlines hlength).2).1.symm
  have hne : lastLine first ++ there ≠ [] :=
    hsame ▸ ne_nil_of_not_declares hno
  refine ⟨before, lastLine first, there, after, message, hsource ▸ hline,
    hne, ?_⟩
  rw [syntaxError, Span.lineText_of_place hsource, Span.fromCursor, hplace,
    hrest, ← Span.lineAround_append hline.inline hne, ← hfirst, hnumber]

/-- A syntax error, whether of reading a source or of compiling it, names
a line of the source, the lines being counted by any line ending, and a
column of that line or the one after its last character. The context holds
the whole line, but it is cut out at line feeds alone. So it is that very
line exactly if the line before does not end with a carriage return alone,
and nothing but carriage returns stands between the line and the next line
feed; which is so in every source that has a line feed after each carriage
return. -/
theorem syntaxError_context {source message context : String}
    {line column : Nat} {e : Error}
    (h : parse source = .error e ∨ (Grammar.compile source).result = .error e)
    (hkind : e.kind = .grammarSyntax message line column context) :
    ∃ earlier text later, lines source.toList = earlier ++ text :: later
      ∧ line = earlier.length + 1
      ∧ 1 ≤ column ∧ column ≤ text.length + 1
      ∧ column ≤ context.length + 1
      ∧ (∃ before after, Surrounds before after text source.toList
        ∧ lines before = earlier ++ [[]]
        ∧ (context = String.ofList text
          ↔ (∀ c ∈ before.getLast?, c = '\n')
            ∧ ∀ c ∈ after.takeWhile (· ≠ '\n'), c = '\r'))
      ∧ ((∀ a b, source.toList = a ++ '\r' :: b → b.head? = some '\n') →
        context = String.ofList text) := by
  have hparse : parse source = .error e := by
    rcases h with h | h
    · exact h
    · exact Grammar.parse_eq_error_of_compile h (by rw [hkind]; rfl)
  obtain ⟨before, here, there, after, message, hline, hne, rfl⟩ :=
    exists_surrounds_of_parse hparse
  cases hkind
  -- What is shown has the line in the middle, so it is the line if both
  -- ends are empty.
  have hexact : String.ofList (Span.afterLastLineFeed before
        ++ ((here ++ there)
          ++ Span.trimReturns (after.takeWhile (· ≠ '\n'))))
      = String.ofList (here ++ there)
      ↔ (∀ c ∈ before.getLast?, c = '\n')
        ∧ ∀ c ∈ after.takeWhile (· ≠ '\n'), c = '\r' := by
    rw [← Span.afterLastLineFeed_eq_nil, ← Span.trimReturns_eq_nil,
      String.ofList_inj]
    constructor
    · intro heq
      have hlength := congrArg List.length heq
      simp only [List.length_append] at hlength
      exact ⟨List.length_eq_zero_iff.1 (by omega),
        List.length_eq_zero_iff.1 (by omega)⟩
    · rintro ⟨hbefore, hafter⟩
      rw [hbefore, hafter, List.nil_append, List.append_nil]
  refine ⟨(lines before).dropLast, here ++ there, (lines after).tail,
    hline.lines_eq, ?_, by omega, ?_, ?_, ⟨before, after, hline, ?_, hexact⟩,
    fun hpaired => hexact.2 (hline.of_paired hne hpaired)⟩
  · have hlength := length_lines_pos before
    rw [List.length_dropLast]
    omega
  · rw [List.length_append]
    omega
  · rw [String.length_ofList]
    simp only [List.length_append]
    omega
  · exact hline.lines_before

/-- Each carriage return has its line feed here, and the second line is
shown as it is. -/
theorem syntaxError_context_paired :
    parse "V: a\r\nx y" = .error (.of (.grammarSyntax
      "expected a rule declaration, a transformation, or a comment"
      2 1 "x y"))
    ∧ ∃ earlier text later,
      lines "V: a\r\nx y".toList = earlier ++ text :: later
        ∧ 2 = earlier.length + 1 ∧ "x y" = String.ofList text := by
  have hparse : parse "V: a\r\nx y" = .error (.of (.grammarSyntax
      "expected a rule declaration, a transformation, or a comment"
      2 1 "x y")) := by decide +kernel
  obtain ⟨earlier, text, later, hlines, hline, -, -, -, -, hpaired⟩ :=
    syntaxError_context (.inl hparse) rfl
  refine ⟨hparse, earlier, text, later, hlines, hline, hpaired ?_⟩
  intro a b h
  obtain ⟨-, rfl⟩ : a = "V: a".toList ∧ b = "\nx y".toList := by
    simpa [List.cons_eq_append_iff] using h
  rfl

/-- A carriage return alone ends the first line here, but the context goes
on past it. -/
theorem syntaxError_context_lone_return :
    parse "x\ry" = .error (.of (.grammarSyntax
      "expected a rule declaration, a transformation, or a comment"
      1 1 "x\ry"))
    ∧ lines "x\ry".toList = ["x".toList, "y".toList]
    ∧ "x\ry" ≠ String.ofList "x".toList :=
  ⟨by decide +kernel, by decide, by decide⟩

end Declaration

end WordGrammar
