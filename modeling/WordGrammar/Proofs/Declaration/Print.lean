/-
Grammars as they are written.

A list of statements is laid out in rows, one statement or one remark to a
row, with any line ending after each (`page`). Reading a page gives back the
statements of its rows, wherever they stand (`declaresAll_page`), provided
that they are well formed: an alternative is a word that opens no comment,
and a body is one that unescaping can leave behind. No other statement is
ever read (`DeclaresAll.wellFormed`), so parsing and printing are inverse on
the well-formed statements (`parse_page`).

# Which bodies can be left behind

Reading a body drops the backslash before its delimiter and keeps all other
pairs, so the value no longer tells which delimiters were escaped. It need
not: a delimiter cannot be read unescaped, and of a pair that is kept the
second character is no delimiter. `Paired` is exactly that property of the
value, and `escaped` puts back the backslashes that were dropped
(`Lexeme.Paired.body_escaped`, `Lexeme.Body.paired`).
-/
import WordGrammar.Proofs.Declaration.Append

namespace WordGrammar

open Text

-- ================================================================ bodies

namespace Lexeme

/-- `Paired delimiter value`: every backslash of the value pairs with the
character after it, and none of these is the delimiter. -/
inductive Paired (delimiter : Char) : List Char → Prop
  | nil : Paired delimiter []
  | char {c : Char} {value : List Char} :
      c ≠ '\\' → Paired delimiter value → Paired delimiter (c :: value)
  | pair {c : Char} {value : List Char} :
      c ≠ delimiter → Paired delimiter value →
      Paired delimiter ('\\' :: c :: value)

/-- A value with a backslash before every delimiter that has none. -/
def escaped (delimiter : Char) : List Char → List Char
  | [] => []
  | '\\' :: c :: value => '\\' :: c :: escaped delimiter value
  | c :: value =>
      if c = delimiter then '\\' :: c :: escaped delimiter value
      else c :: escaped delimiter value

section

variable {delimiter c : Char} {text value : List Char}

/-- A character is escaped if it is the delimiter. A backslash is not looked
at by itself, which is why it is left out here. -/
theorem escaped_char (hc : c ≠ '\\') :
    escaped delimiter (c :: value)
      = if c = delimiter then '\\' :: c :: escaped delimiter value
        else c :: escaped delimiter value := by
  rw [escaped]
  exact fun d rest h => absurd h hc

/-- What is escaped is read back. -/
theorem Paired.body_escaped (h : Paired delimiter value) :
    Body delimiter (escaped delimiter value) value := by
  -- Along the pairs of the value: only a single character can have lost its
  -- backslash.
  induction h with
  | nil => exact .nil
  | @char c value hc _ ih =>
      rw [escaped_char hc]
      by_cases hd : c = delimiter
      · have hpair := Body.pair (c := c) ih
        rw [unescaped, if_pos hd] at hpair
        rw [if_pos hd]
        exact hpair
      · rw [if_neg hd]
        exact .char hc hd ih
  | @pair c value hd _ ih =>
      have hpair := Body.pair (c := c) ih
      rw [unescaped, if_neg hd] at hpair
      exact hpair

/-- What is read from a body can be escaped. -/
theorem Body.paired (hslash : delimiter ≠ '\\')
    (h : Body delimiter text value) : Paired delimiter value := by
  induction h with
  | nil => exact .nil
  | char hc _ _ ih => exact .char hc ih
  | @pair c text value _ ih =>
      unfold unescaped
      -- An escaped delimiter leaves itself alone, which is then a single
      -- character of the value.
      by_cases hd : c = delimiter
      · rw [if_pos hd]
        exact .char (hd ▸ hslash) ih
      · rw [if_neg hd]
        exact .pair hd ih

/-- Escaping adds backslashes only, so a value stays on its line. -/
theorem inline_escaped (h : Inline value) :
    Inline (escaped delimiter value) := by
  have hslash : isLineEnd '\\' = false := by decide
  induction value using escaped_induction with
  | nil => exact inline_nil
  | lone =>
      rw [escaped]
      · split
        · exact inline_cons.2 ⟨hslash, h⟩
        · exact h
      · exact fun d rest _ hrest => nomatch hrest
  | pair c value ih =>
      obtain ⟨hc, hvalue⟩ := inline_cons.1 (inline_cons.1 h).2
      exact inline_cons.2 ⟨hslash, inline_cons.2 ⟨hc, ih hvalue⟩⟩
  | char c value hc ih =>
      obtain ⟨hend, hvalue⟩ := inline_cons.1 h
      have hrest := inline_cons.2 ⟨hend, ih hvalue⟩
      rw [escaped_char hc]
      split
      · exact inline_cons.2 ⟨hslash, hrest⟩
      · exact hrest

/-- A body that stays on one line has a value that does. -/
theorem Body.inline (h : Body delimiter text value) (htext : Inline text) :
    Inline value := by
  induction h with
  | nil => exact inline_nil
  | char _ _ _ ih =>
      obtain ⟨hc, htext⟩ := inline_cons.1 htext
      exact inline_cons.2 ⟨hc, ih htext⟩
  | @pair c text value _ ih =>
      obtain ⟨hslash, htext⟩ := inline_cons.1 htext
      obtain ⟨hc, htext⟩ := inline_cons.1 htext
      have hpair : Inline (unescaped delimiter c) := by
        unfold unescaped
        split
        · exact inline_cons.2 ⟨hc, inline_nil⟩
        · exact inline_cons.2 ⟨hslash, inline_cons.2 ⟨hc, inline_nil⟩⟩
      exact inline_append.2 ⟨hpair, ih htext⟩

end

end Lexeme

/-- A text that a body between the delimiters can have as its value. -/
def IsBody (delimiter : Char) (text : String) : Prop :=
  Inline text.toList ∧ Lexeme.Paired delimiter text.toList

/-- What has been read from a body can be printed as one. -/
theorem Lexeme.Body.isBody {delimiter : Char} {text value : List Char}
    (h : Lexeme.Body delimiter text value) (htext : Inline text)
    (hslash : delimiter ≠ '\\') :
    IsBody delimiter (String.ofList value) := by
  rw [IsBody, String.toList_ofList]
  exact ⟨h.inline htext, h.paired hslash⟩

-- ========================================================== alternatives

/-- A word that can stand among the alternatives of a rule. -/
structure IsAlternative (text : String) : Prop where
  ne_empty : text ≠ ""
  not_isBlank : ∀ c ∈ text.toList, isBlank c = false
  head_ne_hash : text.toList.head? ≠ some '#'

instance (text : String) : Decidable (IsAlternative text) :=
  letI := List.decidableBAll (isBlank · = false) text.toList
  decidable_of_iff (text ≠ "" ∧ (∀ c ∈ text.toList, isBlank c = false)
      ∧ text.toList.head? ≠ some '#')
    ⟨fun ⟨hne, hblank, hhash⟩ => ⟨hne, hblank, hhash⟩,
      fun ⟨hne, hblank, hhash⟩ => ⟨hne, hblank, hhash⟩⟩

/-- What is listed as an alternative can stand as one. -/
theorem isAlternative_of_mem {cs : List Char} {text : String}
    (h : text ∈ alternatives cs) : IsAlternative text := by
  obtain ⟨word, hword, rfl⟩ := List.mem_map.1 h
  obtain ⟨hne, hblank⟩ := mem_words ((List.takeWhile_prefix _).subset hword)
  refine ⟨?_, ?_, ?_⟩
  · intro hempty
    exact hne (by simpa using congrArg String.toList hempty)
  · rwa [String.toList_ofList]
  · rw [String.toList_ofList]
    simpa using List.mem_takeWhile_imp hword

/-- Words with a space before each are the alternatives they make up. -/
theorem alternatives_flatMap {patterns : List String} {rest : List Char}
    (h : ∀ pattern ∈ patterns, IsAlternative pattern)
    (hrest : ∀ c ∈ rest.head?, isBlank c = true) :
    alternatives
        ((patterns.flatMap fun pattern => ' ' :: pattern.toList) ++ rest)
      = patterns ++ alternatives rest := by
  induction patterns with
  | nil => rfl
  | cons pattern patterns ih =>
      obtain ⟨hpattern, hpatterns⟩ := List.forall_mem_cons.1 h
      -- An alternative has a first character, and that is what the words of
      -- a text go by.
      obtain ⟨c, more, htext⟩ : ∃ c more, pattern.toList = c :: more := by
        cases htext : pattern.toList with
        | nil => exact absurd (by simpa using htext) hpattern.ne_empty
        | cons c more => exact ⟨c, more, rfl⟩
      have hblank := hpattern.not_isBlank
      have hhash := hpattern.head_ne_hash
      rw [htext] at hblank hhash
      obtain ⟨hc, hmore⟩ := List.forall_mem_cons.1 hblank
      -- the next character is the space before a word, or the rest's own
      have hstop : ∀ d ∈ ((patterns.flatMap fun pattern =>
          ' ' :: pattern.toList) ++ rest).head?, (!isBlank d) = false := by
        cases patterns with
        | nil => exact fun d hd => by simpa using hrest d hd
        | cons next patterns =>
            rintro _ ⟨⟩
            rfl
      have hself : Lexeme.toBlank more = more :=
        List.takeWhile_eq_self_iff.2 fun d hd => by simpa using hmore d hd
      rw [List.flatMap_cons, htext, List.append_assoc, List.cons_append,
        alternatives_blank (by decide), List.cons_append,
        alternatives_cons hc (by simpa using hhash)
          ((takeWhile_append_of_stop hstop).trans hself),
        ih hpatterns, ← htext, String.ofList_toList, List.cons_append]

-- ============================================================ statements

namespace Statement

/-- A statement that can be written: a rule with alternatives, or a sound
change with two bodies. -/
def WellFormed : Statement → Prop
  | .rule _ patterns =>
      patterns ≠ [] ∧ ∀ pattern ∈ patterns, IsAlternative pattern
  | .soundChange pattern replacement =>
      IsBody '/' pattern ∧ IsBody '"' replacement

/-- A statement as it is written on a line. -/
def text : Statement → List Char
  | .rule id patterns =>
      id.letter :: ':' :: patterns.flatMap fun pattern => ' ' :: pattern.toList
  | .soundChange pattern replacement =>
      '/' :: (Lexeme.escaped '/' pattern.toList ++ '/' :: ' ' :: '>' :: ' '
        :: '"' :: (Lexeme.escaped '"' replacement.toList ++ ['"']))

end Statement

/-- No other statement than these is ever read. -/
theorem DeclaresAll.wellFormed {ls : List (List Char)}
    {said : List Statement} (h : DeclaresAll ls said)
    (hls : ∀ line ∈ ls, Inline line) :
    ∀ statement ∈ said, statement.WellFormed := by
  induction h with
  | nil => exact fun _ h => nomatch h
  | cons hline _ ih =>
      obtain ⟨hinline, hls⟩ := List.forall_mem_cons.1 hls
      refine List.forall_mem_append.2 ⟨?_, ih hls⟩
      intro statement hmem
      cases hline with
      | remark => cases hmem
      | rule _ _ hne =>
          cases List.mem_singleton.1 hmem
          exact ⟨hne, fun pattern => isAlternative_of_mem⟩
      | soundChange _ hpattern _ _ hreplacement _ =>
          cases List.mem_singleton.1 hmem
          have htail := hinline.after
          have hput := htail.after.after.after
          exact ⟨hpattern.isBody (inline_append.1 htail).1 (by decide),
            hreplacement.isBody (inline_append.1 hput).1 (by decide)⟩

-- ================================================================== rows

/-- A row of a written grammar: a remark, or a statement and possibly a
comment after it. -/
inductive Row
  | remark (text : List Char)
  | statement (said : Statement) (comment : Option (List Char))

namespace Row

/-- What a row says. -/
def said? : Row → Option Statement
  | .remark _ => none
  | .statement said _ => some said

/-- A comment after a statement as it is written. -/
def commentText : Option (List Char) → List Char
  | none => []
  | some comment => ' ' :: '#' :: comment

/-- A row as it is written, without its ending. -/
def text : Row → List Char
  | .remark text => text
  | .statement said comment => said.text ++ commentText comment

/-- A row that can be written on one line. -/
def WellFormed : Row → Prop
  | .remark text => Remark text ∧ Inline text
  | .statement said comment =>
      said.WellFormed ∧ ∀ text ∈ comment, Inline text

/-- What may follow a statement is a remark. -/
theorem remark_commentText (comment : Option (List Char)) :
    Remark (commentText comment) := by
  cases comment with
  | none => exact .blank fun _ h => nomatch h
  | some comment => exact .comment (List.forall_mem_singleton.2 (by decide))

/-- A comment after a rule adds no alternative to it. -/
theorem alternatives_commentText (comment : Option (List Char)) :
    alternatives (commentText comment) = [] := by
  cases comment with
  | none => exact alternatives_nil
  | some comment =>
      rw [commentText, alternatives_blank (by decide), alternatives_hash]

/-- A comment of one line stays on the line of its statement. -/
theorem inline_commentText {comment : Option (List Char)}
    (h : ∀ text ∈ comment, Inline text) : Inline (commentText comment) := by
  cases comment with
  | none => exact inline_nil
  | some comment =>
      exact inline_cons.2 ⟨by decide, inline_cons.2 ⟨by decide, h _ rfl⟩⟩

/-- A row declares what it says. -/
theorem declares_text {row : Row} (h : row.WellFormed) :
    Declares row.text row.said? := by
  cases row with
  | remark text => exact .remark h.1
  | statement said comment =>
      have hnone : Blanks [] := fun _ h => nomatch h
      have hspace : Blanks [' '] := List.forall_mem_singleton.2 (by decide)
      cases said with
      | rule id patterns =>
          obtain ⟨hne, hpatterns⟩ := h.1
          -- The words after the colon are the alternatives again, up to the
          -- comment.
          have halternatives : alternatives
              ((patterns.flatMap fun pattern => ' ' :: pattern.toList)
                ++ commentText comment) = patterns := by
            rw [alternatives_flatMap hpatterns, alternatives_commentText,
              List.append_nil]
            intro c hc
            cases comment with
            | none => cases hc
            | some comment => cases hc; decide
          have hline : Declares (id.letter :: ([] ++ ':' :: _)) _ :=
            .rule hnone (fun _ h => nomatch h) (halternatives ▸ hne)
          rwa [halternatives] at hline
      | soundChange pattern replacement =>
          obtain ⟨⟨-, hpattern⟩, ⟨-, hreplacement⟩⟩ := h.1
          have hline := Declares.soundChange hnone hpattern.body_escaped
            hspace hspace hreplacement.body_escaped
            (remark_commentText comment)
          simpa [text, Statement.text, said?] using hline

/-- A rule's letter does not end a line. -/
theorem isLineEnd_letter {id : RuleId} : isLineEnd id.letter = false := by
  have hbounds := id.letter_bounds
  cases hend : isLineEnd id.letter with
  | false => rfl
  | true =>
      rcases isLineEnd_eq_true.1 hend with hletter | hletter
      · rw [hletter] at hbounds
        exact absurd hbounds.1 (by decide)
      · rw [hletter] at hbounds
        exact absurd hbounds.1 (by decide)

/-- A row stays on one line. -/
theorem inline_text {row : Row} (h : row.WellFormed) : Inline row.text := by
  cases row with
  | remark text => exact h.2
  | statement said comment =>
      refine inline_append.2 ⟨?_, inline_commentText h.2⟩
      cases said with
      | rule id patterns =>
          refine inline_cons.2 ⟨isLineEnd_letter, inline_cons.2
            ⟨by decide, ?_⟩⟩
          intro c hc
          obtain ⟨pattern, hpattern, hc⟩ := List.mem_flatMap.1 hc
          rcases List.mem_cons.1 hc with rfl | hc
          · decide
          · exact not_isLineEnd_of_not_isBlank
              ((h.1.2 pattern hpattern).not_isBlank c hc)
      | soundChange pattern replacement =>
          obtain ⟨⟨hpattern, -⟩, ⟨hreplacement, -⟩⟩ := h.1
          have hlooked : Inline (Lexeme.escaped '/' pattern.toList) :=
            Lexeme.inline_escaped hpattern
          have hput : Inline (Lexeme.escaped '"' replacement.toList) :=
            Lexeme.inline_escaped hreplacement
          simp only [Statement.text, inline_cons, inline_append]
          exact ⟨by decide, hlooked, by decide, by decide, by decide,
            by decide, by decide, hput, by decide, inline_nil⟩

end Row

-- ================================================================= pages

/-- How a row ends. -/
inductive RowEnd
  | lineFeed
  | both
  | carriageReturn

/-- The characters that end a row. -/
def RowEnd.text : RowEnd → List Char
  | .lineFeed => ['\n']
  | .both => ['\r', '\n']
  | .carriageReturn => ['\r']

/-- Rows one after the other, each with its ending but the last. -/
def page : List (Row × RowEnd) → Row → List Char
  | [], last => last.text
  | (row, ending) :: rows, last =>
      row.text ++ (ending.text ++ page rows last)

/-- What the rows of a page say. -/
def saidOn (rows : List (Row × RowEnd)) (last : Row) : List Statement :=
  (rows.map Prod.fst ++ [last]).filterMap Row.said?

theorem saidOn_nil (last : Row) : saidOn [] last = last.said?.toList := by
  cases hsaid : last.said? with
  | none => simp [saidOn, hsaid]
  | some said => simp [saidOn, hsaid]

/-- What a row says comes before what the rows below it do. -/
theorem saidOn_cons (row : Row) (ending : RowEnd)
    (rows : List (Row × RowEnd)) (last : Row) :
    saidOn ((row, ending) :: rows) last
      = row.said?.toList ++ saidOn rows last := by
  cases hsaid : row.said? with
  | none => simp [saidOn, hsaid]
  | some said => simp [saidOn, hsaid]

/-- A text on a row of its own is read before what follows, also where a
line feed at the start of that makes its carriage return a longer line
ending. -/
theorem declaresAll_rowEnd {cs rest : List Char} (ending : RowEnd)
    {before after : List Statement} (hbefore : DeclaresAll (lines cs) before)
    (hafter : DeclaresAll (lines rest) after) :
    DeclaresAll (lines (cs ++ (ending.text ++ rest)))
      (before ++ after) := by
  cases ending with
  | lineFeed =>
      exact (declaresAll_append .lineFeed).2
        ⟨before, after, hbefore, hafter, rfl⟩
  | both =>
      exact (declaresAll_append .both).2
        ⟨before, after, hbefore, hafter, rfl⟩
  | carriageReturn =>
      by_cases hfeed : rest.head? = some '\n'
      · obtain ⟨rest, rfl⟩ : ∃ rest', rest = '\n' :: rest' :=
          List.head?_eq_some_iff.1 hfeed
        have hrest : DeclaresAll (lines rest) after := by
          have hlines : lines ('\n' :: rest) = [] :: lines rest :=
            lines_ending .lineFeed
          rw [hlines] at hafter
          obtain ⟨here, more, hhere, hmore, rfl⟩ := declaresAll_cons.1 hafter
          rw [declares_nil.1 hhere]
          exact hmore
        have hboth : LineEnding ['\r', '\n'] rest := .both
        exact (declaresAll_append hboth).2
          ⟨before, after, hbefore, hrest, rfl⟩
      · exact (declaresAll_append (.carriageReturn hfeed)).2
          ⟨before, after, hbefore, hafter, rfl⟩

/-- A page declares what its rows say, in their order. -/
theorem declaresAll_page {rows : List (Row × RowEnd)} {last : Row}
    (h : ∀ row ∈ rows.map Prod.fst ++ [last], row.WellFormed) :
    DeclaresAll (lines (page rows last)) (saidOn rows last) := by
  -- A row by itself is a text of one line.
  have hline : ∀ {row : Row}, row.WellFormed →
      DeclaresAll (lines row.text) row.said?.toList := by
    intro row hrow
    rw [lines_of_inline (Row.inline_text hrow)]
    exact declaresAll_singleton.2 ⟨_, Row.declares_text hrow, rfl⟩
  induction rows with
  | nil =>
      rw [saidOn_nil]
      exact hline (h last (List.mem_singleton_self last))
  | cons row rows ih =>
      obtain ⟨row, ending⟩ := row
      obtain ⟨hrow, hrows⟩ := List.forall_mem_cons.1 h
      rw [saidOn_cons, page]
      exact declaresAll_rowEnd ending (hline hrow) (ih hrows)

namespace Declaration

/-- Printing and parsing are inverse on well-formed statements. However
well-formed rows are laid out, with whatever line endings, comments and
empty lines, the page is accepted and says exactly what the rows say, in
their order; and whatever an accepted text says is well formed. -/
theorem parse_page :
    (∀ (rows : List (Row × RowEnd)) (last : Row),
      (∀ row ∈ rows.map Prod.fst ++ [last], row.WellFormed) →
      ∃ declarations,
        parse (String.ofList (page rows last)) = .ok declarations
          ∧ (Record.ofDeclarations declarations).map Record.statement
            = saidOn rows last)
    ∧ ∀ source declarations, parse source = .ok declarations →
      ∀ record ∈ Record.ofDeclarations declarations,
        record.statement.WellFormed := by
  constructor
  · intro rows last h
    refine exists_parse_iff.2 ?_
    rw [String.toList_ofList]
    exact declaresAll_page h
  · intro source declarations hparse record hrecord
    have hsaid := exists_parse_iff.1 ⟨declarations, hparse, rfl⟩
    exact hsaid.wellFormed (lined_lines _).inline record.statement
      (List.mem_map_of_mem hrecord)

/-- Three line endings, an empty line, two comments and every kind of
escape: the carriage return before the empty row makes one line ending with
the line feed after it. -/
theorem parse_page_mixed_endings :
    ∃ declarations,
      parse ("V: a e# # vowels\r\n/a\\/b\\./ > \"\\1\\\"\"\r\n"
          ++ "/x/ > \"\"\r# end") = .ok declarations
        ∧ (Record.ofDeclarations declarations).map Record.statement
          = [.rule ⟨'V', by decide⟩ ["a", "e#"],
              .soundChange "a/b\\." "\\1\"", .soundChange "x" ""]
        ∧ ∀ record ∈ Record.ofDeclarations declarations,
          record.statement.WellFormed := by
  have hvowels : IsAlternative "a" ∧ IsAlternative "e#" :=
    ⟨by decide, by decide⟩
  have hrule : (Row.statement (.rule ⟨'V', by decide⟩ ["a", "e#"])
      (some " vowels".toList)).WellFormed :=
    ⟨⟨List.cons_ne_nil _ _, by simp [hvowels]⟩,
      fun _ h => Option.some.inj h ▸ by decide⟩
  have hempty : (Row.remark []).WellFormed :=
    ⟨.blank fun _ h => (nomatch h), inline_nil⟩
  have hescaped : (Row.statement
      (.soundChange "a/b\\." "\\1\"") none).WellFormed :=
    ⟨⟨⟨by decide, .char (by decide) (.char (by decide) (.char (by decide)
        (.pair (by decide) .nil)))⟩,
      ⟨by decide, .pair (by decide) (.char (by decide) .nil)⟩⟩,
      fun _ h => nomatch h⟩
  have hplain : (Row.statement (.soundChange "x" "") none).WellFormed :=
    ⟨⟨⟨by decide, .char (by decide) .nil⟩, ⟨by decide, .nil⟩⟩,
      fun _ h => nomatch h⟩
  have hend : (Row.remark "# end".toList).WellFormed :=
    ⟨@Remark.comment [] _ fun _ h => (nomatch h), by decide⟩
  obtain ⟨declarations, hparse, hsaid⟩ := parse_page.1
    [(.statement (.rule ⟨'V', by decide⟩ ["a", "e#"])
        (some " vowels".toList), .carriageReturn),
      (.remark [], .lineFeed),
      (.statement (.soundChange "a/b\\." "\\1\"") none, .both),
      (.statement (.soundChange "x" "") none, .carriageReturn)]
    (.remark "# end".toList)
    (by simpa using ⟨hrule, hempty, hescaped, hplain, hend⟩)
  exact ⟨declarations, hparse, hsaid, parse_page.2 _ declarations hparse⟩

end Declaration

end WordGrammar
