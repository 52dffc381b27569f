/-
How commands are written.

A command has names and takes arguments, and a line asks for it by a
colon, one of its names and its arguments, with blanks where they may
stand (`Command.IsWrittenAs`). Reading a line takes just these lines for
the command, and any line that does not begin with a colon for a
declaration (`Command.parse_line_iff`). The blanks are dealt with in
`Text.Joined`; what is left is which words make which command
(`Command.ofWords_eq_ok_iff`).
-/
import WordGrammar.Proofs.Text.Decimal
import WordGrammar.Proofs.Text.Words
import WordGrammar.Shell.Command

namespace WordGrammar.Shell

open Text (IsGap IsWord IsNumeral Joined Trims)

-- ================================================================ names

/-- The names of a switch. -/
def Setting.names : Setting → List String
  | morphology => ["morphology", "mutate"]
  | syllables => ["syllables"]
  | debug => ["debug"]
  | trace => ["trace"]

/-- The names of a position of a switch. -/
def positionNames : Bool → List String
  | true => ["on", "true", "yes"]
  | false => ["off", "false", "no"]

/-- A switch is found by its names. -/
theorem Setting.ofName?_eq_some_iff {name : String} {setting : Setting} :
    Setting.ofName? name = some setting ↔ name ∈ setting.names := by
  constructor
  · intro h
    unfold Setting.ofName? at h
    split at h <;> cases h <;> decide
  · intro h
    cases setting <;> simp only [names, List.mem_cons, List.not_mem_nil,
      or_false] at h
    case morphology => rcases h with rfl | rfl <;> rfl
    all_goals subst h; rfl

/-- The position of a switch is found by its names. -/
theorem switchValue?_eq_some_iff {name : String} {on : Bool} :
    switchValue? name = some on ↔ name ∈ positionNames on := by
  constructor
  · intro h
    unfold switchValue? at h
    split at h <;> cases h <;> decide
  · intro h
    cases on <;> simp only [positionNames, List.mem_cons, List.not_mem_nil,
      or_false] at h
    all_goals rcases h with rfl | rfl | rfl <;> rfl

namespace Command

-- ================================================================ words

/-- `command.IsSaidBy words`: the words are a name of the command and its
arguments. Numbers have 64 bits. -/
inductive IsSaidBy : Command → List String → Prop
  | load {name path : String} :
      name ∈ ["load", "l"] → IsWord path.toList →
      IsSaidBy (.load path) [name, path]
  | generate {name number : String} {count : Nat} :
      name ∈ ["gen", "g"] → count < UInt64.size →
      IsNumeral count number.toList →
      IsSaidBy (.generate count) [name, number]
  | generateTen {name : String} :
      name ∈ ["gen", "g"] → IsSaidBy (.generate 10) [name]
  | showRule {id : RuleId} : IsSaidBy (.showRule id) ["rule", id.text]
  | listRules : IsSaidBy .listRules ["rules"]
  | transform {name word : String} :
      name ∈ ["morph", "m"] → IsWord word.toList →
      IsSaidBy (.transform word) [name, word]
  | set {name position : String} {setting : Setting} {on : Bool} :
      name ∈ setting.names → position ∈ positionNames on →
      IsSaidBy (.set setting on) ["set", name, position]
  | seed {number : String} {seed : Nat} :
      seed < UInt64.size → IsNumeral seed number.toList →
      IsSaidBy (.seed seed) ["seed", number]
  | help {name : String} :
      name ∈ ["help", "h", "?"] → IsSaidBy .help [name]
  | quit {name : String} :
      name ∈ ["quit", "q", "exit"] → IsSaidBy .quit [name]

/-- `command.IsWrittenAs line`: the line is a colon and then the words of
the command, with blanks between them; more blanks may stand before the
colon, after it and at the end. -/
def IsWrittenAs (command : Command) (line : String) : Prop :=
  ∃ words before gap text after,
    command.IsSaidBy words ∧ Joined (words.map String.toList) text
      ∧ IsGap before ∧ IsGap gap ∧ IsGap after
      ∧ line.toList = before ++ ':' :: (gap ++ text ++ after)

section

variable {command : Command} {words : List String} {line word : String}

theorem toList_text (id : RuleId) : id.text.toList = [id.letter] :=
  String.toList_singleton id.letter

/-- A rule is named by its letter alone. -/
theorem ruleOf?_eq_some_iff {id : RuleId} :
    ruleOf? word = some id ↔ word = id.text := by
  unfold ruleOf?
  constructor
  · intro h
    split at h
    · next c hc =>
        obtain rfl := RuleId.ofChar?_eq_some.1 h
        exact String.toList_inj.1 (hc.trans (toList_text id).symm)
    · cases h
  · rintro rfl
    rw [toList_text]
    exact RuleId.ofChar?_letter id

/-- A number is given by a numeral of it, if it has 64 bits. -/
theorem numberOf?_eq_some_iff {number : Nat} :
    numberOf? word = some number
      ↔ number < UInt64.size ∧ IsNumeral number word.toList :=
  Text.readUnsigned?_eq_some_iff

/-- The letter of a rule is a word by itself. -/
theorem isWord_text (id : RuleId) : IsWord id.text.toList := by
  have hbounds := id.letter_bounds
  rw [toList_text]
  refine ⟨List.cons_ne_nil _ _, List.forall_mem_singleton.2 ?_⟩
  simp [Text.isBlank]
  omega

/-- The words of a command are words. -/
theorem IsSaidBy.isWord (h : command.IsSaidBy words) :
    ∀ word ∈ words, IsWord word.toList := by
  have hone : ∀ {names : List String} {name : String}, name ∈ names →
      (∀ name ∈ names, IsWord name.toList) →
      ∀ word ∈ [name], IsWord word.toList :=
    fun hname hnames => List.forall_mem_singleton.2 (hnames _ hname)
  have htwo : ∀ {first second : String},
      (∀ word ∈ [first], IsWord word.toList) → IsWord second.toList →
      ∀ word ∈ [first, second], IsWord word.toList :=
    fun hfirst hsecond => List.forall_mem_append.2
      ⟨hfirst, List.forall_mem_singleton.2 hsecond⟩
  cases h with
  | load hname hpath => exact htwo (hone hname (by decide)) hpath
  | generate hname _ hnumeral =>
      exact htwo (hone hname (by decide)) hnumeral.isWord
  | generateTen hname => exact hone hname (by decide)
  | @showRule id => exact htwo (by decide) (isWord_text id)
  | listRules => decide
  | transform hname hword => exact htwo (hone hname (by decide)) hword
  | @set name position setting on hname hposition =>
      refine List.forall_mem_cons.2 ⟨by decide, ?_⟩
      refine htwo (hone hname ?_) (hone hposition ?_ _
        (List.mem_singleton_self _))
      · cases setting <;> decide
      · cases on <;> decide
  | seed _ hnumeral => exact htwo (by decide) hnumeral.isWord
  | help hname => exact hone hname (by decide)
  | quit hname => exact hone hname (by decide)

/-- A word alone names a command without arguments, or asks for the usual
ten words. -/
theorem IsSaidBy.of_ofWords_one {name : String}
    (h : ofWords line [name] = .ok command) : command.IsSaidBy [name] := by
  unfold ofWords at h
  dsimp only at h
  split at h <;> cases h
  all_goals first
    | exact .generateTen (by decide)
    | exact .listRules
    | exact .help (by decide)
    | exact .quit (by decide)

/-- An argument is taken as it is, or it is a number or names a rule. -/
theorem IsSaidBy.of_ofWords_two {name argument : String}
    (hargument : IsWord argument.toList)
    (h : ofWords line [name, argument] = .ok command) :
    command.IsSaidBy [name, argument] := by
  unfold ofWords at h
  dsimp only at h
  split at h <;> try split at h
  all_goals cases h
  all_goals first
    | exact .load (by decide) hargument
    | exact .transform (by decide) hargument
    | obtain rfl := ruleOf?_eq_some_iff.1 ‹ruleOf? argument = some _›
      exact .showRule
    | obtain ⟨hlt, hnumeral⟩ :=
        numberOf?_eq_some_iff.1 ‹numberOf? argument = some _›
      first
        | exact .generate (by decide) hlt hnumeral
        | exact .seed hlt hnumeral

/-- A switch takes its name and its position. -/
theorem IsSaidBy.of_ofWords_set {name value : String}
    (h : ofWords line ["set", name, value] = .ok command) :
    command.IsSaidBy ["set", name, value] := by
  rw [ofWords] at h
  split at h
  · cases h
  · next setting hsetting =>
      split at h <;> cases h
      next on hon =>
        exact .set (Setting.ofName?_eq_some_iff.1 hsetting)
          (switchValue?_eq_some_iff.1 hon)

/-- Only words that say a command make it. -/
theorem IsSaidBy.of_ofWords (hwords : ∀ word ∈ words, IsWord word.toList)
    (h : ofWords line words = .ok command) : command.IsSaidBy words := by
  -- By the number of words: no command has none or more than three.
  match words, hwords with
  | [], _ => cases h
  | [name], _ => exact .of_ofWords_one h
  | [name, argument], hwords =>
      exact .of_ofWords_two (hwords argument (by simp)) h
  | [first, name, value], _ =>
      by_cases hset : first = "set"
      · exact hset ▸ .of_ofWords_set (hset ▸ h)
      · simp [ofWords, ofWords.unknown, hset] at h
  | _ :: _ :: _ :: _ :: _, _ => cases h

/-- Words that say a command make it. -/
theorem ofWords_of_isSaidBy (h : command.IsSaidBy words) :
    ofWords line words = .ok command := by
  have hnumber : ∀ {number : String} {n : Nat}, n < UInt64.size →
      IsNumeral n number.toList → numberOf? number = some n :=
    fun hlt hnumeral => numberOf?_eq_some_iff.2 ⟨hlt, hnumeral⟩
  cases h with
  | listRules => rfl
  | showRule => simp only [ofWords, ruleOf?_eq_some_iff.2 rfl]
  | set hname hposition =>
      simp only [ofWords, Setting.ofName?_eq_some_iff.2 hname,
        switchValue?_eq_some_iff.2 hposition]
  | seed hlt hnumeral => simp only [ofWords, hnumber hlt hnumeral]
  | load hname | generateTen hname | transform hname =>
      simp only [List.mem_cons, List.not_mem_nil, or_false] at hname
      rcases hname with rfl | rfl <;> rfl
  | help hname | quit hname =>
      simp only [List.mem_cons, List.not_mem_nil, or_false] at hname
      rcases hname with rfl | rfl | rfl <;> rfl
  | generate hname hlt hnumeral =>
      simp only [List.mem_cons, List.not_mem_nil, or_false] at hname
      rcases hname with rfl | rfl <;>
        simp only [ofWords, hnumber hlt hnumeral]

/-- Words make the command that is said by them. -/
theorem ofWords_eq_ok_iff (hwords : ∀ word ∈ words, IsWord word.toList) :
    ofWords line words = .ok command ↔ command.IsSaidBy words :=
  ⟨.of_ofWords hwords, ofWords_of_isSaidBy⟩

-- ================================================================ lines

/-- A line that begins with a colon, up to blanks, asks for the command
that is said by the words after it. -/
theorem parse_colon {gap rest : List Char} (hgap : IsGap gap)
    (hline : line.toList = gap ++ ':' :: rest) :
    parse line = .ok command
      ↔ command.IsSaidBy ((Text.words rest).map String.ofList) := by
  obtain ⟨more, htrim, hwords⟩ :=
    @Text.exists_trim_cons gap rest ':' hgap (by decide)
  have hparse : parse line = ofWords (String.ofList (':' :: more))
      ((Text.words rest).map String.ofList) := by
    unfold parse
    dsimp only
    rw [hline, htrim, ← hwords]
    rfl
  -- Trimming the line takes blanks from its end, which part no words.
  rw [hparse]
  refine ofWords_eq_ok_iff fun word hword => ?_
  obtain ⟨cs, hcs, rfl⟩ := List.mem_map.1 hword
  rw [String.toList_ofList]
  exact Text.mem_words hcs

/-- Any other line is a declaration. -/
theorem parse_of_head (h : (Text.trim line.toList).head? ≠ some ':') :
    parse line = .ok (.declare (String.ofList (Text.trim line.toList))) := by
  unfold parse
  dsimp only
  split
  · next heq => exact absurd (congrArg List.head? heq) h
  · rfl

/-- The colon that a trimmed line begins with has only blanks before it. -/
theorem exists_colon (h : (Text.trim line.toList).head? = some ':') :
    ∃ gap rest, IsGap gap ∧ line.toList = gap ++ ':' :: rest := by
  obtain ⟨⟨before, after, hline, hbefore, -⟩, -⟩ :=
    Text.trims_trim line.toList
  obtain ⟨rest, hrest⟩ := List.head?_eq_some_iff.1 h
  refine ⟨before, rest ++ after, hbefore, ?_⟩
  rw [hline, hrest, List.append_assoc]
  rfl

/-- A declaration has no name. -/
theorem IsSaidBy.ne_declare (h : command.IsSaidBy words) (text : String) :
    command ≠ .declare text := by
  rintro rfl
  cases h

theorem IsSaidBy.ne_nil (h : command.IsSaidBy words) : words ≠ [] := by
  cases h <;> exact List.cons_ne_nil _ _

/-- Any command that a line asks for, and that is no declaration, stands
behind its colon as its words, with blanks between them. -/
theorem isWrittenAs_of_parse (h : parse line = .ok command)
    (hother : ∀ text, command ≠ .declare text) :
    command.IsWrittenAs line := by
  by_cases hcolon : (Text.trim line.toList).head? = some ':'
  · obtain ⟨before, rest, hbefore, hline⟩ := exists_colon hcolon
    have hsaid := (parse_colon hbefore hline).1 h
    have hne : Text.words rest ≠ [] := fun hnil =>
      hsaid.ne_nil (congrArg (List.map String.ofList) hnil)
    obtain ⟨gap, text, after, rfl, hgap, hafter, hjoined⟩ :=
      Text.exists_joined hne
    refine ⟨_, before, gap, text, after, hsaid, ?_, hbefore, hgap, hafter,
      hline⟩
    simpa [Function.comp_def] using hjoined
  · rw [parse_of_head hcolon] at h
    exact absurd (Except.ok.inj h).symm (hother _)

theorem IsWrittenAs.ne_declare (h : command.IsWrittenAs line) :
    ∀ text, command ≠ .declare text := by
  obtain ⟨words, -, -, -, -, hsaid, -⟩ := h
  exact hsaid.ne_declare

/-- Every spelling of a command asks for it. -/
theorem IsWrittenAs.parse_eq (h : command.IsWrittenAs line) :
    parse line = .ok command := by
  obtain ⟨words, before, gap, text, after, hsaid, hjoined, hbefore, hgap,
    hafter, hline⟩ := h
  have hall : ∀ word ∈ words.map String.toList, IsWord word :=
    List.forall_mem_map.2 hsaid.isWord
  have hwords : Text.words (gap ++ text ++ after)
      = words.map String.toList := by
    rw [Text.words_append_gap hafter, Text.words_gap_append hgap,
      Text.words_of_joined hjoined hall]
  rw [parse_colon hbefore hline, hwords]
  simpa [Function.comp_def] using hsaid

/-- A line that does not begin with a colon is a declaration, and no other
is. -/
theorem parse_declare_iff {text : String} :
    parse line = .ok (.declare text)
      ↔ Trims line.toList text.toList ∧ text.toList.head? ≠ some ':' := by
  by_cases hcolon : (Text.trim line.toList).head? = some ':'
  · obtain ⟨before, rest, hbefore, hline⟩ := exists_colon hcolon
    refine iff_of_false (fun h => ?_) ?_
    · exact ((parse_colon hbefore hline).1 h).ne_declare text rfl
    · rintro ⟨htrims, hhead⟩
      rw [Text.trim_eq_iff.2 htrims] at hcolon
      exact hhead hcolon
  · rw [parse_of_head hcolon]
    constructor
    · intro h
      cases h
      rw [String.toList_ofList]
      exact ⟨Text.trims_trim line.toList, hcolon⟩
    · rintro ⟨htrims, -⟩
      rw [Text.trim_eq_iff.2 htrims, String.ofList_toList]

end

/-- What a line asks for. It is a declaration exactly if the line, trimmed,
does not begin with a colon, and then of the trimmed line; and it is any
other command exactly if the line is one of the spellings of the command. -/
theorem parse_line_iff (line : String) :
    (∀ text, parse line = .ok (.declare text)
      ↔ Trims line.toList text.toList ∧ text.toList.head? ≠ some ':')
    ∧ ∀ command, (parse line = .ok command ∧ ∀ text, command ≠ .declare text)
      ↔ command.IsWrittenAs line := by
  refine ⟨fun text => parse_declare_iff, fun command => ⟨?_, fun h => ?_⟩⟩
  · rintro ⟨h, hother⟩
    exact isWrittenAs_of_parse h hother
  · exact ⟨h.parse_eq, h.ne_declare⟩

example : parse "\t:  gen\u2003+0042 \n" = .ok (.generate 42) := by
  decide +kernel

end Command

end WordGrammar.Shell
