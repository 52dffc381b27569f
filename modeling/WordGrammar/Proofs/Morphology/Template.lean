/-
What a replacement says, and that its template says the same.

A replacement is read from left to right (`Reads`): at each place it either
opens one of four references (`Opens`) or has a character that stands for
itself. Every text reads in exactly one way (`exists_reads`,
`Reads.unique`).

A template has another escape sign and other references, and `templateOf` puts
the two together piece by piece. Nothing of one piece can join with the next:
a dollar sign of the text is written twice, and the name of a reference is
closed by its brace (`templatePieces_reference`). So the pieces of the template
are those of the replacement one for one (`templatePieces_templateOf`), as
long as no name has a closing brace of its own. What they put into the text is
then the same for every match: `exists_reads_fillTemplate`.
-/
import Mathlib.Data.List.Basic
import WordGrammar.Morphology.Template
import WordGrammar.Proofs.Text.Decimal
import WordGrammar.Proofs.Text.Lines
import WordGrammar.Regex

namespace WordGrammar

-- ================================================================= reading

/-- A piece of a replacement. -/
inductive ReplacementPiece
  /-- A character that stands for itself. -/
  | character (c : Char)
  /-- The text of the whole match. -/
  | wholeMatch
  /-- The text of the group with a number. -/
  | group (number : Nat)
  /-- The text of the group that a number or a name refers to. -/
  | named (name : List Char)
  deriving DecidableEq

namespace ReplacementPiece

/-- A replacement starts with an escape that stands for a piece, and goes on
after it. -/
inductive Opens : List Char → ReplacementPiece → List Char → Prop
  | group {digit : Char} {rest : List Char} :
      digit.isDigit = true →
      Opens ('\\' :: digit :: rest) (.group (digit.toNat - '0'.toNat)) rest
  | wholeMatch {rest : List Char} :
      Opens ('\\' :: '&' :: rest) .wholeMatch rest
  | backslash {rest : List Char} :
      Opens ('\\' :: '\\' :: rest) (.character '\\') rest
  | named {name rest : List Char} :
      name ≠ [] → '>' ∉ name →
      Opens ('\\' :: 'k' :: '<' :: (name ++ '>' :: rest)) (.named name) rest

/-- A replacement reads as some pieces: what opens no escape stands for
itself. -/
inductive Reads : List Char → List ReplacementPiece → Prop
  | nil : Reads [] []
  | escape {cs rest : List Char} {piece : ReplacementPiece}
      {pieces : List ReplacementPiece} :
      Opens cs piece rest → Reads rest pieces → Reads cs (piece :: pieces)
  | character {c : Char} {cs : List Char} {pieces : List ReplacementPiece} :
      (∀ piece rest, ¬ Opens (c :: cs) piece rest) → Reads cs pieces →
      Reads (c :: cs) (.character c :: pieces)

/-- An escape takes up some of the text. -/
theorem Opens.length_lt {cs rest : List Char} {piece : ReplacementPiece}
    (h : Opens cs piece rest) : rest.length < cs.length := by
  cases h with
  | group hdigit => simp only [List.length_cons]; omega
  | wholeMatch => simp only [List.length_cons]; omega
  | backslash => simp only [List.length_cons]; omega
  | named hne hname =>
      simp only [List.length_cons, List.length_append]
      omega

/-- An escape stands for one piece and ends at one place. -/
theorem Opens.unique {cs rest rest' : List Char}
    {piece piece' : ReplacementPiece} (h : Opens cs piece rest)
    (h' : Opens cs piece' rest') : piece = piece' ∧ rest = rest' := by
  -- The character after the backslash tells the escapes apart; only names
  -- can be of different lengths.
  cases h with
  | group hdigit =>
      cases h' with
      | group hdigit' => exact ⟨rfl, rfl⟩
      | wholeMatch => cases hdigit
      | backslash => cases hdigit
      | named hne hname => cases hdigit
  | wholeMatch =>
      cases h' with
      | group hdigit => cases hdigit
      | wholeMatch => exact ⟨rfl, rfl⟩
  | backslash =>
      cases h' with
      | group hdigit => cases hdigit
      | backslash => exact ⟨rfl, rfl⟩
  | @named name rest hne hname =>
      generalize htext : name ++ '>' :: rest = text at h'
      cases h' with
      | group hdigit => cases hdigit
      | @named name' rest' hne' hname' =>
          obtain rfl : name = name' := by
            have hbefore := congrArg (List.takeWhile (· ≠ '>')) htext
            rwa [Text.takeWhile_ne_append_cons hname,
              Text.takeWhile_ne_append_cons hname'] at hbefore
          cases List.append_cancel_left htext
          exact ⟨rfl, rfl⟩

/-- A replacement reads in one way at most. -/
theorem Reads.unique {cs : List Char} {pieces pieces' : List ReplacementPiece}
    (h : Reads cs pieces) (h' : Reads cs pieces') : pieces = pieces' := by
  -- A character stands for itself only where no escape opens, so the two
  -- readings take the same way.
  induction h generalizing pieces' with
  | nil =>
      cases h' with
      | nil => rfl
      | escape hopens => exact absurd hopens.length_lt (by simp)
  | escape hopens hreads ih =>
      cases h' with
      | nil => exact absurd hopens.length_lt (by simp)
      | escape hopens' hreads' =>
          obtain ⟨rfl, rfl⟩ := hopens.unique hopens'
          rw [ih hreads']
      | character hnone hreads' => exact absurd hopens (hnone _ _)
  | character hnone hreads ih =>
      cases h' with
      | escape hopens' hreads' => exact absurd hopens' (hnone _ _)
      | character hnone' hreads' => rw [ih hreads']

/-- Every text can be read as a replacement. -/
theorem exists_reads (cs : List Char) : ∃ pieces, Reads cs pieces := by
  -- By the length of what is left, as a name can be of any length.
  by_cases hopens : ∃ piece rest, Opens cs piece rest
  · obtain ⟨piece, rest, hopens⟩ := hopens
    have hshorter := hopens.length_lt
    obtain ⟨pieces, hreads⟩ := exists_reads rest
    exact ⟨piece :: pieces, .escape hopens hreads⟩
  · simp only [not_exists] at hopens
    cases cs with
    | nil => exact ⟨[], .nil⟩
    | cons c cs =>
        obtain ⟨pieces, hreads⟩ := exists_reads cs
        exact ⟨.character c :: pieces, .character hopens hreads⟩
termination_by cs.length

-- ================================================================= meaning

/-- The text of a numbered group; none if there is no such group or it took
no part in the match. -/
def groupText (text : Array Char) (m : Regex.Match) (number : Nat) :
    List Char :=
  match m.bounds? number with
  | some (first, last) => Regex.slice text first last
  | none => []

/-- What a piece puts in the place of a match. A name that reads as an
unsigned number means the group with that number, any other the group that
the expression gives it to. -/
def meaning (regex : Regex) (text : Array Char) (m : Regex.Match) :
    ReplacementPiece → List Char
  | .character c => [c]
  | .wholeMatch => Regex.slice text m.start m.stop
  | .group number => groupText text m number
  | .named name =>
      match Text.readUnsigned? Text.limit64 name with
      | some number => groupText text m number
      | none =>
          match regex.names.lookup (String.ofList name) with
          | some number => groupText text m number
          | none => []

/-- The piece of a template that a piece of a replacement becomes. -/
def inTemplate : ReplacementPiece → Regex.TemplatePiece
  | .character c => .character c
  | .wholeMatch => .capture (.number 0)
  | .group number => .capture (.number number)
  | .named name => .capture (.ofText name)

theorem captured_number (regex : Regex) (text : Array Char) (m : Regex.Match)
    (number : Nat) :
    regex.captured text m (.number number) = groupText text m number :=
  rfl

/-- A group that is referred to by its name: names are looked up in the
order in which the expression has them. -/
theorem captured_name (regex : Regex) (text : Array Char) (m : Regex.Match)
    (name : String) :
    regex.captured text m (.name name)
      = match regex.names.lookup name with
        | some number => groupText text m number
        | none => [] := by
  have hlookup : regex.captureNumber? (.name name)
      = regex.names.lookup name := by
    rw [Regex.captureNumber?]
    induction regex.names with
    | nil => rfl
    | cons entry names ih =>
        rw [List.find?_cons, List.lookup_cons]
        by_cases hname : entry.1 = name
        · simp [hname]
        · rw [beq_eq_false_iff_ne.2 hname,
            beq_eq_false_iff_ne.2 (Ne.symm hname)]
          exact ih
  unfold Regex.captured
  rw [hlookup]
  cases regex.names.lookup name with
  | none => rfl
  | some number => rfl

/-- In a template a piece puts the same in the place of a match. -/
theorem fill_inTemplate (regex : Regex) (text : Array Char) (m : Regex.Match)
    (piece : ReplacementPiece) :
    piece.inTemplate.fill (regex.captured text m)
      = piece.meaning regex text m := by
  -- Only a name needs a look-up, and both sides try it as a number first.
  cases piece with
  | character c => rfl
  | wholeMatch =>
      show regex.captured text m (.number 0) = Regex.slice text m.start m.stop
      rw [captured_number]
      rfl
  | group number => exact captured_number regex text m number
  | named name =>
      show regex.captured text m (.ofText name) = _
      unfold Regex.CaptureName.ofText meaning
      dsimp only
      cases Text.readUnsigned? Text.limit64 name with
      | some number => exact captured_number regex text m number
      | none => exact captured_name regex text m (String.ofList name)

end ReplacementPiece

-- ====================================================== pieces of templates

namespace Regex

theorem templatePieces_dollar (rest : List Char) :
    templatePieces ('$' :: '$' :: rest)
      = .character '$' :: templatePieces rest := by
  rw [templatePieces, if_pos rfl]
  rfl

/-- A name in braces is read up to its brace, whatever comes after it. -/
theorem templatePieces_reference {name : List Char} (rest : List Char)
    (h : '\x7d' ∉ name) :
    templatePieces (templateReference name ++ rest)
      = .capture (.ofText name) :: templatePieces rest := by
  have hpiece : dollarPiece ('\x7b' :: (name ++ '\x7d' :: rest))
      = (.capture (.ofText name), name.length + 2) := by
    simp only [dollarPiece, Text.takeWhile_ne_append_cons h]
    rw [if_pos (by simp)]
  have hdrop : ('\x7b' :: (name ++ '\x7d' :: rest)).drop (name.length + 2)
      = rest := by
    simp
  rw [show templateReference name ++ rest
      = '$' :: '\x7b' :: (name ++ '\x7d' :: rest) by simp [templateReference],
    templatePieces, if_pos rfl, hpiece]
  dsimp only
  rw [hdrop]

theorem templatePieces_character {c : Char} (rest : List Char) (h : c ≠ '$') :
    templatePieces (c :: rest) = .character c :: templatePieces rest := by
  rw [templatePieces, if_neg h]

/-- A digit as a name is its value. -/
theorem CaptureName.ofText_digit {digit : Char} (h : digit.isDigit = true) :
    CaptureName.ofText [digit] = .number (digit.toNat - '0'.toNat) := by
  have hsmall : digit.toNat - '0'.toNat < Text.limit64 :=
    Nat.lt_trans (Text.digit_sub_lt h) (by decide)
  have hread : Text.readUnsigned? Text.limit64 [digit]
      = some (digit.toNat - '0'.toNat) :=
    Text.readUnsigned?_eq_some_iff.2 ⟨hsmall, Text.isNumeral_digit h⟩
  rw [ofText, hread]

end Regex

-- ============================================================ the template

/-- A named reference is a name without `>` that is not empty, up to its
`>`. -/
theorem namedReference?_eq_some_iff {cs name rest : List Char} :
    namedReference? cs = some (name, rest)
      ↔ name ≠ [] ∧ '>' ∉ name ∧ cs = name ++ '>' :: rest := by
  constructor
  · intro h
    have hsplit : cs.takeWhile (· ≠ '>') ++ cs.dropWhile (· ≠ '>') = cs :=
      List.takeWhile_append_dropWhile
    have hstop := List.head?_dropWhile_not (· ≠ '>') cs
    have hname : '>' ∉ cs.takeWhile (· ≠ '>') := fun hmem => by
      simpa using List.mem_takeWhile_imp hmem
    unfold namedReference? at h
    simp only [Text.drop_length_takeWhile] at h
    split at h
    · cases h
    · rename_i hdrop hne
      cases h
      rw [hdrop] at hsplit hstop
      obtain rfl : _ = '>' := by simpa using hstop
      exact ⟨hne, hname, hsplit.symm⟩
    · cases h
  · intro hread
    obtain ⟨hne, hname, rfl⟩ := hread
    unfold namedReference?
    dsimp only
    rw [Text.takeWhile_ne_append_cons hname, List.drop_left]
    cases name with
    | nil => exact absurd rfl hne
    | cons c name => rfl

section

variable {rest : List Char}

/-- A group is referred to by its digit. -/
theorem templateOf_group {digit : Char} (h : digit.isDigit = true) :
    templateOf ('\\' :: digit :: rest)
      = templateReference [digit] ++ templateOf rest := by
  rw [templateOf, if_pos h]
  -- A digit does not begin the name of a reference.
  rintro rest' rfl
  cases h

/-- The whole match is the group 0. -/
theorem templateOf_wholeMatch :
    templateOf ('\\' :: '&' :: rest)
      = templateReference ['0'] ++ templateOf rest := by
  rw [templateOf, if_neg (by decide), if_pos rfl]
  rintro rest' ⟨⟩

theorem templateOf_backslash :
    templateOf ('\\' :: '\\' :: rest) = '\\' :: templateOf rest := by
  rw [templateOf, if_neg (by decide), if_neg (by decide), if_pos rfl]
  rintro rest' ⟨⟩

theorem templateOf_named {name : List Char} (hne : name ≠ [])
    (hname : '>' ∉ name) :
    templateOf ('\\' :: 'k' :: '<' :: (name ++ '>' :: rest))
      = templateReference name ++ templateOf rest := by
  have hreference : namedReference? (name ++ '>' :: rest)
      = some (name, rest) :=
    namedReference?_eq_some_iff.2 ⟨hne, hname, rfl⟩
  rw [templateOf, hreference]

end

namespace ReplacementPiece

/-- An escape of the replacement is one piece of the template. -/
theorem templatePieces_of_opens {cs rest : List Char}
    {piece : ReplacementPiece} (h : Opens cs piece rest)
    (hclosed : ∀ name, piece = .named name → '\x7d' ∉ name) :
    Regex.templatePieces (templateOf cs)
      = piece.inTemplate :: Regex.templatePieces (templateOf rest) := by
  cases h with
  | @group digit rest hdigit =>
      have hclosing : '\x7d' ∉ [digit] := by
        intro hmem
        obtain rfl := List.mem_singleton.1 hmem
        cases hdigit
      rw [templateOf_group hdigit,
        Regex.templatePieces_reference _ hclosing,
        Regex.CaptureName.ofText_digit hdigit]
      rfl
  | wholeMatch =>
      rw [templateOf_wholeMatch,
        Regex.templatePieces_reference _ (by decide)]
      rfl
  | backslash =>
      rw [templateOf_backslash]
      exact Regex.templatePieces_character _ (by decide)
  | @named name rest hne hname =>
      rw [templateOf_named hne hname]
      exact Regex.templatePieces_reference _ (hclosed name rfl)

/-- A character of the replacement that opens no escape is kept, a dollar sign
twice. -/
theorem templateOf_of_not_opens {c : Char} {cs : List Char}
    (h : ∀ piece rest, ¬ Opens (c :: cs) piece rest) :
    templateOf (c :: cs)
      = (if c = '$' then ['$', '$'] else [c]) ++ templateOf cs := by
  -- The escapes of `templateOf` are those of `Opens`, so these cases are
  -- excluded by `h`.
  generalize hwhole : c :: cs = whole at h ⊢
  fun_cases templateOf whole with
  | case1 => cases hwhole
  -- a dollar sign
  | case2 rest =>
      cases hwhole
      rfl
  -- a named reference, and then one that is not closed
  | case3 rest name after hname =>
      obtain ⟨hne, hmem, rfl⟩ := namedReference?_eq_some_iff.1 hname
      exact absurd (.named hne hmem) (h _ _)
  | case4 rest hname =>
      cases hwhole
      rfl
  -- the other three escapes
  | case5 d rest hk hdigit => exact absurd (.group hdigit) (h _ _)
  | case6 rest hk hdigit => exact absurd .wholeMatch (h _ _)
  | case7 rest hk hdigit hand => exact absurd .backslash (h _ _)
  -- a backslash before anything else, and any other character
  | case8 d rest hk hdigit hand hslash =>
      cases hwhole
      rfl
  | case9 d rest hdollar hk hslash =>
      cases hwhole
      rw [if_neg hdollar]
      rfl

/-- The pieces of the template are those of the replacement, one for one. -/
theorem templatePieces_templateOf {cs : List Char}
    {pieces : List ReplacementPiece} (h : Reads cs pieces)
    (hclosed : ∀ name, .named name ∈ pieces → '\x7d' ∉ name) :
    Regex.templatePieces (templateOf cs) = pieces.map inTemplate := by
  induction h with
  | nil =>
      rw [templateOf, Regex.templatePieces]
      rfl
  | escape hopens hreads ih =>
      rw [templatePieces_of_opens hopens fun name hname =>
          hclosed name (hname ▸ List.mem_cons_self ..),
        ih fun name hname => hclosed name (List.mem_cons_of_mem _ hname),
        List.map_cons]
  | @character c cs pieces hnone hreads ih =>
      have hrest := ih fun name hname =>
        hclosed name (List.mem_cons_of_mem _ hname)
      rw [templateOf_of_not_opens hnone, List.map_cons, ← hrest]
      by_cases hdollar : c = '$'
      · rw [if_pos hdollar, hdollar]
        exact Regex.templatePieces_dollar _
      · rw [if_neg hdollar]
        exact Regex.templatePieces_character _ hdollar

/-- A replacement keeps its written meaning. It reads in exactly one way, and
if no name that it refers to has a closing brace, then for every match of
every expression the filled-in template is what the pieces put there one after
the other. -/
theorem exists_reads_fillTemplate (replacement : String) :
    ∃ pieces, Reads replacement.toList pieces
      ∧ (∀ other, Reads replacement.toList other → other = pieces)
      ∧ ((∀ name, .named name ∈ pieces → '\x7d' ∉ name) →
        ∀ (regex : Regex) (text : Array Char) (m : Regex.Match),
          Regex.fillTemplate
              (Regex.templatePieces (templateOf replacement.toList))
              (regex.captured text m)
            = pieces.flatMap (meaning regex text m)) := by
  obtain ⟨pieces, hreads⟩ := exists_reads replacement.toList
  refine ⟨pieces, hreads, fun other hother => hother.unique hreads, ?_⟩
  intro hclosed regex text m
  rw [templatePieces_templateOf hreads hclosed, Regex.fillTemplate,
    List.flatMap_map]
  exact congrArg (pieces.flatMap ·)
    (funext fun piece => fill_inTemplate regex text m piece)

/-- A dollar sign in front of a digit is text here, and so is the brace after
a reference; a group is referred to by its name and another by its number. -/
theorem exists_reads_fillTemplate_names :
    ∃ regex, (Regex.compile "(?P<v>a)(b)?").toOption = some regex
      ∧ ∃ m, regex.allMatches "xab".toList.toArray = [m]
      ∧ Regex.fillTemplate
          (Regex.templatePieces (templateOf "$1\\k<v>\x7d\\2\\&".toList))
          (regex.captured "xab".toList.toArray m) = "$1a\x7dbab".toList := by
  have hnames : (Regex.compile "(?P<v>a)(b)?").toOption.map Regex.names
      = some [("v", 1)] := by
    decide +kernel
  have hfound : (Regex.compile "(?P<v>a)(b)?").toOption.map (fun regex =>
        (regex.allMatches "xab".toList.toArray).map
          fun m => (m.start, m.stop, m.notes))
      = some [(1, 3, [(5, 3), (4, 2), (3, 2), (2, 1), (0, 1)])] := by
    decide +kernel
  obtain ⟨regex, hregex, hnames⟩ := Option.map_eq_some_iff.1 hnames
  rw [hregex, Option.map_some, Option.some_inj] at hfound
  obtain ⟨⟨start, stop, notes⟩, hmatch, hm⟩ :=
    List.map_eq_singleton_iff.1 hfound
  cases hm
  refine ⟨regex, hregex, _, hmatch, ?_⟩
  obtain ⟨pieces, -, hunique, hfill⟩ :=
    exists_reads_fillTemplate "$1\\k<v>\x7d\\2\\&"
  have hreads : Reads "$1\\k<v>\x7d\\2\\&".toList [.character '$',
      .character '1', .named ['v'], .character '}', .group 2,
      .wholeMatch] := by
    rw [show "$1\\k<v>\x7d\\2\\&".toList = ['$', '1', '\\', 'k', '<', 'v', '>',
      '\x7d', '\\', '2', '\\', '&'] by decide]
    refine .character (fun _ _ h => nomatch h)
      (.character (fun _ _ h => nomatch h) ?_)
    have hname : Opens ['\\', 'k', '<', 'v', '>', '\x7d', '\\', '2', '\\', '&']
        (.named ['v']) ['\x7d', '\\', '2', '\\', '&'] :=
      @Opens.named ['v'] _ (by decide) (by decide)
    exact .escape hname (.character (fun _ _ h => nomatch h)
      (.escape (.group rfl) (.escape .wholeMatch .nil)))
  obtain rfl := hunique _ hreads
  rw [hfill (by simp)]
  simp only [List.flatMap_cons, List.flatMap_nil, meaning, groupText, hnames]
  decide

end ReplacementPiece

end WordGrammar
