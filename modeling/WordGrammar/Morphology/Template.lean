/-
Replacements as they are written in a grammar.

A replacement refers to captures by a backslash: `\1` for a number, `\&`
for the whole match, `\k<name>` for a number or a name; two backslashes
are one. `templateOf` puts it into the form that regular expressions fill
in, where a dollar sign opens a reference, so a dollar sign of the text is
doubled.
-/
namespace WordGrammar

/-- The reference of a template to a capture. -/
def templateReference (name : List Char) : List Char :=
  ['$', '\x7b'] ++ name ++ ['\x7d']

/-- A named reference: the name up to `>` and the text after it; none if
the name is empty or does not end. -/
def namedReference? (cs : List Char) : Option (List Char × List Char) :=
  let name := cs.takeWhile (· ≠ '>')
  match name, cs.drop name.length with
  | [], _ => none
  | name, _ :: rest => some (name, rest)
  | _, [] => none

theorem namedReference?_length_lt {cs name rest : List Char}
    (h : namedReference? cs = some (name, rest)) :
    rest.length < cs.length := by
  unfold namedReference? at h
  simp only at h
  split at h
  · cases h
  · rename_i hdrop _
    cases h
    have := congrArg List.length hdrop
    simp only [List.length_drop, List.length_cons] at this
    omega
  · cases h

/-- The template that a replacement stands for. -/
def templateOf : List Char → List Char
  | [] => []
  | '$' :: rest => '$' :: '$' :: templateOf rest
  | '\\' :: 'k' :: '<' :: rest =>
      match _hname : namedReference? rest with
      | some (name, after) =>
          templateReference name ++ templateOf after
      | none => '\\' :: templateOf ('k' :: '<' :: rest)
  | '\\' :: c :: rest =>
      if c.isDigit then templateReference [c] ++ templateOf rest
      else if c = '&' then templateReference ['0'] ++ templateOf rest
      else if c = '\\' then '\\' :: templateOf rest
      else '\\' :: templateOf (c :: rest)
  | c :: rest => c :: templateOf rest
termination_by cs => cs.length
decreasing_by
  all_goals simp only [List.length_cons]
  all_goals try omega
  have := namedReference?_length_lt _hname
  omega

end WordGrammar
