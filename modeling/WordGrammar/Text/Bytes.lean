/-
Offsets in bytes.

Spans count the bytes that a text takes in UTF-8, so an offset is a place
in the text only if it does not cut a character. `splitBytes?` cuts a text
at such a place and `slice?` cuts a stretch out of it between two of them;
both refuse any other offset, and on the length of a part they give back
that part (`splitBytes?_append`, `slice?_append`).
-/
namespace WordGrammar.Text

/-- The number of bytes a text takes in UTF-8. -/
def utf8Length (cs : List Char) : Nat :=
  cs.foldr (fun c length => c.utf8Size + length) 0

@[simp] theorem utf8Length_nil : utf8Length [] = 0 := rfl

@[simp] theorem utf8Length_cons (c : Char) (cs : List Char) :
    utf8Length (c :: cs) = c.utf8Size + utf8Length cs := rfl

@[simp] theorem utf8Length_append (a b : List Char) :
    utf8Length (a ++ b) = utf8Length a + utf8Length b := by
  induction a with
  | nil => simp
  | cons c a ih => simp [ih, Nat.add_assoc]

/-- No character takes up no bytes. -/
theorem utf8Length_pos {cs : List Char} (h : cs ≠ []) :
    0 < utf8Length cs := by
  cases cs with
  | nil => exact absurd rfl h
  | cons c cs => exact Nat.add_pos_left c.utf8Size_pos _

/-- Cuts a text after its first `n` bytes; refused inside a character
and past the end. -/
def splitBytes? : Nat → List Char → Option (List Char × List Char)
  | 0, cs => some ([], cs)
  | _ + 1, [] => none
  | n + 1, c :: cs =>
      if c.utf8Size ≤ n + 1 then
        (splitBytes? (n + 1 - c.utf8Size) cs).map
          fun (before, after) => (c :: before, after)
      else none
termination_by _ cs => cs.length

/-- A text is cut in two after the bytes of its first part. -/
theorem splitBytes?_append (a b : List Char) :
    splitBytes? (utf8Length a) (a ++ b) = some (a, b) := by
  induction a with
  | nil => rw [utf8Length_nil, splitBytes?, List.nil_append]
  | cons c a ih =>
      obtain ⟨size, hsize⟩ := Nat.exists_eq_succ_of_ne_zero
        (Nat.ne_of_gt c.utf8Size_pos)
      have hbytes : utf8Length (c :: a)
          = (size + utf8Length a) + 1 := by
        rw [utf8Length_cons, hsize]
        omega
      have hrest : size + utf8Length a + 1 - c.utf8Size
          = utf8Length a := by omega
      rw [hbytes, List.cons_append, splitBytes?, if_pos (by omega), hrest,
        ih]
      rfl

/-- The characters from one offset to another; refused if either cuts a
character or is past the end, or if the second one comes first. -/
def slice? (start stop : Nat) (cs : List Char) : Option (List Char) :=
  if start ≤ stop then do
    let (_, after) ← splitBytes? start cs
    let (inside, _) ← splitBytes? (stop - start) after
    some inside
  else none

/-- The stretch between two places of a text is what stands there. -/
theorem slice?_append (before text after : List Char) :
    slice? (utf8Length before) (utf8Length (before ++ text))
        (before ++ (text ++ after)) = some text := by
  have hlength : utf8Length (before ++ text) - utf8Length before
      = utf8Length text := by
    rw [utf8Length_append]
    omega
  have hle : utf8Length before ≤ utf8Length (before ++ text) := by
    rw [utf8Length_append]
    exact Nat.le_add_right ..
  rw [slice?, if_pos hle, hlength]
  simp [splitBytes?_append]

example : slice? 1 3 ['a', 'é', 'b'] = some ['é']
    ∧ slice? 1 2 ['a', 'é', 'b'] = none := by decide +kernel

end WordGrammar.Text
