/-
Numbers in decimal: reading unsigned integers and writing quotients with
a fixed number of places.

`readUnsigned?` accepts an optional plus sign, digits with any leading
zeros, and a value below a limit; a minus sign is refused even before
zero. `fixedThree` writes a machine quotient with three places: numerator
and quotient are each rounded to 53 significant bits, and the result to
the wanted places. Every rounding takes a tie to the even neighbour, and
all of them are done in whole numbers.
-/
namespace WordGrammar.Text

-- ============================================================ reading

/-- The value of a decimal digit. -/
def digitValue? (c : Char) : Option Nat :=
  if c.isDigit then some (c.toNat - '0'.toNat) else none

/-- The value of a run of decimal digits read after `value`; refused at
the first character that is no digit. -/
def readDigits? (value : Nat) : List Char → Option Nat
  | [] => some value
  | c :: cs => do
      let d ← digitValue? c
      readDigits? (10 * value + d) cs

/-- An unsigned number below `limit`: an optional `+`, then at least one
digit and nothing else. -/
def readUnsigned? (limit : Nat) (cs : List Char) : Option Nat := do
  let digits := match cs with
    | '+' :: rest => rest
    | _ => cs
  guard (digits ≠ [])
  let value ← readDigits? 0 digits
  guard (value < limit)
  pure value

/-- One more than the largest 64-bit unsigned number. -/
def limit64 : Nat := UInt64.size

-- ============================================================ writing

/-- The whole number nearest to `num / den`; a tie goes to the even
neighbour. -/
def roundHalfEven (num den : Nat) : Nat :=
  let quotient := num / den
  let remainder := num % den
  if 2 * remainder < den then quotient
  else if den < 2 * remainder then quotient + 1
  else quotient + quotient % 2

/-- The fraction nearest to `num / den` whose numerator has 53 bits over
a power of two, ties going to the even numerator. -/
def round53 (num den : Nat) : Nat × Nat :=
  let scale (shift : Int) : Nat × Nat :=
    if 0 ≤ shift then (num, den <<< shift.toNat)
    else (num <<< (-shift).toNat, den)
  let rough : Int := (num.log2 : Int) - den.log2 - 52
  let shift := if (scale rough).1 < (scale rough).2 <<< 52
    then rough - 1 else rough
  let mantissa := roundHalfEven (scale shift).1 (scale shift).2
  if 0 ≤ shift then (mantissa <<< shift.toNat, 1)
  else (mantissa, 1 <<< (-shift).toNat)

/-- Pads a text on the left to at least `width` characters. -/
def padLeft (width : Nat) (fill : Char) (s : String) : String :=
  String.ofList (List.replicate (width - s.length) fill) ++ s

/-- The machine quotient of two numbers with three places after the
point. -/
def fixedThree (num den : Nat) : String :=
  let (a, b) := round53 num 1
  let (m, d) := round53 a (b * den)
  let thousandths := roundHalfEven (m * 1000) d
  toString (thousandths / 1000) ++ "."
    ++ padLeft 3 '0' (toString (thousandths % 1000))

end WordGrammar.Text
