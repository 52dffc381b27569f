/-
Numbers as they are written.

A numeral of a number is its decimal digits, with any zeros before them
and perhaps a plus sign before those (`IsNumeral`). Reading takes the
numerals of the numbers below a limit and nothing else
(`readUnsigned?_eq_some_iff`): what digits are read as is their value in
the library's sense (`readDigits?_eq_some_iff`), and digits are those of
their value up to zeros in front (`exists_eq_zeros_append`).
-/
import WordGrammar.Proofs.Text.Words
import WordGrammar.Text.Decimal

namespace WordGrammar.Text

/-- `IsNumeral n cs`: the text writes the number in decimal, with any
leading zeros and an optional plus sign. -/
inductive IsNumeral (n : Nat) : List Char → Prop
  | unsigned (zeros : Nat) :
      IsNumeral n (List.replicate zeros '0' ++ Nat.toDigits 10 n)
  | signed (zeros : Nat) :
      IsNumeral n ('+' :: (List.replicate zeros '0' ++ Nat.toDigits 10 n))

variable {n value : Nat} {c : Char} {cs : List Char}

-- =============================================================== digits

/-- The ten digits are next to each other in the code. -/
theorem digit_bounds (hc : c.isDigit = true) :
    48 ≤ c.toNat ∧ c.toNat ≤ 57 := by
  simpa [Char.isDigit, UInt32.le_iff_toNat_le] using hc

theorem digit_sub_lt (hc : c.isDigit = true) :
    c.toNat - '0'.toNat < 10 := by
  have hbounds := digit_bounds hc
  show c.toNat - 48 < 10
  omega

/-- A digit is how its value is written. -/
theorem toDigits_digit (hc : c.isDigit = true) :
    Nat.toDigits 10 (c.toNat - '0'.toNat) = [c] := by
  have hbounds := digit_bounds hc
  have hchar : Nat.digitChar (c.toNat - '0'.toNat) = c := by
    refine Char.toNat_inj.1 ?_
    rw [Nat.toNat_digitChar_of_lt_ten (digit_sub_lt hc)]
    show 48 + (c.toNat - 48) = c.toNat
    omega
  rw [Nat.toDigits_of_lt_base (digit_sub_lt hc), hchar]

/-- Only digits are read, and as the number that they are in the library's
sense; `value` is that of the digits already read. -/
theorem readDigits?_eq_some_iff :
    readDigits? value cs = some n
      ↔ (∀ c ∈ cs, c.isDigit = true) ∧ Nat.ofDigitChars 10 cs value = n := by
  induction cs generalizing value with
  | nil => simp [readDigits?]
  | cons c cs ih =>
      rw [readDigits?, digitValue?]
      by_cases hc : c.isDigit = true
      · rw [if_pos hc, Option.bind_eq_bind, Option.bind_some, ih,
          Nat.ofDigitChars_cons, List.forall_mem_cons, and_assoc]
        simp [hc]
      · simp [hc]

/-- After a number that is not 0, further digits go on with its own. -/
theorem toDigits_ofDigitChars (hdigits : ∀ c ∈ cs, c.isDigit = true)
    (hvalue : 0 < value) :
    Nat.toDigits 10 (Nat.ofDigitChars 10 cs value)
      = Nat.toDigits 10 value ++ cs := by
  -- By the digits from the left: each of them is appended to those of the
  -- value so far.
  induction cs generalizing value with
  | nil => simp
  | cons c cs ih =>
      obtain ⟨hc, hcs⟩ := List.forall_mem_cons.1 hdigits
      rw [Nat.ofDigitChars_cons, ih hcs (by omega),
        ← Nat.toDigits_append_toDigits (by decide) hvalue (digit_sub_lt hc),
        toDigits_digit hc, List.append_assoc]
      rfl

/-- Digits are those of their value with zeros before them. -/
theorem exists_eq_zeros_append (hdigits : ∀ c ∈ cs, c.isDigit = true)
    (hne : cs ≠ []) :
    ∃ zeros, cs = List.replicate zeros '0'
      ++ Nat.toDigits 10 (Nat.ofDigitChars 10 cs 0) := by
  -- Zeros are taken off while there is another digit after them.
  induction cs with
  | nil => exact absurd rfl hne
  | cons c cs ih =>
      obtain ⟨hc, hcs⟩ := List.forall_mem_cons.1 hdigits
      rw [Nat.ofDigitChars_cons, Nat.mul_zero, Nat.zero_add]
      by_cases hzero : c = '0'
      · subst hzero
        rw [Nat.sub_self]
        by_cases hlast : cs = []
        · subst hlast
          exact ⟨0, rfl⟩
        · obtain ⟨zeros, hzeros⟩ := ih hcs hlast
          refine ⟨zeros + 1, ?_⟩
          rw [List.replicate_succ, List.cons_append, ← hzeros]
      · -- the first digit that is no zero begins the digits of the value
        have hbounds := digit_bounds hc
        have hpos : 0 < c.toNat - '0'.toNat := by
          have hne : c.toNat ≠ 48 := fun h => hzero (Char.toNat_inj.1 h)
          show 0 < c.toNat - 48
          omega
        refine ⟨0, ?_⟩
        rw [toDigits_ofDigitChars hcs hpos, toDigits_digit hc]
        rfl

-- ============================================================= numerals

/-- A numeral without a sign consists of digits. -/
theorem isDigit_of_mem_zeros_append {zeros : Nat}
    (h : c ∈ List.replicate zeros '0' ++ Nat.toDigits 10 n) :
    c.isDigit = true := by
  rcases List.mem_append.1 h with h | h
  · rw [List.eq_of_mem_replicate h]
    rfl
  · exact Nat.isDigit_of_mem_toDigits (by decide) (by decide) h

/-- A numeral consists of digits and possibly a sign. -/
theorem IsNumeral.mem (h : IsNumeral n cs) :
    ∀ c ∈ cs, c = '+' ∨ c.isDigit = true := by
  cases h with
  | unsigned => exact fun c hc => .inr (isDigit_of_mem_zeros_append hc)
  | signed =>
      exact List.forall_mem_cons.2 ⟨.inl rfl, fun c hc =>
        .inr (isDigit_of_mem_zeros_append hc)⟩

/-- Every numeral has a digit, also that of 0. -/
theorem IsNumeral.ne_nil (h : IsNumeral n cs) : cs ≠ [] := by
  cases h with
  | unsigned =>
      exact List.append_ne_nil_of_right_ne_nil _ Nat.toDigits_ne_nil
  | signed => exact List.cons_ne_nil _ _

/-- A numeral is one word, so it stands in a line of words as it is. -/
theorem IsNumeral.isWord (h : IsNumeral n cs) : IsWord cs := by
  refine ⟨h.ne_nil, fun c hc => ?_⟩
  rcases h.mem c hc with rfl | hdigit
  · decide
  · have hbounds := digit_bounds hdigit
    simp [isBlank]
    omega

theorem isNumeral_digit (hc : c.isDigit = true) :
    IsNumeral (c.toNat - '0'.toNat) [c] := by
  have hdigit := @IsNumeral.unsigned (c.toNat - '0'.toNat) 0
  rwa [toDigits_digit hc] at hdigit

/-- Digits are read as the number that they write. -/
theorem readDigits?_zero_iff :
    cs ≠ [] ∧ readDigits? 0 cs = some n
      ↔ ∃ zeros, cs = List.replicate zeros '0' ++ Nat.toDigits 10 n := by
  constructor
  · rintro ⟨hne, h⟩
    obtain ⟨hdigits, rfl⟩ := readDigits?_eq_some_iff.1 h
    exact exists_eq_zeros_append hdigits hne
  · rintro ⟨zeros, rfl⟩
    refine ⟨(IsNumeral.unsigned zeros).ne_nil, readDigits?_eq_some_iff.2
      ⟨fun _ => isDigit_of_mem_zeros_append, ?_⟩⟩
    rw [Nat.ofDigitChars_append, Nat.ofDigitChars_replicate_zero,
      Nat.mul_zero, Nat.ofDigitChars_ten_toDigits]

section

variable {limit : Nat}

/-- What comes after a plus sign, if the text begins with one. -/
def afterPlus : List Char → List Char
  | '+' :: rest => rest
  | cs => cs

/-- A text without a sign is read from its first character. -/
theorem afterPlus_of_head (h : cs.head? ≠ some '+') : afterPlus cs = cs := by
  unfold afterPlus
  split
  · exact absurd rfl h
  · rfl

/-- Both ways of reading are one: digits, of which there have to be some,
after the sign if there is one. -/
theorem readUnsigned?_eq :
    readUnsigned? limit cs = (do
      guard (afterPlus cs ≠ [])
      let value ← readDigits? 0 (afterPlus cs)
      guard (value < limit)
      pure value) := by
  by_cases hplus : cs.head? = some '+'
  · obtain ⟨rest, rfl⟩ := List.head?_eq_some_iff.1 hplus
    rfl
  · rw [afterPlus_of_head hplus]
    unfold readUnsigned? guard
    dsimp only
    split
    · exact absurd rfl hplus
    · rfl

/-- A number is read if these digits write one below the limit. -/
theorem readUnsigned?_afterPlus :
    readUnsigned? limit cs = some n
      ↔ (afterPlus cs ≠ [] ∧ readDigits? 0 (afterPlus cs) = some n)
        ∧ n < limit := by
  rw [readUnsigned?_eq]
  generalize afterPlus cs = digits
  unfold guard
  simp only [Option.bind_eq_bind, Option.bind_eq_some_iff]
  by_cases hne : digits = []
  · simp [hne, failure]
  · cases readDigits? 0 digits with
    | none => simp
    | some value =>
        by_cases hlt : value < limit
        · have hn : value = n → n < limit := fun h => h ▸ hlt
          simpa [hne, hlt, pure] using hn
        · have hn : value = n → limit ≤ n := fun h => h ▸ Nat.not_lt.1 hlt
          simpa [hne, hlt, failure] using hn

/-- What is read as a number are the numerals of those below the limit. -/
theorem readUnsigned?_eq_some_iff :
    readUnsigned? limit cs = some n ↔ n < limit ∧ IsNumeral n cs := by
  constructor
  · intro h
    by_cases hplus : cs.head? = some '+'
    · obtain ⟨rest, rfl⟩ := List.head?_eq_some_iff.1 hplus
      obtain ⟨hdigits, hlt⟩ := readUnsigned?_afterPlus.1 h
      obtain ⟨zeros, rfl⟩ := readDigits?_zero_iff.1 hdigits
      exact ⟨hlt, .signed zeros⟩
    · obtain ⟨hdigits, hlt⟩ := readUnsigned?_afterPlus.1 h
      rw [afterPlus_of_head hplus] at hdigits
      obtain ⟨zeros, rfl⟩ := readDigits?_zero_iff.1 hdigits
      exact ⟨hlt, .unsigned zeros⟩
  · rintro ⟨hlt, hnumeral⟩
    cases hnumeral with
    | unsigned zeros =>
        have hplus : (List.replicate zeros '0' ++ Nat.toDigits 10 n).head?
            ≠ some '+' := by
          intro hplus
          exact absurd (isDigit_of_mem_zeros_append (List.mem_of_head? hplus))
            (by decide)
        rw [readUnsigned?_afterPlus, afterPlus_of_head hplus]
        exact ⟨readDigits?_zero_iff.2 ⟨zeros, rfl⟩, hlt⟩
    | signed zeros =>
        exact readUnsigned?_afterPlus.2
          ⟨readDigits?_zero_iff.2 ⟨zeros, rfl⟩, hlt⟩

end

end WordGrammar.Text
