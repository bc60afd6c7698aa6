/-
**The grammar of decimal numerals.**

An unsigned numeral is at least one digit, behind a plus sign or not; zeros in front are allowed, and no
other character is. Reading folds the digits into the number and stops as soon as it is too large, which
is no loss since further digits only make it larger.

* `IsNumeral`: a text is a numeral of this value;
* `parseUnsigned_eq_ok_iff`: reading accepts exactly the numerals of values that fit.
-/

import Mathlib.Tactic.Tauto
import Workyard.Text.Numeral

namespace Workyard.Text

/-! ### Digits -/

theorem bounds_of_isDigit {c : Char} (digit : c.isDigit = true) : '0' ≤ c ∧ c ≤ '9' := by
  simpa [Char.isDigit, Char.le_def] using digit

theorem digit_of_isDigit {c : Char} (digit : c.isDigit = true) :
    digit? c = some (c.toNat - '0'.toNat) := by
  simp [digit?, bounds_of_isDigit digit]

/-- Only digits have a value. -/
theorem isDigit_of_digit {c : Char} {value : Nat} (digit : digit? c = some value) :
    c.isDigit = true ∧ value = c.toNat - '0'.toNat := by
  unfold digit? at digit
  split at digit
  · next within =>
    refine ⟨?_, (Option.some.inj digit).symm⟩
    simpa [Char.isDigit, Char.le_def] using within
  · cases digit

/-- Reading on makes a number no smaller. -/
theorem le_ofDigitChars (digits : List Char) (value : Nat) :
    value ≤ Nat.ofDigitChars 10 digits value := by
  induction digits generalizing value with
  | nil => exact Nat.le_refl value
  | cons c digits hypothesis =>
    rw [Nat.ofDigitChars_cons]
    have rest := hypothesis (10 * value + (c.toNat - '0'.toNat))
    omega

/-- **Digits are read exactly if their number fits.** -/
theorem readDigits_eq_ok_iff {bound value result : Nat} {text : List Char} (small : value ≤ bound) :
    readDigits bound value text = .ok result ↔
      (∀ c ∈ text, c.isDigit = true) ∧ Nat.ofDigitChars 10 text value = result ∧ result ≤ bound := by
  induction text generalizing value with
  | nil =>
    simp only [readDigits, Nat.ofDigitChars_nil, Except.ok.injEq, List.not_mem_nil, false_imp_iff,
      implies_true, true_and]
    exact ⟨fun same => ⟨same, same ▸ small⟩, And.left⟩
  | cons c rest hypothesis =>
    unfold readDigits
    cases digit : digit? c with
    | none =>
      simp only [reduceCtorEq, false_iff]
      rintro ⟨digits, -⟩
      rw [digit_of_isDigit (digits c List.mem_cons_self)] at digit
      cases digit
    | some number =>
      obtain ⟨isDigit, rfl⟩ := isDigit_of_digit digit
      rw [Nat.ofDigitChars_cons, Nat.mul_comm 10 value]
      dsimp only
      split
      · next large =>
        -- it is too large already, and further digits do not make it smaller
        simp only [reduceCtorEq, false_iff]
        rintro ⟨-, rfl, fits⟩
        have grown := le_ofDigitChars rest (value * 10 + (c.toNat - '0'.toNat))
        omega
      · next fits =>
        rw [hypothesis (Nat.le_of_not_lt fits), List.forall_mem_cons]
        simp only [isDigit, true_and]

/-! ### Numerals -/

/-- A text is a numeral of this value. -/
inductive IsNumeral : List Char → Nat → Prop where
  | plain {digits : List Char} (nonempty : digits ≠ []) (each : ∀ c ∈ digits, c.isDigit = true) :
    IsNumeral digits (Nat.ofDigitChars 10 digits 0)
  | signed {digits : List Char} (nonempty : digits ≠ []) (each : ∀ c ∈ digits, c.isDigit = true) :
    IsNumeral ('+' :: digits) (Nat.ofDigitChars 10 digits 0)

/-- The digits of a number are a numeral of it. -/
theorem isNumeral_toDigits (value : Nat) : IsNumeral (Nat.toDigits 10 value) value := by
  have numeral := IsNumeral.plain (Nat.toDigits_ne_nil (b := 10) (n := value))
    fun c member => Nat.isDigit_of_mem_toDigits (by decide) (by decide) member
  rwa [Nat.ofDigitChars_toDigits (by decide) (by decide)] at numeral

/-- Without a sign in front, all characters are digits. -/
theorem isNumeral_unsigned_iff {c : Char} (unsigned : c ≠ '+') (rest : List Char) (value : Nat) :
    IsNumeral (c :: rest) value ↔
      (∀ d ∈ c :: rest, d.isDigit = true) ∧ Nat.ofDigitChars 10 (c :: rest) 0 = value := by
  constructor
  · intro numeral
    cases numeral with
    | plain nonempty each => exact ⟨each, rfl⟩
    | signed nonempty each => exact absurd rfl unsigned
  · rintro ⟨each, rfl⟩
    exact .plain (List.cons_ne_nil c rest) each

/-- Behind a sign, there is at least one digit and nothing else. -/
theorem isNumeral_signed_iff (rest : List Char) (value : Nat) :
    IsNumeral ('+' :: rest) value ↔
      rest ≠ [] ∧ (∀ d ∈ rest, d.isDigit = true) ∧ Nat.ofDigitChars 10 rest 0 = value := by
  constructor
  · intro numeral
    cases numeral with
    | plain nonempty each => cases each '+' List.mem_cons_self
    | signed nonempty each => exact ⟨nonempty, each, rfl⟩
  · rintro ⟨nonempty, each, rfl⟩
    exact .signed nonempty each

/-- **Reading accepts exactly the numerals of values that fit.** -/
theorem parseUnsigned_eq_ok_iff {bound value : Nat} {text : List Char} :
    parseUnsigned bound text = .ok value ↔ IsNumeral text value ∧ value ≤ bound := by
  unfold parseUnsigned
  split
  · simp only [reduceCtorEq, false_iff]
    rintro ⟨numeral, -⟩
    cases numeral with
    | plain nonempty each => exact nonempty rfl
  · simp [isNumeral_signed_iff]
  · simp [isNumeral_unsigned_iff, Char.isDigit]
  · next digits alone =>
    rw [readDigits_eq_ok_iff (Nat.zero_le bound), isNumeral_signed_iff]
    have nonempty : digits ≠ [] := fun empty => alone (empty ▸ rfl)
    tauto
  · next nonempty plus minus unsigned =>
    rw [readDigits_eq_ok_iff (Nat.zero_le bound)]
    cases text with
    | nil => exact absurd rfl nonempty
    | cons c rest =>
      have other : c ≠ '+' := fun same => unsigned rest (same ▸ rfl)
      rw [isNumeral_unsigned_iff other]
      tauto

/-- A text is refused exactly if it is a numeral of no value that fits. -/
theorem parseUnsigned_eq_error_iff {bound : Nat} {text : List Char} :
    (∃ fault, parseUnsigned bound text = .error fault) ↔
      ∀ value, IsNumeral text value → bound < value := by
  constructor
  · rintro ⟨fault, refused⟩ value numeral
    refine Nat.lt_of_not_le fun fits => ?_
    rw [parseUnsigned_eq_ok_iff.mpr ⟨numeral, fits⟩] at refused
    cases refused
  · intro large
    cases read : parseUnsigned bound text with
    | error fault => exact ⟨fault, rfl⟩
    | ok value =>
      obtain ⟨numeral, fits⟩ := parseUnsigned_eq_ok_iff.mp read
      exact absurd (large value numeral) (Nat.not_lt_of_le fits)

end Workyard.Text
