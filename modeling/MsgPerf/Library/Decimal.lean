import Mathlib.Data.List.TakeWhile
import Mathlib.Tactic

/-!
# Decimal numbers in texts

The conversions of the C library from a text to an integer skip white space, take an optional sign
and the digits behind it, and ignore the rest: a text that is not a number gives zero, and nothing
is reported.  A text denotes a number when it consists of digits only.  The two are compared at the
widths of the fields to which the result of a conversion is assigned.
-/

namespace MsgPerf.Library

/-! ## Conversions -/

/-- `isspace` in the C locale. -/
def isSpace (char : Char) : Bool := char == ' ' || ('\t' ≤ char && char ≤ '\r')

/-- The value of the digits at the beginning of a text. -/
def leadingNumber (text : List Char) : ℕ := Nat.ofDigitChars 10 (text.takeWhile Char.isDigit) 0

/-- `strtol` in base ten, where `long` has 64 bits: the result saturates. -/
def strtol (text : List Char) : ℤ :=
  match text.dropWhile isSpace with
  | '-' :: rest => max (-2 ^ 63) (-leadingNumber rest)
  | '+' :: rest => min (2 ^ 63 - 1) (leadingNumber rest)
  | rest => min (2 ^ 63 - 1) (leadingNumber rest)

def atol (text : List Char) : ℤ := strtol text

/-- The result of `strtol` converted to `int`, which has 32 bits. -/
def atoi (text : List Char) : ℤ := (strtol text).bmod (2 ^ 32)

/-- The conversion of an integer to an unsigned type. -/
def toUnsigned (bits : ℕ) (value : ℤ) : ℕ := (value % 2 ^ bits).toNat

/-- The text of an integer in the conversion `d` of `printf`. -/
def printDecimal : ℤ → List Char
  | .ofNat number => Nat.toDigits 10 number
  | .negSucc number => '-' :: Nat.toDigits 10 (number + 1)

theorem mem_printDecimal {number : ℤ} {char : Char} (h : char ∈ printDecimal number) :
    char = '-' ∨ char.isDigit = true := by
  have hdigit (magnitude : ℕ) (hmem : char ∈ Nat.toDigits 10 magnitude) : char.isDigit = true :=
    Nat.isDigit_of_mem_toDigits (by decide) (by decide) hmem
  cases number with
  | ofNat magnitude => exact .inr (hdigit magnitude h)
  | negSucc magnitude =>
    obtain hsign | hmem := List.mem_cons.mp h
    · exact .inl hsign
    · exact .inr (hdigit _ hmem)

/-! ## Numbers -/

/-- The number that a text denotes. -/
def decimal? (text : List Char) : Option ℕ :=
  if text ≠ [] ∧ text.all Char.isDigit then some (Nat.ofDigitChars 10 text 0) else none

theorem decimal?_eq_some {text : List Char} {number : ℕ} (h : decimal? text = some number) :
    (∃ first rest, text = first :: rest ∧ first.isDigit = true) ∧ leadingNumber text = number := by
  unfold decimal? at h
  split at h
  next hdigits =>
    obtain ⟨hnonempty, hall⟩ := hdigits
    have htake : text.takeWhile Char.isDigit = text :=
      List.takeWhile_eq_self_iff.mpr fun char hchar ↦ List.all_eq_true.mp hall char hchar
    constructor
    · obtain ⟨first, rest, rfl⟩ := List.exists_cons_of_ne_nil hnonempty
      exact ⟨first, rest, rfl, List.all_eq_true.mp hall first List.mem_cons_self⟩
    · rw [leadingNumber, htake]
      exact Option.some.inj h
  · simp at h

theorem isSpace_eq_false_of_isDigit {char : Char} (h : char.isDigit = true) :
    isSpace char = false := by
  simp only [Char.isDigit, Bool.and_eq_true, decide_eq_true_eq, UInt32.le_iff_toNat_le] at h
  simp only [isSpace, Bool.or_eq_false_iff, beq_eq_false_iff_ne, Bool.and_eq_false_iff,
    decide_eq_false_iff_not, Char.le_def, UInt32.le_iff_toNat_le]
  refine ⟨?_, .inr fun hle ↦ ?_⟩
  · rintro rfl
    exact absurd h.1 (by decide)
  · exact absurd (h.1.trans hle) (by decide)

/-- The conversion of a text that denotes a number. -/
theorem strtol_of_decimal {text : List Char} {number : ℕ} (h : decimal? text = some number) :
    strtol text = min (2 ^ 63 - 1) (number : ℤ) := by
  obtain ⟨⟨first, rest, rfl, hfirst⟩, hnumber⟩ := decimal?_eq_some h
  have hspace := isSpace_eq_false_of_isDigit hfirst
  unfold strtol
  rw [List.dropWhile_cons_of_neg (by simp [hspace])]
  split
  next heq =>
    obtain ⟨rfl, -⟩ := List.cons.inj heq
    exact absurd hfirst (by decide)
  next heq =>
    obtain ⟨rfl, -⟩ := List.cons.inj heq
    exact absurd hfirst (by decide)
  · rw [hnumber]

/-! ## Assignments that keep the number -/

section Assigned

variable {text : List Char} {number : ℕ}

theorem toUnsigned_atoi_sixteen (h : decimal? text = some number) :
    toUnsigned 16 (atoi text) = number ↔ number < 2 ^ 16 := by
  simp only [toUnsigned, atoi, strtol_of_decimal h, Int.bmod]
  omega

theorem toUnsigned_atoi_thirtyTwo (h : decimal? text = some number) :
    toUnsigned 32 (atoi text) = number ↔ number < 2 ^ 32 := by
  simp only [toUnsigned, atoi, strtol_of_decimal h, Int.bmod]
  omega

/-- The largest number of the unsigned type is also the saturated result, which the conversion to
`int` turns into minus one. -/
theorem toUnsigned_atoi_sixtyFour (h : decimal? text = some number) :
    toUnsigned 64 (atoi text) = number ↔ number < 2 ^ 31 ∨ number = 2 ^ 64 - 1 := by
  simp only [toUnsigned, atoi, strtol_of_decimal h, Int.bmod]
  omega

theorem atoi_eq_iff (h : decimal? text = some number) :
    atoi text = number ↔ number < 2 ^ 31 := by
  simp only [atoi, strtol_of_decimal h, Int.bmod]
  omega

theorem toUnsigned_atol (h : decimal? text = some number) :
    toUnsigned 64 (atol text) = number ↔ number < 2 ^ 63 := by
  simp only [toUnsigned, atol, strtol_of_decimal h]
  omega

end Assigned

/-! ## Fractions -/

/-- The value of digits behind a decimal point. -/
def fractionValue (digits : List Char) : ℚ := Nat.ofDigitChars 10 digits 0 / 10 ^ digits.length

/-- A number printed behind a decimal point counts the smallest of some decimal places exactly when
it is zero or has a digit for every place. -/
theorem fractionValue_toDigits_eq_iff {number places : ℕ} (hplaces : 0 < places)
    (hnumber : number < 10 ^ (places + 1)) :
    fractionValue (Nat.toDigits 10 number) = number / 10 ^ (places + 1) ↔
      number = 0 ∨ 10 ^ places ≤ number := by
  have hlength : (Nat.toDigits 10 number).length ≤ places + 1 :=
    (Nat.length_toDigits_le_iff (by decide) (Nat.succ_pos places)).mpr hnumber
  have hshort := Nat.length_toDigits_le_iff (b := 10) (n := number) (by decide) hplaces
  have htenNe (exponent : ℕ) : (10 : ℚ) ^ exponent ≠ 0 := pow_ne_zero exponent (by norm_num)
  rw [fractionValue, Nat.ofDigitChars_ten_toDigits]
  constructor
  · intro hvalue
    by_cases hzero : number = 0
    · exact .inl hzero
    · right
      have hpowers : (10 : ℚ) ^ (places + 1) = 10 ^ (Nat.toDigits 10 number).length := by
        rw [div_eq_div_iff (htenNe _) (htenNe _)] at hvalue
        exact mul_left_cancel₀ (Nat.cast_ne_zero.mpr hzero) hvalue
      have hplacesEq : places + 1 = (Nat.toDigits 10 number).length :=
        Nat.pow_right_injective (by decide : 2 ≤ 10) (by exact_mod_cast hpowers)
      by_contra hsmall
      have hfits := hshort.mpr (not_le.mp hsmall)
      omega
  · intro hcases
    rcases hcases with hzero | hlarge
    · simp [hzero]
    · have hlong : ¬ (Nat.toDigits 10 number).length ≤ places :=
        fun hfits ↦ absurd (hshort.mp hfits) (not_lt.mpr hlarge)
      rw [show (Nat.toDigits 10 number).length = places + 1 by omega]

end MsgPerf.Library
