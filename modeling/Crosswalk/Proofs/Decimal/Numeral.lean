/-
Module: Crosswalk.Proofs.Decimal.Numeral
Purpose: Writing a number and reading it back. A decimal is determined by the rational number that its parts
  denote, however they are chosen. A finite number of no more than fifty digits, within the limits of
  the exponent, is left alone by rounding, so its text is read as the number that was written.
Main exports: Decimal.ofParts_eq_iff, Decimal.Precise, Decimal.round_mul_tenPow, Decimal.roundParts_of_precise,
  Decimal.ofChars?_positional, Decimal.parse_format
-/
import Crosswalk.Proofs.Decimal.Rendering
import Mathlib.Data.List.TakeWhile
import Mathlib.Data.Rat.Cast.Order
import Mathlib.Tactic.Ring
import Mathlib.Tactic.IntervalCases
import Mathlib.Tactic.FieldSimp

namespace Crosswalk

/-! ### Sizes of numbers -/

theorem digitCount_mul_tenPow {n : Nat} (positive : n ≠ 0) (k : Nat) :
    digitCount (n * tenPow k) = digitCount n + k := by
  induction k with
  | zero => simp [tenPow]
  | succ k ih =>
      have scaled : 0 < n * tenPow k := Nat.mul_pos (by omega) (tenPow_pos k)
      have tenth : n * tenPow (k + 1) = n * tenPow k * 10 := by rw [tenPow_succ, Nat.mul_assoc]
      rw [tenth, digitCount_succ (by omega), Nat.mul_div_cancel _ (by decide), ih]
      omega

/-- The decade of a whole number is the exponent of its leading digit. -/
theorem decade_one {n : Nat} (positive : n ≠ 0) : decade n 1 = digitCount n - 1 := by
  have one : digitCount 1 = 1 := digitCount_of_lt_ten (by decide)
  have digits := digitCount_pos n
  have guess : (digitCount n : Int) - (1 : Nat) = (digitCount n - 1 : Nat) := by omega
  have reached : scaleDown n 1 (digitCount n - 1 : Nat) = (n, tenPow (digitCount n - 1)) := by
    simp [scaleDown]
  simp only [decade, one, guess, reached, tenPow_le_of_ne_zero positive, if_true]
  omega

/-- A quotient is rounded alike however it is written. -/
theorem halfEven_mul_right (n d : Nat) {m : Nat} (positive : 0 < m) :
    halfEven (n * m) (d * m) = halfEven n d := by
  simp only [halfEven, Nat.mul_div_mul_right _ _ positive, Nat.mul_mod_mul_right, ← Nat.mul_assoc,
    Nat.mul_lt_mul_right positive]

/-- Zeros behind a number that is rounded to an integer do not count if they are divided away. -/
theorem halfEven_scaleDown_mul (n k : Nat) (shift : Int) :
    halfEven (scaleDown (n * tenPow k) 1 (shift + k)).1 (scaleDown (n * tenPow k) 1 (shift + k)).2 =
      halfEven (scaleDown n 1 shift).1 (scaleDown n 1 shift).2 := by
  rcases Int.le_total 0 shift with down | up
  · obtain ⟨j, rfl⟩ := Int.eq_ofNat_of_zero_le down
    have total : ((j : Int) + k).toNat = j + k := by omega
    rw [scaleDown, if_pos (by omega), scaleDown, if_pos down, total, Int.toNat_natCast, tenPow_add]
    simp only [Nat.one_mul, halfEven_mul_right n (tenPow j) (tenPow_pos k)]
  · obtain ⟨j, isNegative⟩ := Int.eq_ofNat_of_zero_le (a := -shift) (by omega)
    have multiplied : halfEven (scaleDown n 1 shift).1 (scaleDown n 1 shift).2 = n * tenPow j := by
      unfold scaleDown
      split
      next none =>
          obtain ⟨rfl, rfl⟩ : shift = 0 ∧ j = 0 := by omega
          simp [tenPow, halfEven_one]
      next => simp only [isNegative, Int.toNat_natCast, halfEven_one]
    rw [multiplied]
    unfold scaleDown
    split
    next =>
        obtain ⟨more, rfl⟩ : ∃ more, k = j + more := Nat.exists_eq_add_of_le (by omega)
        have rest : (shift + (j + more : Nat)).toNat = more := by omega
        have product := halfEven_mul_right (n * tenPow j) 1 (tenPow_pos more)
        rw [halfEven_one, Nat.one_mul] at product
        simpa only [rest, Nat.one_mul, tenPow_add, ← Nat.mul_assoc] using product
    next =>
        obtain ⟨more, rfl⟩ : ∃ more, j = k + more := Nat.exists_eq_add_of_le (by omega)
        have rest : (-(shift + k)).toNat = more := by omega
        simp only [rest, halfEven_one, tenPow_add, ← Nat.mul_assoc]

namespace Decimal

/-! ### Numbers and their parts -/

theorem stripZeros_value (coefficient exponent : Int) :
    ((stripZeros coefficient exponent).1 : ℚ) * 10 ^ (stripZeros coefficient exponent).2 =
      coefficient * 10 ^ exponent := by
  fun_induction stripZeros coefficient exponent with
  | case1 => simp
  | case2 coefficient exponent _ lastDigit ih =>
      have whole : coefficient = coefficient / 10 * 10 := by omega
      have parts : (coefficient : ℚ) = (coefficient / 10 : Int) * 10 := by exact_mod_cast whole
      rw [ih, parts, zpow_add_one₀ (by norm_num)]
      ring
  | case3 => rfl

/-- Of two canonical ways to write a number neither has the smaller exponent. -/
private theorem IsCanonical.exponent_le {a ea b eb : Int} (canonical : IsCanonical a ea)
    (same : (a : ℚ) * 10 ^ ea = b * 10 ^ eb) : eb ≤ ea ∨ (a = 0 ∧ ea = 0) := by
  rcases canonical with lastDigit | zero
  · left
    by_contra less
    obtain ⟨k, rfl⟩ : ∃ k : Nat, eb = ea + (k + 1 : Nat) := ⟨(eb - ea - 1).toNat, by omega⟩
    have power : (10 : ℚ) ^ ea ≠ 0 := zpow_ne_zero ea (by norm_num)
    rw [zpow_add₀ (by norm_num), mul_left_comm, mul_comm (a : ℚ), zpow_natCast] at same
    have multiple : (a : ℚ) = (b * 10 ^ (k + 1) : Int) := by
      push_cast
      exact mul_left_cancel₀ power same
    have product : a = b * 10 ^ k * 10 := by
      rw [mul_assoc, ← pow_succ]
      exact_mod_cast multiple
    omega
  · exact .inr zero

/-- A number has one canonical form. -/
theorem IsCanonical.unique {a ea b eb : Int} (left : IsCanonical a ea) (right : IsCanonical b eb)
    (same : (a : ℚ) * 10 ^ ea = b * 10 ^ eb) : a = b ∧ ea = eb := by
  have power (e : Int) : (10 : ℚ) ^ e ≠ 0 := zpow_ne_zero e (by norm_num)
  rcases left.exponent_le same with above | ⟨rfl, rfl⟩
  · rcases right.exponent_le same.symm with below | ⟨rfl, rfl⟩
    · obtain rfl : ea = eb := le_antisymm below above
      exact ⟨by exact_mod_cast mul_right_cancel₀ (power ea) same, rfl⟩
    · have zero : a = 0 := by simpa [power] using same
      exact ⟨zero, (left.resolve_left (by simp [zero])).2⟩
  · have zero : b = 0 := by simpa [power, eq_comm] using same
    exact ⟨zero.symm, (right.resolve_left (by simp [zero])).2.symm⟩

/-- Parts make the same decimal exactly if they denote the same number. -/
theorem ofParts_eq_iff {a ea b eb : Int} :
    ofParts a ea = ofParts b eb ↔ (a : ℚ) * 10 ^ ea = b * 10 ^ eb := by
  rw [← stripZeros_value a ea, ← stripZeros_value b eb]
  constructor
  · intro same
    obtain ⟨coefficients, exponents⟩ := Decimal.finite.inj same
    rw [coefficients, exponents]
  · intro same
    have parts := (stripZeros_canonical a ea).unique (stripZeros_canonical b eb) same
    simp only [ofParts, parts.1, parts.2]

/-- Canonical parts make the decimal that has them. -/
theorem ofParts_canonical {coefficient exponent : Int} (canonical : IsCanonical coefficient exponent) :
    ofParts coefficient exponent = .finite coefficient exponent canonical := by
  have parts := (stripZeros_canonical coefficient exponent).unique canonical
    (stripZeros_value coefficient exponent)
  simp only [ofParts, parts.1, parts.2]

/-- Zeros behind a coefficient are taken off its exponent. -/
theorem ofParts_mul_tenPow (coefficient exponent : Int) (k : Nat) :
    ofParts (coefficient * tenPow k) (exponent - k) = ofParts coefficient exponent := by
  have power : ((tenPow k : Nat) : ℚ) = 10 ^ k := by exact_mod_cast (rfl : tenPow k = 10 ^ k)
  have nonzero : (10 : ℚ) ^ k ≠ 0 := pow_ne_zero k (by norm_num)
  rw [ofParts_eq_iff, zpow_sub₀ (by norm_num), zpow_natCast, Int.cast_mul, Int.cast_natCast, power]
  field_simp

/-! ### Precise numbers -/

/-- The parts have no more digits than the precision, and lie between the limits of the exponent. -/
structure PreciseParts (coefficient exponent : Int) : Prop where
  digits : digitCount coefficient.natAbs ≤ precision
  least : leastExponent ≤ exponent
  greatest : leading coefficient exponent ≤ greatestExponent

/-- A finite number of no more digits than the precision, between the limits of the exponent. -/
def Precise : Decimal → Prop
  | .finite coefficient exponent _ => PreciseParts coefficient exponent
  | .infinity _ => False

/-- Rounding depends on the number only, and not on the zeros behind its coefficient. -/
theorem round_mul_tenPow (negative : Bool) (n : Nat) (exponent : Int) (k : Nat) :
    round negative (n * tenPow k) 1 (exponent - k) = round negative n 1 exponent := by
  by_cases isZero : n = 0
  · simp [round, isZero]
  · have scaled : n * tenPow k ≠ 0 := Nat.mul_ne_zero isZero (tenPow_pos k).ne'
    have top : exponent - k + decade (n * tenPow k) 1 = exponent + decade n 1 := by
      rw [decade_one scaled, decade_one isZero, digitCount_mul_tenPow isZero]
      push_cast
      omega
    have shift (last : Int) : last - (exponent - k) = last - exponent + k := by omega
    unfold round
    simp only [if_neg scaled, if_neg isZero, top, shift, halfEven_scaleDown_mul]

/-- A number whose last digit is the last one that is kept is not changed by rounding. -/
theorem round_of_lastKept {negative : Bool} {n : Nat} {exponent : Int} (positive : n ≠ 0)
    (last : lastKept (leading n exponent) = exponent) (least : leastExponent ≤ leading n exponent)
    (greatest : leading n exponent ≤ greatestExponent) :
    round negative n 1 exponent = .ok (ofParts (signed negative n) exponent) := by
  have top : exponent + decade n 1 = leading n exponent := by
    rw [decade_one positive, leading, Int.natAbs_natCast]
    omega
  have kept : halfEven (scaleDown n 1 0).1 (scaleDown n 1 0).2 = n := halfEven_one n
  unfold round
  rw [if_neg positive]
  simp only [top, last, sub_self, kept]
  rw [if_neg (by omega), if_neg (by omega), if_neg (by omega)]

theorem signed_natAbs (n : Int) : signed (n < 0) n.natAbs = n := by
  by_cases negative : n < 0
  · rw [signed, if_pos (decide_eq_true negative)]
    omega
  · rw [signed, if_neg (by simpa using negative)]
    omega

theorem signed_mul (negative : Bool) (n m : Nat) : signed negative (n * m) = signed negative n * m := by
  cases negative <;> simp [signed]

theorem roundParts_of_precise {coefficient exponent : Int}
    (precise : PreciseParts coefficient exponent) :
    roundParts coefficient exponent = .ok (ofParts coefficient exponent) := by
  unfold roundParts
  by_cases isZero : coefficient = 0
  · subst isZero
    simp [round, ofParts, stripZeros, zero]
  · have positive : coefficient.natAbs ≠ 0 := Int.natAbs_ne_zero.mpr isZero
    obtain ⟨digits, least, greatest⟩ := precise
    have fifty : precision = 50 := rfl
    have some := digitCount_pos coefficient.natAbs
    -- the last digit that rounding keeps does not lie above that of the number
    obtain ⟨zeros, last⟩ : ∃ zeros : Nat, lastKept (leading coefficient exponent) = exponent - zeros := by
      refine ⟨(exponent - lastKept (leading coefficient exponent)).toNat, ?_⟩
      simp only [lastKept, leading]
      omega
    have same : leading (coefficient.natAbs * tenPow zeros : Nat) (exponent - zeros) =
        leading coefficient exponent := by
      rw [leading, leading, Int.natAbs_natCast, digitCount_mul_tenPow positive]
      push_cast
      omega
    rw [← round_mul_tenPow _ _ _ zeros, round_of_lastKept (Nat.mul_ne_zero positive (tenPow_pos zeros).ne')
      (same.symm ▸ last) (by rw [same, leading]; omega) (same.symm ▸ greatest), signed_mul, signed_natAbs,
      ofParts_mul_tenPow]

/-! ### Reading digits -/

open Text Numeral

theorem digitValue?_digitChar {n : Nat} (small : n < 10) : digitValue? n.digitChar = some n := by
  interval_cases n <;> decide

/-- The digits of a number are digits of a numeral. -/
theorem digits_isDigit (n : Nat) : ∀ c ∈ digits n, isDigit c = true := by
  induction n using Nat.strong_induction_on with
  | _ n ih =>
      intro c member
      rw [digits, Nat.toDigits_eq_if (by decide)] at member
      split at member
      next small =>
          rw [List.mem_singleton.mp member, isDigit, digitValue?_digitChar small]
          rfl
      next large =>
          rcases List.mem_append.mp member with front | last
          · exact ih (n / 10) (by omega) c front
          · rw [List.mem_singleton.mp last, isDigit, digitValue?_digitChar (Nat.mod_lt n (by decide))]
            rfl

theorem zeros_isDigit (count : Nat) : ∀ c ∈ List.replicate count '0', isDigit c = true := by
  intro c member
  rw [List.eq_of_mem_replicate member]
  decide

/-- Whether a digit fills its block or not, ten times what the digits before it denote is added to it. -/
theorem addDigit_total (state : Nat × Nat × Nat) (c : Char) :
    (addDigit state c).1 * (addDigit state c).2.2 + (addDigit state c).2.1 =
      10 * (state.1 * state.2.2 + state.2.1) + (digitValue? c).getD 0 := by
  obtain ⟨high, block, scale⟩ := state
  unfold addDigit
  dsimp only
  split <;> ring

theorem foldl_addDigit_total (digits : List Char) (state : Nat × Nat × Nat) :
    (digits.foldl addDigit state).1 * (digits.foldl addDigit state).2.2 + (digits.foldl addDigit state).2.1 =
      digits.foldl (fun value c => 10 * value + (digitValue? c).getD 0) (state.1 * state.2.2 + state.2.1) := by
  induction digits generalizing state with
  | nil => rfl
  | cons c rest ih => rw [List.foldl_cons, List.foldl_cons, ih, addDigit_total]

/-- The blocks in which digits are taken do not show: each digit adds itself to ten times what is before. -/
theorem digitsValueFrom_eq_foldl (high : Nat) (digits : List Char) :
    digitsValueFrom high digits = digits.foldl (fun value c => 10 * value + (digitValue? c).getD 0) high := by
  have total := foldl_addDigit_total digits (high, 0, 1)
  rwa [Nat.mul_one, Nat.add_zero] at total

theorem digitsValueFrom_append (high : Nat) (front back : List Char) :
    digitsValueFrom high (front ++ back) = digitsValueFrom (digitsValueFrom high front) back := by
  rw [digitsValueFrom_eq_foldl, digitsValueFrom_eq_foldl, digitsValueFrom_eq_foldl, List.foldl_append]

@[simp]
theorem digitsValueFrom_nil (high : Nat) : digitsValueFrom high [] = high := by
  simp [digitsValueFrom]

@[simp]
theorem digitsValueFrom_cons (high : Nat) (c : Char) (rest : List Char) :
    digitsValueFrom high (c :: rest) = digitsValueFrom (10 * high + (digitValue? c).getD 0) rest := by
  rw [digitsValueFrom_eq_foldl, digitsValueFrom_eq_foldl, List.foldl_cons]

/-- The digits of a number denote it. -/
theorem digitsValueFrom_digits (n : Nat) : digitsValueFrom 0 (digits n) = n := by
  induction n using Nat.strong_induction_on with
  | _ n ih =>
      rw [digits, Nat.toDigits_eq_if (by decide)]
      split
      next small => simp [digitValue?_digitChar small]
      next large =>
          have front := ih (n / 10) (by omega)
          rw [digitsValueFrom_append]
          rw [digits] at front
          rw [front]
          rw [digitsValueFrom_cons, digitsValueFrom_nil, digitValue?_digitChar (Nat.mod_lt n (by decide)),
            Option.getD_some]
          omega

/-- Zeros behind a number multiply it. -/
theorem digitsValueFrom_zeros (high count : Nat) :
    digitsValueFrom high (List.replicate count '0') = high * tenPow count := by
  have zero : digitValue? '0' = some 0 := by decide
  induction count generalizing high with
  | zero => simp [tenPow]
  | succ count ih =>
      rw [List.replicate_succ, digitsValueFrom_cons, zero, Option.getD_some, Nat.add_zero, ih, tenPow_succ, Nat.mul_comm 10 high, Nat.mul_assoc, Nat.mul_comm 10]

/-- Zeros before a number do not count. -/
theorem digitsValue_padded (count n : Nat) :
    digitsValue (List.replicate count '0' ++ digits n) = n := by
  rw [digitsValue, digitsValueFrom_append, digitsValueFrom_zeros, Nat.zero_mul, digitsValueFrom_digits]

theorem digits_ne_nil (n : Nat) : digits n ≠ [] :=
  Nat.toDigits_ne_nil

/-- A text that starts with a digit has no sign. -/
theorem takeSign_of_isDigit {c : Char} (digit : isDigit c = true) (rest : List Char) :
    takeSign (c :: rest) = (false, c :: rest) := by
  unfold takeSign
  split
  next found =>
      obtain ⟨rfl, -⟩ := List.cons.inj found
      exact absurd digit (by decide)
  next found =>
      obtain ⟨rfl, -⟩ := List.cons.inj found
      exact absurd digit (by decide)
  next => rfl

/-- The sign of a written number is read as its sign. -/
theorem takeSign_signText (negative : Bool) {body : List Char}
    (digit : ∃ c rest, body = c :: rest ∧ isDigit c = true) :
    takeSign (signText negative ++ body) = (negative, body) := by
  obtain ⟨c, rest, rfl, isDigit⟩ := digit
  cases negative with
  | true => rfl
  | false => exact takeSign_of_isDigit isDigit rest

/-- A run of digits is read as a whole number. -/
theorem ofChars?_whole (negative : Bool) {whole : List Char} (nonempty : whole ≠ [])
    (digits : ∀ c ∈ whole, isDigit c = true) :
    ofChars? (signText negative ++ whole) = some ⟨negative, digitsValue whole, 0⟩ := by
  obtain ⟨c, rest, rfl⟩ := List.exists_cons_of_ne_nil nonempty
  have front := takeSign_signText negative ⟨c, rest, rfl, digits c List.mem_cons_self⟩
  have run : (c :: rest).takeWhile isDigit = c :: rest := List.takeWhile_eq_self_iff.mpr digits
  have nothing : (c :: rest).dropWhile isDigit = [] := List.dropWhile_eq_nil_iff.mpr digits
  simp only [ofChars?, front, run, nothing, takeFraction]
  simp [exponent?]

/-- Two runs of digits with a point between them are read as a fraction. -/
theorem ofChars?_fraction (negative : Bool) {whole fraction : List Char} (nonempty : whole ≠ [])
    (digits : ∀ c ∈ whole, isDigit c = true) (places : ∀ c ∈ fraction, isDigit c = true) :
    ofChars? (signText negative ++ (whole ++ '.' :: fraction)) =
      some ⟨negative, digitsValue (whole ++ fraction), -fraction.length⟩ := by
  obtain ⟨c, rest, rfl⟩ := List.exists_cons_of_ne_nil nonempty
  have front := takeSign_signText negative
    ⟨c, rest ++ '.' :: fraction, rfl, digits c List.mem_cons_self⟩
  have point : isDigit '.' = false := by decide
  have run : (c :: rest ++ '.' :: fraction).takeWhile isDigit = c :: rest := by
    rw [List.takeWhile_append_of_pos digits]
    simp [point]
  have behind : (c :: rest ++ '.' :: fraction).dropWhile isDigit = '.' :: fraction := by
    rw [List.dropWhile_append_of_pos digits]
    simp [point]
  have inner : fraction.takeWhile isDigit = fraction := List.takeWhile_eq_self_iff.mpr places
  have nothing : fraction.dropWhile isDigit = [] := List.dropWhile_eq_nil_iff.mpr places
  rw [List.cons_append] at run behind
  simp only [ofChars?, List.cons_append, front, run, behind, takeFraction, inner, nothing]
  simp [exponent?]

/-- A written number is read as its sign, its coefficient and its exponent; the zeros behind a whole number
    are part of its coefficient. -/
theorem ofChars?_positional (coefficient exponent : Int) :
    ofChars? (positional coefficient exponent) =
      some ⟨coefficient < 0, coefficient.natAbs * tenPow exponent.toNat, min exponent 0⟩ := by
  unfold positional
  dsimp only
  split
  next whole =>
      have run : ∀ c ∈ digits coefficient.natAbs ++ List.replicate exponent.toNat '0', isDigit c = true := by
        intro c member
        rcases List.mem_append.mp member with digit | zero
        · exact digits_isDigit _ c digit
        · exact zeros_isDigit _ c zero
      rw [ofChars?_whole _ (by simp [digits_ne_nil]) run, digitsValue, digitsValueFrom_append,
        digitsValueFrom_digits, digitsValueFrom_zeros, min_eq_right whole]
  next fractional =>
      generalize places : (-exponent).toNat = count
      generalize padding : List.replicate (count + 1 - (digits coefficient.natAbs).length) '0' = zeros
      have long : count < (zeros ++ digits coefficient.natAbs).length := by
        rw [← padding, List.length_append, List.length_replicate]
        omega
      have run : ∀ c ∈ zeros ++ digits coefficient.natAbs, isDigit c = true := by
        intro c member
        rcases List.mem_append.mp member with zero | digit
        · exact zeros_isDigit _ c (padding ▸ zero)
        · exact digits_isDigit _ c digit
      have front : (zeros ++ digits coefficient.natAbs).take
          ((zeros ++ digits coefficient.natAbs).length - count) ≠ [] := by
        rw [Ne, List.take_eq_nil_iff]
        rintro (none | empty)
        · omega
        · rw [empty] at long
          cases long
      rw [ofChars?_fraction _ front (fun c member => run c (List.mem_of_mem_take member))
        (fun c member => run c (List.mem_of_mem_drop member)), List.take_append_drop, ← padding,
        digitsValue_padded]
      have power : exponent.toNat = 0 := by omega
      rw [padding, List.length_drop, power, min_eq_left (by omega)]
      simp only [tenPow, Nat.pow_eq, Nat.pow_zero, Nat.mul_one, Option.some.injEq,
        Numeral.mk.injEq, true_and]
      omega

/-! ### Reading what was written -/

section Precise

variable {amount : Decimal} (precise : amount.Precise)
include precise

/-- A precise number is written with all its digits. -/
theorem format_of_precise : ∃ coefficient exponent canonical,
    amount = .finite coefficient exponent canonical ∧ PreciseParts coefficient exponent ∧
      amount.format = String.ofList (positional coefficient exponent) := by
  cases amount with
  | infinity => cases precise
  | finite coefficient exponent canonical =>
      refine ⟨coefficient, exponent, canonical, rfl, precise, ?_⟩
      rw [format]
      split
      next => rfl
      next fractional =>
          have nonzero : coefficient ≠ 0 := by
            rintro rfl
            have parts := canonical.resolve_left (by decide)
            omega
          rw [roundParts_of_precise precise, ofParts_canonical canonical]
          simp only [if_neg nonzero]

/-- A precise number has a text, if it is not too long. -/
theorem render_of_precise (short : amount.IsShort) : amount.render = .ok amount.format := by
  obtain ⟨coefficient, exponent, canonical, rfl, parts, -⟩ := format_of_precise precise
  rw [render, roundParts_of_precise parts]
  split
  next whole => exact if_pos (short whole)
  next => rfl

/-- The text of a precise number is read as the number. -/
theorem parse_format : parse amount.format = .ok amount := by
  obtain ⟨coefficient, exponent, canonical, rfl, parts, text⟩ := format_of_precise precise
  rw [text, parse, String.toList_ofList, ofChars?_positional]
  have shift : min exponent 0 = exponent - exponent.toNat := by omega
  have rounded : round (coefficient < 0) coefficient.natAbs 1 exponent = .ok (ofParts coefficient exponent) :=
    roundParts_of_precise parts
  simp only [shift, round_mul_tenPow, rounded, Except.mapError, ofParts_canonical canonical]

end Precise

end Decimal

end Crosswalk
