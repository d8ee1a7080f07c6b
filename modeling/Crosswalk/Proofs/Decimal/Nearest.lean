/-
Module: Crosswalk.Proofs.Decimal.Nearest
Purpose: What rounding gives, in terms of rational numbers. A number is rounded to fifty significant digits, but
  to no digit below the least exponent: to the nearest multiple of the place of its last digit, and of two
  nearest multiples to the even one. There is one such number for each rational number, and rounding finds it,
  or overflows if its leading digit lies above the greatest exponent.
Main exports: leadingExponent, Decimal.lastPlace, Decimal.RoundsTo, Decimal.RoundsTo.unique,
  Decimal.WithinLimits, Decimal.Denotes, Decimal.Computes, Decimal.round_computes
-/
import Crosswalk.Proofs.Decimal.Order
import Crosswalk.Proofs.Decimal.Range
import Mathlib.Algebra.Order.Archimedean.Basic
import Mathlib.Data.Int.Log
import Mathlib.Data.Rat.Floor

namespace Crosswalk

/-! ### Leading digits -/

/-- The exponent of the leading digit of a rational number. -/
def leadingExponent (q : ℚ) : ℤ :=
  Int.log 10 |q|

theorem leadingExponent_neg (q : ℚ) : leadingExponent (-q) = leadingExponent q := by
  rw [leadingExponent, abs_neg, leadingExponent]

theorem le_leadingExponent_iff {q : ℚ} (nonzero : q ≠ 0) {k : ℤ} :
    k ≤ leadingExponent q ↔ (10 : ℚ) ^ k ≤ |q| :=
  (Int.zpow_le_iff_le_log (by decide) (abs_pos.mpr nonzero)).symm

theorem leadingExponent_lt_iff {q : ℚ} (nonzero : q ≠ 0) {k : ℤ} :
    leadingExponent q < k ↔ |q| < (10 : ℚ) ^ k :=
  (Int.lt_zpow_iff_log_lt (by decide) (abs_pos.mpr nonzero)).symm

/-- The leading digit of a number is the one whose decade the number lies in. -/
theorem leadingExponent_eq {q : ℚ} {k : ℤ} (low : (10 : ℚ) ^ k ≤ |q|)
    (high : |q| < (10 : ℚ) ^ (k + 1)) : leadingExponent q = k := by
  have nonzero : q ≠ 0 := abs_pos.mp ((zpow_ten_pos k).trans_le low)
  have atLeast := (le_leadingExponent_iff nonzero).mpr low
  have below := (leadingExponent_lt_iff nonzero).mpr high
  omega

/-- A power of ten is a multiple of a smaller one. -/
theorem zpow_ten_multiple {least k : ℤ} (le : least ≤ k) :
    (10 : ℚ) ^ k = (tenPow (k - least).toNat : ℤ) * 10 ^ least := by
  rw [Int.cast_natCast, cast_tenPow, ← zpow_natCast, ← zpow_add₀ (by norm_num)]
  congr 1
  omega

namespace Decimal

/-! ### Nearest multiples -/

/-- The multiple of a place that is nearest to a number, given by how many times it takes the place. If
    another multiple is as near, it is even. -/
structure IsNearest (exact place : ℚ) (n : ℤ) : Prop where
  near : |exact - n * place| ≤ place / 2
  even (tie : |exact - n * place| = place / 2) : Even n

section Nearest

variable {exact place : ℚ} {n m : ℤ}

theorem IsNearest.neg (nearest : IsNearest exact place n) : IsNearest (-exact) place (-n) := by
  have distance : |-exact - (-n : ℤ) * place| = |exact - n * place| := by
    rw [← abs_neg]
    push_cast
    ring_nf
  constructor
  · rw [distance]
    exact nearest.near
  · intro tie
    rw [distance] at tie
    exact (nearest.even tie).neg

/-- Multiples below a number stay below the nearest one. -/
theorem IsNearest.le (positive : 0 < place) (nearest : IsNearest exact place n) (below : m * place ≤ exact) :
    m ≤ n := by
  have high := (abs_le.mp nearest.near).2
  have close : (m - n : ℚ) * place ≤ 1 / 2 * place := by linarith
  have less : (m : ℚ) < n + 1 := by linarith [le_of_mul_le_mul_right close positive]
  exact Int.lt_add_one_iff.mp (by exact_mod_cast less)

/-- Powers of ten below a number stay below the nearest multiple of a smaller one. -/
theorem IsNearest.zpow_le {least k : ℤ} (nearest : IsNearest exact (10 ^ least) n) (le : least ≤ k)
    (below : 10 ^ k ≤ exact) : (10 : ℚ) ^ k ≤ n * 10 ^ least := by
  rw [zpow_ten_multiple le] at below ⊢
  have kept := nearest.le (zpow_ten_pos least) below
  exact mul_le_mul_of_nonneg_right (by exact_mod_cast kept) (zpow_ten_pos least).le

/-- Of two nearest multiples only one is even. -/
theorem IsNearest.unique (positive : 0 < place) (nearest : IsNearest exact place n)
    (other : IsNearest exact place m) : n = m := by
  wlog less : n < m generalizing n m
  · rcases lt_trichotomy n m with below | same | above
    · exact absurd below less
    · exact same
    · exact (this other nearest above).symm
  obtain ⟨-, high⟩ := abs_le.mp nearest.near
  obtain ⟨low, -⟩ := abs_le.mp other.near
  -- they are neighbours, and the number lies halfway between them
  have apart : (n : ℚ) + 1 ≤ m := by exact_mod_cast less
  have wide := mul_le_mul_of_nonneg_right apart positive.le
  have close : (m - n : ℚ) * place ≤ 1 * place := by linarith
  have next : (m : ℚ) = n + 1 := le_antisymm (by linarith [le_of_mul_le_mul_right close positive]) apart
  have middle : exact = n * place + place / 2 := by
    rw [next] at low
    linarith
  have half : 0 ≤ place / 2 := (half_pos positive).le
  have even := nearest.even (by rw [middle, add_sub_cancel_left, abs_of_nonneg half])
  have evenOther := other.even (by
    have distance : n * place + place / 2 - m * place = -(place / 2) := by
      rw [next]
      ring
    rw [middle, distance, abs_neg, abs_of_nonneg half])
  have successor : m = n + 1 := by exact_mod_cast next
  rw [successor, Int.even_add_one] at evenOther
  exact absurd even evenOther

end Nearest

/-- Half of an odd number is rounded to an even number. -/
theorem even_halfEven {n d : Nat} (tie : 2 * (n % d) = d) : Even (halfEven n d) := by
  simp only [halfEven, tie, lt_irrefl, if_false]
  split
  next even => exact Nat.even_iff.mpr even
  next odd => exact Nat.even_iff.mpr (by omega)

/-- A quotient that lies halfway between two integers is rounded to the even one. -/
theorem even_of_halfway (n : Nat) {d : Nat} (positive : 0 < d)
    (tie : |(n / d : ℚ) - halfEven n d| = 1 / 2) : Even (halfEven n d) := by
  have whole : (d : ℚ) ≠ 0 := by exact_mod_cast positive.ne'
  have halves : 2 * n = 2 * (halfEven n d * d) + d ∨ 2 * n + d = 2 * (halfEven n d * d) := by
    rcases eq_or_eq_neg_of_abs_eq tie with above | below
    · left
      have quotient := eq_add_of_sub_eq above
      rw [div_eq_iff whole] at quotient
      have double : (2 * n : ℚ) = 2 * (halfEven n d * d) + d := by linarith
      exact_mod_cast double
    · right
      have quotient := eq_add_of_sub_eq below
      rw [div_eq_iff whole] at quotient
      have double : (2 * n + d : ℚ) = 2 * (halfEven n d * d) := by linarith
      exact_mod_cast double
  have parts := Nat.div_add_mod' n d
  have rest := Nat.mod_lt n positive
  have least := le_halfEven n d
  have greatest := halfEven_le n d
  obtain same | next : halfEven n d = n / d ∨ halfEven n d = n / d + 1 := by omega
  · rw [same] at halves
    exact even_halfEven (by omega)
  · rw [next, Nat.add_mul] at halves
    exact even_halfEven (by omega)

/-- Rounding a quotient to an integer finds the nearest one. -/
theorem isNearest_halfEven (n : Nat) {d : Nat} (positive : 0 < d) {place : ℚ} (positivePlace : 0 < place) :
    IsNearest (n / d * place) place (halfEven n d) := by
  obtain ⟨low, high⟩ := halfEven_near n positive
  have scaled : |(n / d * place : ℚ) - (halfEven n d : ℤ) * place| =
      |(n / d : ℚ) - halfEven n d| * place := by
    rw [Int.cast_natCast, ← sub_mul, abs_mul, abs_of_pos positivePlace]
  have half : place / 2 = 1 / 2 * place := by ring
  constructor
  · rw [scaled, half]
    exact mul_le_mul_of_nonneg_right (abs_le.mpr ⟨by linarith, by linarith⟩) positivePlace.le
  · intro tie
    rw [scaled, half] at tie
    rw [Int.even_coe_nat]
    exact even_of_halfway n positive (mul_right_cancel₀ positivePlace.ne' tie)

/-! ### Rounded numbers -/

/-- The place of the last digit that is kept of a number: that of its fiftieth digit, or that of the least
    exponent. -/
def lastPlace (exact : ℚ) : ℚ :=
  10 ^ max (leadingExponent exact - 49) (-1000048)

theorem lastPlace_pos (exact : ℚ) : 0 < lastPlace exact :=
  zpow_ten_pos _

/-- A number, rounded: to fifty digits, half to even, but to no digit below the least exponent. -/
def RoundsTo (exact rounded : ℚ) : Prop :=
  ∃ n : ℤ, rounded = n * lastPlace exact ∧ IsNearest exact (lastPlace exact) n

/-- A number is rounded to one number. -/
theorem RoundsTo.unique {exact rounded other : ℚ} (rounds : RoundsTo exact rounded)
    (rounds' : RoundsTo exact other) : rounded = other := by
  obtain ⟨n, rfl, nearest⟩ := rounds
  obtain ⟨m, rfl, nearest'⟩ := rounds'
  rw [nearest.unique (lastPlace_pos exact) nearest']

/-- The opposite number is rounded to the opposite. -/
theorem RoundsTo.neg {exact rounded : ℚ} (rounds : RoundsTo exact rounded) : RoundsTo (-exact) (-rounded) := by
  obtain ⟨n, rfl, nearest⟩ := rounds
  have place : lastPlace (-exact) = lastPlace exact := by rw [lastPlace, leadingExponent_neg, lastPlace]
  refine ⟨-n, by rw [place, Int.cast_neg, neg_mul], ?_⟩
  rw [place]
  exact nearest.neg

/-- The leading digit of a number does not lie above the greatest exponent. -/
def WithinLimits (rounded : ℚ) : Prop :=
  rounded = 0 ∨ leadingExponent rounded ≤ 999999

theorem withinLimits_zero : WithinLimits 0 :=
  .inl rfl

theorem withinLimits_neg {rounded : ℚ} : WithinLimits (-rounded) ↔ WithinLimits rounded := by
  rw [WithinLimits, WithinLimits, neg_eq_zero, leadingExponent_neg]

/-- Numbers within the limits are those below the power of ten that follows the greatest exponent. -/
theorem withinLimits_iff {rounded : ℚ} :
    WithinLimits rounded ↔ |rounded| < 10 ^ (greatestExponent + 1) := by
  by_cases isZero : rounded = 0
  · subst isZero
    rw [abs_zero]
    exact iff_of_true withinLimits_zero (zpow_ten_pos _)
  · rw [WithinLimits, or_iff_right isZero, ← leadingExponent_lt_iff isZero]
    exact Int.lt_add_one_iff.symm

/-! ### What decimals denote -/

/-- A finite decimal denotes a rational number. -/
def Denotes (amount : Decimal) (q : ℚ) : Prop :=
  amount.place = (q : WithTop ℚ)

theorem denotes_finite {coefficient exponent : Int} {canonical : IsCanonical coefficient exponent} {q : ℚ} :
    (finite coefficient exponent canonical).Denotes q ↔ (coefficient * 10 ^ exponent : ℚ) = q :=
  place_finite_inj

theorem denotes_ofParts (coefficient exponent : Int) :
    (ofParts coefficient exponent).Denotes (coefficient * 10 ^ exponent) :=
  place_ofParts coefficient exponent

theorem denotes_ofInt (n : Int) : (ofInt n).Denotes n := by
  have denotes := denotes_ofParts n 0
  rwa [zpow_zero, mul_one] at denotes

theorem denotes_zero : zero.Denotes 0 :=
  denotes_finite.mpr (by simp)

/-- A decimal that denotes a number is finite. -/
theorem Denotes.exists_finite {amount : Decimal} {q : ℚ} (denotes : amount.Denotes q) :
    ∃ coefficient exponent canonical, amount = .finite coefficient exponent canonical ∧
      q = coefficient * 10 ^ exponent := by
  cases amount with
  | finite coefficient exponent canonical =>
      exact ⟨coefficient, exponent, canonical, rfl, (denotes_finite.mp denotes).symm⟩
  | infinity negative =>
      cases negative with
      | false => exact absurd (WithBot.coe_injective denotes) WithTop.top_ne_coe
      | true => exact absurd denotes WithBot.bot_ne_coe

theorem Denotes.unique {amount : Decimal} {q r : ℚ} (denotes : amount.Denotes q) (denotes' : amount.Denotes r) :
    q = r :=
  place_finite_inj.mp (denotes.symm.trans denotes')

/-- A number is denoted by one decimal. -/
theorem Denotes.injective {amount other : Decimal} {q : ℚ} (denotes : amount.Denotes q)
    (denotes' : other.Denotes q) : amount = other :=
  place_injective (denotes.trans denotes'.symm)

/-! ### Rounding -/

/-- A computation gives an exact number, rounded, or overflows if that is beyond the limits. -/
def Computes (exact : ℚ) (computed : Except Signal Decimal) : Prop :=
  ∃ rounded, RoundsTo exact rounded ∧
    ((WithinLimits rounded ∧ ∃ amount, computed = .ok amount ∧ amount.Denotes rounded) ∨
      (¬ WithinLimits rounded ∧ computed = .error .overflow))

section Quotients

variable {num den : Nat} (positive : 0 < den) (exponent : Int)
include positive

/-- Brought to a last digit, a quotient is rounded to the nearest integer. -/
theorem isNearest_scaleDown (last : Int) :
    IsNearest (num / den * 10 ^ exponent) (10 ^ last)
      (halfEven (scaleDown num den (last - exponent)).1 (scaleDown num den (last - exponent)).2) := by
  have value := scaleDown_value num positive (last - exponent)
  have divisor := scaleDown_pos num positive (last - exponent)
  have same : (num / den * 10 ^ exponent : ℚ) =
      (scaleDown num den (last - exponent)).1 / (scaleDown num den (last - exponent)).2 * 10 ^ last := by
    rw [value, zpow_sub₀ (by norm_num)]
    field_simp
  rw [same]
  exact isNearest_halfEven _ divisor (zpow_ten_pos last)

variable (nonzero : num ≠ 0)
include nonzero

/-- The leading digit of a quotient is that of its decade. -/
theorem quotient_bounds :
    (10 : ℚ) ^ (exponent + decade num den) ≤ num / den * 10 ^ exponent ∧
      (num / den * 10 ^ exponent : ℚ) < 10 ^ (exponent + decade num den + 1) := by
  obtain ⟨low, high⟩ := decade_bounds nonzero positive
  have power := zpow_ten_pos exponent
  constructor
  · rw [Int.add_comm, zpow_add₀ (by norm_num)]
    exact mul_le_mul_of_nonneg_right low power.le
  · rw [Int.add_assoc, Int.add_comm, zpow_add₀ (by norm_num)]
    exact mul_lt_mul_of_pos_right high power

/-- The last digit that is kept of a quotient. -/
theorem lastPlace_quotient :
    lastPlace (num / den * 10 ^ exponent) = 10 ^ lastKept (exponent + decade num den) := by
  obtain ⟨low, high⟩ := quotient_bounds positive exponent nonzero
  have size : |(num / den * 10 ^ exponent : ℚ)| = num / den * 10 ^ exponent :=
    abs_of_pos ((zpow_ten_pos _).trans_le low)
  rw [← size] at low high
  rw [lastPlace, leadingExponent_eq low high]
  rfl

end Quotients

/-- A coefficient at a last digit that is within the limits makes a number within the limits exactly if its
    leading digit is. -/
theorem leading_le_iff {n : Nat} {last : Int} (within : last ≤ greatestExponent) :
    leading n last ≤ greatestExponent ↔ (n * 10 ^ last : ℚ) < 10 ^ (greatestExponent + 1) := by
  by_cases isZero : n = 0
  · have single : leading (0 : Nat) last = last := by
      rw [leading, Int.natAbs_natCast, digitCount_of_lt_ten (by decide)]
      omega
    subst isZero
    rw [single, Nat.cast_zero, zero_mul]
    exact iff_of_true within (zpow_ten_pos _)
  · obtain ⟨low, high⟩ := leading_bounds isZero last
    constructor
    · intro below
      exact high.trans_le (zpow_le_zpow_right₀ (by norm_num) (by omega))
    · intro less
      have exponents := (zpow_lt_zpow_iff_right₀ (by norm_num)).mp (low.trans_lt less)
      omega

theorem cast_signed (negative : Bool) (n : Nat) :
    (signed negative n : ℚ) = if negative then -(n : ℚ) else n := by
  cases negative <;> simp [signed]

theorem abs_signed_mul (negative : Bool) (n : Nat) (e : Int) :
    |(signed negative n * 10 ^ e : ℚ)| = n * 10 ^ e := by
  have size : |(signed negative n : ℚ)| = n := by
    rw [cast_signed]
    split
    · rw [abs_neg, Nat.abs_cast]
    · exact Nat.abs_cast n
  rw [abs_mul, size, abs_of_pos (zpow_ten_pos e)]

/-- A sign is kept by rounding. -/
theorem RoundsTo.signed {num den n : Nat} {exponent last : Int}
    (rounds : RoundsTo (num / den * 10 ^ exponent) (n * 10 ^ last)) (negative : Bool) :
    RoundsTo (signed negative num / den * 10 ^ exponent) (signed negative n * 10 ^ last) := by
  cases negative with
  | false => simpa only [cast_signed, Bool.false_eq_true, if_false] using rounds
  | true => simpa only [cast_signed, if_true, neg_div, neg_mul] using rounds.neg

/-- A number whose leading digit lies two places below the least exponent is nearer to zero than to any other
    number. -/
theorem roundsTo_zero {num den : Nat} (positive : 0 < den) {exponent : Int} (nonzero : num ≠ 0)
    (tiny : exponent + decade num den < leastExponent - 1) (negative : Bool) :
    RoundsTo (signed negative num / den * 10 ^ exponent) 0 := by
  obtain ⟨low, high⟩ := quotient_bounds positive exponent nonzero
  have least : lastKept (exponent + decade num den) = leastExponent := by
    rw [lastKept]
    omega
  have place := zpow_ten_pos leastExponent
  have tenth : (10 : ℚ) ^ (leastExponent - 1) = 10 ^ leastExponent / 10 := by
    rw [zpow_sub_one₀ (by norm_num), div_eq_mul_inv]
  have below : (num / den * 10 ^ exponent : ℚ) < 10 ^ leastExponent / 10 := by
    rw [← tenth]
    exact high.trans_le (zpow_le_zpow_right₀ (by norm_num) (by omega))
  have size : |(num / den * 10 ^ exponent : ℚ)| = num / den * 10 ^ exponent :=
    abs_of_pos ((zpow_ten_pos _).trans_le low)
  have unsigned : RoundsTo (num / den * 10 ^ exponent) ((0 : Nat) * 10 ^ (0 : Int)) := by
    refine ⟨0, by simp, ?_⟩
    rw [lastPlace_quotient positive exponent nonzero, least]
    constructor
    · rw [Int.cast_zero, zero_mul, sub_zero, size]
      linarith
    · exact fun _ => Even.zero
  simpa [cast_signed] using unsigned.signed negative

/-- Rounding a quotient gives it rounded, or overflows if that is beyond the limits. -/
theorem round_computes (negative : Bool) (num : Nat) {den : Nat} (positive : 0 < den) (exponent : Int) :
    Computes (signed negative num / den * 10 ^ exponent) (round negative num den exponent) := by
  by_cases isZero : num = 0
  · subst isZero
    have nothing : (signed negative 0 / den * 10 ^ exponent : ℚ) = 0 := by simp [cast_signed]
    rw [nothing]
    have rounds : RoundsTo 0 0 :=
      ⟨0, by simp, by simpa using (half_pos (lastPlace_pos 0)).le, fun _ => Even.zero⟩
    exact ⟨0, rounds, .inl ⟨withinLimits_zero, zero, by simp [round], denotes_zero⟩⟩
  · obtain ⟨low, high⟩ := quotient_bounds positive exponent isZero
    have place := lastPlace_quotient positive exponent isZero
    have nearest := @isNearest_scaleDown num den positive exponent (lastKept (exponent + decade num den))
    unfold round
    rw [if_neg isZero]
    dsimp only
    generalize isTop : exponent + decade num den = top at low high place nearest ⊢
    generalize halfEven _ _ = n at nearest ⊢
    have last : lastKept top = max (top - 49) (-1000048) := rfl
    have least : leastExponent = -1000048 := rfl
    have greatest : greatestExponent = 999999 := rfl
    have rounds : RoundsTo (num / den * 10 ^ exponent) (n * 10 ^ lastKept top) :=
      ⟨n, by rw [place, Int.cast_natCast], by rwa [place]⟩
    split
    next above =>
        refine ⟨_, rounds.signed negative, .inr ⟨?_, rfl⟩⟩
        have power : (10 : ℚ) ^ (greatestExponent + 1) ≤ 10 ^ top :=
          zpow_le_zpow_right₀ (by norm_num) above
        rw [withinLimits_iff, abs_signed_mul, not_lt]
        exact power.trans (nearest.zpow_le (by omega) low)
    next =>
        split
        next tiny =>
            subst isTop
            have rounds := roundsTo_zero positive isZero tiny negative
            exact ⟨0, rounds, .inl ⟨withinLimits_zero, zero, rfl, denotes_zero⟩⟩
        next =>
            have kept : lastKept top ≤ greatestExponent := by omega
            have size := leading_le_iff (n := n) kept
            rw [← abs_signed_mul negative, ← withinLimits_iff] at size
            split
            next beyond =>
                refine ⟨_, rounds.signed negative, .inr ⟨fun within => ?_, rfl⟩⟩
                exact absurd (size.mpr within) (not_le.mpr beyond)
            next within =>
                refine ⟨_, rounds.signed negative, .inl ⟨?_, _, rfl, denotes_ofParts _ _⟩⟩
                exact size.mp (not_lt.mp within)

/-- Rounding a number given by its parts. -/
theorem roundParts_computes (coefficient exponent : Int) :
    Computes (coefficient * 10 ^ exponent) (roundParts coefficient exponent) := by
  have rounds := round_computes (coefficient < 0) coefficient.natAbs one_pos exponent
  rwa [signed_natAbs, Nat.cast_one, div_one] at rounds

end Decimal

end Crosswalk
