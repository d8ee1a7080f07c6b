/-
Module: Crosswalk.Proofs.Decimal.Rendering
Purpose: Which numbers have a text. Whole numbers have one if they are short enough. Rounding carries the
  leading digit of another number up by at most one place, so a number of few digits is far from the greatest
  exponent and is written. In particular every double has a text, however small or large it is.
Main exports: digitCount_le_of_lt, Decimal.IsShort, Decimal.render_eq_tooLong_iff, Decimal.exists_round,
  Decimal.render_of_digits, Decimal.render_of_toDecimal?
-/
import Crosswalk.Decimal.Numeral
import Crosswalk.Binary64.Shortest
import Crosswalk.Proofs.Binary64.Whole
import Mathlib.Algebra.Order.Group.Int

namespace Crosswalk

/-! ### Numbers of digits -/

theorem tenPow_succ (k : Nat) : tenPow (k + 1) = tenPow k * 10 :=
  rfl

/-- The count that is found by halving is that of the least power of ten above the number. -/
theorem digitCountBelow_bounds {k n : Nat} (below : n < tenPow (twoPow k)) :
    0 < digitCountBelow k n ∧ n < tenPow (digitCountBelow k n) ∧
      (n ≠ 0 → tenPow (digitCountBelow k n - 1) ≤ n) := by
  induction k generalizing n with
  | zero => exact ⟨Nat.one_pos, below, fun positive => Nat.one_le_iff_ne_zero.mpr positive⟩
  | succ k ih =>
      have double : twoPow (k + 1) = twoPow k + twoPow k := by
        simp only [twoPow, Nat.pow_eq, Nat.pow_succ]
        omega
      have half := tenPow_pos (twoPow k)
      rw [double, tenPow_add] at below
      rw [digitCountBelow]
      split
      next short => exact ih short
      next long =>
          have high := ih ((Nat.div_lt_iff_lt_mul half).mpr below)
          obtain ⟨some, above, least⟩ := high
          have nonzero : n / tenPow (twoPow k) ≠ 0 := (Nat.div_pos (Nat.le_of_not_lt long) half).ne'
          refine ⟨Nat.add_pos_left some _, ?_, fun _ => ?_⟩
          · rw [tenPow_add]
            exact (Nat.div_lt_iff_lt_mul half).mp above
          · have shift : digitCountBelow k (n / tenPow (twoPow k)) + twoPow k - 1 =
                digitCountBelow k (n / tenPow (twoPow k)) - 1 + twoPow k := by omega
            rw [shift, tenPow_add]
            exact (Nat.le_div_iff_mul_le half).mp (least nonzero)

theorem lt_tenPow_twoPow (n : Nat) : n < tenPow (twoPow (n.log2.log2 + 1)) :=
  calc n < twoPow (n.log2 + 1) := lt_twoPow_log2_succ n
    _ ≤ twoPow (twoPow (n.log2.log2 + 1)) := twoPow_le_twoPow (lt_twoPow_log2_succ n.log2)
    _ ≤ tenPow (twoPow (n.log2.log2 + 1)) := Nat.pow_le_pow_left (by decide) _

theorem digitCount_pos (n : Nat) : 0 < digitCount n := by
  rw [digitCount]
  exact (digitCountBelow_bounds (lt_tenPow_twoPow n)).1

theorem lt_tenPow_digitCount (n : Nat) : n < tenPow (digitCount n) := by
  rw [digitCount]
  exact (digitCountBelow_bounds (lt_tenPow_twoPow n)).2.1

theorem tenPow_le_of_ne_zero {n : Nat} (positive : n ≠ 0) : tenPow (digitCount n - 1) ≤ n := by
  rw [digitCount]
  exact (digitCountBelow_bounds (lt_tenPow_twoPow n)).2.2 positive

theorem digitCount_le_of_lt {n k : Nat} (bound : n < tenPow (k + 1)) : digitCount n ≤ k + 1 := by
  by_cases isZero : n = 0
  · have single : digitCount 0 = 1 := by decide +kernel
    rw [isZero, single]
    exact Nat.le_add_left 1 k
  · have less := lt_of_le_of_lt (tenPow_le_of_ne_zero isZero) bound
    have exponents := (Nat.pow_lt_pow_iff_right (by decide)).mp less
    omega

theorem digitCount_of_lt_ten {n : Nat} (small : n < 10) : digitCount n = 1 :=
  le_antisymm (digitCount_le_of_lt (k := 0) small) (digitCount_pos n)

/-- A number with a digit more has ten times the size. -/
theorem digitCount_succ {n : Nat} (large : ¬ n < 10) : digitCount n = digitCount (n / 10) + 1 := by
  have tenth := lt_tenPow_digitCount (n / 10)
  have least := tenPow_le_of_ne_zero (n := n / 10) (by omega)
  have some := digitCount_pos (n / 10)
  refine le_antisymm (digitCount_le_of_lt ?_) ?_
  · rw [tenPow_succ]
    omega
  · have above := lt_tenPow_digitCount n
    have less : tenPow (digitCount (n / 10) - 1 + 1) < tenPow (digitCount n) := by
      rw [tenPow_succ]
      omega
    have exponents := (Nat.pow_lt_pow_iff_right (by decide)).mp less
    omega

/-- A lesser number has no more digits. -/
theorem digitCount_mono {n m : Nat} (le : n ≤ m) : digitCount n ≤ digitCount m := by
  obtain ⟨k, count⟩ := Nat.exists_eq_succ_of_ne_zero (digitCount_pos m).ne'
  have bound := le.trans_lt (lt_tenPow_digitCount m)
  rw [count] at bound ⊢
  exact digitCount_le_of_lt bound

theorem decade_le (num den : Nat) : decade num den ≤ digitCount num - digitCount den := by
  simp only [decade]
  split <;> omega

theorem halfEven_one (n : Nat) : halfEven n 1 = n := by
  simp [halfEven, Nat.mod_one]

/-- Shifting the point of a number before it is rounded to an integer shifts its leading digit, which the
    rounding carries up by at most one place. A number that the shift leaves nothing of is rounded to a
    number of one digit. -/
theorem digitCount_halfEven_scaleDown (num : Nat) (shift : Int) :
    (digitCount (halfEven (scaleDown num 1 shift).1 (scaleDown num 1 shift).2) : Int) ≤
      max 1 (digitCount num - shift + 1) := by
  have size := lt_tenPow_digitCount num
  unfold scaleDown
  split
  next down =>
      obtain ⟨k, rfl⟩ := Int.eq_ofNat_of_zero_le down
      simp only [Int.toNat_natCast, Nat.one_mul]
      have rounded := halfEven_le num (tenPow k)
      rcases Nat.lt_or_ge (digitCount num) k with gone | kept
      · have nothing : num / tenPow k = 0 := by
          refine Nat.div_eq_of_lt (lt_of_lt_of_le size ?_)
          exact Nat.pow_le_pow_right (by decide) gone.le
        have small : halfEven num (tenPow k) < tenPow (0 + 1) := by
          rw [nothing] at rounded
          exact lt_of_le_of_lt rounded (by decide)
        have single := digitCount_le_of_lt small
        omega
      · obtain ⟨rest, total⟩ := Nat.exists_eq_add_of_le kept
        have quotient : num / tenPow k < tenPow rest := by
          rw [Nat.div_lt_iff_lt_mul (tenPow_pos k), Nat.mul_comm, ← tenPow_add, ← total]
          exact size
        have short : halfEven num (tenPow k) < tenPow (rest + 1) := by
          have positive := tenPow_pos rest
          rw [tenPow_succ]
          omega
        have digits := digitCount_le_of_lt short
        omega
  next up =>
      obtain ⟨j, total⟩ := Int.eq_ofNat_of_zero_le (a := -shift) (by omega)
      simp only [total, Int.toNat_natCast, halfEven_one]
      obtain ⟨count, isSucc⟩ := Nat.exists_eq_succ_of_ne_zero (digitCount_pos num).ne'
      rw [isSucc] at size ⊢
      have long : num * tenPow j < tenPow (count + j + 1) := by
        rw [Nat.add_right_comm, tenPow_add]
        exact Nat.mul_lt_mul_of_pos_right size (tenPow_pos j)
      have digits := digitCount_le_of_lt long
      omega

namespace Decimal

/-! ### Long numbers -/

/-- A number that is not whole, or that has no more digits than are written. -/
def IsShort : Decimal → Prop
  | .infinity _ => True
  | .finite coefficient exponent _ => 0 ≤ exponent → leading coefficient exponent < Text.mostDigits

instance : DecidablePred IsShort
  | .infinity _ => .isTrue trivial
  | .finite coefficient exponent _ =>
    inferInstanceAs (Decidable (0 ≤ exponent → leading coefficient exponent < Text.mostDigits))

/-- Whole numbers that are too long are not written, and no others fail for that. -/
theorem render_eq_tooLong_iff {amount : Decimal} : amount.render = .error .tooLong ↔ ¬amount.IsShort := by
  cases amount with
  | infinity negative => simp [render, IsShort]
  | finite coefficient exponent canonical =>
      rw [render, IsShort]
      by_cases whole : 0 ≤ exponent
      · by_cases short : leading coefficient exponent < Text.mostDigits <;> simp [whole, short]
      · cases roundParts coefficient exponent <;> simp [whole]

/-! ### Rounding without overflow -/

/-- A number whose leading digit lies below the greatest exponent can be rounded. -/
theorem exists_round (negative : Bool) (num : Nat) {exponent : Int}
    (bound : exponent + digitCount num ≤ greatestExponent) :
    ∃ amount, round negative num 1 exponent = .ok amount := by
  have one : digitCount 1 = 1 := digitCount_of_lt_ten (by decide)
  have top := decade_le num 1
  rw [one] at top
  unfold round
  split
  · exact ⟨_, rfl⟩
  · dsimp only
    rw [if_neg (by omega)]
    split
    · exact ⟨_, rfl⟩
    · have digits := digitCount_halfEven_scaleDown num
        (lastKept (exponent + decade num 1) - exponent)
      have last : lastKept (exponent + decade num 1) ≤ greatestExponent := by
        have least : leastExponent ≤ greatestExponent := by decide
        simp only [lastKept]
        omega
      rw [if_neg (by simp only [leading, Int.natAbs_natCast]; omega)]
      exact ⟨_, rfl⟩

theorem render_of_digits {coefficient exponent : Int} (canonical : IsCanonical coefficient exponent)
    (bound : exponent + digitCount coefficient.natAbs ≤ Text.mostDigits) :
    (finite coefficient exponent canonical).render =
      .ok (finite coefficient exponent canonical).format := by
  have most : (Text.mostDigits : Int) ≤ greatestExponent := by decide
  have short : leading coefficient exponent < Text.mostDigits := by
    rw [leading]
    omega
  obtain ⟨amount, rounded⟩ := exists_round (coefficient < 0) coefficient.natAbs (bound.trans most)
  simp only [render, short, if_true, roundParts, rounded, ite_self]

/-! ### Numbers given by their parts -/

/-- Moving zeros into the exponent does not move the leading digit. -/
theorem stripZeros_leading (coefficient exponent : Int) :
    (stripZeros coefficient exponent).2 + digitCount (stripZeros coefficient exponent).1.natAbs ≤
      max 1 (exponent + digitCount coefficient.natAbs) := by
  fun_induction stripZeros coefficient exponent with
  | case1 =>
      have one : digitCount 0 = 1 := digitCount_of_lt_ten (by decide)
      simp [one]
  | case2 coefficient exponent nonzero lastDigit ih =>
      have digits : digitCount coefficient.natAbs = digitCount (coefficient / 10).natAbs + 1 := by
        have tenth : coefficient.natAbs / 10 = (coefficient / 10).natAbs := by omega
        rw [digitCount_succ (by omega), tenth]
      omega
  | case3 => exact le_max_right _ _

theorem render_ofParts {coefficient exponent : Int}
    (bound : exponent + digitCount coefficient.natAbs ≤ Text.mostDigits) :
    (ofParts coefficient exponent).render = .ok (ofParts coefficient exponent).format := by
  have stripped := stripZeros_leading coefficient exponent
  have one : (1 : Int) ≤ Text.mostDigits := by decide
  exact render_of_digits _ (by omega)

theorem render_ofInt {n : Int} (short : digitCount n.natAbs ≤ Text.mostDigits) :
    (ofInt n).render = .ok (ofInt n).format :=
  render_ofParts (by omega)

end Decimal

/-! ### Doubles -/

namespace Binary64

/-- The number of digits before the point of any double, in units as well as in ones. -/
theorem digitCount_of_lt_limit {n : Nat} (bound : n < limit) : digitCount n ≤ 632 := by
  have size : limit ≤ tenPow 632 := by decide +kernel
  exact digitCount_le_of_lt (lt_of_lt_of_le bound size)

/-- An integer that is a double is short. -/
theorem digitCount_of_toInt? {x : Binary64} {n : Int} (whole : x.toInt? = some n) :
    digitCount n.natAbs ≤ Text.mostDigits := by
  obtain ⟨negative, units, isMagnitude, rfl, count, -⟩ := toInt?_eq_some whole
  have less : n.natAbs ≤ units := by
    rw [count]
    exact Nat.le_mul_of_pos_right _ (twoPow_pos unitExponent)
  have digits := digitCount_of_lt_limit (lt_of_le_of_lt less isMagnitude.1)
  have far : 632 ≤ Text.mostDigits := by decide
  omega

/-- A number next to a magnitude on a decimal grid is hardly longer than the magnitude. -/
theorem neighbour?_digits {units : Nat} {top : Int} {count : Nat} {found : Nat × Int}
    (below : top ≤ digitCount units) (isNeighbour : neighbour? units top count = some found) :
    found.2 + digitCount found.1 ≤ 2 * digitCount units + 1 := by
  have size := lt_tenPow_digitCount units
  have grid : found.2 = top - count ∧
      found.1 ≤ (scaleDown units one (top - count)).1 / (scaleDown units one (top - count)).2 + 1 := by
    have near := halfEven_le (scaleDown units one (top - count)).1
      (scaleDown units one (top - count)).2
    simp only [neighbour?] at isNeighbour
    split_ifs at isNeighbour <;> cases isNeighbour
    · exact ⟨rfl, near⟩
    · exact ⟨rfl, le_rfl⟩
    · exact ⟨rfl, Nat.le_succ _⟩
  obtain ⟨exponent, coefficient⟩ := grid
  rw [exponent]
  unfold scaleDown at coefficient
  split at coefficient
  next down =>
      have whole := Nat.div_le_self units (one * tenPow (top - count).toNat)
      have short : found.1 < tenPow (digitCount units + 1) := by
        rw [tenPow_succ]
        dsimp only at coefficient
        omega
      have digits := digitCount_le_of_lt short
      omega
  next up =>
      obtain ⟨j, total⟩ := Int.eq_ofNat_of_zero_le (a := -(top - count)) (by omega)
      have whole := Nat.div_le_self (units * tenPow (-(top - count)).toNat) one
      have product : units * tenPow j < tenPow (digitCount units + j) := by
        rw [tenPow_add]
        exact Nat.mul_lt_mul_of_pos_right size (tenPow_pos j)
      have short : found.1 < tenPow (digitCount units + j + 1) := by
        simp only [total, Int.toNat_natCast] at coefficient whole
        rw [tenPow_succ]
        omega
      have digits := digitCount_le_of_lt short
      omega

theorem shortest_digits (units : Nat) :
    (shortest units).2 + digitCount (shortest units).1 ≤ 2 * digitCount units + 1 := by
  have chosen : shortest units =
      ((List.range 17).findSome? (neighbour? units (decade units one))).getD (0, 0) := rfl
  rw [chosen]
  cases found : (List.range 17).findSome? (neighbour? units (decade units one)) with
  | none =>
      have single : digitCount 0 = 1 := digitCount_of_lt_ten (by decide)
      have positive := digitCount_pos units
      simp only [Option.getD_none, single]
      omega
  | some pair =>
      obtain ⟨count, -, isNeighbour⟩ := List.exists_of_findSome?_eq_some found
      have top := decade_le units one
      exact neighbour?_digits (by omega) isNeighbour

/-- The shortest decimal has far fewer digits before the point than are written. -/
theorem shortest_within {units : Nat} (isMagnitude : IsMagnitude units) (negative : Bool) :
    (shortest units).2 + digitCount (signedUnits negative (shortest units).1).natAbs ≤
      Text.mostDigits := by
  have digits := shortest_digits units
  have short := digitCount_of_lt_limit isMagnitude.1
  have far : (1265 : Int) ≤ Text.mostDigits := by decide
  rw [natAbs_signedUnits]
  omega

end Binary64

/-- The number that a double stands for has a text. -/
theorem Decimal.render_of_toDecimal? {x : Binary64} {amount : Decimal}
    (stands : x.toDecimal? = some amount) : amount.render = .ok amount.format := by
  unfold Binary64.toDecimal? at stands
  split at stands
  · cases stands
  · cases stands
    rfl
  next negative units isMagnitude =>
      split at stands
      next whole =>
        cases stands
        exact render_ofInt (Binary64.digitCount_of_toInt? whole)
      · obtain rfl := Option.some.inj stands
        exact render_ofParts (Binary64.shortest_within isMagnitude negative)

end Crosswalk
