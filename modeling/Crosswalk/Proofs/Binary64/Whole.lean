/-
Module: Crosswalk.Proofs.Binary64.Whole
Purpose: Whole numbers among doubles. A double that is a whole number lies that many ones from zero, so two
  doubles that are the same whole number are numerically equal, and rounding a whole number that is a double
  leaves it where it is.
Main exports: Binary64.rank_of_toInt?, Binary64.numericallyEqual_of_toInt?, Binary64.numericallyEqual_ofInt
-/
import Crosswalk.Binary64.Arithmetic

namespace Crosswalk.Binary64

theorem signedUnits_mul (negative : Bool) (units factor : Nat) :
    signedUnits negative (units * factor) = signedUnits negative units * factor := by
  cases negative with
  | false => simp [signedUnits]
  | true => simp only [signedUnits, if_true, Int.natCast_mul, Int.neg_mul]

/-- The sign of an integer put before a multiple of its magnitude gives that multiple of the integer. -/
theorem signedUnits_natAbs_mul (n : Int) (factor : Nat) :
    signedUnits (n < 0) (n.natAbs * factor) = n * factor := by
  rw [signedUnits_mul]
  congr 1
  unfold signedUnits
  split
  next negative => have := of_decide_eq_true negative; omega
  next notNegative => have := of_decide_eq_false (Bool.eq_false_iff.mpr notNegative); omega

theorem natAbs_signedUnits (negative : Bool) (units : Nat) :
    (signedUnits negative units).natAbs = units := by
  cases negative <;> simp [signedUnits]

/-- A whole number is a finite double: a whole number of ones, with a sign. -/
theorem toInt?_eq_some {x : Binary64} {n : Int} (whole : x.toInt? = some n) :
    ∃ negative units isMagnitude, x = .finite negative units isMagnitude ∧
      units = n.natAbs * one ∧ n = signedUnits negative n.natAbs := by
  cases x with
  | finite negative units isMagnitude =>
      simp only [toInt?, Option.ite_none_right_eq_some, Option.some.injEq] at whole
      obtain ⟨divides, rfl⟩ := whole
      refine ⟨negative, units, isMagnitude, rfl, ?_, ?_⟩
      · rw [natAbs_signedUnits, Nat.div_mul_cancel (Nat.dvd_of_mod_eq_zero divides)]
      · rw [natAbs_signedUnits]
  | infinity | nan => cases whole

/-- A whole number lies that many ones from zero. -/
theorem rank_of_toInt? {x : Binary64} {n : Int} (whole : x.toInt? = some n) :
    x.rank = some (n * one) := by
  obtain ⟨negative, units, isMagnitude, rfl, count, same⟩ := toInt?_eq_some whole
  rw [rank, count, signedUnits_mul, ← same]

theorem numericallyEqual_of_rank {x y : Binary64} {place : Int} (here : x.rank = some place)
    (there : y.rank = some place) : x.numericallyEqual y = true := by
  simp [numericallyEqual, compareBy, here, there]

/-- Doubles that are the same whole number are numerically equal. -/
theorem numericallyEqual_of_toInt? {x y : Binary64} {n : Int} (here : x.toInt? = some n)
    (there : y.toInt? = some n) : x.numericallyEqual y = true :=
  numericallyEqual_of_rank (rank_of_toInt? here) (rank_of_toInt? there)

/-- A magnitude is the nearest one to itself. -/
theorem nearest_of_isMagnitude {units : Nat} (isMagnitude : IsMagnitude units) :
    nearest units 1 = units := by
  have divides := Nat.dvd_of_mod_eq_zero isMagnitude.2
  have positive := twoPow_pos (spareBits units)
  rw [nearest, Nat.div_one, Nat.one_mul, halfEven, isMagnitude.2]
  simp only [Nat.mul_zero, positive, if_true]
  exact Nat.div_mul_cancel divides

/-- A whole number that is a double stays where it is when it is rounded. -/
theorem rank_ofInt {x : Binary64} {n : Int} (whole : x.toInt? = some n) :
    (ofInt n).rank = some (n * one) := by
  obtain ⟨_, units, isMagnitude, -, count, -⟩ := toInt?_eq_some whole
  have same : nearest (n.natAbs * one) 1 = n.natAbs * one := count ▸ nearest_of_isMagnitude isMagnitude
  have below : nearest (n.natAbs * one) 1 < limit := same.symm ▸ count ▸ isMagnitude.1
  rw [ofInt, ofUnits, dif_pos below]
  simp only [rank, same, signedUnits_natAbs_mul]

theorem isNaN_ofInt (n : Int) : (ofInt n).isNaN = false := by
  unfold ofInt ofUnits
  split <;> rfl

/-- Rounding a whole number gives a double that is numerically equal to every one that is this number. -/
theorem numericallyEqual_ofInt {x : Binary64} {n : Int} (whole : x.toInt? = some n) :
    x.numericallyEqual (ofInt n) = true :=
  numericallyEqual_of_rank (rank_of_toInt? whole) (rank_ofInt whole)

end Crosswalk.Binary64
