/-
Module: Crosswalk.Power
Purpose: Powers of two and of ten, the scales on which numbers are rounded and written.
Main exports: twoPow, tenPow
-/

namespace Crosswalk

/-- A power of two. -/
def twoPow (k : Nat) : Nat := Nat.pow 2 k

/-- A power of ten. -/
def tenPow (k : Nat) : Nat := Nat.pow 10 k

theorem twoPow_pos (k : Nat) : 0 < twoPow k :=
  Nat.two_pow_pos k

theorem tenPow_pos (k : Nat) : 0 < tenPow k :=
  Nat.pow_pos (by decide)

theorem twoPow_add (j k : Nat) : twoPow (j + k) = twoPow j * twoPow k :=
  Nat.pow_add 2 j k

theorem tenPow_add (j k : Nat) : tenPow (j + k) = tenPow j * tenPow k :=
  Nat.pow_add 10 j k

theorem twoPow_le_twoPow {j k : Nat} (le : j ≤ k) : twoPow j ≤ twoPow k :=
  Nat.pow_le_pow_right (by decide) le

theorem twoPow_dvd_twoPow {j k : Nat} (le : j ≤ k) : twoPow j ∣ twoPow k :=
  Nat.pow_dvd_pow 2 le

theorem log2_twoPow (k : Nat) : (twoPow k).log2 = k :=
  Nat.log2_two_pow

theorem twoPow_log2_le {n : Nat} (positive : n ≠ 0) : twoPow n.log2 ≤ n :=
  Nat.log2_self_le positive

theorem lt_twoPow_log2_succ (n : Nat) : n < twoPow (n.log2 + 1) :=
  Nat.lt_log2_self

example : twoPow 10 = 1024 ∧ tenPow 3 = 1000 := by decide

end Crosswalk
