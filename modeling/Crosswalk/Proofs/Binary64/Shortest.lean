/-
Module: Crosswalk.Proofs.Binary64.Shortest
Purpose: The interval of numbers that round to a magnitude, and the shortest decimal in it. A place of a
  magnitude is wider than the last of seventeen decimal digits, so the search for a decimal that rounds to
  the magnitude ends, and what it finds lies in the interval.
Main exports: Binary64.RoundsTo, Binary64.roundsTo_iff, Binary64.neighbour?_isSome, Binary64.shortest_roundsTo
-/
import Crosswalk.Binary64.Shortest
import Crosswalk.Proofs.Rounding

namespace Crosswalk.Binary64

/-! ### The numbers that round to a magnitude -/

/-- The place of the last bit of a significand. -/
def place (units : Nat) : Nat :=
  twoPow (spareBits units)

/-- Four times the reach of a magnitude downwards: half as wide below a power of two, where the places are
    narrower. -/
def reach (units : Nat) : Nat :=
  if units = twoPow units.log2 ∧ 1 < place units then place units else 2 * place units

/-- An amount in units rounds to a magnitude. The ends of the interval do if the significand is even. -/
structure RoundsTo (units : Nat) (amount : ℚ) : Prop where
  low : units - reach units / 4 ≤ amount
  high : amount ≤ units + place units / 2
  inside (odd : units / place units % 2 = 1) :
    units - reach units / 4 < amount ∧ amount < units + place units / 2

theorem place_pos (units : Nat) : (0 : ℚ) < place units := by
  exact_mod_cast twoPow_pos (spareBits units)

theorem place_le {units : Nat} (positive : units ≠ 0) : place units ≤ units := by
  have size : spareBits units ≤ units.log2 := by
    simp only [spareBits, significandBits]
    omega
  exact (twoPow_le_twoPow size).trans (twoPow_log2_le positive)

theorem reach_le {units : Nat} (positive : units ≠ 0) : reach units ≤ 2 * units := by
  have wide := place_le positive
  unfold reach
  split <;> omega

/-- The test for decimals that round to a magnitude is right. -/
theorem roundsTo_iff {units : Nat} (positive : units ≠ 0) {coefficient : Nat} {exponent : Int} :
    roundsTo units coefficient exponent = true ↔
      RoundsTo units ((coefficient * 10 ^ exponent : ℚ) * one) := by
  obtain ⟨n, d, scaled⟩ : ∃ n d, scaleDown (4 * coefficient * one) 1 (-exponent) = (n, d) := ⟨_, _, rfl⟩
  have divisor : (0 : ℚ) < d := by
    have whole := scaleDown_pos (4 * coefficient * one) one_pos (-exponent)
    rw [scaled] at whole
    exact_mod_cast whole
  have value : (n : ℚ) = 4 * ((coefficient * 10 ^ exponent) * one) * d := by
    have quotient := scaleDown_value (4 * coefficient * one) one_pos (-exponent)
    rw [scaled, div_eq_iff divisor.ne', zpow_neg, div_inv_eq_mul] at quotient
    push_cast at quotient
    rw [quotient]
    ring
  have tested : roundsTo units coefficient exponent =
      if units / place units % 2 = 0 then
        decide ((4 * units - reach units) * d ≤ n) && decide (n ≤ (4 * units + 2 * place units) * d)
      else decide ((4 * units - reach units) * d < n) && decide (n < (4 * units + 2 * place units) * d) := by
    simp only [roundsTo, scaled]
    rfl
  have reached : reach units ≤ 4 * units := (reach_le positive).trans (by omega)
  have lowEnd : (((4 * units - reach units) * d : Nat) : ℚ) = 4 * (units - reach units / 4) * d := by
    push_cast [Nat.cast_sub reached]
    ring
  have highEnd : (((4 * units + 2 * place units) * d : Nat) : ℚ) = 4 * (units + place units / 2) * d := by
    push_cast
    ring
  have atLeast : (4 * units - reach units) * d ≤ n ↔
      units - reach units / 4 ≤ (coefficient * 10 ^ exponent : ℚ) * one := by
    rw [← Nat.cast_le (α := ℚ), lowEnd, value, mul_le_mul_iff_left₀ divisor, mul_le_mul_iff_right₀ four_pos]
  have above : (4 * units - reach units) * d < n ↔
      units - reach units / 4 < (coefficient * 10 ^ exponent : ℚ) * one := by
    rw [← Nat.cast_lt (α := ℚ), lowEnd, value, mul_lt_mul_iff_left₀ divisor, mul_lt_mul_iff_right₀ four_pos]
  have atMost : n ≤ (4 * units + 2 * place units) * d ↔
      (coefficient * 10 ^ exponent : ℚ) * one ≤ units + place units / 2 := by
    rw [← Nat.cast_le (α := ℚ), highEnd, value, mul_le_mul_iff_left₀ divisor, mul_le_mul_iff_right₀ four_pos]
  have under : n < (4 * units + 2 * place units) * d ↔
      (coefficient * 10 ^ exponent : ℚ) * one < units + place units / 2 := by
    rw [← Nat.cast_lt (α := ℚ), highEnd, value, mul_lt_mul_iff_left₀ divisor, mul_lt_mul_iff_right₀ four_pos]
  rw [tested]
  split
  next even =>
      rw [Bool.and_eq_true, decide_eq_true_iff, decide_eq_true_iff, atLeast, atMost]
      exact ⟨fun ⟨low, high⟩ => ⟨low, high, fun odd => absurd odd (by omega)⟩,
        fun rounds => ⟨rounds.low, rounds.high⟩⟩
  next odd =>
      rw [Bool.and_eq_true, decide_eq_true_iff, decide_eq_true_iff, above, under]
      exact ⟨fun ⟨low, high⟩ => ⟨low.le, high.le, fun _ => ⟨low, high⟩⟩,
        fun rounds => rounds.inside (by omega)⟩

/-! ### Seventeen digits suffice -/

theorem lt_place (units : Nat) : (units : ℚ) < 2 ^ 53 * place units := by
  have bits : twoPow (units.log2 + 1) ≤ twoPow (53 + spareBits units) := by
    refine twoPow_le_twoPow ?_
    simp only [spareBits, significandBits]
    omega
  have size : units < twoPow 53 * place units := by
    rw [place, ← twoPow_add]
    exact (lt_twoPow_log2_succ units).trans_le bits
  rw [← cast_twoPow]
  exact_mod_cast size

/-- A power of two whose places are wider than a unit has the least significand. -/
theorem eq_place {units : Nat} (power : units = twoPow units.log2) (wide : 1 < place units) :
    units = twoPow 52 * place units := by
  have spare : spareBits units ≠ 0 := by
    intro none
    rw [place, none] at wide
    exact absurd wide (by decide)
  have bits : units.log2 = 52 + spareBits units := by
    simp only [spareBits, significandBits] at spare ⊢
    omega
  rw [place, ← twoPow_add, ← bits]
  exact power

/-- Numbers nearer to a magnitude than half a place of the seventeenth digit round to it. -/
theorem roundsTo_of_near {units : Nat} {step amount : ℚ} (positive : 0 < step) (fine : step * 10 ^ 16 ≤ units)
    (below : units - step / 2 ≤ amount) (above : amount ≤ units + step / 2) : RoundsTo units amount := by
  have narrow : step < place units := by
    have size := lt_place units
    linarith
  have reached : step / 2 < reach units / 4 := by
    unfold reach
    split
    next least =>
        have size : (units : ℚ) = 2 ^ 52 * place units := by
          rw [← cast_twoPow]
          exact_mod_cast eq_place least.1 least.2
        linarith
    next =>
        push_cast
        linarith
  exact ⟨by linarith, by linarith, fun _ => ⟨by linarith, by linarith⟩⟩

/-- There is a decimal of seventeen digits that rounds to a magnitude. -/
theorem neighbour?_isSome {units : Nat} (positive : units ≠ 0) :
    (neighbour? units (decade units one) 16).isSome := by
  have unit : (0 : ℚ) < one := by exact_mod_cast twoPow_pos unitExponent
  have whole : 0 < one := twoPow_pos unitExponent
  have power := zpow_ten_pos (decade units one - 16)
  have fine : (10 : ℚ) ^ (decade units one - 16) * one * 10 ^ 16 ≤ units := by
    have low := (decade_bounds positive whole).1
    rw [le_div_iff₀ unit] at low
    calc (10 : ℚ) ^ (decade units one - 16) * one * 10 ^ 16
        = 10 ^ (decade units one - 16) * 10 ^ (16 : Int) * one := by ring
      _ = 10 ^ decade units one * one := by rw [← zpow_add₀ (by norm_num), sub_add_cancel]
      _ ≤ units := low
  obtain ⟨above, below⟩ := halfEven_near (scaleDown units one (decade units one - 16)).1
    (scaleDown_pos units whole (decade units one - 16))
  rw [scaleDown_value units whole, div_div, le_div_iff₀ (mul_pos unit power)] at above
  rw [scaleDown_value units whole, div_div, div_le_iff₀ (mul_pos unit power)] at below
  have rounds : RoundsTo units (halfEven (scaleDown units one (decade units one - 16)).1
      (scaleDown units one (decade units one - 16)).2 * 10 ^ (decade units one - 16) * one) :=
    roundsTo_of_near (mul_pos power unit) fine (by linarith) (by linarith)
  have found := (roundsTo_iff positive).mpr rounds
  unfold neighbour?
  simp only [Nat.cast_ofNat, found, if_true, Option.isSome_some]

/-- A neighbour that is found rounds to the magnitude. -/
theorem roundsTo_of_neighbour? {units : Nat} {top : Int} {count : Nat} {found : Nat × Int}
    (isNeighbour : neighbour? units top count = some found) : roundsTo units found.1 found.2 = true := by
  simp only [neighbour?] at isNeighbour
  split_ifs at isNeighbour with near far far <;> cases isNeighbour <;> assumption

/-- The shortest decimal for a positive magnitude rounds to it. -/
theorem shortest_roundsTo {units : Nat} (positive : units ≠ 0) :
    RoundsTo units (((shortest units).1 * 10 ^ (shortest units).2 : ℚ) * one) := by
  obtain ⟨found, search⟩ : ∃ found,
      (List.range 17).findSome? (neighbour? units (decade units one)) = some found := by
    refine Option.isSome_iff_exists.mp (List.findSome?_isSome_iff.mpr ⟨16, by simp, ?_⟩)
    exact neighbour?_isSome positive
  obtain ⟨count, -, isNeighbour⟩ := List.exists_of_findSome?_eq_some search
  have chosen : shortest units = found := by
    change ((List.range 17).findSome? (neighbour? units (decade units one))).getD (0, 0) = found
    rw [search, Option.getD_some]
  rw [chosen]
  exact (roundsTo_iff positive).mp (roundsTo_of_neighbour? isNeighbour)

end Crosswalk.Binary64
