/-
Module: Crosswalk.Proofs.Binary64.Order
Purpose: Doubles and the decimals that stand for them are in one order. Numbers that round to a lesser
  magnitude are less than those that round to a greater one, because the intervals of two magnitudes share an
  end at most, and only where one of the two does not reach it.
Main exports: Binary64.lt_of_roundsTo, Binary64.denoted, Binary64.less_iff
-/
import Crosswalk.Proofs.Binary64.Shortest
import Crosswalk.Proofs.Decimal.Order

namespace Crosswalk.Binary64

/-! ### Intervals of magnitudes -/

variable {units other : Nat}

/-- A magnitude is its significand at its place. -/
theorem IsMagnitude.significand (isMagnitude : IsMagnitude units) :
    units = units / place units * place units :=
  (Nat.div_mul_cancel (Nat.dvd_of_mod_eq_zero isMagnitude.2)).symm

theorem reach_le_place (units : Nat) : reach units ≤ 2 * place units := by
  unfold reach
  split <;> omega

theorem spareBits_mono (le : units ≤ other) : spareBits units ≤ spareBits other := by
  rcases Nat.eq_zero_or_pos units with rfl | positive
  · exact Nat.zero_le _
  · have bits : units.log2 ≤ other.log2 :=
      (Nat.le_log2 (by omega)).mpr ((twoPow_log2_le positive.ne').trans le)
    simp only [spareBits]
    omega

/-- Magnitudes with one place are a place apart. -/
theorem apart_of_place_eq (isMagnitude : IsMagnitude units) (isMagnitudeOther : IsMagnitude other)
    (less : units < other) (same : place other = place units) :
    (units + place units / 2 : ℚ) < other - reach other / 4 ∨
      (units + place units / 2 : ℚ) = other - reach other / 4 ∧
        (units / place units % 2 = 1 ∨ other / place other % 2 = 1) := by
  obtain ⟨m, significand⟩ : ∃ m, units / place units = m := ⟨_, rfl⟩
  obtain ⟨n, significandOther⟩ : ∃ n, other / place other = n := ⟨_, rfl⟩
  have parts := isMagnitude.significand
  have partsOther := isMagnitudeOther.significand
  rw [significandOther, same] at partsOther
  rw [significand] at parts
  have next : m + 1 ≤ n := by
    rw [parts, partsOther] at less
    exact Nat.lt_of_mul_lt_mul_right less
  have reached : (reach other : ℚ) ≤ 2 * place units := by
    rw [← same]
    exact_mod_cast reach_le_place other
  have positive := place_pos units
  have value : (units : ℚ) = m * place units := by exact_mod_cast parts
  have valueOther : (other : ℚ) = n * place units := by exact_mod_cast partsOther
  rw [significand, significandOther, value, valueOther]
  rcases next.lt_or_eq with further | rfl
  · have gap : ((m + 2 : Nat) : ℚ) * place units ≤ n * place units :=
      mul_le_mul_of_nonneg_right (by exact_mod_cast further) positive.le
    push_cast at gap
    left
    linarith
  · have atMost : (m * place units + place units / 2 : ℚ) ≤ (m + 1 : Nat) * place units - reach other / 4 := by
      push_cast
      linarith
    exact atMost.lt_or_eq.imp_right fun touch => ⟨touch, by omega⟩

/-- The interval of a magnitude with spare bits lies above the least significand's interval. -/
theorem low_of_spareBits (isMagnitude : IsMagnitude units) (spare : 0 < spareBits units) :
    (2 ^ 52 * place units - place units / 4 : ℚ) ≤ units - reach units / 4 := by
  have positive := place_pos units
  have wide : 1 < place units := Nat.one_lt_two_pow spare.ne'
  have bits : units.log2 = 52 + spareBits units := by
    simp only [spareBits, significandBits] at spare ⊢
    omega
  have nonzero : units ≠ 0 := by
    rintro rfl
    exact absurd spare (by decide)
  have full : twoPow 52 * place units ≤ units := by
    rw [place, ← twoPow_add, ← bits]
    exact twoPow_log2_le nonzero
  by_cases power : units = twoPow units.log2
  · have reached : reach units = place units := if_pos ⟨power, wide⟩
    have size : (twoPow 52 * place units : ℚ) ≤ units := by exact_mod_cast full
    rw [cast_twoPow] at size
    rw [reached]
    linarith
  · obtain ⟨m, parts⟩ : ∃ m, units = m * place units := ⟨_, isMagnitude.significand⟩
    have more : twoPow 52 * place units < units := by
      refine lt_of_le_of_ne full fun least => power ?_
      rw [bits, twoPow_add]
      exact least.symm
    have next : twoPow 52 + 1 ≤ m := Nat.lt_of_mul_lt_mul_right (more.trans_eq parts)
    have size : (twoPow 52 + 1) * place units ≤ units := (Nat.mul_le_mul_right _ next).trans_eq parts.symm
    have reached : (reach units : ℚ) ≤ 2 * place units := by exact_mod_cast reach_le_place units
    have size : ((twoPow 52 + 1 : Nat) : ℚ) * place units ≤ units := by exact_mod_cast size
    push_cast at size
    rw [cast_twoPow] at size
    linarith

/-- Magnitudes with different places are at least as far apart as the greater one reaches downwards. -/
theorem apart_of_place_lt (isMagnitude : IsMagnitude units) (isMagnitudeOther : IsMagnitude other)
    (wider : spareBits units < spareBits other) :
    (units + place units / 2 : ℚ) < other - reach other / 4 ∨
      (units + place units / 2 : ℚ) = other - reach other / 4 ∧ units / place units % 2 = 1 := by
  have positive := place_pos units
  have double : (2 * place units : ℚ) ≤ place other := by
    have powers := twoPow_le_twoPow (Nat.succ_le_of_lt wider)
    rw [Nat.succ_eq_add_one, Nat.add_comm, twoPow_add] at powers
    exact_mod_cast powers
  have low := low_of_spareBits isMagnitudeOther (by omega)
  have parts := isMagnitude.significand
  obtain ⟨m, significand⟩ : ∃ m, units / place units = m := ⟨_, rfl⟩
  rw [significand] at parts ⊢
  have value : (units : ℚ) = m * place units := by exact_mod_cast parts
  have bound : m < 2 ^ 53 := by
    have size := lt_place units
    rw [value] at size
    exact_mod_cast lt_of_mul_lt_mul_right size positive.le
  rcases (Nat.le_sub_one_of_lt bound).lt_or_eq with fewer | rfl
  · have size : ((m + 2 : Nat) : ℚ) * place units ≤ 2 ^ 53 * place units :=
      mul_le_mul_of_nonneg_right (by exact_mod_cast (by omega : m + 2 ≤ 2 ^ 53)) positive.le
    push_cast at size
    left
    linarith
  · have atMost : (units + place units / 2 : ℚ) ≤ other - reach other / 4 := by
      rw [value]
      push_cast
      linarith
    exact atMost.lt_or_eq.imp_right fun touch => ⟨touch, by decide⟩

/-- What rounds to a lesser magnitude is less. -/
theorem lt_of_roundsTo (isMagnitude : IsMagnitude units) (isMagnitudeOther : IsMagnitude other)
    (less : units < other) {x y : ℚ} (rounds : RoundsTo units x) (roundsOther : RoundsTo other y) : x < y := by
  have apart : (units + place units / 2 : ℚ) < other - reach other / 4 ∨
      (units + place units / 2 : ℚ) = other - reach other / 4 ∧
        (units / place units % 2 = 1 ∨ other / place other % 2 = 1) := by
    rcases (spareBits_mono less.le).lt_or_eq with wider | same
    · refine (apart_of_place_lt isMagnitude isMagnitudeOther wider).imp_right fun touch => ?_
      exact ⟨touch.1, .inl touch.2⟩
    · exact apart_of_place_eq isMagnitude isMagnitudeOther less (by rw [place, place, same])
  rcases apart with apart | ⟨touch, odd | odd⟩
  · exact rounds.high.trans_lt (apart.trans_le roundsOther.low)
  · exact (rounds.inside odd).2.trans_le (touch.trans_le roundsOther.low)
  · exact rounds.high.trans_lt (touch.trans_lt (roundsOther.inside odd).1)

/-! ### The order of doubles -/

/-- The amount of the decimal that stands for a magnitude, in units. -/
def denoted (units : Nat) : ℚ :=
  if units % one = 0 then units else (shortest units).1 * 10 ^ (shortest units).2 * one

theorem denoted_roundsTo (units : Nat) : RoundsTo units (denoted units) := by
  unfold denoted
  split
  next whole =>
      have reached : (0 : ℚ) < reach units := by
        have positive := twoPow_pos (spareBits units)
        unfold reach place
        split <;> norm_cast
        omega
      have positive := place_pos units
      exact ⟨by linarith, by linarith, fun _ => ⟨by linarith, by linarith⟩⟩
  next notWhole =>
      refine shortest_roundsTo ?_
      rintro rfl
      exact notWhole (Nat.zero_mod one)

theorem denoted_lt (isMagnitude : IsMagnitude units) (isMagnitudeOther : IsMagnitude other)
    (less : units < other) : denoted units < denoted other :=
  lt_of_roundsTo isMagnitude isMagnitudeOther less (denoted_roundsTo units) (denoted_roundsTo other)

theorem denoted_zero : denoted 0 = 0 := by
  rw [denoted, if_pos (Nat.zero_mod one), Nat.cast_zero]

/-- The amount of the decimal that stands for a finite double, which its rank determines. -/
def amountAt (rank : Int) : ℚ :=
  (if rank < 0 then -denoted rank.natAbs else denoted rank.natAbs) / one

theorem amountAt_lt {rank other : Int} (isMagnitude : IsMagnitude rank.natAbs)
    (isMagnitudeOther : IsMagnitude other.natAbs) (less : rank < other) : amountAt rank < amountAt other := by
  have unit : (0 : ℚ) < one := by exact_mod_cast twoPow_pos unitExponent
  have positive {units : Nat} (isMagnitude : IsMagnitude units) : 0 ≤ denoted units := by
    rcases Nat.eq_zero_or_pos units with rfl | above
    · exact denoted_zero.ge
    · exact denoted_zero.symm.trans_le (denoted_lt isMagnitude_zero isMagnitude above).le
  refine div_lt_div_of_pos_right ?_ unit
  split
  next negative =>
      have below : 0 < denoted rank.natAbs :=
        denoted_zero.symm.trans_lt (denoted_lt isMagnitude_zero isMagnitude (by omega))
      split
      next negativeOther =>
          exact neg_lt_neg (denoted_lt isMagnitudeOther isMagnitude (by omega))
      next positiveOther =>
          have above := positive isMagnitudeOther
          linarith
  next positive =>
      rw [if_neg (by omega)]
      exact denoted_lt isMagnitude isMagnitudeOther (by omega)

theorem amountAt_lt_iff {rank other : Int} (isMagnitude : IsMagnitude rank.natAbs)
    (isMagnitudeOther : IsMagnitude other.natAbs) : amountAt rank < amountAt other ↔ rank < other := by
  refine ⟨fun less => ?_, amountAt_lt isMagnitude isMagnitudeOther⟩
  rcases lt_trichotomy rank other with below | rfl | above
  · exact below
  · exact absurd less (lt_irrefl _)
  · exact absurd less (amountAt_lt isMagnitudeOther isMagnitude above).asymm

theorem amountAt_signedUnits (negative : Bool) (units : Nat) :
    amountAt (signedUnits negative units) = (if negative then -denoted units else denoted units) / one := by
  cases negative with
  | false =>
      change (if (units : Int) < 0 then _ else denoted units) / (one : ℚ) = denoted units / one
      rw [if_neg (by omega)]
  | true =>
      change (if -(units : Int) < 0 then -denoted (-(units : Int)).natAbs
        else denoted (-(units : Int)).natAbs) / (one : ℚ) = -denoted units / one
      rw [Int.natAbs_neg, Int.natAbs_natCast]
      split
      next => rfl
      next above =>
          obtain rfl : units = 0 := by omega
          rw [denoted_zero, neg_zero]

/-- Only data that are not numbers have no decimal. -/
theorem eq_nan_of_toDecimal? {x : Binary64} (none : x.toDecimal? = none) :
    ∃ negative payload, x = nan negative payload := by
  cases x with
  | nan negative payload => exact ⟨negative, payload, rfl⟩
  | infinity => cases none
  | finite =>
      simp only [toDecimal?] at none
      split at none <;> cases none

/-- The decimal that stands for a finite double has the place that its rank says. -/
theorem place_of_toDecimal? {negative : Bool} {isMagnitude : IsMagnitude units} {amount : Decimal}
    (stands : (finite negative units isMagnitude).toDecimal? = some amount) :
    amount.place = ((amountAt (signedUnits negative units) : ℚ) : WithTop ℚ) := by
  have unit : (one : ℚ) ≠ 0 := by exact_mod_cast (twoPow_pos unitExponent).ne'
  have signed (n : Nat) : ((signedUnits negative n : Int) : ℚ) = if negative then -(n : ℚ) else n := by
    cases negative <;> simp [signedUnits]
  rw [amountAt_signedUnits]
  by_cases whole : units % one = 0
  · have isInt : (finite negative units isMagnitude).toInt? = some (signedUnits negative (units / one)) := by
      rw [toInt?, if_pos whole]
    have quotient : ((units / one : Nat) : ℚ) = units / one :=
      eq_div_of_mul_eq unit (by exact_mod_cast Nat.div_mul_cancel (Nat.dvd_of_mod_eq_zero whole))
    simp only [toDecimal?, isInt, Option.some.injEq] at stands
    rw [← stands, Decimal.ofInt, Decimal.place_ofParts, Decimal.place_finite_inj, signed, quotient, denoted,
      if_pos whole]
    split <;> ring
  · have notInt : (finite negative units isMagnitude).toInt? = none := by
      rw [toInt?, if_neg whole]
    simp only [toDecimal?, notInt, Option.some.injEq] at stands
    rw [← stands, Decimal.place_ofParts, Decimal.place_finite_inj, signed, denoted, if_neg whole]
    split <;> field_simp

/-- The rank of a finite double lies between those of the infinities. -/
theorem rank_between (negative : Bool) (isMagnitude : IsMagnitude units) :
    -(limit : Int) < signedUnits negative units ∧ signedUnits negative units < limit := by
  have bound := isMagnitude.1
  unfold signedUnits
  split <;> omega

theorem less_of_rank {x y : Binary64} {i j : Int} (rank : x.rank = some i) (rankOther : y.rank = some j) :
    x.less y = true ↔ i < j := by
  simp only [less, compareBy, rank, rankOther, decide_eq_true_eq]

/-- Doubles are in the order of the decimals that stand for them. -/
theorem less_iff {x y : Binary64} {a b : Decimal} (stands : x.toDecimal? = some a)
    (standsOther : y.toDecimal? = some b) : x.less y = true ↔ a.place < b.place := by
  have least (amount : ℚ) : (⊥ : WithBot (WithTop ℚ)) < (amount : WithTop ℚ) := WithBot.bot_lt_coe _
  have greatest (amount : ℚ) : ((amount : WithTop ℚ) : WithBot (WithTop ℚ)) < (⊤ : WithTop ℚ) :=
    WithBot.coe_lt_coe.mpr (WithTop.coe_lt_top amount)
  cases x with
  | nan => cases stands
  | finite negative units isMagnitude =>
      rw [place_of_toDecimal? stands]
      cases y with
      | nan => cases standsOther
      | finite negativeOther other isMagnitudeOther =>
          rw [less_of_rank rfl rfl, place_of_toDecimal? standsOther, WithBot.coe_lt_coe, WithTop.coe_lt_coe]
          refine (amountAt_lt_iff ?_ ?_).symm
          · rwa [natAbs_signedUnits]
          · rwa [natAbs_signedUnits]
      | infinity above =>
          obtain ⟨low, high⟩ := rank_between negative isMagnitude
          cases standsOther
          cases above with
          | false => exact iff_of_true ((less_of_rank rfl rfl).mpr high) (greatest _)
          | true => exact iff_of_false (fun less => low.asymm ((less_of_rank rfl rfl).mp less)) (least _).asymm
  | infinity below =>
      cases stands
      cases y with
      | nan => cases standsOther
      | finite negative other isMagnitudeOther =>
          obtain ⟨low, high⟩ := rank_between negative isMagnitudeOther
          rw [place_of_toDecimal? standsOther]
          cases below with
          | false =>
              exact iff_of_false (fun less => high.asymm ((less_of_rank rfl rfl).mp less)) (greatest _).asymm
          | true => exact iff_of_true ((less_of_rank rfl rfl).mpr low) (least _)
      | infinity above =>
          cases standsOther
          have positive : (0 : Int) < limit := by exact_mod_cast twoPow_pos 2098
          have opposite : -(limit : Int) < limit := by omega
          cases below with
          | false =>
              cases above with
              | false =>
                  exact iff_of_false (fun less => lt_irrefl _ ((less_of_rank rfl rfl).mp less)) (lt_irrefl _)
              | true =>
                  exact iff_of_false (fun less => opposite.asymm ((less_of_rank rfl rfl).mp less)) not_lt_bot
          | true =>
              cases above with
              | false => exact iff_of_true ((less_of_rank rfl rfl).mpr opposite) (WithBot.bot_lt_coe _)
              | true =>
                  exact iff_of_false (fun less => lt_irrefl _ ((less_of_rank rfl rfl).mp less)) (lt_irrefl _)

end Crosswalk.Binary64
