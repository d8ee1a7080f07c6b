/-
Module: Crosswalk.Proofs.Value.Negation
Purpose: Changing the sign of a number is subtracting it from zero, and both round the result. They differ where
  rounding takes a number above the greatest exponent: there the subtraction is refused as an operation, and the
  change of the sign overflows. No other operation fails with anything but a refusal.
Main exports: Decimal.Overflows, Decimal.rounded_cases, Value.Agree, Value.negate_agrees_iff
-/
import Crosswalk.Proofs.Decimal.Limits
import Crosswalk.Proofs.Value.Arithmetic
import Crosswalk.Proofs.Wrapped.Arithmetic

namespace Crosswalk

namespace Decimal

/-- A finite number that rounding takes above the greatest exponent. -/
def Overflows (amount : Decimal) : Prop :=
  ∃ exact rounded, amount.Denotes exact ∧ RoundsTo exact rounded ∧ ¬ WithinLimits rounded

/-- A number is rounded unless it overflows. -/
theorem rounded_cases (amount : Decimal) :
    (¬ amount.Overflows ∧ ∃ result, amount.rounded = .ok result) ∨
      (amount.Overflows ∧ amount.rounded = .error .overflow) := by
  cases amount with
  | infinity negative =>
      refine .inl ⟨?_, _, rfl⟩
      rintro ⟨exact, rounded, denotes, -⟩
      obtain ⟨_, _, _, isFinite, -⟩ := denotes.exists_finite
      cases isFinite
  | finite coefficient exponent canonical =>
      have denotes : (finite coefficient exponent canonical).Denotes _ := denotes_finite.mpr rfl
      obtain ⟨rounded, rounds, ⟨within, result, computed, -⟩ | ⟨beyond, overflow⟩⟩ := rounded_computes denotes
      · refine .inl ⟨?_, result, computed⟩
        rintro ⟨exact, other, denotes', rounds', beyond⟩
        rw [← denotes.unique denotes'] at rounds'
        rw [← rounds.unique rounds'] at beyond
        exact beyond within
      · exact .inr ⟨⟨_, rounded, denotes, rounds, beyond⟩, overflow⟩

theorem opposite_opposite (amount : Decimal) : amount.opposite.opposite = amount := by
  cases amount <;> simp [opposite]

theorem Overflows.opposite {amount : Decimal} (overflows : amount.Overflows) : amount.opposite.Overflows := by
  obtain ⟨exact, rounded, denotes, rounds, beyond⟩ := overflows
  exact ⟨-exact, -rounded, denotes.opposite, rounds.neg, fun within => beyond (withinLimits_neg.mp within)⟩

/-- Whether a number overflows does not depend on its sign. -/
theorem overflows_opposite (amount : Decimal) : amount.opposite.Overflows ↔ amount.Overflows := by
  constructor
  · intro overflows
    rw [← amount.opposite_opposite]
    exact overflows.opposite
  · exact Overflows.opposite

/-- The sign of a number is changed unless it overflows. -/
theorem negate_cases (amount : Decimal) :
    (¬ amount.Overflows ∧ ∃ result, amount.negate = .ok result) ∨
      (amount.Overflows ∧ amount.negate = .error .overflow) := by
  rw [← overflows_opposite]
  exact amount.opposite.rounded_cases

/-- Nothing is added to zero. -/
theorem zero_subtract (amount : Decimal) : zero.subtract amount = amount.negate := by
  cases amount <;> rfl

end Decimal

namespace Value

/-- Two outcomes agree: they are equal values, or scripts see why there is none. -/
def Agree (first second : Outcome Value) : Prop :=
  (∃ x y, first = .ok x ∧ second = .ok y ∧ x.exactlyEqual y = true) ∨
    (∃ fault fault', first = .error fault ∧ second = .error fault' ∧
      Wrapped.isOperation fault = true ∧ Wrapped.isOperation fault' = true)

/-- Scripts see why outcomes that agree fail. -/
theorem Agree.isOperation {first second : Outcome Value} {fault : Fault} (agree : Agree first second)
    (failed : first = .error fault) : Wrapped.isOperation fault = true := by
  rcases agree with ⟨_, _, answered, -⟩ | ⟨_, _, refused, -, sees, -⟩
  · cases failed.symm.trans answered
  · cases failed.symm.trans refused
    exact sees

/-- A known number that rounding takes above the greatest exponent. -/
def Overflows (value : Value) : Prop :=
  ∃ amount, value = .number amount ∧ amount.Overflows

/-! ### Signs -/

section Known

variable {amount opposite : Decimal}

theorem negate_of_ok (negated : amount.negate = .ok opposite) :
    negate (.number amount) = .ok (.number opposite) := by
  change ((amount.negate).mapError _).map Value.number = _
  rw [negated]
  rfl

theorem negate_of_error {signal : Signal} (signalled : amount.negate = .error signal) :
    negate (.number amount) = .error .exponentOverflow := by
  change ((amount.negate).mapError _).map Value.number = _
  rw [signalled]
  rfl

end Known

theorem ofNat_zero : ofNat 0 = .number .zero :=
  congrArg Value.number ((Decimal.denotes_ofInt 0).injective Decimal.denotes_zero)

/-- An operand that is refused is refused in any place. -/
theorem checkOperand_cases (value : Value) (want : Ty) :
    (value.type = want ∧ value.isNull = false ∧ ∀ index, value.checkOperand want index = .ok ()) ∨
      ∃ cause, ∀ index, value.checkOperand want index = .error (.argument index [] cause) := by
  unfold checkOperand
  by_cases typed : value.type = want
  · cases isNull : value.isNull with
    | true => exact .inr ⟨.null, fun index => by simp [typed]⟩
    | false => exact .inl ⟨typed, rfl, fun index => by simp [typed]⟩
  · exact .inr ⟨.typeRequired want, fun index => by simp [typed]⟩

/-- A number that is not null is known or unknown. -/
theorem eq_number_or_unknown {value : Value} (typed : value.type = .number) (present : value.isNull = false) :
    (∃ amount, value = .number amount) ∨ value = .unknown .number := by
  cases value with
  | number amount => exact .inl ⟨amount, rfl⟩
  | unknown ty => exact .inr (congrArg unknown typed)
  | null => cases present
  | _ => cases typed

theorem negate_of_refused {a : Value} {fault : Fault} (refused : a.checkOperand .number 0 = .error fault) :
    negate a = .error fault := by
  unfold negate
  rw [refused]
  rfl

theorem subtract_of_refused {a : Value} {fault : Fault} (refused : a.checkOperand .number 1 = .error fault)
    (x : Decimal) : subtract (.number x) a = .error fault := by
  change (a.checkOperand .number 1 >>= _) = _
  rw [refused]
  rfl

/-- The sign of a number is changed as it is subtracted from zero, or it overflows. -/
theorem negate_cases (a : Value) :
    (¬ a.Overflows ∧ Agree (negate a) (subtract (ofNat 0) a)) ∨
      (a.Overflows ∧ negate a = .error .exponentOverflow ∧
        subtract (ofNat 0) a = .error (.operation [] (.arithmetic .overflow))) := by
  rw [ofNat_zero]
  rcases checkOperand_cases a .number with ⟨typed, present, -⟩ | ⟨cause, refused⟩
  · obtain ⟨amount, rfl⟩ | rfl := eq_number_or_unknown typed present
    · have same := Decimal.zero_subtract amount
      rcases amount.negate_cases with ⟨fits, opposite, negated⟩ | ⟨overflows, overflow⟩
      · left
        constructor
        · rintro ⟨_, ⟨⟩, overflows⟩
          exact fits overflows
        · exact .inl ⟨.number opposite, .number opposite, negate_of_ok negated,
            arithmetic_of_ok (same.trans negated), decide_eq_true rfl⟩
      · exact .inr ⟨⟨amount, rfl, overflows⟩, negate_of_error overflow,
          arithmetic_of_error (same.trans overflow)⟩
    · left
      constructor
      · rintro ⟨_, ⟨⟩, -⟩
      · exact .inl ⟨.unknown .number, .unknown .number, rfl, rfl, rfl⟩
  · left
    constructor
    · rintro ⟨amount, rfl, -⟩
      exact nomatch refused 0
    · exact .inr ⟨_, _, negate_of_refused (refused 0), subtract_of_refused (refused 1) _, rfl, rfl⟩

/-! ### Other operations -/

/-- Where the checks of the operands are followed by an answer, scripts see why there is none. -/
theorem isOperation_of_checks {a b : Value} {want : Ty} {answer : Outcome Value} {fault : Fault}
    (answers : ∃ value, answer = .ok value)
    (failed : (a.checkOperand want 0 >>= fun _ => b.checkOperand want 1 >>= fun _ => answer) = .error fault) :
    Wrapped.isOperation fault = true := by
  obtain ⟨value, rfl⟩ := answers
  rcases Outcome.bind_eq_error.mp failed with first | ⟨_, -, rest⟩
  · exact isOperation_of_checkOperand first
  · rcases Outcome.bind_eq_error.mp rest with second | ⟨_, -, answered⟩
    · exact isOperation_of_checkOperand second
    · cases answered

theorem isOperation_of_comparison {amounts : Decimal → Decimal → Bool} {texts : String → String → Bool}
    {a b : Value} {fault : Fault} (failed : comparison amounts texts a b = .error fault) :
    Wrapped.isOperation fault = true := by
  simp only [comparison] at failed
  split at failed
  · cases failed
    rfl
  · refine isOperation_of_checks ?_ failed
    split <;> exact ⟨_, rfl⟩

theorem isOperation_of_join {a b : Value} {fault : Fault} (failed : join a b = .error fault) :
    Wrapped.isOperation fault = true := by
  refine isOperation_of_checks ?_ failed
  split <;> exact ⟨_, rfl⟩

theorem isOperation_of_yieldsAmount {outcome : Outcome Value} {fault : Fault} (yields : YieldsAmount outcome)
    (failed : outcome = .error fault) : Wrapped.isOperation fault = true := by
  rwa [failed] at yields

end Value

namespace Operation

/-- An operation fails with anything but a failure that scripts see exactly if it changes the sign of a number
    that overflows. -/
theorem escapes_iff (operation : Operation) (a b : Value) :
    (∃ fault, operation.onPair a b = .error fault ∧ Wrapped.isOperation fault = false) ↔
      operation = .negate ∧ a.Overflows := by
  constructor
  · rintro ⟨fault, failed, escapes⟩
    have hidden : ¬ Wrapped.isOperation fault = true := by simp [escapes]
    have arithmetic (operator : Arithmetic) (failed : operator.onValues a b = .error fault) : False :=
      hidden (Value.isOperation_of_yieldsAmount (operator.onValues_yieldsAmount a b) failed)
    cases operation with
    | add => exact (arithmetic .add failed).elim
    | subtract => exact (arithmetic .sub failed).elim
    | multiply => exact (arithmetic .mul failed).elim
    | divide => exact (arithmetic .div failed).elim
    | modulo => exact (arithmetic .mod failed).elim
    | lessThan | lessThanOrEqual => exact absurd (Value.isOperation_of_comparison failed) hidden
    | joinStrings => exact absurd (Value.isOperation_of_join failed) hidden
    | negate =>
        have negated : a.negate = .error fault := failed
        rcases a.negate_cases with ⟨-, agree⟩ | ⟨overflows, -⟩
        · exact absurd (agree.isOperation negated) hidden
        · exact ⟨rfl, overflows⟩
  · rintro ⟨rfl, overflows⟩
    rcases a.negate_cases with ⟨fits, -⟩ | ⟨-, negated, -⟩
    · exact absurd overflows fits
    · exact ⟨_, negated, rfl⟩

end Operation

namespace Value

/-- Changing the sign of a value and subtracting it from zero give equal values or are both refused, except for
    the numbers that rounding takes above the greatest exponent: these are not subtracted from zero, and the
    change of their sign, alone of all operations, fails with an overflow that scripts do not see. -/
theorem negate_agrees_iff (a : Value) :
    (Agree (negate a) (subtract (ofNat 0) a) ↔ ¬ a.Overflows) ∧
      (a.Overflows → negate a = .error .exponentOverflow ∧
        subtract (ofNat 0) a = .error (.operation [] (.arithmetic .overflow))) ∧
      ∀ (operation : Operation) (x y : Value),
        (∃ fault, operation.onPair x y = .error fault ∧ Wrapped.isOperation fault = false) ↔
          operation = .negate ∧ x.Overflows := by
  refine ⟨?_, ?_, Operation.escapes_iff⟩
  · rcases a.negate_cases with ⟨fits, agree⟩ | ⟨overflows, negated, -⟩
    · exact iff_of_true agree fits
    · exact iff_of_false (fun agree => nomatch agree.isOperation negated) (not_not.mpr overflows)
  · rcases a.negate_cases with ⟨fits, -⟩ | ⟨-, negated, subtracted⟩
    · exact fun overflows => absurd overflows fits
    · exact fun _ => ⟨negated, subtracted⟩

/-- The power of ten above the greatest exponent. -/
theorem negate_agrees_iff_beyond :
    (number (.ofParts 1 1000000)).Overflows ∧ negate (number (.ofParts 1 1000000)) = .error .exponentOverflow ∧
      subtract (ofNat 0) (number (.ofParts 1 1000000)) = .error (.operation [] (.arithmetic .overflow)) := by
  have overflow : (Decimal.ofParts 1 1000000).negate = .error .overflow := by decide +kernel
  have overflows : (number (.ofParts 1 1000000)).Overflows := by
    refine ⟨_, rfl, ?_⟩
    rcases (Decimal.ofParts 1 1000000).negate_cases with ⟨-, _, negated⟩ | ⟨overflows, -⟩
    · cases overflow.symm.trans negated
    · exact overflows
  exact ⟨overflows, (negate_agrees_iff _).2.1 overflows⟩

/-- Scripts do not see why the sign of that power of ten is not changed, but they see why it is not subtracted
    from zero. -/
theorem negate_disagrees :
    ¬ Agree (negate (number (.ofParts 1 1000000))) (subtract (ofNat 0) (number (.ofParts 1 1000000))) := by
  have overflow : (Decimal.ofParts 1 1000000).negate = .error .overflow := by decide +kernel
  exact fun agree => nomatch agree.isOperation (negate_of_error overflow)

end Value

end Crosswalk
