/-
Module: Crosswalk.Proofs.Value.Unification
Purpose: Types come together as in a partial semilattice, and values follow their types. A value whose type is
  among several types converts to the type that they have in common. The one exception is a number that would
  have to be written and cannot be: it is whole and too long, or it is not whole, and rounding takes it above
  the greatest exponent.
Main exports: Decimal.unwritable_iff, Value.convertTo_eq_settle, Value.Resists, Ty.unify_partialSemilattice
-/
import Crosswalk.Proofs.Ty.Unification
import Crosswalk.Proofs.Value.Escape
import Crosswalk.Proofs.Value.Negation

namespace Crosswalk

namespace Decimal

/-! ### Numbers without a text -/

/-- Numbers that are not whole are rounded before they are written. -/
theorem render_eq_overflow_iff {amount : Decimal} :
    amount.render = .error .overflow ↔ amount.isInteger = false ∧ amount.Overflows := by
  cases amount with
  | infinity negative =>
      refine iff_of_false nofun ?_
      rintro ⟨_, exact, _, denotes, _⟩
      obtain ⟨_, _, _, isFinite, -⟩ := denotes.exists_finite
      cases isFinite
  | finite coefficient exponent canonical =>
      rw [render, isInteger]
      by_cases whole : 0 ≤ exponent
      · by_cases short : leading coefficient exponent < Text.mostDigits <;> simp [whole, short]
      · rcases rounded_cases (finite coefficient exponent canonical) with
          ⟨fits, result, rounded⟩ | ⟨overflows, overflow⟩
        · rw [show roundParts coefficient exponent = .ok result from rounded]
          simp [whole, fits]
        · rw [show roundParts coefficient exponent = .error .overflow from overflow]
          simp [whole, overflows]

/-- A number is not written if it is whole and too long, or if it is not whole and rounding it overflows. -/
theorem unwritable_iff {amount : Decimal} {fault : Fault} :
    amount.Unwritable fault ↔
      ¬ amount.IsShort ∧ fault = .invalid .tooManyDigits ∨
      amount.isInteger = false ∧ amount.Overflows ∧ fault = .exponentOverflow := by
  rw [← render_eq_tooLong_iff, ← and_assoc, ← render_eq_overflow_iff]
  constructor
  · rintro ⟨_ | _, failed, rfl⟩
    · exact .inl ⟨failed, rfl⟩
    · exact .inr ⟨failed, rfl⟩
  · rintro (⟨failed, rfl⟩ | ⟨failed, rfl⟩)
    · exact ⟨.tooLong, failed, rfl⟩
    · exact ⟨.overflow, failed, rfl⟩

end Decimal

namespace Value

/-! ### Values that follow their types -/

/-- A value whose type gives way to another one is converted to it in one step, as an element is that settles
    on the type of its siblings. -/
theorem convertTo_eq_settle {value : Value} {common : Ty} (gives : value.type.GivesWay common) :
    convertTo common value = settle common value := by
  rw [convertTo.eq_def, settle]
  split
  · rfl
  next differs =>
      simp only [Bool.or_eq_true, decide_eq_true_eq, not_or] at differs
      split
      · rfl
      next present =>
          rcases Ty.givesWay_iff.mp gives with dynamic | same | ⟨rfl, -⟩
          · exact absurd dynamic (type_ne_dynamic (Bool.eq_false_iff.mpr present))
          · exact absurd same differs.2
          · rfl

/-- A number that would become a text and cannot: it is whole and too long, or it is not whole, and rounding
    takes it above the greatest exponent. -/
def Resists (common : Ty) (value : Value) : Prop :=
  common = .string ∧ ∃ amount, value = .number amount ∧
    (¬ amount.IsShort ∨ amount.isInteger = false ∧ amount.Overflows)

/-- A value resists if it is a number that cannot be written. -/
theorem resists_iff {common : Ty} {value : Value} :
    value.Resists common ↔ common = .string ∧ ∃ amount fault, value = .number amount ∧ amount.Unwritable fault := by
  refine and_congr_right fun _ => exists_congr fun amount => ?_
  simp only [exists_and_left, Decimal.unwritable_iff, exists_or, exists_eq, and_true]

/-- A value converts to the type that its own has in common with others, unless it resists. -/
theorem converts_iff_not_resists {types : List Ty} {common : Ty} (found : Ty.unify types = some common)
    {value : Value} (member : value.type ∈ types) :
    (∃ result, value.convert common = .ok result) ↔ ¬ value.Resists common := by
  have oneStep : value.convert common = settle common value :=
    convertTo_eq_settle ((Ty.isCommon_of_unify found).above _ member)
  rw [oneStep]
  constructor
  · rintro ⟨result, settled⟩ resists
    obtain ⟨rfl, amount, fault, rfl, unwritable⟩ := resists_iff.mp resists
    cases (convertPrimitive_unwritable unwritable).symm.trans settled
  · intro follows
    cases settled : settle common value with
    | ok result => exact ⟨result, rfl⟩
    | error fault =>
        obtain ⟨isString, amount, isNumber, unwritable⟩ := settle_eq_error found member settled
        exact absurd (resists_iff.mpr ⟨isString, amount, fault, isNumber, unwritable⟩) follows

end Value

namespace Ty

/-- What types have in common is their least upper bound, in the order in which the dynamic type gives way to
    every type and a primitive one to string. So it depends on which types there are that are not dynamic; two
    groups of types have in common what their common types have in common, and nothing if one of the groups
    has nothing; and every type may convert to the common type, as every value of one of the types does that
    does not resist. -/
theorem unify_partialSemilattice (types others : List Ty) :
    (∀ common, unify types = some common ↔ IsCommon types common) ∧
    ((∀ ty, ty ≠ .dynamic → (ty ∈ types ↔ ty ∈ others)) → unify types = unify others) ∧
    unify (types ++ others) = merge (unify types) (unify others) ∧
    ∀ common, unify types = some common →
      (∀ ty ∈ types, ty.canConvert common = true) ∧
      ∀ value : Value, value.type ∈ types →
        ((∃ result, value.convert common = .ok result) ↔ ¬ value.Resists common) := by
  refine ⟨fun common => unify_eq_some_iff, unify_congr, unify_append types others, fun common found => ⟨?_, ?_⟩⟩
  · exact fun ty member => ((isCommon_of_unify found).above ty member).canConvert
  · exact fun value member => Value.converts_iff_not_resists found member

/-- Numbers and truth values come together at string, whatever the order and the dynamic types between them, and
    a number converts to it. -/
theorem unify_partialSemilattice_mixed :
    unify [.number, .dynamic, .bool] = unify [.bool, .number, .bool] ∧
      unify [.number, .dynamic, .bool] = some .string ∧
      ∃ text, (Value.number (.ofParts 15 (-1))).convert .string = .ok text := by
  have mixed := unify_partialSemilattice [.number, .dynamic, .bool] [.bool, .number, .bool]
  have found : unify [.number, .dynamic, .bool] = some .string := by decide
  refine ⟨mixed.2.1 fun ty determined => ?_, found, ?_⟩
  · cases ty <;> simp_all
  · refine ((mixed.2.2.2 .string found).2 (.number (.ofParts 15 (-1))) List.mem_cons_self).mpr ?_
    rw [Value.resists_iff]
    rintro ⟨-, amount, fault, isNumber, unwritable⟩
    obtain rfl := Value.number.inj isNumber
    exact Decimal.not_unwritable (Decimal.render_ofParts (by decide +kernel)) fault unwritable

/-- Numbers and truth values come together at string, but not every number converts to it. -/
theorem convert_beyondWriting :
    unify [.number, .bool] = some .string ∧ (Value.number .beyondWriting).type ∈ [Ty.number, Ty.bool] ∧
      (Value.number .beyondWriting).convert .string = .error .exponentOverflow :=
  ⟨by decide, List.mem_cons_self,
    Value.convertPrimitive_unwritable ⟨.overflow, Decimal.render_beyondWriting, rfl⟩⟩

end Ty

end Crosswalk
