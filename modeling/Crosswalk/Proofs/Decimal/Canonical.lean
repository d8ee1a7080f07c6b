/-
Module: Crosswalk.Proofs.Decimal.Canonical
Purpose: A number has one text. Numbers of no more digits than the precision, within the limits of the exponent,
  are read from their texts as what they are, so different ones have different texts, however they are given.
Main exports: Numeral.write_canonical
-/
import Crosswalk.Proofs.Decimal.Writing
import Crosswalk.Proofs.Value.Widening

namespace Crosswalk.Numeral

open Decimal

/-- A precise number that is short is read from its text as what it is, also where values are converted to
    strings and back, and two of them have one text exactly if they are one number, whatever sign, coefficient
    and exponent they are given with. -/
theorem write_canonical {first second : Numeral} (precise : (ofNumeral first).Precise)
    (short : (ofNumeral first).IsShort) (others : (ofNumeral second).Precise)
    (othersShort : (ofNumeral second).IsShort) :
    (∃ text, first.write = .ok text ∧ (ofNumeral first).render = .ok text ∧
      parse text = .ok (ofNumeral first)) ∧
    (∃ text back, (Value.number (ofNumeral first)).convert .string = .ok text ∧
      text.convert .number = .ok back ∧ back.exactlyEqual (.number (ofNumeral first)) = true) ∧
    (first.write = second.write ↔ first.value = second.value) := by
  have rendered := render_of_precise precise short
  have written : first.write = .ok (ofNumeral first).format := (write_eq_render first).trans rendered
  obtain ⟨text, written', back, read, same⟩ := Value.roundTrips_number precise short
  refine ⟨⟨_, written, rendered, parse_format precise⟩, ⟨text, back, written', read, same⟩, ?_⟩
  constructor
  · intro sameText
    rw [write_eq_render, write_eq_render, rendered, render_of_precise others othersShort] at sameText
    have again := parse_format others
    rw [← Except.ok.inj sameText, parse_format precise] at again
    exact ofNumeral_eq_iff.mp (Except.ok.inj again)
  · intro sameValue
    rw [write_eq_render, write_eq_render, ofNumeral_eq_iff.mpr sameValue]

/-- A zero at the end makes no difference. -/
theorem write_canonical_oneAndAHalf :
    (ofNumeral ⟨true, 150, -2⟩).Precise ∧ (ofNumeral ⟨true, 150, -2⟩).IsShort ∧
      (⟨true, 150, -2⟩ : Numeral).write = (⟨true, 15, -1⟩ : Numeral).write := by
  have long : (ofNumeral ⟨true, 150, -2⟩).Precise :=
    precise_of_bounds (by decide +kernel) (by decide) (by decide +kernel)
  have same : ofNumeral ⟨true, 150, -2⟩ = ofNumeral ⟨true, 15, -1⟩ :=
    ofNumeral_eq_iff.mpr (by norm_num [value, signedCoefficient])
  have short : (ofNumeral ⟨true, 150, -2⟩).IsShort := isShort_iff.mpr fun whole => absurd whole (by decide +kernel)
  refine ⟨long, short, (write_canonical long short (same ▸ long) (same ▸ short)).2.2.mpr ?_⟩
  exact ofNumeral_eq_iff.mp same

end Crosswalk.Numeral
