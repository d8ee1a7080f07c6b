/-
Module: Crosswalk.Text.Ranges
Purpose: Sets of code points given by closed ranges, the form in which character properties are listed.
Main exports: Ranges, Ranges.contains
-/

namespace Crosswalk.Text

/-- A set of code points: the union of closed ranges from a first to a last code point. -/
abbrev Ranges := List (Nat × Nat)

/-- Membership of a code point in the union of the ranges. -/
def Ranges.contains (ranges : Ranges) (code : Nat) : Bool :=
  ranges.any fun range => range.1 ≤ code && code ≤ range.2

theorem Ranges.contains_iff {ranges : Ranges} {code : Nat} :
    ranges.contains code = true ↔ ∃ range ∈ ranges, range.1 ≤ code ∧ code ≤ range.2 := by
  simp [Ranges.contains]

end Crosswalk.Text
