/-
Module: Crosswalk.Text.Normal
Purpose: Canonical composition of texts. Texts that differ only in the spelling of accented characters
  become the same text: characters are decomposed, combining marks are put into canonical order, and
  starters are composed with the marks that are not blocked from them.
Main exports: decompose, order, compose, normalize
-/
import Crosswalk.Text.Normal.Table

namespace Crosswalk.Text

namespace Normal

/-! ### Hangul syllables

A precomposed syllable stands for a leading consonant, a vowel and perhaps a trailing consonant. The
syllables fill a block in the order of these parts, so both directions are arithmetic. -/

/-- The first precomposed syllable. -/
def syllableBase : Nat := 0xAC00
/-- The first leading consonant. -/
def leadingBase : Nat := 0x1100
/-- The first vowel. -/
def vowelBase : Nat := 0x1161
/-- The code point before the first trailing consonant. -/
def trailingBase : Nat := 0x11A7
/-- The number of leading consonants. -/
def leadingCount : Nat := 19
/-- The number of vowels. -/
def vowelCount : Nat := 21
/-- The number of trailing consonants, the absent one included. -/
def trailingCount : Nat := 28
/-- The number of precomposed syllables. -/
def syllableCount : Nat := leadingCount * vowelCount * trailingCount

/-- The parts of a precomposed syllable. -/
def syllableParts? (code : Nat) : Option (List Nat) :=
  if syllableBase ≤ code && code < syllableBase + syllableCount then
    let index := code - syllableBase
    let leading := leadingBase + index / (vowelCount * trailingCount)
    let vowel := vowelBase + index % (vowelCount * trailingCount) / trailingCount
    let trailing := index % trailingCount
    some (if trailing = 0 then [leading, vowel] else [leading, vowel, trailingBase + trailing])
  else none

/-- The syllable that two adjacent parts form: a consonant and a vowel, or a syllable without a trailing
    consonant and one. -/
def syllable? (first second : Nat) : Option Nat :=
  if leadingBase ≤ first && first < leadingBase + leadingCount
      && vowelBase ≤ second && second < vowelBase + vowelCount then
    some (syllableBase
      + ((first - leadingBase) * vowelCount + (second - vowelBase)) * trailingCount)
  else if syllableBase ≤ first && first < syllableBase + syllableCount
      && (first - syllableBase) % trailingCount = 0
      && trailingBase < second && second < trailingBase + trailingCount then
    some (first + (second - trailingBase))
  else none

/-! ### Decomposition -/

/-- The single character that a code point decomposes to, looked up in the runs. -/
def singleton? (code : Nat) : Option (List Nat) :=
  singletonRuns.findSome? fun (first, members) =>
    if first ≤ code then (members[code - first]?).map ([·]) else none

/-- The full canonical decomposition of a code point. -/
def parts (code : Nat) : List Nat :=
  match syllableParts? code with
  | some found => found
  | none =>
    match decompositions.lookup code with
    | some found => found
    | none => (singleton? code).getD [code]

/-- Every character replaced by its full canonical decomposition. -/
def decompose (text : List Nat) : List Nat :=
  text.flatMap parts

/-! ### Canonical order -/

/-- The canonical combining class: zero for a starter. -/
def combiningClass (code : Nat) : Nat :=
  (combiningClasses.findSome? fun (first, last, value) =>
    if first ≤ code && code ≤ last then some value else none).getD 0

/-- Puts a character before an ordered text: a mark moves behind the marks of lower classes, and never
    past a starter. -/
def place (code : Nat) : List Nat → List Nat
  | [] => [code]
  | next :: rest =>
    if combiningClass next ≠ 0 && combiningClass next < combiningClass code
    then next :: place code rest
    else code :: next :: rest

/-- Every run of combining marks sorted by class; marks of one class keep their order. -/
def order : List Nat → List Nat
  | [] => []
  | code :: rest => place code (order rest)

/-! ### Composition -/

/-- The primary composite of two characters. -/
def composite? (first second : Nat) : Option Nat :=
  match syllable? first second with
  | some found => some found
  | none => composites.findSome? fun (a, b, whole) =>
      if a = first ∧ b = second then some whole else none

/-- Composition of the rest of a text with the last `starter` before it and the `marks` kept between
    them, the nearest first. A character is blocked from the starter when a mark between them has a
    class that is not lower than its own. -/
def composeFrom (starter : Nat) (marks : List Nat) : List Nat → List Nat
  | [] => starter :: marks.reverse
  | code :: rest =>
    let blocked := match marks with
      | [] => false
      | nearest :: _ => combiningClass code ≤ combiningClass nearest
    match if blocked then none else composite? starter code with
    | some whole => composeFrom whole marks rest
    | none =>
      if combiningClass code = 0 then starter :: marks.reverse ++ composeFrom code [] rest
      else composeFrom starter (code :: marks) rest

/-- Composition of an ordered text. Marks before the first starter stay as they are. -/
def compose : List Nat → List Nat
  | [] => []
  | code :: rest =>
    if combiningClass code = 0 then composeFrom code [] rest else code :: compose rest

/-- No character below this one takes part in a composition, decomposes under composition, or has a
    combining class. -/
def firstMark : Nat := 0x300

end Normal

/-- The canonically composed form of a text. A text of characters below the first combining mark is in
    that form already. -/
def normalize (text : String) : String :=
  if text.toList.all fun c => c.toNat < Normal.firstMark then text
  else String.ofList ((Normal.compose (Normal.order (Normal.decompose
    (text.toList.map Char.toNat)))).map Char.ofNat)

example : normalize "e\u0301" = "é" := by decide +kernel
example : normalize "q\u0307\u0323" = "q\u0323\u0307" := by decide +kernel
example : normalize "\u1100\u1161\u11A8" = "각" := by decide +kernel

end Crosswalk.Text
