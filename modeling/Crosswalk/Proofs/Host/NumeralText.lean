/-
Module: Crosswalk.Proofs.Host.NumeralText
Purpose: Which texts a host reads as numbers. Without the blanks around it and in small letters, the text must be
  a decimal numeral, or a sign that may be absent, `0x` and hexadecimal digits, in either case with digits of any
  script. What structural values read as a number a host reads as well. A hexadecimal numeral beyond the doubles
  is refused with a failure of its own.
Main exports: Text.lower_eq_flatMap, Text.lower_noCapital, Binary64.SpellsHexadecimal, Binary64.IsNumeral,
  Binary64.isHexadecimal_iff_spells, Binary64.parse_accepts_iff
-/
import Crosswalk.Proofs.Decimal.Grammar
import Crosswalk.Proofs.Host.NativeArithmetic
import Crosswalk.Proofs.Host.WholeText
import Mathlib.Data.Nat.Digits.Defs

namespace Crosswalk

/-! ### Small letters -/

namespace Text

/-- Ranges of code points that no block of decimal digits meets. -/
def avoidsDigits (ranges : Ranges) : Bool :=
  digitZeros.all fun origin => ranges.all fun range => range.2 < origin || origin + 10 ≤ range.1

theorem not_contains_of_isDigit (ranges : Ranges) (avoids : avoidsDigits ranges = true) {c : Char}
    (digit : isDigit c = true) : ranges.contains c.toNat = false := by
  obtain ⟨value, found⟩ := Option.isSome_iff_exists.mp digit
  obtain ⟨origin, member, block⟩ := List.exists_of_findSome?_eq_some found
  split at block
  next inBlock =>
      by_contra inRange
      obtain ⟨range, inRanges, bounds⟩ := Ranges.contains_iff.mp (by simpa using inRange)
      have apart := List.all_eq_true.mp (List.all_eq_true.mp avoids origin member) range inRanges
      simp only [Bool.and_eq_true, Bool.or_eq_true, decide_eq_true_eq] at inBlock apart
      omega
  next => cases block

/-- The code points that runs of a mapping span. -/
def Case.spans (runs : List (Nat × Nat × Nat × Int)) : Ranges :=
  runs.map fun run => (run.1, run.2.1)

/-- Outside of the runs there is no mapping. -/
theorem Case.mapped?_of_not_contains {runs : List (Nat × Nat × Nat × Int)} {code : Nat}
    (outside : (spans runs).contains code = false) : mapped? runs code = none := by
  rw [mapped?, List.findSome?_eq_none_iff]
  rintro ⟨first, last, stride, difference⟩ member
  have notWithin : ¬(first ≤ code ∧ code ≤ last) := fun within => by
    have spanned := List.mem_map_of_mem (f := fun run => (run.1, run.2.1)) member
    exact absurd (outside.symm.trans (Ranges.contains_iff.mpr ⟨_, spanned, within⟩)) nofun
  refine if_neg fun inRun => notWithin ?_
  simp only [Bool.and_eq_true, decide_eq_true_eq] at inRun
  exact inRun.1

/-- A digit of any script is its own small form, and no blank. -/
theorem isDigit_unchanged {c : Char} (digit : isDigit c = true) : isBlank c = false ∧ IsSmall c := by
  have notMapped := Case.mapped?_of_not_contains
    (not_contains_of_isDigit (Case.spans Case.lowerRuns) (by decide +kernel) digit)
  have special := not_contains_of_isDigit [(0x130, 0x130), (0x3A3, 0x3A3)] (by decide +kernel) digit
  refine ⟨not_contains_of_isDigit _ (by decide +kernel) digit, ?_, ?_⟩
  · rintro rfl
    exact absurd special (by decide)
  · have notExpanded : Case.expansion? Case.lowerExpansions c.toNat = none := by
      simp only [Ranges.contains, List.any_cons, List.any_nil, Bool.or_false, Bool.or_eq_false_iff,
        Bool.and_eq_false_iff, decide_eq_false_iff_not] at special
      have other : c.toNat ≠ 0x130 := by omega
      simp [Case.expansion?, Case.lowerExpansions, List.lookup_cons, beq_eq_false_iff_ne.mpr other]
    rw [Case.mapChar, notExpanded, notMapped]

/-- Without a capital sigma every character has its own small form, whatever stands beside it. -/
theorem lower_eq_flatMap {text : List Char} (noSigma : 'Σ' ∉ text) :
    lower text = text.flatMap (Case.mapChar Case.lowerExpansions Case.lowerRuns) := by
  have mapped (before : List Char) :
      Case.lowerFrom before text = text.flatMap (Case.mapChar Case.lowerExpansions Case.lowerRuns) := by
    induction text generalizing before with
    | nil => rfl
    | cons c rest ih =>
        rw [List.mem_cons, not_or] at noSigma
        rw [Case.lowerFrom, if_neg (Ne.symm noSigma.1), ih noSigma.2, List.flatMap_cons]
  exact mapped []

theorem flatMap_of_isSmall {text : List Char} (small : ∀ c ∈ text, IsSmall c) :
    text.flatMap (Case.mapChar Case.lowerExpansions Case.lowerRuns) = text := by
  rw [← lower_eq_flatMap fun sigma => (small _ sigma).1 rfl, lower_of_isSmall small]

/-- A capital letter of ASCII. -/
def IsCapital (c : Char) : Prop :=
  65 ≤ c.toNat ∧ c.toNat ≤ 90

/-- A code is that of its character, unless no character has it. -/
theorem toNat_ofNat_eq (code : Nat) : (Char.ofNat code).toNat = code ∨ (Char.ofNat code).toNat = 0 := by
  by_cases valid : code.isValidChar
  · exact .inl (toNat_ofNat valid)
  · rw [Char.ofNat, dif_neg valid]
    exact .inr rfl

/-- A mapping whose images are no capitals gives none. -/
theorem not_isCapital_of_mapped? {c : Char} {code : Nat} (found : Case.mapped? Case.lowerRuns code = some c) :
    ¬IsCapital c := by
  have images : ∀ run ∈ Case.lowerRuns, (run.2.1 : Int) + run.2.2.2 < 65 ∨ 90 < (run.1 : Int) + run.2.2.2 := by
    decide +kernel
  obtain ⟨⟨first, last, stride, difference⟩, member, mapped⟩ := List.exists_of_findSome?_eq_some found
  have image := images _ member
  dsimp only at mapped image
  split at mapped
  next inRun =>
      simp only [Bool.and_eq_true, decide_eq_true_eq] at inRun
      have place := toNat_ofNat_eq ((code : Int) + difference).toNat
      rw [Option.some.inj mapped] at place
      unfold IsCapital
      omega
  next => cases mapped

theorem not_isCapital_of_mapChar {c d : Char} (member : d ∈ Case.mapChar Case.lowerExpansions Case.lowerRuns c) :
    ¬IsCapital d := by
  unfold Case.mapChar at member
  split at member
  next mappedTo expanded =>
      obtain ⟨codes, found, rfl⟩ := Option.map_eq_some_iff.mp expanded
      have listed : ∀ entry ∈ Case.lowerExpansions, ∀ code ∈ entry.2,
          ¬(65 ≤ (Char.ofNat code).toNat ∧ (Char.ofNat code).toNat ≤ 90) := by decide
      obtain ⟨code, inCodes, rfl⟩ := List.mem_map.mp member
      exact listed _ (mem_of_lookup found) code inCodes
  next =>
      split at member
      next mappedTo found => exact List.mem_singleton.mp member ▸ not_isCapital_of_mapped? found
      next missing =>
          -- capitals are mapped, to small letters
          have capitals : ∀ code < 91, 65 ≤ code → Case.mapped? Case.lowerRuns code ≠ none := by decide +kernel
          rw [List.mem_singleton.mp member]
          exact fun capital => capitals c.toNat (Nat.lt_succ_of_le capital.2) capital.1 missing

/-- Small letters are no capitals of ASCII. -/
theorem lower_noCapital (text : List Char) : ∀ c ∈ lower text, ¬IsCapital c := by
  have from_noCapital (before : List Char) : ∀ c ∈ Case.lowerFrom before text, ¬IsCapital c := by
    induction text generalizing before with
    | nil => exact List.forall_mem_nil _
    | cons first rest ih =>
        rw [Case.lowerFrom]
        refine List.forall_mem_append.mpr ⟨?_, ih (first :: before)⟩
        split
        next =>
            rw [Case.smallSigma]
            split <;> simp [IsCapital]
        next => exact fun c member => not_isCapital_of_mapChar member
  exact from_noCapital []

end Text

/-! ### Decimal numerals -/

namespace Numeral

open Text

/-- The characters of signs and mantissas, which have no other forms. -/
def IsPlain (c : Char) : Prop :=
  isDigit c = true ∨ c ∈ ['+', '-', '.']

theorem IsPlain.unchanged {c : Char} (plain : IsPlain c) : isBlank c = false ∧ IsSmall c := by
  rcases plain with digit | mark
  · exact isDigit_unchanged digit
  · simp only [List.mem_cons, List.not_mem_nil, or_false] at mark
    rcases mark with rfl | rfl | rfl <;> exact ⟨by decide, by decide, by decide +kernel⟩

theorem AllDigits.plain {digits : List Char} (run : AllDigits digits) : ∀ c ∈ digits, IsPlain c :=
  fun c member => .inl (run c member)

theorem IsSign.plain {sign : List Char} {negative : Bool} (isSign : IsSign sign negative) :
    ∀ c ∈ sign, IsPlain c := by
  cases isSign with
  | absent => exact List.forall_mem_nil _
  | plus | minus => simp [IsPlain]

theorem IsMantissa.plain {mantissa whole fraction : List Char} (isMantissa : IsMantissa mantissa whole fraction) :
    ∀ c ∈ mantissa, IsPlain c := by
  have point : IsPlain '.' := .inr (by decide)
  cases isMantissa with
  | whole _ run => exact run.plain
  | pointed _ run further =>
      exact List.forall_mem_append.mpr ⟨run.plain, List.forall_mem_cons.mpr ⟨point, further.plain⟩⟩
  | fraction _ run => exact List.forall_mem_cons.mpr ⟨point, run.plain⟩

/-- An exponent in small letters is the same exponent. -/
theorem IsScale.small {scale : List Char} {exponent : Int} (isScale : IsScale scale exponent) :
    IsScale (scale.flatMap (Case.mapChar Case.lowerExpansions Case.lowerRuns)) exponent := by
  cases isScale with
  | absent => exact .absent
  | @power letter sign digits negative isLetter isSign nonempty run =>
      have small : Case.mapChar Case.lowerExpansions Case.lowerRuns letter = ['e'] := by
        rcases isLetter with rfl | rfl <;> decide +kernel
      have rest : ∀ c ∈ sign ++ digits, IsSmall c := fun c member =>
        ((List.forall_mem_append.mpr ⟨isSign.plain, run.plain⟩) c member).unchanged.2
      rw [List.flatMap_cons, small, flatMap_of_isSmall rest]
      exact .power (.inl rfl) isSign nonempty run

/-- A numeral holds no blanks and no sigma. -/
theorem Spells.notBlank {text : List Char} {q : ℚ} (spells : Spells text q) :
    ∀ c ∈ text, isBlank c = false ∧ c ≠ 'Σ' := by
  have plain {c : Char} (plain : IsPlain c) : isBlank c = false ∧ c ≠ 'Σ' :=
    ⟨plain.unchanged.1, plain.unchanged.2.1⟩
  obtain ⟨isSign, isMantissa, isScale⟩ := spells
  refine List.forall_mem_append.mpr ⟨fun c member => plain (isSign.plain c member),
    List.forall_mem_append.mpr ⟨fun c member => plain (isMantissa.plain c member), ?_⟩⟩
  cases isScale with
  | absent => exact List.forall_mem_nil _
  | power isLetter isSign _ run =>
      refine List.forall_mem_cons.mpr ⟨?_, fun c member => plain ?_⟩
      · rcases isLetter with rfl | rfl <;> decide
      · exact (List.forall_mem_append.mpr ⟨isSign.plain, run.plain⟩) c member

/-- A numeral is the same numeral in small letters. -/
theorem Spells.lower_strip {text : List Char} {q : ℚ} (spells : Spells text q) : Spells (lower (strip text)) q := by
  rw [strip_of_notBlank fun c member => (spells.notBlank c member).1,
    lower_eq_flatMap fun sigma => (spells.notBlank _ sigma).2 rfl]
  obtain ⟨isSign, isMantissa, isScale⟩ := spells
  rw [List.flatMap_append, List.flatMap_append,
    flatMap_of_isSmall fun c member => (isSign.plain c member).unchanged.2,
    flatMap_of_isSmall fun c member => (isMantissa.plain c member).unchanged.2]
  exact .parts isSign isMantissa isScale.small

/-- A text that starts like a hexadecimal numeral is no decimal one. -/
theorem not_spells_of_hexadecimal {text digits : List Char} (spelt : (takeSign text).2 = '0' :: 'x' :: digits) (q : ℚ) :
    ¬Spells text q := by
  rintro ⟨isSign, isMantissa, isScale⟩
  have behind := (isMantissa.takes isScale).2
  rw [isMantissa.takes_sign isSign] at spelt
  rw [show _ ++ _ = '0' :: 'x' :: digits from spelt] at behind
  -- behind the digit zero an exponent would have to start with the letter x
  obtain rfl : 'x' :: digits = _ := congrArg Prod.snd behind
  cases isScale with
  | power isLetter => exact absurd isLetter (by decide)

end Numeral

/-! ### Hexadecimal numerals -/

namespace Binary64

open Text Numeral

/-- A hexadecimal digit and its value: a decimal digit of any script, or a letter from a to f. -/
inductive IsHexadecimalDigit : Char → Nat → Prop
  | digit {c : Char} {value : Nat} (isDigit : digitValue? c = some value) : IsHexadecimalDigit c value
  | letter {c : Char} (first : 'a' ≤ c) (last : c ≤ 'f') : IsHexadecimalDigit c (10 + (c.toNat - 'a'.toNat))

/-- A text in small letters is a hexadecimal numeral, and the number that it denotes: an optional sign, `0x` and
    digits, whose values are given from the last digit on. The sign is not part of the number. -/
inductive SpellsHexadecimal : List Char → Nat → Prop
  | parts {sign digits : List Char} {negative : Bool} {values : List Nat} (isSign : IsSign sign negative)
      (nonempty : digits ≠ []) (each : List.Forall₂ IsHexadecimalDigit digits.reverse values) :
      SpellsHexadecimal (sign ++ '0' :: 'x' :: digits) (Nat.ofDigits 16 values)

theorem hexadecimalValue?_eq_some_iff {c : Char} {value : Nat} :
    hexadecimalValue? c = some value ↔ IsHexadecimalDigit c value := by
  constructor
  · intro found
    unfold hexadecimalValue? at found
    split at found
    next digit => exact Option.some.inj found ▸ .digit digit
    next =>
        split at found
        next bounds =>
            rw [← Option.some.inj found, Nat.add_comm]
            exact .letter bounds.1 bounds.2
        next => cases found
  · rintro (digit | ⟨first, last⟩)
    · rw [hexadecimalValue?, digit]
    · have noDigit : digitValue? c = none := by
        -- no block of digits meets the letters
        have apart := not_contains_of_isDigit [('a'.toNat, 'f'.toNat)] (by decide) (c := c)
        have within : Ranges.contains [('a'.toNat, 'f'.toNat)] c.toNat = true :=
          Ranges.contains_iff.mpr ⟨_, List.mem_singleton_self _, first, last⟩
        by_contra present
        exact absurd (within.symm.trans (apart (Option.isSome_iff_ne_none.mpr present))) nofun
      rw [hexadecimalValue?, noDigit, if_pos ⟨first, last⟩, Nat.add_comm]

/-- Digits are read one after another, and each is worth sixteen times the one behind it. -/
theorem hexadecimal?_eq_some_iff {digits : List Char} {n : Nat} :
    hexadecimal? digits = some n ↔
      ∃ values, List.Forall₂ IsHexadecimalDigit digits.reverse values ∧ n = Nat.ofDigits 16 values := by
  induction digits using List.reverseRecOn generalizing n with
  | nil => simp [hexadecimal?, eq_comm]
  | append_singleton digits last ih =>
      have shift : hexadecimal? (digits ++ [last]) =
          (hexadecimal? digits).bind fun high => (hexadecimalValue? last).map (16 * high + ·) := by
        rw [hexadecimal?, List.foldlM_append]
        simp [hexadecimal?]
      rw [shift, Option.bind_eq_some_iff, List.reverse_concat]
      constructor
      · rintro ⟨high, before, sum⟩
        obtain ⟨values, each, rfl⟩ := ih.mp before
        obtain ⟨value, isDigit, rfl⟩ := Option.map_eq_some_iff.mp sum
        refine ⟨value :: values, .cons (hexadecimalValue?_eq_some_iff.mp isDigit) each, ?_⟩
        rw [Nat.ofDigits_cons, Nat.add_comm]
      · rintro ⟨values, each, rfl⟩
        obtain ⟨⟩ | ⟨isDigit, each⟩ := each
        refine ⟨_, ih.mpr ⟨_, each, rfl⟩, ?_⟩
        rw [hexadecimalValue?_eq_some_iff.mpr isDigit, Nat.ofDigits_cons, Nat.add_comm]
        rfl

/-- What is read as a hexadecimal numeral is one. -/
theorem isHexadecimal_iff_spells {text : String} {n : Nat} :
    IsHexadecimal text n ↔ SpellsHexadecimal (lower (strip text.toList)) n := by
  generalize spelt : lower (strip text.toList) = body
  unfold IsHexadecimal
  rw [spelt]
  constructor
  · rintro ⟨digits, behind, nonempty, value⟩
    obtain ⟨values, each, rfl⟩ := hexadecimal?_eq_some_iff.mp value
    obtain ⟨sign, isSign, parts⟩ := isSign_of_takeSign body
    rw [parts, behind]
    exact .parts isSign nonempty each
  · rintro ⟨isSign, nonempty, each⟩
    exact ⟨_, congrArg Prod.snd (isSign.takes rfl), nonempty, hexadecimal?_eq_some_iff.mpr ⟨_, each, rfl⟩⟩

/-- A whole number rounds to an infinity from half a unit in the last place above the greatest double on. -/
theorem overflowThreshold_le_iff {n : Nat} : overflowThreshold ≤ n * one ↔ twoPow 1024 - twoPow 970 ≤ n := by
  have threshold : overflowThreshold = (twoPow 1024 - twoPow 970) * one := by
    unfold one unitExponent
    rw [Nat.sub_mul, ← twoPow_add, ← twoPow_add, overflowThreshold, limit]
  rw [threshold]
  exact Nat.mul_le_mul_right_iff (twoPow_pos _)

theorem IsHexadecimal.unique {text : String} {m n : Nat} (first : IsHexadecimal text m)
    (second : IsHexadecimal text n) : m = n := by
  obtain ⟨digits, spelt, -, value⟩ := first
  exact Option.some.inj (value.symm.trans ((isHexadecimal_iff spelt).mp second).2)

/-- A text that starts like a hexadecimal numeral is passed over exactly if it is none. -/
theorem parse_eq_none_iff_of_hexadecimal {text : String} {digits : List Char}
    (spelt : (takeSign (lower (strip text.toList))).2 = '0' :: 'x' :: digits) :
    parse text = .ok none ↔ ∀ n, ¬IsHexadecimal text n := by
  -- a name for the rounding keeps the case splits from unfolding the number of units
  obtain ⟨rounded, eq_rounded⟩ : ∃ rounded : Bool → Nat → Binary64,
      ∀ negative n, ofUnits negative (n * one) 1 = rounded negative n := ⟨_, fun _ _ => rfl⟩
  obtain ⟨answer, parsed⟩ : ∃ answer, parse text = answer := ⟨_, rfl⟩
  simp only [isHexadecimal_iff spelt, not_and]
  rw [parsed]
  unfold parse at parsed
  extract_lets body at parsed
  split at parsed
  next negative unsigned signed =>
  obtain rfl : unsigned = '0' :: 'x' :: digits := (congrArg Prod.snd signed).symm.trans spelt
  simp only [eq_rounded] at parsed
  split at parsed
  next empty => exact iff_of_true parsed.symm fun n nonempty => absurd (List.isEmpty_iff.mp empty) nonempty
  next nonempty =>
      split at parsed
      next noNumber => exact iff_of_true parsed.symm fun n _ value => absurd (noNumber.symm.trans value) nofun
      next n value =>
          refine iff_of_false ?_ fun none => none n (by simpa using nonempty) value
          split at parsed <;> simp [← parsed]

/-! ### Numerals -/

/-- A text without blanks around it and in small letters is a numeral of a host: a decimal numeral, or a
    hexadecimal one that rounds to a double. -/
inductive IsNumeral : List Char → Prop
  | decimal {text : List Char} {q : ℚ} (spells : Spells text q) : IsNumeral text
  | hexadecimal {text : List Char} {n : Nat} (spells : SpellsHexadecimal text n)
      (within : n < twoPow 1024 - twoPow 970) : IsNumeral text

/-- A text is passed over exactly if it is no numeral of either kind. -/
theorem parse_eq_none_iff {text : String} :
    parse text = .ok none ↔ (∀ q, ¬Spells (lower (strip text.toList)) q) ∧ ∀ n, ¬IsHexadecimal text n := by
  by_cases hasPrefix : HasHexadecimalPrefix text
  · obtain ⟨digits, spelt⟩ := hasPrefix
    rw [parse_eq_none_iff_of_hexadecimal spelt]
    exact (and_iff_right (not_spells_of_hexadecimal spelt)).symm
  · have notHexadecimal (n : Nat) : ¬IsHexadecimal text n := fun ⟨digits, spelt, _⟩ => hasPrefix ⟨digits, spelt⟩
    rw [and_iff_left notHexadecimal, parse_of_not_hexadecimal hasPrefix, Except.ok.injEq, Option.map_eq_none_iff]
    constructor
    · intro unread q spells
      obtain ⟨numeral, found, -⟩ := spells_iff.mp spells
      exact absurd (unread.symm.trans found) nofun
    · intro noNumeral
      by_contra present
      obtain ⟨numeral, found⟩ := Option.ne_none_iff_exists'.mp present
      exact noNumeral _ (spells_of_ofChars? found)

/-- A decimal numeral is no hexadecimal one. -/
theorem not_isHexadecimal_of_spells {text : String} {q : ℚ} (spells : Spells (lower (strip text.toList)) q)
    (n : Nat) : ¬IsHexadecimal text n :=
  fun ⟨_, spelt, _⟩ => not_spells_of_hexadecimal spelt q spells

/-- A text that is neither refused nor passed over is read as a number. -/
theorem exists_parse_iff {text : String} :
    (∃ x, parse text = .ok (some x)) ↔ parse text ≠ .error {} ∧ parse text ≠ .ok none := by
  rcases parse text with ⟨⟨⟩⟩ | _ | x <;> simp

/-- A host reads a text as a number exactly if, without the blanks around it and in small letters, it is a
    decimal numeral or a hexadecimal one that rounds to a double; it fails exactly on the hexadecimal numerals
    beyond the doubles; and it passes over a text that is a numeral of neither kind. In small letters there are
    no capitals, so an exponent stands behind a small e. Whatever structural values read as a number, a host
    reads as one. -/
theorem parse_accepts_iff (text : String) :
    ((∃ x, parse text = .ok (some x)) ↔ IsNumeral (lower (strip text.toList))) ∧
    (parse text = .error {} ↔
      ∃ n, SpellsHexadecimal (lower (strip text.toList)) n ∧ twoPow 1024 - twoPow 970 ≤ n) ∧
    (parse text = .ok none ↔
      (∀ q, ¬Spells (lower (strip text.toList)) q) ∧ ∀ n, ¬SpellsHexadecimal (lower (strip text.toList)) n) ∧
    (∀ c ∈ lower (strip text.toList), ¬IsCapital c) ∧
    ∀ amount, Decimal.parse text = .ok amount → ∃ x, parse text = .ok (some x) := by
  have refused : parse text = .error {} ↔
      ∃ n, SpellsHexadecimal (lower (strip text.toList)) n ∧ twoPow 1024 - twoPow 970 ≤ n := by
    simp only [parse_eq_error_iff, isHexadecimal_iff_spells, overflowThreshold_le_iff]
  have passed : parse text = .ok none ↔
      (∀ q, ¬Spells (lower (strip text.toList)) q) ∧ ∀ n, ¬SpellsHexadecimal (lower (strip text.toList)) n := by
    simp only [parse_eq_none_iff, isHexadecimal_iff_spells]
  have accepted : (∃ x, parse text = .ok (some x)) ↔ IsNumeral (lower (strip text.toList)) := by
    rw [exists_parse_iff, ne_eq, ne_eq, refused, passed]
    constructor
    · rintro ⟨notRefused, notPassed⟩
      by_cases decimal : ∃ q, Spells (lower (strip text.toList)) q
      · obtain ⟨q, spells⟩ := decimal
        exact .decimal spells
      · have notDecimal := not_exists.mp decimal
        obtain ⟨n, spells⟩ := not_forall_not.mp fun noNumeral => notPassed ⟨notDecimal, noNumeral⟩
        exact .hexadecimal spells (not_le.mp fun beyond => notRefused ⟨n, spells, beyond⟩)
    · rintro (spells | ⟨spells, within⟩)
      · refine ⟨fun ⟨n, isHexadecimal, _⟩ => ?_, fun none => none.1 _ spells⟩
        exact not_isHexadecimal_of_spells spells n (isHexadecimal_iff_spells.mpr isHexadecimal)
      · refine ⟨fun ⟨m, other, beyond⟩ => ?_, fun none => none.2 _ spells⟩
        have same := (isHexadecimal_iff_spells.mpr spells).unique (isHexadecimal_iff_spells.mpr other)
        omega
  refine ⟨accepted, refused, passed, lower_noCapital _, fun amount reads => accepted.mpr ?_⟩
  cases found : ofChars? text.toList with
  | none =>
      rw [Decimal.parse, found] at reads
      dsimp only at reads
      split at reads <;> cases reads
  | some numeral => exact .decimal (spells_of_ofChars? found).lower_strip

/-- Digits f behind `0x` are a hexadecimal numeral. -/
theorem isHexadecimal_replicate (k : Nat) :
    IsHexadecimal (String.ofList ('0' :: 'x' :: List.replicate (k + 1) 'f'))
      (Nat.ofDigits 16 (List.replicate (k + 1) 15)) := by
  have unchanged : ∀ c ∈ '0' :: 'x' :: List.replicate (k + 1) 'f', isBlank c = false ∧ IsSmall c := by
    intro c member
    have listed : c = '0' ∨ c = 'x' ∨ c = 'f' := by simpa [List.mem_replicate] using member
    rcases listed with rfl | rfl | rfl <;> exact ⟨by decide, by decide, by decide +kernel⟩
  have each (k : Nat) : List.Forall₂ IsHexadecimalDigit (List.replicate k 'f') (List.replicate k 15) := by
    induction k with
    | zero => exact .nil
    | succ k ih => exact .cons (.letter (by decide) (by decide)) ih
  rw [isHexadecimal_iff_spells, String.toList_ofList,
    strip_of_notBlank fun c member => (unchanged c member).1, lower_of_isSmall fun c member => (unchanged c member).2]
  exact .parts .absent (List.cons_ne_nil _ _) (List.reverse_replicate.symm ▸ each (k + 1))

/-- The number with 256 hexadecimal digits f is beyond the doubles: its numeral is refused, where a text that is no
    numeral should be passed over. -/
theorem parse_beyond_refused :
    ¬IsNumeral (lower (strip (String.ofList ('0' :: 'x' :: List.replicate 256 'f')).toList)) ∧
    parse (String.ofList ('0' :: 'x' :: List.replicate 256 'f')) = .error {} := by
  have spelt := isHexadecimal_replicate 255
  have beyond : twoPow 1024 - twoPow 970 ≤ Nat.ofDigits 16 (List.replicate 256 15) := by decide +kernel
  constructor
  · rintro (decimal | ⟨other, within⟩)
    · exact not_isHexadecimal_of_spells decimal _ spelt
    · have same := spelt.unique (isHexadecimal_iff_spells.mpr other)
      exact absurd within (not_lt.mpr (same ▸ beyond))
  · exact parse_eq_error_iff.mpr ⟨_, spelt, overflowThreshold_le_iff.mpr beyond⟩

end Binary64

end Crosswalk
