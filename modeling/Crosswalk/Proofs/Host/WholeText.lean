/-
Module: Crosswalk.Proofs.Host.WholeText
Purpose: Whole numbers below 10^15 have one text. Hosts print it, structural values are written as it, the key
  of a table entry becomes it, and both readers of numerals give the number back; it is the integer in decimal
  digits, so different integers have different texts.
Main exports: Decimal.render_ofInt_eq, Decimal.parse_toString, Binary64.format_whole, Binary64.parse_whole,
  Binary64.whole_text_agrees
-/
import Crosswalk.Proofs.Binary64.Whole
import Crosswalk.Proofs.Decimal.Canonical
import Crosswalk.Proofs.Host.KeyedTable
import Crosswalk.Proofs.Wrapped.Arithmetic

namespace Crosswalk

/-! ### Blanks and capitals -/

namespace Text

theorem strip_of_notBlank {text : List Char} (notBlank : ∀ c ∈ text, isBlank c = false) : strip text = text := by
  have kept {other : List Char} (notBlank : ∀ c ∈ other, isBlank c = false) : other.dropWhile isBlank = other := by
    cases other with
    | nil => rfl
    | cons c rest => rw [List.dropWhile_cons_of_neg (by simp [notBlank c List.mem_cons_self])]
  rw [strip, kept notBlank, kept fun c member => notBlank c (List.mem_reverse.mp member), List.reverse_reverse]

/-- A character is its own small form. -/
def IsSmall (c : Char) : Prop :=
  c ≠ 'Σ' ∧ Case.mapChar Case.lowerExpansions Case.lowerRuns c = [c]

theorem lowerFrom_of_isSmall {text : List Char} (small : ∀ c ∈ text, IsSmall c) (before : List Char) :
    Case.lowerFrom before text = text := by
  induction text generalizing before with
  | nil => rfl
  | cons c rest ih =>
      obtain ⟨notSigma, mapped⟩ := small c List.mem_cons_self
      rw [Case.lowerFrom, if_neg notSigma, mapped, ih fun other member => small other (List.mem_cons_of_mem c member)]
      rfl

theorem lower_of_isSmall {text : List Char} (small : ∀ c ∈ text, IsSmall c) : lower text = text :=
  lowerFrom_of_isSmall small []

end Text

namespace Decimal

open Text Numeral

/-- The characters of numbers are no blanks and no capitals. -/
theorem IsNumeric.unchanged {c : Char} (numeric : IsNumeric c) : isBlank c = false ∧ IsSmall c := by
  have checked : ∀ code < 58, 45 ≤ code → isBlank (Char.ofNat code) = false ∧
      Char.ofNat code ≠ 'Σ' ∧
        Case.mapChar Case.lowerExpansions Case.lowerRuns (Char.ofNat code) = [Char.ofNat code] := by
    decide +kernel
  have range : c.toNat < 58 ∧ 45 ≤ c.toNat := by
    rcases numeric with digit | rfl | rfl
    · have range : 48 ≤ c.toNat ∧ c.toNat ≤ 57 := by
        simpa [Char.isDigit, UInt32.le_iff_toNat_le] using digit
      omega
    · decide
    · decide
  have found := checked c.toNat range.1 range.2
  rwa [Char.ofNat_toNat] at found

/-! ### Decimals -/

theorem positional_whole (n : Int) : positional n 0 = signText (n < 0) ++ digits n.natAbs := by
  simp [positional]

/-- An integer in decimal digits. -/
theorem ofList_positional (n : Int) : String.ofList (positional n 0) = toString n := by
  rw [positional_whole]
  cases n with
  | ofNat m =>
      change _ = Nat.repr m
      simp [signText, digits, Nat.repr]
  | negSucc m =>
      change _ = "-" ++ Nat.repr (m + 1)
      rw [signText, if_pos (decide_eq_true (Int.negSucc_lt_zero m)), Nat.repr, String.ofList_append]
      rfl

/-- A whole number of not too many digits is written in decimal digits. -/
theorem render_ofInt_eq {n : Int} (short : digitCount n.natAbs ≤ mostDigits) :
    (ofInt n).render = .ok (toString n) := by
  have parts : ofNumeral ⟨n < 0, n.natAbs, 0⟩ = ofInt n := congrArg (ofParts · 0) (signed_natAbs n)
  have whole : IsWhole ⟨n < 0, n.natAbs, 0⟩ := .inl le_rfl
  have digitsBefore : wholePart ⟨n < 0, n.natAbs, 0⟩ = n.natAbs := by simp [wholePart, tenPow]
  have sign : (decide (n < 0) && n.natAbs != 0) = decide (n < 0) := by
    rw [Bool.eq_iff_iff]
    simp
    omega
  rw [← parts, ← write_eq_render, write, if_pos whole, digitsBefore, if_pos short, sign, ← positional_whole,
    ofList_positional]

/-- The digits of a whole number of no more digits than the precision are read as the number. -/
theorem parse_toString {n : Int} (small : digitCount n.natAbs ≤ precision) :
    parse (toString n) = .ok (ofInt n) := by
  have precise : PreciseParts n 0 := ⟨small, by decide, by
    have fifty : precision = 50 := rfl
    have greatest : (1000 : Int) ≤ greatestExponent := by decide
    rw [leading]
    omega⟩
  have read := roundParts_of_precise precise
  rw [← ofList_positional, parse, String.toList_ofList, ofChars?_positional]
  simp only [Int.toNat_zero, tenPow, Nat.pow_eq, Nat.pow_zero, Nat.mul_one, min_self]
  rw [show round (n < 0) n.natAbs 1 0 = .ok (ofInt n) from read]
  rfl

end Decimal

/-! ### Doubles -/

namespace Binary64

open Text Numeral Decimal

variable {x : Binary64} {n : Int} (whole : x.toInt? = some n) (small : n.natAbs < tenPow 15)

include whole small in
/-- A host prints a whole number in decimal digits. -/
theorem format_whole : x.format = toString n := by
  obtain ⟨negative, units, isMagnitude, rfl, -, -⟩ := toInt?_eq_some whole
  simp only [format, whole, if_pos small, ofList_positional]

example : (zero true).format = "0" := by decide +kernel

include small in
/-- The numeral of a whole number denotes the double nearest to it. -/
theorem ofParts_whole : ofParts (n < 0) n.natAbs 0 = ofInt n := by
  have digits := digitCount_le_of_lt small
  have positive := digitCount_pos n.natAbs
  rcases Nat.eq_zero_or_pos n.natAbs with isZero | nonzero
  · obtain rfl := Int.natAbs_eq_zero.mp isZero
    decide +kernel
  · unfold ofParts ofInt
    generalize n.natAbs * one = units
    dsimp only
    rw [if_neg (by omega), if_neg (by omega)]
    rfl

include whole small in
/-- A host reads the text of a whole number as a number equal to it. -/
theorem parse_whole : ∃ y, parse (toString n) = .ok (some y) ∧ y.numericallyEqual x = true := by
  have numeric := positional_isNumeric n 0
  have stripped : lower (strip (positional n 0)) = positional n 0 := by
    rw [strip_of_notBlank fun c member => (numeric c member).unchanged.1,
      lower_of_isSmall fun c member => (numeric c member).unchanged.2]
  have decimal : ¬HasHexadecimalPrefix (String.ofList (positional n 0)) := by
    rintro ⟨rest, spelt⟩
    obtain ⟨c, digits, shape⟩ := List.exists_cons_of_ne_nil (digits_ne_nil n.natAbs)
    rw [String.toList_ofList, stripped, positional_whole, takeSign_signText _ ⟨c, digits, shape,
      digits_isDigit n.natAbs c (shape ▸ List.mem_cons_self)⟩] at spelt
    have letter : 'x' ∈ Decimal.digits n.natAbs := by
      rw [show Decimal.digits n.natAbs = _ from spelt]
      simp
    exact absurd (digits_isDigit n.natAbs 'x' letter) (by decide)
  refine ⟨ofInt n, ?_, numericallyEqual_of_rank (rank_ofInt whole) (rank_of_toInt? whole)⟩
  rw [← ofList_positional, parse_of_not_hexadecimal decimal, String.toList_ofList, stripped, ofChars?_positional]
  simp only [Int.toNat_zero, tenPow, Nat.pow_eq, Nat.pow_zero, Nat.mul_one, min_self, Option.map_some, ofNumeral,
    ofParts_whole small]

end Binary64

/-! ### Keys -/

/-- A map that a table becomes has an entry under the text of each key. -/
theorem Host.mem_keys_of_convert_map {host : Host} {ref : TableRef} {element : Ty} {result : Value}
    (converted : host.convert (.table ref) (.map element) = .ok result) {item : HostValue × HostValue}
    (member : item ∈ (host.tableAt ref).entries) {text : String} (named : item.1.keyText? = some text) :
    ∃ ty entries, result = .map ty entries ∧ text ∈ entries.map Prod.fst := by
  rw [convert_map] at converted
  obtain ⟨found, items, common, byKey, each, built⟩ := Reading.toMap_eq_ok converted
  obtain ⟨nodup, pairs⟩ := Reading.byText_eq_ok byKey
  obtain ⟨each, -⟩ := Reading.convertElements_eq_ok each
  have keys : (((found.map Prod.fst).zip items).map Prod.fst) = found.map Prod.fst :=
    List.map_fst_zip (by simp [← each.length_eq])
  obtain ⟨ty, -, rfl⟩ := Value.mapOf_eq_ok built
  refine ⟨ty, _, rfl, ?_⟩
  rw [entriesOf_of_nodup (keys.symm ▸ nodup), keys]
  obtain ⟨other, inFound, isText, -⟩ := Outcome.exists_of_forall₂ pairs.flip
    (List.mem_map_of_mem ((sortBy_perm _ (host.tableAt ref).entries).mem_iff.mpr member))
  rw [known_text named] at isText
  exact List.mem_map.mpr ⟨other, inFound, (Except.ok.inj isText).symm⟩

namespace Binary64

/-- The text of a whole number below 10^15 is the integer in decimal digits, wherever it is written: a host
    prints it, the structural number that stands for the double has it, and a conversion uses it for the key of
    a table entry. Both readers of numerals read it as the number, and no other such number has it. -/
theorem whole_text_agrees {x : Binary64} {n : Int} (whole : x.toInt? = some n) (small : n.natAbs < tenPow 15) :
    x.format = toString n ∧
    (∃ amount, Value.ofBinary64 x = .ok (.number amount) ∧ amount.render = .ok x.format) ∧
    (∃ y, parse x.format = .ok (some y) ∧ y.numericallyEqual x = true) ∧
    Decimal.parse x.format = .ok (Decimal.ofInt n) ∧
    (∀ host : Host, Host.tostring (.number x) host = .ok (x.format, host) ∧
      (∀ depth, host.keyTextTo depth (.number x) = .ok x.format) ∧
      ∀ ref value element result, (.number x, value) ∈ (host.tableAt ref).entries →
        host.convert (.table ref) (.map element) = .ok result →
        ∃ ty entries, result = .map ty entries ∧ x.format ∈ entries.map Prod.fst) ∧
    ∀ y m, toInt? y = some m → m.natAbs < tenPow 15 → (y.format = x.format ↔ m = n) := by
  have text := format_whole whole small
  have stands : x.toDecimal? = some (Decimal.ofInt n) := by
    obtain ⟨negative, units, isMagnitude, rfl, -, -⟩ := toInt?_eq_some whole
    rw [toDecimal?, whole]
  have short := digitCount_of_toInt? whole
  have rendered := Decimal.render_ofInt_eq short
  have written : (Decimal.ofInt n).format = toString n :=
    Except.ok.inj ((Decimal.render_ofInt short).symm.trans rendered)
  have reads {m : Int} (small : m.natAbs < tenPow 15) : Decimal.parse (toString m) = .ok (Decimal.ofInt m) :=
    Decimal.parse_toString ((digitCount_le_of_lt small).trans (by decide))
  have named : HostValue.keyText? (.number x) = some x.format := by
    rw [HostValue.keyText?, stands, Option.map_some, written, text]
  refine ⟨text, ⟨_, by rw [Value.ofBinary64, stands], text ▸ rendered⟩,
    text ▸ parse_whole whole small, text ▸ reads small, fun host => ⟨rfl, fun depth => ?_, ?_⟩, ?_⟩
  · exact Host.keyTextTo_of_keyText? host depth named
  · exact fun ref value element result member converted => Host.mem_keys_of_convert_map converted member named
  · intro y m wholeOther smallOther
    rw [text, format_whole wholeOther smallOther]
    refine ⟨fun same => ?_, fun same => same ▸ rfl⟩
    have read := reads smallOther
    rw [same, reads small] at read
    simpa using Decimal.ofParts_eq_iff.mp (Except.ok.inj read).symm

/-- The least of these whole numbers has its fifteen digits behind a sign. -/
theorem whole_text_agrees_least :
    (ofInt (-999999999999999)).toInt? = some (-999999999999999) ∧
    (-999999999999999 : Int).natAbs < tenPow 15 ∧
    (ofInt (-999999999999999)).format = "-999999999999999" ∧
    Decimal.parse (ofInt (-999999999999999)).format = .ok (Decimal.ofInt (-999999999999999)) := by
  have whole : (ofInt (-999999999999999)).toInt? = some (-999999999999999) := by decide +kernel
  have small : (-999999999999999 : Int).natAbs < tenPow 15 := by decide
  obtain ⟨text, -, -, read, -⟩ := whole_text_agrees whole small
  exact ⟨whole, small, text.trans (by decide +kernel), read⟩

end Binary64

end Crosswalk
