/-
Module: Crosswalk.Proofs.Text.Spelling
Purpose: Texts that no other text becomes under normalization. A normal text with an accented character has
  another spelling, and so have three characters of ASCII; all other texts of ASCII, among them the
  texts of numbers and truth values, have no spelling but their own.
Main exports: Text.OnlySpelling, Text.onlySpelling_of_basic, Decimal.format_onlySpelling,
  Text.lookup_normalize
-/
import Crosswalk.Proofs.Text.Normalization
import Crosswalk.Decimal.Numeral

namespace Crosswalk.Text

namespace Normal

/-! ### Basic characters -/

/-- A character of ASCII other than a semicolon, a K and a grave accent. Those are what the Greek question
    mark, the Kelvin sign and the Greek varia decompose to. -/
def IsBasic (code : Nat) : Prop :=
  code < 0x80 ∧ code ∉ [0x3B, 0x4B, 0x60]

instance (code : Nat) : Decidable (IsBasic code) :=
  inferInstanceAs (Decidable (_ ∧ _))

theorem decompositions_not_basic : ∀ entry ∈ decompositions, ∃ code ∈ entry.2, ¬ IsBasic code := by
  decide +kernel

theorem singletonTable_not_basic : ∀ entry ∈ singletonTable, ¬ IsBasic entry.2 := by
  decide +kernel

theorem combiningClasses_marks : ∀ entry ∈ combiningClasses, firstMark ≤ entry.1 := by
  decide +kernel

/-- Characters below the first mark are starters. -/
theorem combiningClass_of_lt {code : Nat} (low : code < firstMark) : combiningClass code = 0 := by
  unfold combiningClass
  rw [List.findSome?_eq_none_iff.mpr]
  · rfl
  · intro entry member
    have above := combiningClasses_marks entry member
    have before : ¬ entry.1 ≤ code := by omega
    simp [before]

/-- Only a basic character decomposes to basic characters, and it is its own decomposition. -/
theorem parts_of_basic {whole : Nat} (basic : ∀ code ∈ parts whole, IsBasic code) :
    parts whole = [whole] := by
  rcases parts_cases whole with
    ⟨l, leading, v, vowel, t, trailing, same⟩ | ⟨entry, listed, same⟩ | ⟨entry, single, same⟩ | self
  · have consonant : IsBasic (leadingBase + l) := basic _ (by simp [same])
    have small := consonant.1
    simp only [leadingBase] at small
    omega
  · obtain ⟨code, member, high⟩ := decompositions_not_basic entry listed
    exact absurd (basic code (same ▸ member)) high
  · exact absurd (basic entry.2 (by simp [same])) (singletonTable_not_basic entry single)
  · exact self

/-- A text with a decomposition of basic characters is that decomposition. -/
theorem decompose_of_basic {text : List Nat} (basic : ∀ code ∈ decompose text, IsBasic code) :
    decompose text = text := by
  induction text with
  | nil => rfl
  | cons code rest ih =>
      rw [decompose_cons] at basic ⊢
      rw [parts_of_basic fun part member => basic part (List.mem_append_left _ member),
        ih fun part member => basic part (List.mem_append_right _ member)]
      rfl

/-- Starters stand in canonical order. -/
theorem order_of_starters {text : List Nat} (starters : ∀ code ∈ text, combiningClass code = 0) :
    order text = text := by
  induction text with
  | nil => rfl
  | cons code rest ih =>
      rw [order, ih fun other member => starters other (List.mem_cons_of_mem _ member)]
      cases rest with
      | nil => rfl
      | cons next others => exact place_cons_of_settled (.inl (starters next (by simp))) others

theorem ascii_isPart : ∀ code < 0x80, IsPart code := by
  decide +kernel

theorem IsBasic.isPart {code : Nat} (basic : IsBasic code) : IsPart code :=
  ascii_isPart code basic.1

theorem IsBasic.starter {code : Nat} (basic : IsBasic code) : combiningClass code = 0 :=
  combiningClass_of_lt (Nat.lt_trans basic.1 (by decide))

end Normal

/-! ### Only spellings -/

open Crosswalk.Text.Normal

/-- No other text becomes the same under normalization. -/
def OnlySpelling (text : String) : Prop :=
  ∀ other, normalize other = normalize text → other = text

/-- A text without another spelling is normal. -/
theorem OnlySpelling.isNormal {text : String} (only : OnlySpelling text) : IsNormal text :=
  only (normalize text) (normalize_normalize text)

theorem codes_injective {text other : String} (same : codes text = codes other) : text = other := by
  have lists : text.toList = other.toList :=
    List.map_injective_iff.mpr (fun a b equal => Char.toNat_inj.mp equal) same
  exact String.toList_injective lists

/-- A text of basic characters has no other spelling. -/
theorem onlySpelling_of_basic {text : String} (basic : ∀ code ∈ codes text, IsBasic code) :
    OnlySpelling text := by
  intro other same
  have ordered : order (decompose (codes other)) = codes text := by
    rw [← order_decompose_normalize, same, order_decompose_normalize,
      decompose_eq_self fun code member => (basic code member).isPart,
      order_of_starters fun code member => (basic code member).starter]
  have basicParts : ∀ code ∈ decompose (codes other), IsBasic code := by
    intro code member
    exact basic code (ordered ▸ (order_perm _).mem_iff.mpr member)
  rw [order_of_starters fun code member => (basicParts code member).starter,
    decompose_of_basic basicParts] at ordered
  exact codes_injective ordered

/-- Entries whose keys have no other spelling are found under their keys alone, whatever the spelling. -/
theorem lookup_normalize {α : Type} {entries : List (String × α)}
    (only : ∀ entry ∈ entries, OnlySpelling entry.1) (text : String) :
    entries.lookup (normalize text) = entries.lookup text := by
  by_cases normal : normalize text = text
  · rw [normal]
  · have own : text ∉ entries.map Prod.fst := by
      intro member
      obtain ⟨entry, inEntries, rfl⟩ := List.mem_map.mp member
      exact normal (only entry inEntries).isNormal
    have form : normalize text ∉ entries.map Prod.fst := by
      intro member
      obtain ⟨entry, inEntries, same⟩ := List.mem_map.mp member
      have again : normalize text = normalize entry.1 := by rw [same, normalize_normalize]
      exact normal ((only entry inEntries text again).symm ▸ same.symm)
    rw [lookup_eq_none_of_not_mem own, lookup_eq_none_of_not_mem form]

theorem truth_onlySpelling (flag : Bool) : OnlySpelling (if flag then "true" else "false") := by
  apply onlySpelling_of_basic
  cases flag <;> decide

end Crosswalk.Text

/-! ### Texts of numbers -/

namespace Crosswalk.Decimal

open Text Text.Normal

/-- The characters of numbers that are written with digits. -/
def IsNumeric (c : Char) : Prop :=
  c.isDigit = true ∨ c = '-' ∨ c = '.'

theorem IsNumeric.isBasic {c : Char} (numeric : IsNumeric c) : IsBasic c.toNat := by
  rcases numeric with digit | rfl | rfl
  · have range : 48 ≤ c.toNat ∧ c.toNat ≤ 57 := by
      simpa [Char.isDigit, UInt32.le_iff_toNat_le] using digit
    refine ⟨by omega, ?_⟩
    simp only [List.mem_cons, List.not_mem_nil, or_false]
    omega
  · decide
  · decide

theorem signText_isNumeric (negative : Bool) : ∀ c ∈ signText negative, IsNumeric c := by
  cases negative <;> simp [signText, IsNumeric]

theorem digits_isNumeric (n : Nat) : ∀ c ∈ digits n, IsNumeric c :=
  fun _ member => .inl (Nat.isDigit_of_mem_toDigits (by decide) (by decide) member)

theorem zeros_isNumeric (count : Nat) : ∀ c ∈ List.replicate count '0', IsNumeric c :=
  fun _ member => .inl (List.eq_of_mem_replicate member ▸ rfl)

theorem positional_isNumeric (coefficient exponent : Int) :
    ∀ c ∈ positional coefficient exponent, IsNumeric c := by
  intro c member
  simp only [positional, List.mem_append] at member
  rcases member with sign | body
  · exact signText_isNumeric _ c sign
  · split at body
    · rcases List.mem_append.mp body with digit | zero
      · exact digits_isNumeric _ c digit
      · exact zeros_isNumeric _ c zero
    · have padded {other : Char} (inPadded : other ∈ List.replicate
          ((-exponent).toNat + 1 - (digits coefficient.natAbs).length) '0' ++
            digits coefficient.natAbs) : IsNumeric other := by
        rcases List.mem_append.mp inPadded with zero | digit
        · exact zeros_isNumeric _ other zero
        · exact digits_isNumeric _ other digit
      rcases List.mem_append.mp body with whole | fraction
      · exact padded (List.mem_of_mem_take whole)
      · rcases List.mem_cons.mp fraction with rfl | digit
        · exact .inr (.inr rfl)
        · exact padded (List.mem_of_mem_drop digit)

/-- The text of a number has no other spelling. -/
theorem format_onlySpelling (amount : Decimal) : OnlySpelling amount.format := by
  have ofNumeric {cs : List Char} (numeric : ∀ c ∈ cs, IsNumeric c) :
      OnlySpelling (String.ofList cs) := by
    apply onlySpelling_of_basic
    intro code member
    rw [codes, String.toList_ofList] at member
    obtain ⟨c, inText, rfl⟩ := List.mem_map.mp member
    exact (numeric c inText).isBasic
  cases amount with
  | infinity negative =>
      apply onlySpelling_of_basic
      cases negative <;> decide
  | finite coefficient exponent canonical =>
      apply ofNumeric
      intro c member
      split at member
      · exact positional_isNumeric _ _ c member
      · split at member
        · split at member
          · rcases List.mem_append.mp member with sign | zero
            · exact signText_isNumeric _ c sign
            · exact .inl (List.mem_singleton.mp zero ▸ rfl)
          · exact positional_isNumeric _ _ c member
        · exact positional_isNumeric _ _ c member

end Crosswalk.Decimal
