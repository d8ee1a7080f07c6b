/-
Module: Crosswalk.Proofs.Decimal.Grammar
Purpose: The numerals and what they denote, as a relation: an optional sign, digits with an optional point among
  or before them, and an optional exponent. The scanner that reads numerals from the left finds the parts of
  every text that has them, and finds nothing in any other text. What a text is read as is the number that it
  spells, rounded, if that is within the limits.
Main exports: Numeral.placeValue, Numeral.IsMantissa, Numeral.IsScale, Numeral.Spells, Numeral.spells_iff, Value.amountOfText_iff
-/
import Crosswalk.Proofs.Decimal.Canonical
import Crosswalk.Proofs.Decimal.Nearest
import Mathlib.Data.Nat.Digits.Defs

namespace Crosswalk

namespace Numeral

open Text Decimal

/-! ### The grammar -/

/-- A run of digits of any script, which may be empty. -/
def AllDigits (text : List Char) : Prop :=
  ∀ c ∈ text, isDigit c = true

/-- What a run of digits is worth: the sum of their values, each times the power of ten for its place. -/
def placeValue (digits : List Char) : Nat :=
  Nat.ofDigits 10 (digits.reverse.map fun c => (digitValue? c).getD 0)

/-- An optional sign, and whether it is a minus sign. -/
inductive IsSign : List Char → Bool → Prop
  | absent : IsSign [] false
  | plus : IsSign ['+'] false
  | minus : IsSign ['-'] true

/-- Digits with an optional point and further digits, or a point and digits: the text, the digits before the
    point and those behind it. -/
inductive IsMantissa : List Char → List Char → List Char → Prop
  | whole {digits : List Char} (nonempty : digits ≠ []) (run : AllDigits digits) : IsMantissa digits digits []
  | pointed {digits places : List Char} (nonempty : digits ≠ []) (run : AllDigits digits)
      (further : AllDigits places) : IsMantissa (digits ++ '.' :: places) digits places
  | fraction {places : List Char} (nonempty : places ≠ []) (run : AllDigits places) :
      IsMantissa ('.' :: places) [] places

/-- An optional exponent: a letter e of either case, an optional sign and digits. -/
inductive IsScale : List Char → Int → Prop
  | absent : IsScale [] 0
  | power {letter : Char} {sign digits : List Char} {negative : Bool} (isLetter : letter = 'e' ∨ letter = 'E')
      (isSign : IsSign sign negative) (nonempty : digits ≠ []) (run : AllDigits digits) :
      IsScale (letter :: (sign ++ digits)) (signed negative (placeValue digits))

/-- A text is a numeral, and the rational number that it denotes. -/
inductive Spells : List Char → ℚ → Prop
  | parts {sign mantissa whole fraction scale : List Char} {negative : Bool} {exponent : Int}
      (isSign : IsSign sign negative) (isMantissa : IsMantissa mantissa whole fraction)
      (isScale : IsScale scale exponent) :
      Spells (sign ++ (mantissa ++ scale))
        ((if negative then -1 else 1) *
          (placeValue whole + placeValue fraction / 10 ^ fraction.length) * 10 ^ exponent)

/-! ### Runs of digits -/

/-- The scanner takes a run of digits up to its end. -/
theorem AllDigits.takes {digits : List Char} (run : AllDigits digits) (rest : List Char)
    (stops : ∀ c ∈ rest.head?, isDigit c = false) :
    (digits ++ rest).takeWhile isDigit = digits ∧ (digits ++ rest).dropWhile isDigit = rest := by
  rw [List.takeWhile_append_of_pos run, List.dropWhile_append_of_pos run]
  cases rest with
  | nil => simp
  | cons c rest => simp [stops c rfl]

theorem allDigits_takeWhile (text : List Char) : AllDigits (text.takeWhile isDigit) :=
  fun _ member => List.mem_takeWhile_imp member

/-- What digits are read as is what they are worth at their places. -/
theorem digitsValue_eq_placeValue (digits : List Char) : digitsValue digits = placeValue digits := by
  rw [digitsValue, digitsValueFrom_eq_foldl]
  induction digits using List.reverseRecOn with
  | nil => rfl
  | append_singleton digits last ih =>
      rw [List.foldl_concat, ih, placeValue, placeValue, List.reverse_concat, List.map_cons, Nat.ofDigits_cons,
        Nat.add_comm]

/-- Digits in front add what they are worth before as many zeros. -/
theorem digitsValueFrom_eq (high : Nat) (digits : List Char) :
    digitsValueFrom high digits = high * 10 ^ digits.length + digitsValue digits := by
  induction digits using List.reverseRecOn with
  | nil => simp [digitsValue]
  | append_singleton digits last ih =>
      rw [digitsValue, digitsValueFrom_append, digitsValueFrom_append, ih, ← digitsValue]
      rw [digitsValueFrom_cons, digitsValueFrom_nil, digitsValueFrom_cons, digitsValueFrom_nil,
        List.length_append, List.length_singleton]
      ring

/-! ### Signs and exponents -/

/-- A sign is taken off the text that it stands before. -/
theorem IsSign.takes {sign body : List Char} {negative : Bool} (isSign : IsSign sign negative)
    (unsigned : takeSign body = (false, body)) : takeSign (sign ++ body) = (negative, body) := by
  cases isSign with
  | absent => exact unsigned
  | plus => rfl
  | minus => rfl

/-- What is taken off a text is a sign. -/
theorem isSign_of_takeSign (text : List Char) :
    ∃ sign, IsSign sign (takeSign text).1 ∧ text = sign ++ (takeSign text).2 := by
  unfold takeSign
  split
  next => exact ⟨_, .minus, rfl⟩
  next => exact ⟨_, .plus, rfl⟩
  next => exact ⟨_, .absent, rfl⟩

/-- A run of digits has no sign. -/
theorem AllDigits.unsigned {digits : List Char} (run : AllDigits digits) (nonempty : digits ≠ [])
    (rest : List Char) : takeSign (digits ++ rest) = (false, digits ++ rest) := by
  obtain ⟨c, digits, rfl⟩ := List.exists_cons_of_ne_nil nonempty
  exact takeSign_of_isDigit (run c List.mem_cons_self) _

/-- What the end of a text is read as is an exponent. -/
theorem isScale_of_exponent? {text : List Char} {exponent : Int} (found : exponent? text = some exponent) :
    IsScale text exponent := by
  unfold exponent? at found
  split at found
  next =>
      cases found
      exact .absent
  next letter rest =>
      split at found
      next isLetter =>
          obtain ⟨sign, isSign, parts⟩ := isSign_of_takeSign rest
          generalize takeSign rest = taken at found isSign parts
          obtain ⟨negative, digits⟩ := taken
          subst parts
          dsimp only at found
          split at found
          next => cases found
          next valid =>
              simp only [Bool.or_eq_true, List.isEmpty_iff, Bool.not_eq_true', not_or, Bool.not_eq_false,
                List.all_eq_true] at valid
              have value : exponent = signed negative (placeValue digits) := by
                rw [← digitsValue_eq_placeValue]
                cases negative <;> exact (Option.some.inj found).symm
              rw [value]
              exact .power isLetter isSign valid.1 valid.2
      next => cases found

/-- An exponent is read as what it is. -/
theorem IsScale.exponent? {scale : List Char} {exponent : Int} (isScale : IsScale scale exponent) :
    Numeral.exponent? scale = some exponent := by
  cases isScale with
  | absent => rfl
  | @power letter sign digits negative isLetter isSign nonempty run =>
      have valid : (digits.isEmpty || !digits.all isDigit) = false := by
        simp [nonempty, List.all_eq_true.mpr run]
      have unsigned := run.unsigned nonempty []
      rw [List.append_nil] at unsigned
      simp only [Numeral.exponent?, if_pos isLetter, isSign.takes unsigned, valid, Bool.false_eq_true, if_false,
        digitsValue_eq_placeValue]
      cases negative <;> rfl

/-! ### Mantissas -/

/-- What an exponent starts with is no digit. -/
theorem IsScale.stops {scale : List Char} {exponent : Int} (isScale : IsScale scale exponent) :
    ∀ c ∈ scale.head?, isDigit c = false := by
  cases isScale with
  | absent => simp
  | power isLetter =>
      rintro c ⟨⟩
      rcases isLetter with rfl | rfl <;> decide

theorem IsScale.takeFraction {scale : List Char} {exponent : Int} (isScale : IsScale scale exponent) :
    takeFraction scale = ([], scale) := by
  cases isScale with
  | absent => rfl
  | power isLetter => rcases isLetter with rfl | rfl <;> rfl

/-- The digits of a mantissa are found before an exponent. -/
theorem IsMantissa.takes {mantissa whole fraction scale : List Char} {exponent : Int}
    (isMantissa : IsMantissa mantissa whole fraction) (isScale : IsScale scale exponent) :
    (mantissa ++ scale).takeWhile isDigit = whole ∧
      Numeral.takeFraction ((mantissa ++ scale).dropWhile isDigit) = (fraction, scale) := by
  have point : isDigit '.' = false := by decide
  cases isMantissa with
  | whole nonempty run =>
      obtain ⟨taken, dropped⟩ := run.takes scale isScale.stops
      rw [taken, dropped]
      exact ⟨rfl, isScale.takeFraction⟩
  | pointed nonempty run further =>
      obtain ⟨taken, dropped⟩ := run.takes ('.' :: (fraction ++ scale)) (by simp [point])
      obtain ⟨places, behind⟩ := further.takes scale isScale.stops
      rw [List.append_assoc, List.cons_append, taken, dropped, Numeral.takeFraction, places, behind]
      exact ⟨rfl, rfl⟩
  | fraction nonempty run =>
      obtain ⟨places, behind⟩ := run.takes scale isScale.stops
      simp only [List.cons_append, List.takeWhile_cons, List.dropWhile_cons, point, Bool.false_eq_true, if_false,
        Numeral.takeFraction, places, behind, and_self]

/-- A mantissa has a digit. -/
theorem IsMantissa.present {mantissa whole fraction : List Char}
    (isMantissa : IsMantissa mantissa whole fraction) : ¬ (whole = [] ∧ fraction = []) := by
  cases isMantissa with
  | whole nonempty => exact fun none => nonempty none.1
  | pointed nonempty => exact fun none => nonempty none.1
  | fraction nonempty => exact fun none => nonempty none.2

/-- A mantissa does not start with a sign. -/
theorem IsMantissa.takes_sign {mantissa whole fraction sign : List Char} {negative : Bool}
    (isMantissa : IsMantissa mantissa whole fraction) (isSign : IsSign sign negative) (rest : List Char) :
    takeSign (sign ++ (mantissa ++ rest)) = (negative, mantissa ++ rest) := by
  apply isSign.takes
  cases isMantissa with
  | whole nonempty run => exact run.unsigned nonempty rest
  | pointed nonempty run =>
      rw [List.append_assoc]
      exact run.unsigned nonempty _
  | fraction => rfl

/-- What is found before an exponent is a mantissa, unless there is no digit. -/
theorem exists_isMantissa (body : List Char)
    (present : body.takeWhile isDigit ≠ [] ∨ (Numeral.takeFraction (body.dropWhile isDigit)).1 ≠ []) :
    ∃ mantissa, body = mantissa ++ (Numeral.takeFraction (body.dropWhile isDigit)).2 ∧
      IsMantissa mantissa (body.takeWhile isDigit) (Numeral.takeFraction (body.dropWhile isDigit)).1 := by
  have parts := List.takeWhile_append_dropWhile (p := isDigit) (l := body)
  have run := allDigits_takeWhile body
  generalize body.takeWhile isDigit = whole at parts run present ⊢
  generalize body.dropWhile isDigit = behind at parts present ⊢
  rw [← parts]
  unfold Numeral.takeFraction at present ⊢
  -- whether there is a point behind the first run of digits
  split at present
  next rest =>
      have further := allDigits_takeWhile rest
      dsimp only at present ⊢
      by_cases nonempty : whole = []
      · subst nonempty
        exact ⟨'.' :: rest.takeWhile isDigit, by simp, .fraction (present.resolve_left (by simp)) further⟩
      · exact ⟨whole ++ '.' :: rest.takeWhile isDigit, by simp, .pointed nonempty run further⟩
  next => exact ⟨whole, rfl, .whole (present.resolve_right (by simp)) run⟩

/-! ### Numerals -/

/-- Digits with a point among them denote what they are worth on both sides of it. -/
theorem value_eq (negative : Bool) (whole fraction : List Char) (exponent : Int) :
    value ⟨negative, digitsValue (whole ++ fraction), exponent - fraction.length⟩ =
      (if negative then -1 else 1) * (placeValue whole + placeValue fraction / 10 ^ fraction.length) *
        10 ^ exponent := by
  have digits : digitsValue (whole ++ fraction) =
      placeValue whole * 10 ^ fraction.length + placeValue fraction := by
    rw [digitsValue, digitsValueFrom_append, digitsValueFrom_eq, ← digitsValue, digitsValue_eq_placeValue,
      digitsValue_eq_placeValue]
  have power : (10 : ℚ) ^ fraction.length ≠ 0 := pow_ne_zero _ (by norm_num)
  rw [value, zpow_sub₀ (by norm_num), zpow_natCast, digits]
  cases negative <;> simp [signedCoefficient] <;> field_simp

/-- What a text is read as is what it spells. -/
theorem spells_of_ofChars? {text : List Char} {numeral : Numeral} (found : ofChars? text = some numeral) :
    Spells text numeral.value := by
  unfold ofChars? at found
  obtain ⟨sign, isSign, parts⟩ := isSign_of_takeSign text
  generalize takeSign text = taken at found isSign parts
  obtain ⟨negative, body⟩ := taken
  have mantissa := exists_isMantissa body
  dsimp only at found parts
  generalize body.takeWhile isDigit = whole at found mantissa
  generalize Numeral.takeFraction (body.dropWhile isDigit) = behind at found mantissa
  obtain ⟨fraction, scale⟩ := behind
  dsimp only at found mantissa
  split at found
  next => cases found
  next present =>
      simp only [Bool.and_eq_true, List.isEmpty_iff, not_and_or] at present
      obtain ⟨exponent, ends, rfl⟩ := Option.map_eq_some_iff.mp found
      obtain ⟨mantissa, rfl, isMantissa⟩ := mantissa present
      rw [parts, value_eq]
      exact .parts isSign isMantissa (isScale_of_exponent? ends)

/-- A text that spells a number is read as it. -/
theorem Spells.ofChars? {text : List Char} {q : ℚ} (spells : Spells text q) :
    ∃ numeral, Numeral.ofChars? text = some numeral ∧ numeral.value = q := by
  obtain ⟨isSign, isMantissa, isScale⟩ := spells
  obtain ⟨run, behind⟩ := isMantissa.takes isScale
  refine ⟨_, ?_, value_eq ..⟩
  simp only [Numeral.ofChars?, isMantissa.takes_sign isSign, run, behind, Bool.and_eq_true, List.isEmpty_iff,
    if_neg isMantissa.present, isScale.exponent?, Option.map_some]

/-- A text spells a number exactly if it is read as that number. -/
theorem spells_iff {text : List Char} {q : ℚ} :
    Spells text q ↔ ∃ numeral, ofChars? text = some numeral ∧ numeral.value = q := by
  constructor
  · exact Spells.ofChars?
  · rintro ⟨numeral, found, rfl⟩
    exact spells_of_ofChars? found

/-- A text spells one number at most. -/
theorem Spells.unique {text : List Char} {q r : ℚ} (spells : Spells text q) (spells' : Spells text r) :
    q = r := by
  obtain ⟨numeral, found, rfl⟩ := spells_iff.mp spells
  obtain ⟨other, found', rfl⟩ := spells_iff.mp spells'
  rw [Option.some.inj (found.symm.trans found')]

end Numeral

/-! ### Reading -/

namespace Value

open Decimal Numeral

/-- A text is read as the number that it spells, rounded, if that is within the limits, and refused
    otherwise. -/
theorem amountOfText_cases (text : String) :
    (∃ exact rounded amount, Spells text.toList exact ∧ RoundsTo exact rounded ∧ WithinLimits rounded ∧
      amount.Denotes rounded ∧ amountOfText text = .ok amount) ∨
    ((∀ exact rounded, Spells text.toList exact → RoundsTo exact rounded → ¬ WithinLimits rounded) ∧
      ∃ error, amountOfText text = .error (.invalid (.numeral error text))) := by
  cases found : ofChars? text.toList with
  | none =>
      right
      constructor
      · intro exact rounded spells
        obtain ⟨numeral, isSome, -⟩ := spells_iff.mp spells
        cases found.symm.trans isSome
      · simp only [amountOfText, parse, found]
        split <;> exact ⟨_, rfl⟩
  | some numeral =>
      have spells : Spells text.toList numeral.value := spells_iff.mpr ⟨numeral, found, rfl⟩
      have computes := round_computes numeral.negative numeral.coefficient one_pos numeral.exponent
      rw [Nat.cast_one, div_one] at computes
      obtain ⟨rounded, rounds, ⟨within, amount, computed, denotes⟩ | ⟨beyond, overflow⟩⟩ := computes
      · refine .inl ⟨_, rounded, amount, spells, rounds, within, denotes, ?_⟩
        simp only [amountOfText, parse, found, computed]
        rfl
      · right
        constructor
        · intro exact other spells' rounds'
          obtain rfl := spells.unique spells'
          rwa [← rounds.unique rounds']
        · simp only [amountOfText, parse, found, overflow]
          exact ⟨_, rfl⟩

/-- A text is read as a number exactly if the whole of it is a numeral, and the rational number that the numeral
    denotes, rounded half to even to fifty digits but to no digit below the least exponent, has its leading digit
    at most at the greatest exponent. The number read is the rounded one, and any other text is refused. -/
theorem amountOfText_iff (text : String) :
    ((∃ amount, amountOfText text = .ok amount) ↔
      ∃ exact rounded, Spells text.toList exact ∧ RoundsTo exact rounded ∧ WithinLimits rounded) ∧
    (∀ amount, amountOfText text = .ok amount ↔
      ∃ exact rounded, Spells text.toList exact ∧ RoundsTo exact rounded ∧ WithinLimits rounded ∧
        amount.Denotes rounded) ∧
    ((∃ amount, amountOfText text = .ok amount) ∨
      ∃ error, amountOfText text = .error (.invalid (.numeral error text))) := by
  rcases amountOfText_cases text with
    ⟨exact, rounded, amount, spells, rounds, within, denotes, reads⟩ | ⟨beyond, error, refused⟩
  · refine ⟨iff_of_true ⟨amount, reads⟩ ⟨exact, rounded, spells, rounds, within⟩, fun other => ?_,
      .inl ⟨amount, reads⟩⟩
    constructor
    · intro reads'
      obtain rfl := Except.ok.inj (reads.symm.trans reads')
      exact ⟨exact, rounded, spells, rounds, within, denotes⟩
    · rintro ⟨exact', rounded', spells', rounds', -, denotes'⟩
      obtain rfl := spells.unique spells'
      obtain rfl := rounds.unique rounds'
      rw [denotes.injective denotes'] at reads
      exact reads
  · have refuses (amount : Decimal) : amountOfText text ≠ .ok amount := by
      rw [refused]
      exact nofun
    refine ⟨iff_of_false ?_ ?_, fun amount => ?_, .inr ⟨error, refused⟩⟩
    · exact fun ⟨amount, reads⟩ => refuses amount reads
    · rintro ⟨exact, rounded, spells, rounds, within⟩
      exact beyond exact rounded spells rounds within
    · refine iff_of_false (refuses amount) ?_
      rintro ⟨exact, rounded, spells, rounds, within, -⟩
      exact beyond exact rounded spells rounds within

end Value

end Crosswalk
