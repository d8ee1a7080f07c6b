/-
Module: Crosswalk.Proofs.Wrapped.Transitivity
Purpose: Chains of comparisons over numbers and strings of all sorts. The host compares its own numbers and
  its own texts, and hands all else to wrapped values, which are compared as strings or as numbers. Every pair
  is compared by one of three measures, each of which is a linear order, so the lesser of the lesser is less
  unless two strings are compared with each other by a measure that puts them the other way round than the
  one by which they are compared with the third value.
Main exports: Host.Measure, Host.measure, Host.Places, Host.AtOdds, Host.lessThan_transitive
-/
import Crosswalk.Proofs.Binary64.Order
import Crosswalk.Proofs.Wrapped.Ordering

namespace Crosswalk.Host

/-! ### Measures -/

/-- The sorts of values that can be compared. -/
inductive Comparand where
  | number
  /-- A text of the host's own. -/
  | text
  /-- A wrapped string. -/
  | wrappedString
deriving DecidableEq

/-- The ways in which two values are compared. -/
inductive Measure where
  /-- As numbers. -/
  | amounts
  /-- As strings, by their normalized texts. -/
  | texts
  /-- As texts of the host's own, by their characters. -/
  | spellings
deriving DecidableEq

/-- The measure for values of two sorts. -/
def Measure.between (stringOrdering : Bool) : Comparand → Comparand → Measure
  | .text, .text => .spellings
  | .number, _ | _, .number => .amounts
  | _, _ => if stringOrdering then .texts else .amounts

/-- The sort of a value. -/
def comparand (host : Host) (a : HostValue) : Comparand :=
  match a with
  | .string _ => .text
  | _ => if Wrapped.isString host a then .wrappedString else .number

/-- The measure for two values. -/
def measure (host : Host) (a b : HostValue) : Measure :=
  .between host.settings.stringOrdering (host.comparand a) (host.comparand b)

/-- The linear order of a measure. -/
def Measure.Scale : Measure → Type
  | .amounts => WithBot (WithTop ℚ)
  | .texts => String
  | .spellings => String

instance (kind : Measure) : LinearOrder kind.Scale :=
  match kind with
  | .amounts => inferInstanceAs (LinearOrder (WithBot (WithTop ℚ)))
  | .texts => inferInstanceAs (LinearOrder String)
  | .spellings => inferInstanceAs (LinearOrder String)

/-- The place of a value on the scale of a measure: that of the number or string it converts to, or its own
    text. -/
inductive Places (host : Host) (a : HostValue) : (kind : Measure) → kind.Scale → Prop
  | amount {amount : Decimal} (converts : host.convert a .number = .ok (.number amount)) :
      Places host a .amounts amount.place
  | text {text : String} (converts : host.convert a .string = .ok (.string text)) :
      Places host a .texts text
  | spelling {text : String} (own : a = .string text) : Places host a .spellings text

/-- A value comes before another one by a measure. -/
def Precedes (host : Host) (kind : Measure) (a b : HostValue) : Prop :=
  ∃ x y, host.Places a kind x ∧ host.Places b kind y ∧ x < y

/-- Two values are level by a measure. -/
def Level (host : Host) (kind : Measure) (a b : HostValue) : Prop :=
  ∃ x, host.Places a kind x ∧ host.Places b kind x

/-- Two values are in one order by the measure for the two, and in the opposite order by the measure for
    either of them and a third value. -/
structure AtOdds (host : Host) (a b third : HostValue) : Prop where
  common : host.measure a third = host.measure b third
  forth : host.Precedes (host.measure a b) a b
  back : host.Precedes (host.measure a third) b a

/-- Numbers and strings, the host's own or wrapped. Wrapped ones may be null or unknown. -/
inductive IsComparand (host : Host) : HostValue → Prop
  | native {a : HostValue} (native : a.IsNative) : IsComparand host a
  | wrapped {a : HostValue} {value : Value} (wraps : host.Wraps a value)
      (typed : value.type = .number ∨ value.type = .string) : IsComparand host a

section Places

variable {host : Host} {a b c : HostValue} {kind : Measure}

theorem Places.unique {x y : kind.Scale} (places : host.Places a kind x) (placesOther : host.Places a kind y) :
    x = y := by
  cases places with
  | amount converts =>
      obtain ⟨convertsOther⟩ := placesOther
      cases converts.symm.trans convertsOther
      rfl
  | text converts =>
      obtain _ | ⟨convertsOther⟩ := placesOther
      cases converts.symm.trans convertsOther
      rfl
  | spelling own =>
      obtain _ | _ | ⟨ownOther⟩ := placesOther
      cases own.symm.trans ownOther
      rfl

theorem measure_comm (a b : HostValue) : host.measure a b = host.measure b a := by
  unfold measure
  cases host.comparand a <;> cases host.comparand b <;> rfl

/-- Of three values two are compared with the third one by one measure. -/
theorem measure_agrees (a b c : HostValue) :
    host.measure a c = host.measure b c ∨ host.measure a b = host.measure a c ∨
      host.measure a b = host.measure b c := by
  unfold measure
  cases host.comparand a <;> cases host.comparand b <;> cases host.comparand c <;> simp [Measure.between]

theorem isString_eq (host : Host) (a : HostValue) :
    Wrapped.isString host a = decide (host.comparand a ≠ .number) := by
  cases a with
  | string text => rfl
  | _ =>
      unfold comparand
      split <;> simp_all

/-! ### What a comparison says -/

/-- The handler converts its operands to the type whose values the measure places. -/
theorem measure_cases (among : host.WrappedAmong a b) :
    host.measure a b = .amounts ∧ Wrapped.orderingType host a b = .number ∨
      host.measure a b = .texts ∧ Wrapped.orderingType host a b = .string := by
  have notText {object : HostValue} {value : Value} (wraps : host.Wraps object value) :
      host.comparand object ≠ .text := by
    obtain ⟨ref, rfl, -⟩ := wraps
    change (if Wrapped.isString host (.userdata ref) then Comparand.wrappedString else .number) ≠ .text
    split <;> decide
  have notBoth : host.comparand a ≠ .text ∨ host.comparand b ≠ .text := by
    cases among with
    | left wraps => exact .inl (notText wraps)
    | right _ wraps => exact .inr (notText wraps)
  unfold measure Wrapped.orderingType
  rw [isString_eq, isString_eq]
  cases host.settings.stringOrdering <;> cases left : host.comparand a <;> cases right : host.comparand b <;>
    simp_all [Measure.between]

/-- Numbers and strings convert to values of the primitive type that is asked for. -/
theorem IsComparand.convert_type (operand : host.IsComparand a) {want : Ty}
    (primitive : want.isPrimitive = true) {value : Value} (converts : host.convert a want = .ok value) :
    value.type = want := by
  cases operand with
  | wrapped wraps =>
      rw [wraps.convert] at converts
      cases want with
      | bool => exact Value.type_of_convertTo .bool rfl converts
      | number => exact Value.type_of_convertTo .number rfl converts
      | string => exact Value.type_of_convertTo .string rfl converts
      | _ => cases primitive
  | native native =>
      have payload : (host.tree a).All Value.WellFormed := by
        cases native with
        | number x => exact .number x
        | string text => exact .string text
      cases want with
      | bool => exact ((Tree.read_sound payload).typed _ _ .bool rfl converts).type_eq .bool
      | number => exact ((Tree.read_sound payload).typed _ _ .number rfl converts).type_eq .number
      | string => exact ((Tree.read_sound payload).typed _ _ .string rfl converts).type_eq .string
      | _ => cases primitive

/-- The truth value of a comparison is that of the places of its operands by a measure. -/
def Compares (host : Host) (kind : Measure) (a b : HostValue) (flag : Bool) : Prop :=
  ∃ x y, host.Places a kind x ∧ host.Places b kind y ∧ flag = decide (x < y)

/-- A host number that is not a number. -/
def IsNaN (a : HostValue) : Prop :=
  ∃ x : Binary64, a = .number x ∧ x.isNaN

/-- A comparison of which one operand is wrapped compares the places of both. -/
theorem lessThan_wrapped (handles : host.Handles .lt) (left : host.IsComparand a)
    (among : host.WrappedAmong a b) {flag : Bool} {after : Host}
    (returned : lessThan a b host = .ok (flag, after)) :
    host.Compares (host.measure a b) a b flag := by
  obtain ⟨answer, answered, rfl⟩ : ∃ answer, Wrapped.ordering Value.lessThan a b host = .ok (answer, after) ∧
      answer.isTruthy = flag := by
    rw [lessThan, compare_handled handles among] at returned
    cases answered : Wrapped.handle .lt [a, b] host with
    | ok answer =>
        rw [answered] at returned
        obtain ⟨rfl, rfl⟩ := Prod.mk.inj (Except.ok.inj returned)
        exact ⟨answer.1, answered, rfl⟩
    | error escape =>
        rw [answered] at returned
        cases returned
  obtain ⟨-, first, second, flag, converts, convertsOther, compared, rfl⟩ := Wrapped.ordering_eq_ok.mp answered
  rcases measure_cases among with ⟨measured, asked⟩ | ⟨measured, asked⟩
  · rw [asked] at converts convertsOther
    rw [measured]
    rcases Value.comparison_eq_ok compared with ⟨x, y, rfl, rfl, rfl⟩ | ⟨s, t, rfl, -⟩
    · refine ⟨x.place, y.place, .amount converts, .amount convertsOther, ?_⟩
      exact Bool.eq_iff_iff.mpr (Decimal.less_iff.trans decide_eq_true_iff.symm)
    · cases left.convert_type rfl converts
  · rw [asked] at converts convertsOther
    rw [measured]
    rcases Value.comparison_eq_ok compared with ⟨x, y, rfl, -⟩ | ⟨s, t, rfl, rfl, rfl⟩
    · cases left.convert_type rfl converts
    · exact ⟨s, t, .text converts, .text convertsOther, rfl⟩

/-- Two numbers of the host's own are compared by their places, unless one of them is not a number. -/
theorem lessThan_numbers {x y : Binary64} {flag : Bool} {after : Host}
    (returned : lessThan (.number x) (.number y) host = .ok (flag, after)) :
    (x.isNaN ∨ y.isNaN) ∧ flag = false ∨ host.Compares .amounts (.number x) (.number y) flag := by
  have converts {z : Binary64} {amount : Decimal} (stands : z.toDecimal? = some amount) :
      host.convert (.number z) .number = .ok (.number amount) := by
    change Reading.ofNumber z = _
    rw [Reading.ofNumber, stands]
  obtain ⟨rfl, -⟩ := Prod.mk.inj (Except.ok.inj returned)
  cases stands : x.toDecimal? with
  | none =>
      obtain ⟨negative, payload, rfl⟩ := Binary64.eq_nan_of_toDecimal? stands
      exact .inl ⟨.inl rfl, rfl⟩
  | some a =>
      cases standsOther : y.toDecimal? with
      | none =>
          obtain ⟨negative, payload, rfl⟩ := Binary64.eq_nan_of_toDecimal? standsOther
          exact .inl ⟨.inr rfl, by cases x <;> rfl⟩
      | some b =>
          refine .inr ⟨a.place, b.place, .amount (converts stands), .amount (converts standsOther), ?_⟩
          exact Bool.eq_iff_iff.mpr ((Binary64.less_iff stands standsOther).trans decide_eq_true_iff.symm)

/-- A comparison that returns compares the places of its operands on the scale of the measure for them, unless
    one of them is not a number. -/
theorem lessThan_places (handles : host.Handles .lt) (left : host.IsComparand a) (right : host.IsComparand b)
    {flag : Bool} {after : Host} (returned : lessThan a b host = .ok (flag, after)) :
    (IsNaN a ∨ IsNaN b) ∧ flag = false ∨ host.Compares (host.measure a b) a b flag := by
  cases left with
  | wrapped wraps typed => exact .inr (lessThan_wrapped handles (.wrapped wraps typed) (.left wraps) returned)
  | native native =>
      cases right with
      | wrapped wraps typed =>
          exact .inr (lessThan_wrapped handles (.native native) (.right native wraps) returned)
      | native nativeOther =>
          cases native with
          | number x =>
              cases nativeOther with
              | number y =>
                  refine (lessThan_numbers returned).imp_left fun ⟨nan, refused⟩ => ⟨?_, refused⟩
                  exact nan.imp (fun nan => ⟨x, rfl, nan⟩) fun nan => ⟨y, rfl, nan⟩
              | string text => cases returned
          | string text =>
              cases nativeOther with
              | number y => cases returned
              | string other =>
                  cases returned
                  exact .inr ⟨text, other, .spelling rfl, .spelling rfl, rfl⟩

/-- What has a place by some measure is not one of the data that are not numbers. -/
theorem Places.not_isNaN {x : kind.Scale} (places : host.Places a kind x) : ¬IsNaN a := by
  rintro ⟨x, rfl, nan⟩
  cases x with
  | finite | infinity => cases nan
  | nan =>
      cases places with
      | amount converts => cases converts
      | text converts => cases converts
      | spelling own => cases own

/-- The three answers of a comparison that returns: a value that is not a number is not less, one value
    precedes, or it does not. -/
theorem lessThan_cases (handles : host.Handles .lt) (left : host.IsComparand a) (right : host.IsComparand b)
    {flag : Bool} {after : Host} (returned : lessThan a b host = .ok (flag, after)) :
    (IsNaN a ∨ IsNaN b) ∧ flag = false ∨ host.Precedes (host.measure a b) a b ∧ flag = true ∨
      (host.Level (host.measure a b) a b ∨ host.Precedes (host.measure a b) b a) ∧ flag = false := by
  rcases lessThan_places handles left right returned with nan | ⟨x, y, places, placesOther, rfl⟩
  · exact .inl nan
  · rcases lt_trichotomy x y with below | rfl | above
    · exact .inr (.inl ⟨⟨x, y, places, placesOther, below⟩, decide_eq_true below⟩)
    · exact .inr (.inr ⟨.inl ⟨x, places, placesOther⟩, decide_eq_false (lt_irrefl x)⟩)
    · exact .inr (.inr ⟨.inr ⟨y, x, placesOther, places, above⟩, decide_eq_false above.asymm⟩)

/-! ### Orders -/

theorem Precedes.trans (first : host.Precedes kind a b) (second : host.Precedes kind b c) :
    host.Precedes kind a c := by
  obtain ⟨x, y, placesA, placesB, below⟩ := first
  obtain ⟨y', z, placesB', placesC, next⟩ := second
  obtain rfl := placesB.unique placesB'
  exact ⟨x, z, placesA, placesC, below.trans next⟩

theorem Precedes.of_level_left (first : host.Level kind b a) (second : host.Precedes kind a c) :
    host.Precedes kind b c := by
  obtain ⟨x, placesB, placesA⟩ := first
  obtain ⟨x', z, placesA', placesC, below⟩ := second
  obtain rfl := placesA.unique placesA'
  exact ⟨x, z, placesB, placesC, below⟩

theorem Precedes.of_level_right (first : host.Precedes kind a b) (second : host.Level kind b c) :
    host.Precedes kind a c := by
  obtain ⟨x, y, placesA, placesB, below⟩ := first
  obtain ⟨y', placesB', placesC⟩ := second
  obtain rfl := placesB.unique placesB'
  exact ⟨x, y, placesA, placesC, below⟩

theorem Precedes.not_level (before : host.Precedes kind a b) : ¬host.Level kind a b := by
  obtain ⟨x, y, placesA, placesB, below⟩ := before
  rintro ⟨z, placesA', placesB'⟩
  obtain rfl := placesA.unique placesA'
  obtain rfl := placesB.unique placesB'
  exact lt_irrefl _ below

theorem Level.symm (level : host.Level kind a b) : host.Level kind b a :=
  let ⟨x, left, right⟩ := level
  ⟨x, right, left⟩

/-! ### Two measures for one pair -/

/-- If two values are compared with a third one by one measure, and with each other by a different one, then
    both are texts of the host's own, or both are strings that are compared as numbers with the third. -/
theorem measure_pair (common : host.measure a b = host.measure b c) :
    host.measure a c = host.measure a b ∨ host.measure a c = .spellings ∨
      host.measure a c = .texts ∧ host.measure a b = .amounts ∧ host.comparand a ≠ .number ∧
        host.comparand c ≠ .number := by
  revert common
  unfold measure
  cases host.settings.stringOrdering <;> cases host.comparand a <;> cases host.comparand b <;>
    cases host.comparand c <;> simp [Measure.between]

/-- A string converts to a number as its normalized text does. -/
theorem IsComparand.convert_number (operand : host.IsComparand a) (isString : host.comparand a ≠ .number)
    {text : String} (converts : host.convert a .string = .ok (.string text)) :
    host.convert a .number = (Value.string text).convert .number := by
  cases operand with
  | native native =>
      cases native with
      | number x => exact absurd rfl isString
      | string own =>
          cases converts
          exact convert_string_number host own
  | wrapped wraps typed =>
      rename_i value
      have isText : value.type = .string := by
        refine typed.resolve_left fun number => isString ?_
        have refused : Wrapped.isString host a = false := by rw [wraps.isString, number]; rfl
        rw [isString_eq] at refused
        simpa using refused
      have unchanged : value.convert .string = .ok value := isText ▸ Value.convertTo_type value
      rw [wraps.convert, unchanged] at converts
      cases converts
      exact wraps.convert .number

/-- Values that are level by a measure are not in an order by a coarser one. -/
theorem Level.not_precedes (first : host.IsComparand a) (third : host.IsComparand c)
    (common : host.measure a b = host.measure b c) (level : host.Level (host.measure a c) a c) :
    ¬host.Precedes (host.measure a b) a c := by
  rcases measure_pair common with same | spelled | ⟨spelled, counted, isString, isStringOther⟩
  · exact fun before => before.not_level (same ▸ level)
  · rw [spelled] at level
    obtain ⟨text, left, right⟩ := level
    obtain _ | _ | ⟨own⟩ := left
    obtain _ | _ | ⟨ownOther⟩ := right
    obtain rfl : a = c := own.trans ownOther.symm
    rintro ⟨x, y, placesA, placesC, below⟩
    exact (placesA.unique placesC).not_lt below
  · rw [spelled] at level
    rw [counted]
    obtain ⟨text, left, right⟩ := level
    obtain _ | ⟨converts⟩ := left
    obtain _ | ⟨convertsOther⟩ := right
    rintro ⟨x, y, placesA, placesC, below⟩
    obtain ⟨amount⟩ := placesA
    obtain ⟨amountOther⟩ := placesC
    rw [first.convert_number isString converts] at amount
    rw [third.convert_number isStringOther convertsOther] at amountOther
    cases amount.symm.trans amountOther
    exact lt_irrefl _ below

end Places

/-! ### Chains of comparisons -/

/-- The lesser of the lesser is less, unless two of the values are at odds. -/
theorem lessThan_transitive {host : Host} (handles : host.Handles .lt) {a b c : HostValue}
    (first : host.IsComparand a) (second : host.IsComparand b) (third : host.IsComparand c)
    {afterFirst afterSecond after : Host} {flag : Bool} (less : lessThan a b host = .ok (true, afterFirst))
    (next : lessThan b c host = .ok (true, afterSecond)) (returned : lessThan a c host = .ok (flag, after)) :
    flag = true ∨ host.AtOdds a b c ∨ host.AtOdds b c a ∨ host.AtOdds c a b := by
  have ab : host.Precedes (host.measure a b) a b := by
    rcases lessThan_cases handles first second less with ⟨-, refused⟩ | ⟨before, -⟩ | ⟨-, refused⟩
    · cases refused
    · exact before
    · cases refused
  have bc : host.Precedes (host.measure b c) b c := by
    rcases lessThan_cases handles second third next with ⟨-, refused⟩ | ⟨before, -⟩ | ⟨-, refused⟩
    · cases refused
    · exact before
    · cases refused
  rcases lessThan_cases handles first third returned with ⟨nan, -⟩ | ⟨-, answered⟩ | ⟨notBefore, -⟩
  · obtain ⟨x, _, places, -, -⟩ := ab
    obtain ⟨_, z, -, placesOther, -⟩ := bc
    exact absurd nan (not_or.mpr ⟨places.not_isNaN, placesOther.not_isNaN⟩)
  · exact .inl answered
  · right
    rcases measure_agrees a b c with common | common | common
    · -- the third value is the last one
      rw [← common] at bc
      refine .inl ⟨common, ab, ?_⟩
      exact notBefore.elim (fun level => bc.of_level_right level.symm) bc.trans
    · -- the third value is the first one
      have back : host.Precedes (host.measure a b) c b := by
        rw [common] at ab ⊢
        exact notBefore.elim (fun level => ab.of_level_left level.symm) fun after => after.trans ab
      rw [measure_comm a b] at common back
      rw [measure_comm a c] at common
      exact .inr (.inl ⟨common, bc, back⟩)
    · -- the third value is the one in the middle
      have ac : host.Precedes (host.measure a b) a c := ab.trans (common ▸ bc)
      have back := notBefore.resolve_left fun level => level.not_precedes first third common ac
      rw [measure_comm a c] at back
      rw [common, measure_comm b c] at ac
      exact .inr (.inr ⟨by rw [measure_comm c b, common], back, ac⟩)

/-! ### Numerals among numbers -/

theorem measured_handles : measured.Handles .lt :=
  start_handles {} (by decide)

theorem measured_wraps : measured.Wraps (.userdata ⟨0⟩) (.number (Decimal.ofParts 95 (-1))) :=
  ⟨_, rfl, rfl⟩

/-- The text of nine is less than nine and a half. -/
theorem lessThan_nine : lessThan (.string "9") (.userdata ⟨0⟩) measured = .ok (true, measured) := by
  have nine : measured.convert (.string "9") .number = .ok (.number (Decimal.ofInt 9)) :=
    convert_numeral measured (by decide +kernel)
  have below : (Decimal.ofInt 9).less (Decimal.ofParts 95 (-1)) = true := by decide +kernel
  exact compare_converted measured_handles rfl (.right (.string _) measured_wraps) nine rfl (below ▸ rfl) _ _

/-- Nine and a half is less than the text of ten. -/
theorem lessThan_ten : lessThan (.userdata ⟨0⟩) (.string "10") measured = .ok (true, measured) := by
  have ten : measured.convert (.string "10") .number = .ok (.number (Decimal.ofInt 10)) :=
    convert_numeral measured (by decide +kernel)
  have above : (Decimal.ofParts 95 (-1)).less (Decimal.ofInt 10) = true := by decide +kernel
  exact compare_converted measured_handles rfl (.left measured_wraps) rfl ten (above ▸ rfl) _ _

/-- Nine and a half is between the texts of nine and ten, but the text of nine comes after that of ten. -/
theorem lessThan_numerals :
    lessThan (.string "9") (.userdata ⟨0⟩) measured = .ok (true, measured) ∧
      lessThan (.userdata ⟨0⟩) (.string "10") measured = .ok (true, measured) ∧
      lessThan (.string "9") (.string "10") measured = .ok (false, measured) :=
  ⟨lessThan_nine, lessThan_ten, rfl⟩

/-- The two texts are at odds. -/
theorem lessThan_transitive_numerals :
    measured.Handles .lt ∧ measured.IsComparand (.string "9") ∧ measured.IsComparand (.userdata ⟨0⟩) ∧
      measured.IsComparand (.string "10") ∧
      lessThan (.string "9") (.userdata ⟨0⟩) measured = .ok (true, measured) ∧
      lessThan (.userdata ⟨0⟩) (.string "10") measured = .ok (true, measured) ∧
      lessThan (.string "9") (.string "10") measured = .ok (false, measured) ∧
      (measured.AtOdds (.string "9") (.userdata ⟨0⟩) (.string "10") ∨
        measured.AtOdds (.userdata ⟨0⟩) (.string "10") (.string "9") ∨
        measured.AtOdds (.string "10") (.string "9") (.userdata ⟨0⟩)) := by
  have nine : measured.IsComparand (.string "9") := .native (.string _)
  have half : measured.IsComparand (.userdata ⟨0⟩) := .wrapped measured_wraps (.inl rfl)
  have ten : measured.IsComparand (.string "10") := .native (.string _)
  have returned : lessThan (.string "9") (.string "10") measured = .ok (false, measured) := rfl
  have odds := lessThan_transitive measured_handles nine half ten lessThan_nine lessThan_ten returned
  exact ⟨measured_handles, nine, half, ten, lessThan_nine, lessThan_ten, returned,
    odds.resolve_left Bool.false_ne_true⟩

end Crosswalk.Host
