/-
Module: Crosswalk.Proofs.Wrapped.Ordering
Purpose: The orderings of wrapped values. A comparison that returns compares what its operands convert to. On
  wrapped numbers, and on wrapped strings where they are ordered as such, the comparisons of the host and
  its equality agree on one linear order: that of the numbers, or of the texts.
Main exports: Wrapped.orderingType, Wrapped.ordering_eq_ok, Host.OrderedAs, Host.Orderable, Host.Answers,
  Host.orderable_linear
-/
import Crosswalk.Proofs.Decimal.Order
import Crosswalk.Proofs.Wrapped.Dispatch

namespace Crosswalk

namespace Wrapped

/-! ### The handler -/

/-- The type that the operands of an ordering are converted to. -/
def orderingType (host : Host) (a b : HostValue) : Ty :=
  if host.settings.stringOrdering && isString host a && isString host b then .string else .number

/-- Only a truth value with data has a truth value. -/
theorem truth_eq_ok {value : Value} {flag : Bool} : value.truth = .ok flag ↔ value = .bool flag := by
  have refused (other : Value) : (other.refuse .notAKnownBool : Outcome Bool) ≠ .ok flag := by
    unfold Value.refuse
    split
    · nofun
    · split <;> nofun
  cases value with
  | bool own => simp [Value.truth]
  | _ => simp [Value.truth, refused]

/-- The handler returns the truth value that a comparison has. -/
theorem answered_eq_ok {value : Value} {host after : Host} {answer : HostValue} :
    (match value with
      | .unknown _ => Machine.raise .compareUnknown
      | value => do
        let flag ← Machine.ofOutcome value.truth
        pure (.boolean flag) : Machine HostValue) host = .ok (answer, after) ↔
      ∃ flag, value = .bool flag ∧ answer = .boolean flag ∧ after = host := by
  have known (value : Value) : (Machine.ofOutcome value.truth >>= fun flag => pure (.boolean flag)) host =
      .ok (answer, after) ↔ ∃ flag, value = .bool flag ∧ answer = .boolean flag ∧ after = host := by
    rw [Machine.bind_apply]
    constructor
    · intro answered
      cases truth : value.truth with
      | ok flag =>
          rw [truth] at answered
          cases answered
          exact ⟨flag, truth_eq_ok.mp truth, rfl, rfl⟩
      | error fault =>
          rw [truth] at answered
          cases answered
    · rintro ⟨flag, rfl, rfl, rfl⟩
      rfl
  cases value with
  | unknown ty =>
      change Except.error (Escape.raised .compareUnknown) = Except.ok (answer, after) ↔ _
      simp
  | _ => exact known _

/-- An ordering returns the truth value that the comparison of its converted operands has. -/
theorem ordering_eq_ok {operation : Value → Value → Outcome Value} {a b answer : HostValue}
    {host after : Host} :
    ordering operation a b host = .ok (answer, after) ↔
      after = host ∧ ∃ left right flag, host.convert a (orderingType host a b) = .ok left ∧
        host.convert b (orderingType host a b) = .ok right ∧ operation left right = .ok (.bool flag) ∧
        answer = .boolean flag := by
  unfold ordering
  rw [Machine.get_bind_apply]
  simp only [Machine.bind_eq_ok, operand_eq_ok, result, raising_eq_ok]
  constructor
  · rintro ⟨left, _, ⟨convertsLeft, rfl⟩, right, _, ⟨convertsRight, rfl⟩, value, _, ⟨compared, rfl⟩, answered⟩
    obtain ⟨flag, rfl, rfl, rfl⟩ := answered_eq_ok.mp answered
    exact ⟨rfl, left, right, flag, convertsLeft, convertsRight, compared, rfl⟩
  · rintro ⟨rfl, left, right, flag, convertsLeft, convertsRight, compared, rfl⟩
    exact ⟨left, _, ⟨convertsLeft, rfl⟩, right, _, ⟨convertsRight, rfl⟩, .bool flag, _, ⟨compared, rfl⟩,
      answered_eq_ok.mpr ⟨flag, rfl, rfl, rfl⟩⟩

end Wrapped

/-! ### Orders of wrapped values -/

namespace Host

/-- The comparisons of two host values are those of two places in a linear order: less, less or equal, and
    equal. None of them raises, or changes the host. -/
structure OrderedAs {κ : Type} [LinearOrder κ] (host : Host) (a b : HostValue) (x y : κ) : Prop where
  less : lessThan a b host = .ok (decide (x < y), host)
  lessOrEqual : lessEqual a b host = .ok (decide (x ≤ y), host)
  equal : equals a b host = .ok (decide (x = y), host)

/-- Wrapped numbers and, where strings are ordered by their text, wrapped strings: each of them is comparable
    with all others of its type. -/
inductive Orderable (host : Host) : Ty → HostValue → Prop
  | number {object : HostValue} {amount : Decimal} (wraps : host.Wraps object (.number amount)) :
      Orderable host .number object
  | string {object : HostValue} {text : String} (enabled : host.settings.stringOrdering = true)
      (wraps : host.Wraps object (.string text)) : Orderable host .string object

section Ordered

variable {host : Host} {a b : HostValue} {left right : Value}

/-- A wrapped value counts as a string if it is one. -/
theorem Wraps.isString (wraps : host.Wraps a left) :
    Wrapped.isString host a = decide (left.type = .string) := by
  have unwrapped := wraps.unwrap
  obtain ⟨ref, rfl, -⟩ := wraps
  simp [Wrapped.isString, unwrapped]

/-- An ordering of which one operand is wrapped is the comparison of what the operands convert to. -/
theorem compare_converted {event : Event} {amounts : Decimal → Decimal → Bool} {texts : String → String → Bool}
    (handles : host.Handles event)
    (isOrdering : Wrapped.handle event [a, b] = Wrapped.ordering (Value.comparison amounts texts) a b)
    (among : host.WrappedAmong a b) (converts : host.convert a (Wrapped.orderingType host a b) = .ok left)
    (convertsOther : host.convert b (Wrapped.orderingType host a b) = .ok right) {flag : Bool}
    (compared : Value.comparison amounts texts left right = .ok (.bool flag))
    (numbers : Binary64 → Binary64 → Bool) (spellings : String → String → Bool) :
    compare event numbers spellings a b host = .ok (flag, host) := by
  have answered : Wrapped.handle event [a, b] host = .ok (.boolean flag, host) := by
    rw [isOrdering]
    exact Wrapped.ordering_eq_ok.mpr ⟨rfl, left, right, flag, converts, convertsOther, compared, rfl⟩
  rw [compare_handled handles among, answered]
  rfl

/-- A wrapped value converts to its own type as it is. -/
theorem Wraps.convert_type (wraps : host.Wraps a left) {want : Ty} (typed : left.type = want) :
    host.convert a want = .ok left :=
  (wraps.convert want).trans (typed ▸ Value.convertTo_type left)

/-- Equality of two wrapped values that the structural system decides. -/
theorem equals_wrapped (handles : host.Handles .eq) (wraps : host.Wraps a left)
    (wrapsOther : host.Wraps b right) {same : Bool} (decided : left.sameAs right = some same)
    (reflexive : left = right → same = true) :
    equals a b host = .ok (same, host) := by
  have asked : Wrapped.equality host a b = same := by
    simp [Wrapped.equality, wraps.unwrap, wrapsOther.unwrap, decided]
  have identical (one : a = b) : same = true :=
    reflexive (wraps.unique (one ▸ wrapsOther))
  rw [equals_handled handles wraps wrapsOther, asked]
  by_cases one : a = b
  · rw [identical one, Bool.or_true]
  · simp [one]

/-- Two wrapped numbers stand in the order of their places. -/
theorem orderedAs_numbers (handles : host.HandlesAll) {x y : Decimal} (wraps : host.Wraps a (.number x))
    (wrapsOther : host.Wraps b (.number y)) : host.OrderedAs a b x.place y.place := by
  have asked : Ty.number = Wrapped.orderingType host a b := by
    simp [Wrapped.orderingType, wraps.isString, Value.type]
  have converts := wraps.convert_type asked
  have convertsOther := wrapsOther.convert_type asked
  have less : x.less y = decide (x.place < y.place) := Bool.eq_iff_iff.mpr (by simp [Decimal.less_iff])
  have lessOrEqual : x.lessOrEqual y = decide (x.place ≤ y.place) :=
    Bool.eq_iff_iff.mpr (by simp [Decimal.lessOrEqual_iff])
  have same : decide (x = y) = decide (x.place = y.place) :=
    decide_eq_decide.mpr ⟨congrArg Decimal.place, Decimal.place_injective⟩
  constructor
  · rw [← less]
    exact compare_converted (handles .lt (by decide)) rfl (.left wraps) converts convertsOther rfl _ _
  · rw [← lessOrEqual]
    exact compare_converted (handles .le (by decide)) rfl (.left wraps) converts convertsOther rfl _ _
  · rw [← same]
    exact equals_wrapped (handles .eq (by decide)) wraps wrapsOther rfl fun one => by cases one; simp

/-- Two wrapped strings stand in the order of their texts, if the settings say so. -/
theorem orderedAs_strings (handles : host.HandlesAll) (enabled : host.settings.stringOrdering = true)
    {s t : String} (wraps : host.Wraps a (.string s)) (wrapsOther : host.Wraps b (.string t)) :
    host.OrderedAs a b s t := by
  have asked : Ty.string = Wrapped.orderingType host a b := by
    simp [Wrapped.orderingType, enabled, wraps.isString, wrapsOther.isString, Value.type]
  have converts := wraps.convert_type asked
  have convertsOther := wrapsOther.convert_type asked
  constructor
  · exact compare_converted (handles .lt (by decide)) rfl (.left wraps) converts convertsOther rfl _ _
  · exact compare_converted (handles .le (by decide)) rfl (.left wraps) converts convertsOther rfl _ _
  · exact equals_wrapped (handles .eq (by decide)) wraps wrapsOther rfl fun one => by cases one; simp

end Ordered

/-! ### A linear order -/

/-- What the comparisons of two host values give, if the values stand in an order: exactly one of less, equal
    and greater holds. None of the comparisons raises, or changes the host. -/
structure Answers (host : Host) (a b : HostValue) (order : Ordering) : Prop where
  lessThan : lessThan a b host = .ok (order.isLT, host)
  lessEqual : lessEqual a b host = .ok (order.isLE, host)
  equals : equals a b host = .ok (order.isEq, host)
  greaterThan : greaterThan a b host = .ok (order.isGT, host)
  greaterEqual : greaterEqual a b host = .ok (order.isGE, host)

/-- Three host values are compared as members of a strict linear order that agrees with equality. -/
structure Linear (host : Host) (a b c : HostValue) : Prop where
  irreflexive : lessThan a a host = .ok (false, host)
  trichotomous : ∃ order : Ordering, host.Answers a b order ∧ host.Answers b a order.swap
  transitive (less : lessThan a b host = .ok (true, host)) (next : lessThan b c host = .ok (true, host)) :
    lessThan a c host = .ok (true, host)

section Places

variable {κ : Type} [LinearOrder κ] {host : Host} {a b c : HostValue} {x y z : κ}

/-- Values that stand in the order of two places, both ways, are compared as the places are. -/
theorem OrderedAs.answers (ordered : host.OrderedAs a b x y) (reversed : host.OrderedAs b a y x)
    {order : Ordering} (compares : order.Compares x y) : host.Answers a b order := by
  have less : decide (x < y) = order.isLT := by
    rw [Bool.eq_iff_iff, decide_eq_true_iff, ← compares.eq_lt]
    cases order <;> decide
  have same : decide (x = y) = order.isEq := by
    rw [Bool.eq_iff_iff, decide_eq_true_iff, ← compares.eq_eq]
    cases order <;> decide
  have greater : decide (y < x) = order.isGT := by
    rw [Bool.eq_iff_iff, decide_eq_true_iff, ← compares.eq_gt]
    cases order <;> decide
  have lessOrEqual : decide (x ≤ y) = order.isLE := by
    rw [Bool.eq_iff_iff, decide_eq_true_iff, ← compares.ne_gt]
    cases order <;> decide
  have greaterOrEqual : decide (y ≤ x) = order.isGE := by
    rw [Bool.eq_iff_iff, decide_eq_true_iff, ← compares.ne_lt]
    cases order <;> decide
  exact ⟨less ▸ ordered.less, lessOrEqual ▸ ordered.lessOrEqual, same ▸ ordered.equal,
    greater ▸ reversed.less, greaterOrEqual ▸ reversed.lessOrEqual⟩

theorem OrderedAs.lessThan_iff (ordered : host.OrderedAs a b x y) :
    lessThan a b host = .ok (true, host) ↔ x < y := by
  rw [ordered.less]
  simp

/-- Values that have places in a linear order, and are compared as these, are in a linear order. -/
theorem linear_of_places (IsAt : HostValue → κ → Prop)
    (ordered : ∀ {a b : HostValue} {x y : κ}, IsAt a x → IsAt b y → host.OrderedAs a b x y)
    (first : IsAt a x) (second : IsAt b y) (third : IsAt c z) : host.Linear a b c where
  irreflexive := by
    rw [(ordered first first).less]
    simp
  trichotomous := by
    have compares := cmp_compares x y
    exact ⟨_, (ordered first second).answers (ordered second first) compares,
      (ordered second first).answers (ordered first second) compares.swap⟩
  transitive less next :=
    (ordered first third).lessThan_iff.mpr
      (((ordered first second).lessThan_iff.mp less).trans ((ordered second third).lessThan_iff.mp next))

end Places

/-- Wrapped numbers are in a linear order, whatever the settings, and so are wrapped strings where strings are
    ordered by their text. -/
theorem orderable_linear {host : Host} (handles : host.HandlesAll) {ty : Ty} {a b c : HostValue}
    (first : host.Orderable ty a) (second : host.Orderable ty b) (third : host.Orderable ty c) :
    host.Linear a b c := by
  cases first with
  | number first =>
      obtain ⟨second⟩ := second
      obtain ⟨third⟩ := third
      exact linear_of_places
        (fun object place => ∃ amount : Decimal, host.Wraps object (.number amount) ∧ amount.place = place)
        (fun ⟨_, wraps, place⟩ ⟨_, wrapsOther, placeOther⟩ =>
          place ▸ placeOther ▸ orderedAs_numbers handles wraps wrapsOther)
        ⟨_, first, rfl⟩ ⟨_, second, rfl⟩ ⟨_, third, rfl⟩
  | string enabled first =>
      obtain _ | ⟨-, second⟩ := second
      obtain _ | ⟨-, third⟩ := third
      exact linear_of_places (fun object text => host.Wraps object (.string text))
        (orderedAs_strings handles enabled) first second third

/-- A host with the wrapped numbers nine and a half, ten, and infinity. -/
def measured : Host :=
  { start {} with
    userdata := #[⟨.structural (.number (Decimal.ofParts 95 (-1))), some wrappedMetatable⟩,
      ⟨.structural (.number (Decimal.ofInt 10)), some wrappedMetatable⟩,
      ⟨.structural (.number (.infinity false)), some wrappedMetatable⟩] }

/-- Nine and a half, ten, and infinity are in a linear order. -/
theorem orderable_linear_measured :
    measured.HandlesAll ∧ measured.Orderable .number (.userdata ⟨0⟩) ∧
      measured.Orderable .number (.userdata ⟨1⟩) ∧ measured.Orderable .number (.userdata ⟨2⟩) ∧
      measured.Linear (.userdata ⟨0⟩) (.userdata ⟨1⟩) (.userdata ⟨2⟩) := by
  have handles : measured.HandlesAll := start_handlesAll {}
  have first : measured.Orderable .number (.userdata ⟨0⟩) := .number ⟨_, rfl, rfl⟩
  have second : measured.Orderable .number (.userdata ⟨1⟩) := .number ⟨_, rfl, rfl⟩
  have third : measured.Orderable .number (.userdata ⟨2⟩) := .number ⟨_, rfl, rfl⟩
  exact ⟨handles, first, second, third, orderable_linear handles first second third⟩

end Host

end Crosswalk
