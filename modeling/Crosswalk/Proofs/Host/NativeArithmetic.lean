/-
Module: Crosswalk.Proofs.Host.NativeArithmetic
Purpose: How arithmetic on operands without metatables ends. It gives a number, or an error that scripts see,
  except in two cases: an operand is a text with a hexadecimal numeral beyond the doubles, or the operator is
  the remainder and the quotient, which is infinite or no number, has no floor.
Main exports: Binary64.parse_eq_error_iff, Binary64.LacksFloor, Arithmetic.Escapes,
  Host.native_arithmetic_contained_iff
-/
import Crosswalk.Proofs.Binary64.Overflow
import Crosswalk.Proofs.Wrapped.Dispatch

namespace Crosswalk

namespace Binary64

/-! ### Hexadecimal numerals -/

/-- Between blanks a text has an optional sign, `0x` and at least one digit, in any case of letters, and the
    digits denote a number. -/
def IsHexadecimal (text : String) (n : Nat) : Prop :=
  ∃ digits, (Numeral.takeSign (Text.lower (Text.strip text.toList))).2 = '0' :: 'x' :: digits ∧
    digits ≠ [] ∧ hexadecimal? digits = some n

theorem isHexadecimal_iff {text : String} {digits : List Char} {n : Nat}
    (spelt : (Numeral.takeSign (Text.lower (Text.strip text.toList))).2 = '0' :: 'x' :: digits) :
    IsHexadecimal text n ↔ digits ≠ [] ∧ hexadecimal? digits = some n := by
  unfold IsHexadecimal
  rw [spelt]
  constructor
  · rintro ⟨other, same, nonempty, value⟩
    cases same
    exact ⟨nonempty, value⟩
  · exact fun ⟨nonempty, value⟩ => ⟨digits, rfl, nonempty, value⟩

/-- A number of units rounds to an infinity from the threshold on. -/
theorem ofUnits_isInfinite_iff (negative : Bool) {n : Nat} :
    (∃ infinite, ofUnits negative n 1 = .infinity infinite) ↔ overflowThreshold ≤ n := by
  constructor
  · rintro ⟨_, infinite⟩
    by_contra below
    obtain ⟨_, finite⟩ := ofUnits_of_lt negative Nat.one_pos
      (by rw [Nat.mul_one]; exact not_le.mp below)
    rw [finite] at infinite
    cases infinite
  · exact fun beyond => ⟨_, ofUnits_of_le negative Nat.one_pos (by rwa [Nat.mul_one])⟩

/-- A text is refused exactly if it is a hexadecimal numeral that rounds to an infinity. -/
theorem parse_eq_error_iff {text : String} :
    parse text = .error {} ↔ ∃ n, IsHexadecimal text n ∧ overflowThreshold ≤ n * one := by
  -- a name for the rounding keeps the case splits from unfolding the number of units
  obtain ⟨rounded, eq_rounded⟩ : ∃ rounded : Bool → Nat → Binary64,
      ∀ negative n, ofUnits negative (n * one) 1 = rounded negative n := ⟨_, fun _ _ => rfl⟩
  obtain ⟨answer, parsed⟩ : ∃ answer, parse text = answer := ⟨_, rfl⟩
  rw [parsed]
  unfold parse at parsed
  extract_lets body at parsed
  split at parsed
  next negative unsigned signed =>
  split at parsed
  next digits =>
      have hexadecimal (n : Nat) := isHexadecimal_iff (n := n) (congrArg Prod.snd signed)
      simp only [eq_rounded] at parsed
      split at parsed
      next empty =>
          refine iff_of_false (by simp [← parsed]) fun ⟨n, spelt, _⟩ => ?_
          exact ((hexadecimal n).mp spelt).1 (List.isEmpty_iff.mp empty)
      next nonempty =>
          split at parsed
          next noNumber =>
              refine iff_of_false (by simp [← parsed]) fun ⟨n, spelt, _⟩ => ?_
              exact absurd (noNumber.symm.trans ((hexadecimal n).mp spelt).2) nofun
          next n value =>
              have only : (∃ m, IsHexadecimal text m ∧ overflowThreshold ≤ m * one) ↔
                  overflowThreshold ≤ n * one := by
                constructor
                · rintro ⟨m, spelt, beyond⟩
                  cases value.symm.trans ((hexadecimal m).mp spelt).2
                  exact beyond
                · exact fun beyond => ⟨n, (hexadecimal n).mpr ⟨by simpa using nonempty, value⟩, beyond⟩
              rw [only, ← ofUnits_isInfinite_iff negative, eq_rounded]
              split at parsed
              next infinite => exact iff_of_true parsed.symm ⟨_, infinite⟩
              next finite => exact iff_of_false (by simp [← parsed]) fun ⟨_, infinite⟩ => finite _ infinite
  next notHexadecimal =>
      refine iff_of_false (by simp [← parsed]) fun ⟨n, ⟨digits, spelt, _⟩, _⟩ => ?_
      exact notHexadecimal digits ((congrArg Prod.snd signed).symm.trans spelt)

/-! ### Remainders -/

/-- The quotient of two doubles with a divisor that is not zero has no floor: it is infinite, or it is no
    number. -/
inductive LacksFloor : Binary64 → Binary64 → Fault → Prop
  | infinite {s t : Bool} {v : Nat} {isMagnitude : IsMagnitude v} (nonzero : v ≠ 0) :
      LacksFloor (.infinity s) (.finite t v isMagnitude) .tooLarge
  | overflow {s t : Bool} {u v : Nat} {isMagnitude : IsMagnitude u} {isMagnitudeOther : IsMagnitude v}
      (nonzero : v ≠ 0) (beyond : overflowThreshold * v ≤ u * one) :
      LacksFloor (.finite s u isMagnitude) (.finite t v isMagnitudeOther) .tooLarge
  | bothInfinite {s t : Bool} : LacksFloor (.infinity s) (.infinity t) (.invalid .floorOfNaN)
  | dividend {x y : Binary64} (noNumber : x.isNaN = true) (nonzero : y.isZero = false) :
      LacksFloor x y (.invalid .floorOfNaN)
  | divisor {x y : Binary64} (noNumber : y.isNaN = true) : LacksFloor x y (.invalid .floorOfNaN)

end Binary64

namespace Arithmetic

open Binary64

/-- The remainder fails where the quotient has no floor. -/
theorem modulo_of_lacksFloor (fresh : Nat) {x y : Binary64} {fault : Fault} (lacks : LacksFloor x y fault) :
    modulo fresh x y = .error fault := by
  cases lacks with
  | infinite nonzero | bothInfinite => simp [modulo, divide, isZero, unordered, *]
  | overflow nonzero beyond =>
      have infinite (negative : Bool) := ofUnits_of_le negative (Nat.pos_of_ne_zero nonzero) beyond
      simp [modulo, divide, isZero, nonzero, infinite]
  | dividend noNumber nonzero =>
      cases x with
      | nan => simp [modulo, divide, nonzero, unordered]
      | finite | infinity => cases noNumber
  | divisor noNumber =>
      cases y with
      | nan => cases x <;> simp [modulo, divide, isZero, unordered]
      | finite | infinity => cases noNumber

/-- The remainder exists where the quotient has a floor. -/
theorem exists_modulo (fresh : Nat) {x y : Binary64} (floors : ∀ fault, ¬LacksFloor x y fault) :
    ∃ z, modulo fresh x y = .ok z := by
  cases zero : y.isZero with
  | true => exact ⟨_, by rw [modulo, if_pos zero]⟩
  | false =>
      cases x with
      | nan => exact absurd (.dividend rfl zero) (floors _)
      | infinity s =>
          cases y with
          | nan => exact absurd (.divisor rfl) (floors _)
          | infinity => exact absurd .bothInfinite (floors _)
          | finite t v => exact absurd (.infinite (by simpa [isZero] using zero)) (floors _)
      | finite s u =>
          cases y with
          | nan => exact absurd (.divisor rfl) (floors _)
          | infinity t => exact ⟨_, by simp only [modulo, divide, zero]; rfl⟩
          | finite t v =>
              have nonzero : v ≠ 0 := by simpa [isZero] using zero
              have below : u * one < overflowThreshold * v :=
                not_le.mp fun beyond => floors _ (.overflow nonzero beyond)
              obtain ⟨_, finite⟩ := ofUnits_of_lt (s != t) (Nat.pos_of_ne_zero nonzero) below
              exact ⟨_, by simp only [modulo, divide, zero, finite]; rfl⟩

/-- An operator on two numbers fails only as a remainder of numbers whose quotient has no floor. -/
theorem compute_eq_error_iff {operator : Arithmetic} {fresh : Nat} {x y : Binary64} {fault : Fault} :
    operator.compute fresh x y = .error fault ↔ operator = .mod ∧ LacksFloor x y fault := by
  cases operator with
  | add | sub | mul | div => exact iff_of_false nofun fun failed => nomatch failed.1
  | mod =>
      refine ⟨fun failed => ⟨rfl, ?_⟩, fun lacks => modulo_of_lacksFloor fresh lacks.2⟩
      by_cases floors : ∀ other, ¬LacksFloor x y other
      · obtain ⟨z, computed⟩ := exists_modulo fresh floors
        cases computed.symm.trans failed
      · obtain ⟨other, lacks⟩ := not_forall_not.mp floors
        cases (modulo_of_lacksFloor fresh lacks).symm.trans failed
        exact lacks

end Arithmetic

/-! ### Operands -/

/-- A text that arithmetic refuses to read: a hexadecimal numeral beyond the doubles. -/
def HostValue.IsOversized (object : HostValue) : Prop :=
  ∃ text n, object = .string text ∧ Binary64.IsHexadecimal text n ∧ Binary64.overflowThreshold ≤ n * Binary64.one

/-- What keeps arithmetic on two operands without handlers from ending as scripts expect. -/
inductive Arithmetic.Escapes (operator : Arithmetic) (a b : HostValue) : Fault → Prop
  | left (oversized : a.IsOversized) : Escapes operator a b .tooLarge
  | right (oversized : b.IsOversized) : Escapes operator a b .tooLarge
  | remainder {x y : Binary64} {fault : Fault} (isRemainder : operator = .mod)
      (first : Host.toNumber a = .ok (some x)) (second : Host.toNumber b = .ok (some y))
      (lacks : Binary64.LacksFloor x y fault) : Escapes operator a b fault

/-- The number one. -/
def HostValue.one : HostValue :=
  .number (.finite false Binary64.one (by decide +kernel))

theorem Binary64.infinity_lacksFloor :
    LacksFloor (.infinity false) (.finite false one (by decide +kernel)) .tooLarge :=
  .infinite (by decide +kernel)

namespace Host

variable {host : Host} {a b : HostValue} {operator : Arithmetic} {fault : Fault}

theorem toNumber_eq_error_iff : toNumber a = .error fault ↔ a.IsOversized ∧ fault = .tooLarge := by
  cases a with
  | string text =>
      have oversized : (HostValue.string text).IsOversized ↔ Binary64.parse text = .error {} := by
        rw [Binary64.parse_eq_error_iff]
        constructor
        · rintro ⟨_, n, same, beyond⟩
          cases same
          exact ⟨n, beyond⟩
        · exact fun ⟨n, beyond⟩ => ⟨text, n, rfl, beyond⟩
      rw [oversized, toNumber]
      cases Binary64.parse text with
      | ok number => exact iff_of_false nofun fun refused => nomatch refused.1
      | error => exact ⟨fun refused => ⟨rfl, (Except.error.inj refused).symm⟩, fun refused => refused.2 ▸ rfl⟩
  | nil | boolean | number | table | function | userdata =>
      exact iff_of_false nofun fun ⟨⟨_, _, same, _⟩, _⟩ => nomatch same

theorem kind_of_toNumber (unread : toNumber a = .ok none) : a.kind ≠ .number := by
  cases a with
  | number => cases unread
  | nil | boolean | string | table | function | userdata => nofun

theorem metafield_of_metatable? (native : host.metatable? a = none) (key : String) :
    host.metafield a key = .nil := by
  rw [metafield, native]

/-- Arithmetic ends as scripts expect: with a number, or with an error of theirs that names the kind of an
    operand that is no number. -/
inductive Contained : Except Escape (HostValue × Host) → Prop
  | number (x : Binary64) (after : Host) : Contained (.ok (.number x, after))
  | raised {kind : HostKind} (noNumber : kind ≠ .number) : Contained (.error (.raised (.arithmeticOn kind)))

theorem not_contained_fault : ¬Contained (.error (.fault fault)) :=
  nofun

/-- What fails in certain cases, and ends as scripts expect in all others, fails in just these cases. -/
theorem contained_iff {ending : Except Escape (HostValue × Host)} {Escapes : Fault → Prop}
    (fails : ∀ fault, Escapes fault → ending = .error (.fault fault))
    (contained : (∀ fault, ¬Escapes fault) → Contained ending) :
    (Contained ending ↔ ∀ fault, ¬Escapes fault) ∧
      ∀ fault, ending = .error (.fault fault) ↔ Escapes fault := by
  refine ⟨⟨fun ends fault escapes => ?_, contained⟩, fun fault => ⟨fun failed => ?_, fails fault⟩⟩
  · rw [fails fault escapes] at ends
    exact not_contained_fault ends
  · by_contra stays
    have ends : Contained ending := contained fun other escapes => by
      cases (fails other escapes).symm.trans failed
      exact stays escapes
    rw [failed] at ends
    exact not_contained_fault ends

/-! ### Operators -/

/-- Reading an operand that is refused ends the computation. -/
theorem machine_of_error {α β : Type} {outcome : Outcome α} {next : α → Machine β} (failed : outcome = .error fault) :
    (Machine.ofOutcome outcome >>= next) host = .error (.fault fault) :=
  Machine.bind_of_error (by rw [failed]; rfl)

section Native

variable (nativeA : host.metatable? a = none) (nativeB : host.metatable? b = none)

include nativeA nativeB in
/-- An operator with an operand that is no number has no handler to call. -/
theorem arithmetic_of_unread {x y : Option Binary64} (first : toNumber a = .ok x) (second : toNumber b = .ok y)
    (unread : x = none ∨ y = none) : Contained (arithmetic operator a b host) := by
  have noHandler : handlerOf operator.event a b host = .ok (.nil, host) := by
    rw [handlerOf, Machine.get_bind_apply, metafield_of_metatable? nativeA, metafield_of_metatable? nativeB]
    rfl
  have raised : arithmetic operator a b host =
      .error (.raised (.arithmeticOn (if x.isSome then b.kind else a.kind))) := by
    rw [arithmetic, Machine.bind_of_ok (Machine.ofOutcome_of_ok first),
      Machine.bind_of_ok (Machine.ofOutcome_of_ok second)]
    rcases unread with rfl | rfl
    · cases y <;> exact Machine.bind_of_ok noHandler
    · cases x <;> exact Machine.bind_of_ok noHandler
  rw [raised]
  refine .raised ?_
  cases x with
  | none => exact kind_of_toNumber first
  | some p =>
      obtain rfl : y = none := unread.resolve_left (Option.some_ne_none p)
      exact kind_of_toNumber second

/-- An operator on two operands that read as numbers computes with these. -/
theorem arithmetic_of_toNumber {x y : Binary64} (first : toNumber a = .ok (some x))
    (second : toNumber b = .ok (some y)) :
    arithmetic operator a b host =
      (Machine.ofOutcome (operator.compute (host.payloads + 1) x y) >>= fun z => Machine.fresh fun _ => z) host := by
  rw [arithmetic, Machine.bind_of_ok (Machine.ofOutcome_of_ok first),
    Machine.bind_of_ok (Machine.ofOutcome_of_ok second)]
  exact Machine.get_bind_apply ..

theorem arithmetic_of_escapes (escapes : operator.Escapes a b fault) :
    arithmetic operator a b host = .error (.fault fault) := by
  cases escapes with
  | left oversized => exact machine_of_error (toNumber_eq_error_iff.mpr ⟨oversized, rfl⟩)
  | right oversized =>
      have second := toNumber_eq_error_iff.mpr ⟨oversized, rfl⟩
      cases first : toNumber a with
      | error fault =>
          cases (toNumber_eq_error_iff.mp first).2
          exact machine_of_error first
      | ok x =>
          rw [arithmetic, Machine.bind_of_ok (Machine.ofOutcome_of_ok first)]
          exact machine_of_error second
  | remainder isRemainder first second lacks =>
      rw [arithmetic_of_toNumber first second]
      exact machine_of_error (Arithmetic.compute_eq_error_iff.mpr ⟨isRemainder, lacks⟩)

include nativeA nativeB in
theorem arithmetic_contained (contained : ∀ fault, ¬operator.Escapes a b fault) :
    Contained (arithmetic operator a b host) := by
  cases first : toNumber a with
  | error fault => exact absurd (.left (toNumber_eq_error_iff.mp first).1) (contained _)
  | ok x =>
      cases second : toNumber b with
      | error fault => exact absurd (.right (toNumber_eq_error_iff.mp second).1) (contained _)
      | ok y =>
          cases x with
          | none => exact arithmetic_of_unread nativeA nativeB first second (.inl rfl)
          | some x =>
              cases y with
              | none => exact arithmetic_of_unread nativeA nativeB first second (.inr rfl)
              | some y =>
                  cases computed : operator.compute (host.payloads + 1) x y with
                  | error fault =>
                      obtain ⟨isRemainder, lacks⟩ := Arithmetic.compute_eq_error_iff.mp computed
                      exact absurd (.remainder isRemainder first second lacks) (contained fault)
                  | ok z =>
                      rw [arithmetic_of_toNumber first second,
                        Machine.bind_of_ok (Machine.ofOutcome_of_ok computed)]
                      exact .number _ _

theorem unaryMinus_of_isOversized (oversized : a.IsOversized) : unaryMinus a host = .error (.fault .tooLarge) :=
  machine_of_error (toNumber_eq_error_iff.mpr ⟨oversized, rfl⟩)

include nativeA in
theorem unaryMinus_contained (readable : ¬a.IsOversized) : Contained (unaryMinus a host) := by
  cases read : toNumber a with
  | error fault => exact absurd (toNumber_eq_error_iff.mp read).1 readable
  | ok x =>
      rw [unaryMinus, Machine.bind_of_ok (Machine.ofOutcome_of_ok read)]
      cases x with
      | some x => exact .number _ _
      | none =>
          simp only [Machine.get_bind_apply, metafield_of_metatable? nativeA]
          exact .raised (kind_of_toNumber read)

end Native

/-- Arithmetic on operands without metatables gives a number or an error that scripts see, unless an operand is
    a hexadecimal numeral beyond the doubles, or the operator is the remainder and the quotient has no floor.
    In these cases, and in no others, the failure escapes. -/
theorem native_arithmetic_contained_iff (host : Host) {a b : HostValue} (nativeA : host.metatable? a = none)
    (nativeB : host.metatable? b = none) :
    (∀ operator : Arithmetic,
      (Contained (arithmeticByKey operator.event.key a b host) ↔ ∀ fault, ¬operator.Escapes a b fault) ∧
      ∀ fault, arithmeticByKey operator.event.key a b host = .error (.fault fault) ↔ operator.Escapes a b fault) ∧
    (Contained (unaryMinus a host) ↔ ¬a.IsOversized) ∧
    (unaryMinus a host = .error (.fault .tooLarge) ↔ a.IsOversized) := by
  refine ⟨fun operator => ?_, ?_⟩
  · have known : arithmeticByKey operator.event.key a b host = arithmetic operator a b host := by
      cases operator <;> rfl
    rw [known]
    exact contained_iff (fun _ => arithmetic_of_escapes) (arithmetic_contained nativeA nativeB)
  · obtain ⟨contained, failed⟩ := contained_iff
      (fun fault (refused : a.IsOversized ∧ fault = .tooLarge) => refused.2 ▸ unaryMinus_of_isOversized refused.1)
      fun readable => unaryMinus_contained nativeA fun oversized => readable .tooLarge ⟨oversized, rfl⟩
    exact ⟨contained.trans (by simp), (failed .tooLarge).trans (and_iff_left rfl)⟩

/-- Infinity can be divided by one and negated, but its remainder by one fails. -/
theorem native_arithmetic_contained_iff_infinity :
    Contained (arithmeticByKey "__div" (.number (.infinity false)) .one (start {})) ∧
    arithmeticByKey "__mod" (.number (.infinity false)) .one (start {}) = .error (.fault .tooLarge) ∧
    Contained (unaryMinus (.number (.infinity false)) (start {})) := by
  have readable (x : Binary64) : ¬(HostValue.number x).IsOversized := fun ⟨_, _, same, _⟩ => nomatch same
  obtain ⟨binary, unary, -⟩ :=
    native_arithmetic_contained_iff (start {}) (a := .number (.infinity false)) (b := .one) rfl rfl
  refine ⟨(binary .div).1.mpr fun fault escapes => ?_, ((binary .mod).2 .tooLarge).mpr ?_, unary.mpr (readable _)⟩
  · cases escapes with
    | left oversized | right oversized => exact readable _ oversized
    | remainder isRemainder => cases isRemainder
  · exact .remainder rfl rfl rfl Binary64.infinity_lacksFloor

/-- Arithmetic on numbers does not always end with a number or an error that scripts see: the remainder of
    infinity by one escapes. -/
theorem remainder_of_infinity_escapes :
    ¬Contained (arithmeticByKey "__mod" (.number (.infinity false)) .one (start {})) := by
  have escapes : Arithmetic.mod.Escapes (.number (.infinity false)) .one .tooLarge :=
    .remainder rfl rfl rfl Binary64.infinity_lacksFloor
  have failed : arithmeticByKey "__mod" (.number (.infinity false)) .one (start {}) = .error (.fault .tooLarge) :=
    arithmetic_of_escapes escapes
  rw [failed]
  exact not_contained_fault

end Host

end Crosswalk
