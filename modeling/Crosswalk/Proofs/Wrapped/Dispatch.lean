/-
Module: Crosswalk.Proofs.Wrapped.Dispatch
Purpose: An operator of the host that has a wrapped operand, on whichever side, is handled as one on wrapped
  values, provided that the wrapped values of the host have a handler for it. Numbers and texts of the
  host's own have no handlers, so one operand that is wrapped decides.
Main exports: Host.Handles, Host.Wraps, Host.WrappedAmong, Host.arithmetic_handled, Host.unaryMinus_handled,
  Host.compare_handled, Host.equals_handled
-/
import Crosswalk.Proofs.Host.Failure
import Crosswalk.Proofs.Host.Indexing

namespace Crosswalk

/-! ### Computations of the host -/

theorem Machine.bind_eq_ok {α β : Type} {first : Machine α} {next : α → Machine β} {host after : Host}
    {result : β} :
    (first >>= next) host = .ok (result, after) ↔
      ∃ middle between, first host = .ok (middle, between) ∧ next middle between = .ok (result, after) := by
  rw [Machine.bind_apply]
  cases first host with
  | ok reached =>
      obtain ⟨middle, between⟩ := reached
      simp [bind, Except.bind]
  | error escape => simp [bind, Except.bind]

/-- A computation goes on in the host that its first step leaves. -/
theorem Machine.bind_of_ok {α β : Type} {first : Machine α} {next : α → Machine β} {host between : Host}
    {middle : α} (ran : first host = .ok (middle, between)) : (first >>= next) host = next middle between := by
  rw [Machine.bind_apply, ran]
  rfl

/-- A computation ends where its first step does. -/
theorem Machine.bind_of_error {α β : Type} {first : Machine α} {next : α → Machine β} {host : Host}
    {escape : Escape} (ran : first host = .error escape) : (first >>= next) host = .error escape := by
  rw [Machine.bind_apply, ran]
  rfl

theorem Machine.ofOutcome_of_ok {α : Type} {outcome : Outcome α} {host : Host} {result : α}
    (succeeds : outcome = .ok result) : ofOutcome outcome host = .ok (result, host) := by
  rw [succeeds]
  rfl

namespace Wrapped

/-- How a computation ends on a failure: with an error of the host if the failure is shown. -/
def endOn (shown : Fault → Bool) (error : Fault → HostError) (fault : Fault) : Escape :=
  if shown fault then .raised (error fault) else .fault fault

theorem raising_error {α : Type} {host : Host} (shown : Fault → Bool) (error : Fault → HostError)
    (fault : Fault) :
    raising (α := α) shown error (.error fault) host = .error (endOn shown error fault) := by
  rw [raising, endOn]
  cases shown fault <;> rfl

theorem raising_eq_ok {α : Type} {shown : Fault → Bool} {error : Fault → HostError} {outcome : Outcome α}
    {host after : Host} {result : α} :
    raising shown error outcome host = .ok (result, after) ↔ outcome = .ok result ∧ after = host := by
  cases outcome with
  | ok found =>
      change Except.ok (found, host) = Except.ok (result, after) ↔ _
      simp [eq_comm]
  | error fault =>
      rw [raising_error]
      simp

/-- An operand is what it converts to. -/
theorem operand_eq_ok {host after : Host} {a : HostValue} {want : Ty} {value : Value} :
    operand a want host = .ok (value, after) ↔ host.convert a want = .ok value ∧ after = host := by
  unfold operand
  rw [Machine.get_bind_apply]
  exact raising_eq_ok

end Wrapped

/-! ### Numerals -/

/-- A string converts to the number that it reads as. -/
theorem Value.convert_numeral (text : String) :
    (Value.string text).convert .number =
      match Decimal.parse text with
      | .ok amount => .ok (.number amount)
      | .error _ => mismatch .number := by
  have differs : (Value.string text).type ≠ .number := by
    intro same
    cases same
  rw [convert, convertTo_primitive rfl differs rfl]
  rfl

/-- Where a number is asked for, a text is converted as the string that it makes. -/
theorem Tree.convert_string_number (text : String) :
    (Tree.string text).convert .number = (Value.ofText text).convert .number := by
  change (Reading.scalar .string true .string (.ok (Value.ofText text))).convert .number = _
  simp only [Reading.scalar, Ty.isDynamic, reduceCtorEq, decide_false, Bool.or_self, Bool.false_eq_true,
    if_false]
  rfl

theorem Host.convert_string_number (host : Host) (text : String) :
    host.convert (.string text) .number = (Value.ofText text).convert .number :=
  Tree.convert_string_number text

/-- A text that reads as a number converts to it. -/
theorem Host.convert_numeral (host : Host) {text : String} {amount : Decimal}
    (reads : Decimal.parse (Text.normalize text) = .ok amount) :
    host.convert (.string text) .number = .ok (.number amount) := by
  rw [convert_string_number, Value.ofText, Value.convert_numeral, reads]

/-! ### Wrapped values -/

namespace Host

/-- A host value is a wrapped structural value, with the metatable of wrapped values. -/
def Wraps (host : Host) (object : HostValue) (value : Value) : Prop :=
  ∃ ref, object = .userdata ref ∧ host.userdata[ref.id]? = some ⟨.structural value, some wrappedMetatable⟩

theorem wraps_wrap (host : Host) (value : Value) : (host.wrap value).2.Wraps (host.wrap value).1 value :=
  ⟨_, rfl, by simp [wrap, newUserdata]⟩

namespace Wraps

variable {host : Host} {object : HostValue} {value : Value} (wraps : host.Wraps object value)
include wraps

theorem unwrap : host.unwrap object = some value := by
  obtain ⟨ref, rfl, found⟩ := wraps
  simp [Host.unwrap, found]

theorem tree : host.tree object = .wrapped value :=
  tree_eq_wrapped.mpr wraps.unwrap

/-- A wrapped value converts as the value does. -/
theorem convert (want : Ty) : host.convert object want = value.convert want := by
  rw [Host.convert, treeTo_eq_wrapped.mpr wraps.unwrap, Tree.convert_wrapped]

theorem metafield (key : String) :
    host.metafield object key = (host.tableAt wrappedMetatable).getField key := by
  obtain ⟨ref, rfl, found⟩ := wraps
  simp [Host.metafield, metatable?, found]

theorem toNumber : Host.toNumber object = .ok none := by
  obtain ⟨ref, rfl, -⟩ := wraps
  rfl

/-- A host value wraps one value. -/
theorem unique {other : Value} (wrapsOther : host.Wraps object other) : value = other :=
  Option.some.inj (wraps.unwrap.symm.trans wrapsOther.unwrap)

end Wraps

end Host

/-- A number or text of the host's own. -/
inductive HostValue.IsNative : HostValue → Prop
  | number (x : Binary64) : IsNative (.number x)
  | string (text : String) : IsNative (.string text)

namespace Host

theorem metafield_of_isNative (host : Host) {object : HostValue} (native : object.IsNative) (key : String) :
    host.metafield object key = .nil := by
  cases native <;> rfl

/-! ### Handlers -/

/-- Wrapped values of the host have the handler of an event. -/
def Handles (host : Host) (event : Event) : Prop :=
  ∃ ref function, (host.tableAt wrappedMetatable).getField event.key = .function ref ∧
    host.functions[ref.id]? = some function ∧ function.procedure = .handler event

theorem start_handles (settings : Settings) {event : Event} (handled : event ∈ Event.handled) :
    (start settings).Handles event := by
  simp only [Event.handled, List.mem_cons, List.not_mem_nil, or_false] at handled
  rcases handled with rfl | rfl | rfl | rfl | rfl | rfl | rfl | rfl | rfl | rfl | rfl | rfl <;>
    exact ⟨_, _, rfl, rfl, rfl⟩

/-- Wrapped values of the host have all handlers that there are. -/
def HandlesAll (host : Host) : Prop :=
  ∀ event ∈ Event.handled, host.Handles event

theorem start_handlesAll (settings : Settings) : (start settings).HandlesAll :=
  fun _ handled => start_handles settings handled

/-- Of two operands one is wrapped, and the other one is wrapped as well or a number or text. -/
inductive WrappedAmong (host : Host) (a b : HostValue) : Prop
  | left {value : Value} (wraps : host.Wraps a value)
  | right {value : Value} (native : a.IsNative) (wraps : host.Wraps b value)

section Handled

variable {host : Host} {event : Event} (handles : host.Handles event) {a b : HostValue}

include handles in
/-- A wrapped value has a function for the event, which does what the handler does. -/
theorem exists_handler {value : Value} (wraps : host.Wraps a value) :
    ∃ ref, host.metafield a event.key = .function ref ∧
      ∀ arguments, callFirst (.function ref) arguments host = Wrapped.handle event arguments host := by
  obtain ⟨ref, function, handler, found, procedure⟩ := handles
  exact ⟨ref, (wraps.metafield event.key).trans handler, callFirst_handler found procedure⟩

variable (among : host.WrappedAmong a b)

include handles among in
/-- The handler is found through whichever operand is wrapped. -/
theorem exists_handlerOf :
    ∃ ref, handlerOf event a b host = .ok (.function ref, host) ∧
      ∀ arguments, callFirst (.function ref) arguments host = Wrapped.handle event arguments host := by
  unfold handlerOf
  rw [Machine.get_bind_apply]
  cases among with
  | left wraps =>
      obtain ⟨ref, handler, handled⟩ := exists_handler handles wraps
      rw [handler]
      exact ⟨ref, rfl, handled⟩
  | right native wraps =>
      obtain ⟨ref, handler, handled⟩ := exists_handler handles wraps
      rw [metafield_of_isNative host native, handler]
      exact ⟨ref, rfl, handled⟩

/-! ### Operators -/

include among in
/-- An arithmetic operator applied to a wrapped value calls the handler, provided that an operand which is a
    text can be read. -/
theorem arithmetic_handled {operator : Arithmetic} (handles : host.Handles operator.event)
    {x y : Option Binary64} (left : toNumber a = .ok x) (right : toNumber b = .ok y) :
    arithmetic operator a b host = Wrapped.handle operator.event [a, b] host := by
  obtain ⟨ref, found, handled⟩ := exists_handlerOf handles among
  have notBoth : x = none ∨ y = none := by
    cases among with
    | left wraps => exact .inl (Except.ok.inj (left.symm.trans wraps.toNumber))
    | right _ wraps => exact .inr (Except.ok.inj (right.symm.trans wraps.toNumber))
  rw [← handled [a, b], arithmetic, Machine.bind_of_ok (Machine.ofOutcome_of_ok left),
    Machine.bind_of_ok (Machine.ofOutcome_of_ok right)]
  rcases notBoth with rfl | rfl
  · cases y <;> exact Machine.bind_of_ok found
  · cases x <;> exact Machine.bind_of_ok found

/-- The unary minus applied to a wrapped value calls the handler. -/
theorem unaryMinus_handled (handles : host.Handles .unm) {value : Value} (wraps : host.Wraps a value) :
    unaryMinus a host = Wrapped.handle .unm [a, a] host := by
  obtain ⟨ref, handler, handled⟩ := exists_handler handles wraps
  rw [unaryMinus, Machine.bind_of_ok (Machine.ofOutcome_of_ok wraps.toNumber)]
  simp only [Machine.get_bind_apply, handler]
  exact handled [a, a]

include handles among in
/-- An ordering of which one operand is wrapped asks the handler. -/
theorem compare_handled (numbers : Binary64 → Binary64 → Bool) (texts : String → String → Bool) :
    compare event numbers texts a b host =
      (Wrapped.handle event [a, b] host).map fun answer => (answer.1.isTruthy, answer.2) := by
  obtain ⟨ref, found, handled⟩ := exists_handlerOf handles among
  have called : compare event numbers texts a b host =
      (callFirst (.function ref) [a, b] >>= fun answer => pure answer.isTruthy) host := by
    cases among with
    | left wraps =>
        obtain ⟨ref, rfl, -⟩ := wraps
        exact Machine.bind_of_ok found
    | right native wraps =>
        obtain ⟨ref, rfl, -⟩ := wraps
        cases native <;> exact Machine.bind_of_ok found
  rw [called, Machine.bind_apply, handled]
  cases Wrapped.handle event [a, b] host <;> rfl

/-- Equality of two wrapped values asks the handler, unless both are one object. -/
theorem equals_handled (handles : host.Handles .eq) {value other : Value} (wraps : host.Wraps a value)
    (wrapsOther : host.Wraps b other) :
    equals a b host = .ok (a = b || Wrapped.equality host a b, host) := by
  obtain ⟨ref, found, handled⟩ := exists_handlerOf handles (.left (b := b) wraps)
  have same : a.same b = decide (a = b) := by
    obtain ⟨ref, rfl, -⟩ := wraps
    obtain ⟨other, rfl, -⟩ := wrapsOther
    rfl
  have maybe : mayBeEqual a b = true := by
    obtain ⟨ref, rfl, -⟩ := wraps
    obtain ⟨other, rfl, -⟩ := wrapsOther
    rfl
  unfold equals
  rw [same, maybe]
  by_cases identical : a = b
  · simp only [identical, decide_true, if_true, Bool.true_or]
    rfl
  · simp only [identical, decide_false, Bool.false_eq_true, if_false, Bool.not_true, Bool.false_or]
    rw [Machine.bind_apply, found]
    change (callFirst (.function ref) [a, b] >>= fun answer => pure answer.isTruthy) host = _
    rw [Machine.bind_apply, handled]
    rfl

end Handled

end Host

end Crosswalk
