/-
Module: Crosswalk.Proofs.Function.Builtin
Purpose: How the built-in functions fail on arguments that suit their parameters. An implementation relies on
  arguments that are neither null nor unknown, but what lies inside a collection is not looked at before it
  runs, and amounts are rounded without a check. All other failures are reported, and results have the types
  that the functions say.
Main exports: Parameter.Suits, Function.Suits, Function.Overtaxed, Function.Accounted,
  Function.builtins_accounted, Function.Exact, Function.builtins_exact
-/
import Crosswalk.Proofs.Function
import Crosswalk.Proofs.Value.Typing
import Crosswalk.Wrapped.Handler

namespace Crosswalk

/-! ### Arguments that an implementation runs on -/

/-- A value has the type of a parameter, unless that is dynamic, and lacks data only if the parameter takes
    such values. -/
structure Parameter.Suits (parameter : Parameter) (value : Value) : Prop where
  typed : parameter.type = .dynamic ∨ value.HasType parameter.type
  null : value.isNull = true → parameter.allowNull = true
  unknown : value.isKnown = false → parameter.allowUnknown = true

namespace Parameter.Suits

variable {parameter : Parameter} {value : Value} (suits : parameter.Suits value)
  (strict : parameter.allowNull = false ∧ parameter.allowUnknown = false)
include suits strict

/-- A parameter that takes neither nulls nor unknown values leaves only values with data. -/
theorem present : value.isAbsent = false := by
  have notNull : value.isNull = false :=
    Bool.eq_false_iff.mpr fun isNull => by simp [suits.null isNull] at strict
  have known : value.isKnown = true :=
    Bool.not_eq_false _ ▸ fun unknown => by simp [suits.unknown unknown] at strict
  simp [Value.isAbsent, notNull, known]

/-- Such a value has the type of the parameter. -/
theorem hasType {want : Ty} (asked : parameter.type = want) (static : want ≠ .dynamic) :
    value.HasType want ∧ value.isAbsent = false :=
  ⟨asked ▸ suits.typed.resolve_left (asked ▸ static), suits.present strict⟩

theorem eq_string (asked : parameter.type = .string) : ∃ text, value = .string text := by
  obtain ⟨typed, present⟩ := suits.hasType strict asked nofun
  cases typed with
  | null | unknown => cases present
  | string text => exact ⟨text, rfl⟩

theorem eq_number (asked : parameter.type = .number) : ∃ amount, value = .number amount := by
  obtain ⟨typed, present⟩ := suits.hasType strict asked nofun
  cases typed with
  | null | unknown => cases present
  | number amount => exact ⟨amount, rfl⟩

theorem eq_list {element : Ty} (asked : parameter.type = .list element) :
    ∃ items, value = .list element items ∧ ∀ item ∈ items, item.HasType element := by
  obtain ⟨typed, present⟩ := suits.hasType strict asked nofun
  cases typed with
  | null | unknown => cases present
  | @list _ items inner => exact ⟨items, rfl, inner⟩

end Parameter.Suits

namespace Function

/-- There are as many arguments as a function needs, and each of them suits the parameter at its index. -/
structure Suits (function : Function) (arguments : List Value) : Prop where
  counted : function.checkCount arguments.length = .ok ()
  each : ∀ entry ∈ arguments.zipIdx, ∃ parameter, function.parameterAt? entry.2 = some parameter ∧
    parameter.Suits entry.1

variable {function : Function} {arguments : List Value}

/-- A function without a variadic parameter has one argument for each parameter. -/
theorem length_of_checkCount (fixed : function.variadic = none) {count : Nat}
    (counted : function.checkCount count = .ok ()) : count = function.parameters.length := by
  obtain ⟨least, most⟩ := checkCount_eq_ok.mp counted
  exact le_antisymm (most.resolve_right (by simp [fixed])) least

/-- The only argument of a function with one parameter suits it. -/
theorem Suits.eq_singleton {parameter : Parameter} (suits : function.Suits arguments)
    (parameters : function.parameters = [parameter]) (fixed : function.variadic = none) :
    ∃ value, arguments = [value] ∧ parameter.Suits value := by
  have length := length_of_checkCount fixed suits.counted
  rw [parameters] at length
  obtain ⟨value, rfl⟩ := List.length_eq_one_iff.mp length
  obtain ⟨found, here, suitsFound⟩ := suits.each (value, 0) (by simp)
  have same : found = parameter := by simpa [parameterAt?, parameters, eq_comm] using here
  exact ⟨value, rfl, same ▸ suitsFound⟩

/-- The two arguments of a function with two parameters suit these. -/
theorem Suits.eq_pair {first second : Parameter} (suits : function.Suits arguments)
    (parameters : function.parameters = [first, second]) (fixed : function.variadic = none) :
    ∃ value other, arguments = [value, other] ∧ first.Suits value ∧ second.Suits other := by
  have length := length_of_checkCount fixed suits.counted
  rw [parameters] at length
  obtain ⟨value, other, rfl⟩ := List.length_eq_two.mp length
  obtain ⟨found, here, suitsFound⟩ := suits.each (value, 0) (by simp)
  obtain ⟨another, there, suitsAnother⟩ := suits.each (other, 1) (by simp)
  have same : found = first := by simpa [parameterAt?, parameters, eq_comm] using here
  have sameOther : another = second := by simpa [parameterAt?, parameters, eq_comm] using there
  exact ⟨value, other, rfl, same ▸ suitsFound, sameOther ▸ suitsAnother⟩

theorem exists_mem_zipIdx {value : Value} (member : value ∈ arguments) :
    ∃ index, (value, index) ∈ arguments.zipIdx := by
  obtain ⟨index, bound, rfl⟩ := List.mem_iff_getElem.mp member
  exact ⟨index, List.mem_zipIdx_iff_getElem?.mpr (List.getElem?_eq_getElem bound)⟩

/-- The arguments of a function without parameters but the variadic one suit that. -/
theorem Suits.variadic {parameter : Parameter} (suits : function.Suits arguments)
    (parameters : function.parameters = []) (variadic : function.variadic = some parameter) {value : Value}
    (member : value ∈ arguments) : parameter.Suits value := by
  obtain ⟨index, located⟩ := exists_mem_zipIdx member
  obtain ⟨found, here, suitsFound⟩ := suits.each _ located
  have same : found = parameter := by simpa [parameterAt?, parameters, variadic, eq_comm] using here
  exact same ▸ suitsFound

/-! ### Implementations of the built-in functions -/

/-- Arguments on which an implementation fails in a way that is not reported. -/
inductive Overtaxed (function : Function) (arguments : List Value) : Fault → Prop
  /-- An element of the list to be joined is unknown, so it has no text; were one null, that would be
      reported. -/
  | unknownElement {separator : String} {items : List Value} (isJoin : function = join)
      (given : arguments = [.string separator, .list .string items])
      (noNull : ∀ item ∈ items, item.isNull = false)
      (unknown : ∃ item ∈ items, item.isKnown = false) :
      Overtaxed function arguments .mistyped
  /-- The absolute value, rounded, lies beyond the greatest exponent. -/
  | magnitude {amount : Decimal} {signal : Signal} (isAbs : function = abs)
      (given : arguments = [.number amount]) (overflow : amount.magnitude = .error signal) :
      Overtaxed function arguments .exponentOverflow

/-- A failure of an implementation on arguments that suit the function is one that an operation reports, or
    the arguments ask too much of it. -/
def Accounted (function : Function) : Prop :=
  ∀ (arguments : List Value) (type : Ty) (fault : Fault), function.Suits arguments →
    function.implementation arguments type = .error fault →
    Wrapped.isOperation fault = true ∨ function.Overtaxed arguments fault

theorem onText_accounted (name doc : String) (transform : List Char → List Char) :
    (onText name doc transform).Accounted := by
  intro arguments type fault suits failed
  obtain ⟨value, rfl, suitsValue⟩ := suits.eq_singleton rfl rfl
  obtain ⟨text, rfl⟩ := suitsValue.eq_string ⟨rfl, rfl⟩ rfl
  cases failed

/-- The texts of strings are found, unless one is null or unknown. -/
theorem texts_eq_error {items : List Value} (typed : ∀ item ∈ items, item.HasType .string) {fault : Fault}
    (failed : texts items = .error fault) :
    (∃ position, fault = .argument 1 [] (.nullElement position)) ∨
      fault = .mistyped ∧ (∀ item ∈ items, item.isNull = false) ∧ ∃ item ∈ items, item.isKnown = false := by
  unfold texts at failed
  split at failed
  next position _ => exact .inl ⟨position, (Except.error.inj failed).symm⟩
  next noNull =>
      have notNull : ∀ item ∈ items, item.isNull = false := by simpa using noNull
      obtain ⟨item, member, found⟩ := Outcome.exists_of_mapM_eq_error failed
      cases typed item member with
      | string => cases found
      | null => cases notNull _ member
      | unknown => exact .inr ⟨(Except.error.inj found).symm, notNull, _, member, rfl⟩

/-- An unknown element has no text. -/
theorem texts_of_unknown {items : List Value} (noNull : ∀ item ∈ items, item.isNull = false)
    (unknown : ∃ item ∈ items, item.isKnown = false) : texts items = .error .mistyped := by
  have noPosition : items.findIdx? Value.isNull = none := by simpa using noNull
  obtain ⟨item, member, notKnown⟩ := unknown
  cases taken : texts items with
  | ok =>
      rw [texts, noPosition] at taken
      obtain ⟨_, -, found⟩ := Outcome.exists_of_forall₂ (Outcome.mapM_eq_ok.mp taken).flip member
      split at found
      · cases notKnown
      · cases found
  | error fault =>
      rw [texts, noPosition] at taken
      obtain ⟨other, -, found⟩ := Outcome.exists_of_mapM_eq_error taken
      split at found
      · cases found
      · exact Except.error.inj found ▸ rfl

theorem join_accounted : join.Accounted := by
  intro arguments type fault suits failed
  obtain ⟨first, second, rfl, suitsFirst, suitsSecond⟩ := suits.eq_pair rfl rfl
  obtain ⟨separator, rfl⟩ := suitsFirst.eq_string ⟨rfl, rfl⟩ rfl
  obtain ⟨items, rfl, typed⟩ := suitsSecond.eq_list ⟨rfl, rfl⟩ rfl
  obtain ⟨position, rfl⟩ | ⟨rfl, noNull, unknown⟩ := texts_eq_error typed (Outcome.map_eq_error.mp failed)
  · exact .inl rfl
  · exact .inr (.unknownElement rfl rfl noNull unknown)

theorem extremum_accounted (name doc : String) (better : Decimal → Decimal → Bool) :
    (extremum name doc better).Accounted := by
  intro arguments type fault suits failed
  have each : ∀ value ∈ arguments, ∃ amount, value.amount = .ok amount := by
    intro value member
    obtain ⟨amount, rfl⟩ := (suits.variadic rfl rfl member).eq_number ⟨rfl, rfl⟩ rfl
    exact ⟨amount, rfl⟩
  rcases Outcome.bind_eq_error.mp failed with noAmount | ⟨amounts, -, failed⟩
  · obtain ⟨value, member, failedValue⟩ := Outcome.exists_of_mapM_eq_error noAmount
    obtain ⟨amount, found⟩ := each value member
    cases found.symm.trans failedValue
  · cases amounts with
    | nil => exact .inl (Except.error.inj failed ▸ rfl)
    | cons => cases failed

theorem abs_accounted : abs.Accounted := by
  intro arguments type fault suits failed
  obtain ⟨value, rfl, suitsValue⟩ := suits.eq_singleton rfl rfl
  obtain ⟨amount, rfl⟩ := suitsValue.eq_number ⟨rfl, rfl⟩ rfl
  obtain ⟨signal, overflow, rfl⟩ := Outcome.mapError_eq_error.mp (Outcome.map_eq_error.mp failed)
  exact .inr (.magnitude rfl rfl overflow)

/-- A value without a length is an operand that the operation refuses. -/
theorem isOperation_of_length {value : Value} {fault : Fault} (failed : value.length = .error fault) :
    Wrapped.isOperation fault = true := by
  cases value with
  | null ty | unknown ty => cases ty <;> cases failed <;> rfl
  | _ => cases failed <;> rfl

theorem length_accounted : length.Accounted := by
  intro arguments type fault suits failed
  obtain ⟨value, rfl, -⟩ := suits.eq_singleton rfl rfl
  exact .inl (isOperation_of_length failed)

theorem builtins_accounted : ∀ function ∈ builtins, function.Accounted := by
  simp only [builtins, List.forall_mem_cons]
  exact ⟨onText_accounted _ _ _, onText_accounted _ _ _, join_accounted, extremum_accounted _ _ _,
    extremum_accounted _ _ _, abs_accounted, length_accounted, List.forall_mem_nil _⟩

/-- Implementations fail as they are accounted for: arguments that ask too much do so. -/
theorem Overtaxed.implementation_eq {arguments : List Value} {fault : Fault}
    (overtaxed : function.Overtaxed arguments fault) (type : Ty) :
    function.implementation arguments type = .error fault := by
  cases overtaxed with
  | @unknownElement separator items isJoin given noNull unknown =>
      subst isJoin given
      exact Outcome.map_eq_error.mpr (texts_of_unknown noNull unknown)
  | magnitude isAbs given overflow =>
      subst isAbs given
      exact Outcome.map_eq_error.mpr (Outcome.mapError_eq_error.mpr ⟨_, overflow, rfl⟩)

/-- Such arguments have data, so that the implementation runs on them. -/
theorem Overtaxed.present {fault : Fault} (overtaxed : function.Overtaxed arguments fault) :
    ∀ argument ∈ arguments, argument.isAbsent = false := by
  cases overtaxed with
  | unknownElement _ given | magnitude _ given => simp [given, Value.isAbsent, Value.isNull, Value.isKnown]

/-- Such failures are none that a call shows. -/
theorem Overtaxed.hidden {fault : Fault} (overtaxed : function.Overtaxed arguments fault) :
    ¬ (Wrapped.isConversion fault || Wrapped.isOperation fault) = true := by
  cases overtaxed <;> exact Bool.false_ne_true

/-! ### Results of the built-in functions -/

/-- What an implementation returns has the type that the function says. -/
def Exact (function : Function) : Prop :=
  ∀ (arguments : List Value) (result : Value),
    function.implementation arguments (function.result.resolve arguments) = .ok result →
    result.type = function.result.resolve arguments

theorem onText_exact (name doc : String) (transform : List Char → List Char) :
    (onText name doc transform).Exact := by
  intro arguments result computed
  simp only [onText] at computed
  split at computed
  · exact Except.ok.inj computed ▸ rfl
  · cases computed

theorem join_exact : join.Exact := by
  intro arguments result computed
  simp only [join] at computed
  split at computed
  · obtain ⟨parts, -, rfl⟩ := Outcome.map_eq_ok.mp computed
    rfl
  · cases computed

theorem extremum_exact (name doc : String) (better : Decimal → Decimal → Bool) :
    (extremum name doc better).Exact := by
  intro arguments result computed
  obtain ⟨amounts, -, computed⟩ := Outcome.bind_eq_ok.mp computed
  split at computed
  · cases computed
  · exact Except.ok.inj computed ▸ rfl

theorem abs_exact : abs.Exact := by
  intro arguments result computed
  simp only [abs] at computed
  split at computed
  · obtain ⟨amount, -, rfl⟩ := Outcome.map_eq_ok.mp computed
    rfl
  · cases computed

theorem length_exact : length.Exact := by
  intro arguments result computed
  simp only [length] at computed
  split at computed
  next value =>
      cases value with
      | null ty | unknown ty => cases ty <;> cases computed <;> rfl
      | _ => cases computed <;> rfl
  · cases computed

theorem builtins_exact : ∀ function ∈ builtins, function.Exact := by
  simp only [builtins, List.forall_mem_cons]
  exact ⟨onText_exact _ _ _, onText_exact _ _ _, join_exact, extremum_exact _ _ _,
    extremum_exact _ _ _, abs_exact, length_exact, List.forall_mem_nil _⟩

end Function

end Crosswalk
