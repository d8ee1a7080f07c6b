/-
Module: Crosswalk.Proofs.Wrapped.Exposed
Purpose: Exposed functions pass on what they are given. The arguments of a call are converted twice, once from
  host values and once by the function itself; the second conversion changes nothing, so that the
  implementation sees the values that the first one made.
Main exports: Function.callAsGiven, Function.call_of_rests, Wrapped.convertArguments_of_forall₂,
  Wrapped.callExposed_faithful
-/
import Crosswalk.Proofs.Function.Policy
import Crosswalk.Proofs.Host.Indexing
import Crosswalk.Proofs.Reading.Reconversion
import Crosswalk.Wrapped.Exposed

namespace Crosswalk

/-! ### Calls with converted arguments -/

namespace Function

/-- A call with arguments that are taken as they are. The policies of the parameters hold, but arguments are
    neither counted nor converted. -/
def callAsGiven (function : Function) (arguments : List Value) : Outcome Value :=
  match arguments.zipIdx.find? function.refusesNull with
  | some (_, index) => .error (.argument index [] .null)
  | none =>
    let type := function.result.resolve arguments
    if arguments.zipIdx.any function.stopsAt then .ok (.unknown type)
    else do
      let result ← function.implementation arguments type
      if !type.isDynamic && result.type ≠ type then result.convert type else .ok result

/-- An argument rests at the type of the parameter at its index. -/
def RestsAt (function : Function) (entry : Value × Nat) : Prop :=
  ∃ parameter, function.parameterAt? entry.2 = some parameter ∧ entry.1.Rests parameter.type

/-- Arguments at rest are accepted as they are, but for nulls that are not allowed. -/
theorem acceptFrom_of_rests {function : Function} {arguments : List Value} {index : Nat}
    (rest : ∀ entry ∈ arguments.zipIdx index, function.RestsAt entry) :
    function.acceptFrom index arguments =
      match (arguments.zipIdx index).find? function.refusesNull with
      | some (_, refused) => .error (.argument refused [] .null)
      | none => .ok (arguments, (arguments.zipIdx index).any function.stopsAt) := by
  induction arguments generalizing index with
  | nil => rfl
  | cons argument others ih =>
      rw [List.zipIdx_cons, List.forall_mem_cons] at rest
      obtain ⟨⟨parameter, found, rests⟩, later⟩ := rest
      have converted : argument.convert parameter.type = .ok argument := rests.again
      have here : accept parameter index argument =
          if function.refusesNull (argument, index) then .error (.argument index [] .null)
          else .ok argument := by
        simp [accept, converted, refusesNull, found]
      have stops : function.stopsAt (argument, index) = (!argument.isKnown && !parameter.allowUnknown) := by
        simp [stopsAt, found]
      simp only [acceptFrom, found, here, ih later, List.zipIdx_cons, List.find?_cons, List.any_cons,
        stops]
      cases function.refusesNull (argument, index) with
      | true => rfl
      | false =>
          cases (others.zipIdx (index + 1)).find? function.refusesNull with
          | none => rfl
          | some => rfl

/-- A function that is called with the right number of arguments at rest takes them as they are. -/
theorem call_of_rests {function : Function} {arguments : List Value}
    (counted : function.checkCount arguments.length = .ok ())
    (rest : ∀ entry ∈ arguments.zipIdx, function.RestsAt entry) :
    function.call arguments = function.callAsGiven arguments := by
  unfold call callAsGiven
  rw [counted, acceptFrom_of_rests rest]
  cases arguments.zipIdx.find? function.refusesNull with
  | none => rfl
  | some => rfl

end Function

/-! ### Exposed functions -/

namespace Wrapped

variable {function : Function} {host : Host}

/-- A host value converts to the type of the parameter at its index. -/
def Passes (function : Function) (host : Host) (entry : HostValue × Nat) (value : Value) : Prop :=
  ∃ parameter, function.parameterAt? entry.2 = some parameter ∧
    host.convert entry.1 parameter.type = .ok value

/-- Arguments that convert one by one are all converted. -/
theorem convertArguments_of_forall₂ (name : String) {arguments : List HostValue} {index : Nat}
    {values : List Value} (passes : List.Forall₂ (Passes function host) (arguments.zipIdx index) values) :
    convertArguments name function index arguments host = .ok (values, host) := by
  induction arguments generalizing index values with
  | nil =>
      cases passes
      rfl
  | cons argument others ih =>
      rw [List.zipIdx_cons] at passes
      cases passes with
      | @cons _ b _ _ first rest =>
          obtain ⟨parameter, found, converted⟩ := first
          rw [convertArguments, found]
          change (raising isConversion _ (host.convert argument parameter.type) >>= fun value =>
            convertArguments name function (index + 1) others >>= fun others =>
              pure (value :: others)) host = _
          rw [converted]
          change (convertArguments name function (index + 1) others >>= fun others =>
            pure (b :: others)) host = _
          rw [Machine.bind_apply, ih rest]
          rfl

/-- Every converted argument comes from one at the same index. -/
theorem exists_passes {arguments : List HostValue} {index : Nat} {values : List Value}
    (passes : List.Forall₂ (Passes function host) (arguments.zipIdx index) values)
    {entry : Value × Nat} (member : entry ∈ values.zipIdx index) :
    ∃ argument, Passes function host (argument, entry.2) entry.1 := by
  induction arguments generalizing index values with
  | nil =>
      cases passes
      cases member
  | cons argument others ih =>
      rw [List.zipIdx_cons] at passes
      cases passes with
      | cons first rest =>
          rw [List.zipIdx_cons] at member
          rcases List.mem_cons.mp member with rfl | later
          · exact ⟨argument, first⟩
          · exact ih rest later

/-- There are no fewer arguments than parameters, and more only for a variadic function. -/
theorem checkCount_padded {arguments : List HostValue}
    (fits : arguments.length ≤ function.parameters.length ∨ function.variadic.isSome = true) :
    function.checkCount (padded function arguments).length = .ok () ∧
      (function.parameters.length < (padded function arguments).length && function.variadic.isNone) =
        false := by
  have length : (padded function arguments).length =
      max arguments.length function.parameters.length := by
    simp only [padded, List.length_append, List.length_replicate]
    omega
  have enough : function.parameters[(padded function arguments).length]? = none := by
    rw [List.getElem?_eq_none_iff]
    omega
  have allowed : (function.parameters.length < (padded function arguments).length &&
      function.variadic.isNone) = false := by
    rcases fits with few | variadic
    · simp [length, few]
    · simp [variadic]
  refine ⟨?_, allowed⟩
  rw [Function.checkCount, enough]
  simp [allowed]

/-- What the arguments of a call convert to reaches the implementation unchanged. The function called with
    these values finds as many of them as it needs, converts each of them to itself, and does what it does
    with values that it takes as they are; so does the exposed function. -/
theorem callExposed_faithful (payloads : host.Carries Value.WellFormed)
    (parameters : ∀ parameter ∈ function.parameters, parameter.type.WellFormed)
    (variadic : ∀ parameter ∈ function.variadic, parameter.type.WellFormed) {arguments : List HostValue}
    (fits : arguments.length ≤ function.parameters.length ∨ function.variadic.isSome = true)
    {values : List Value}
    (passes : List.Forall₂ (Passes function host) (padded function arguments).zipIdx values)
    (name : String) :
    function.checkCount values.length = .ok () ∧
      (∀ entry ∈ values.zipIdx, ∃ parameter, function.parameterAt? entry.2 = some parameter ∧
        entry.1.convert parameter.type = .ok entry.1 ∧ entry.1.exactlyEqual entry.1 = true) ∧
      function.call values = function.callAsGiven values ∧
      callExposed name function arguments host =
        (raising (fun fault => isConversion fault || isOperation fault) (callError name)
          (function.callAsGiven values) >>= Machine.wrap) host := by
  obtain ⟨counted, allowed⟩ := checkCount_padded fits
  have length : values.length = (padded function arguments).length := by
    simpa using passes.length_eq.symm
  rw [← length] at counted
  have each : ∀ entry ∈ values.zipIdx, ∃ parameter, function.parameterAt? entry.2 = some parameter ∧
      entry.1.Rests parameter.type ∧ entry.1.WellFormed := by
    intro entry member
    obtain ⟨argument, parameter, found, converted⟩ := exists_passes passes member
    have wellFormed := (Function.mem_of_parameterAt? found).elim (parameters parameter) (variadic parameter)
    exact ⟨parameter, found, Host.convert_rests payloads wellFormed converted,
      Host.convert_wellFormed payloads wellFormed converted⟩
  have called : function.call values = function.callAsGiven values := by
    refine Function.call_of_rests counted fun entry member => ?_
    obtain ⟨parameter, found, rests, -⟩ := each entry member
    exact ⟨parameter, found, rests⟩
  refine ⟨counted, fun entry member => ?_, called, ?_⟩
  · obtain ⟨parameter, found, rests, wellFormed⟩ := each entry member
    exact ⟨parameter, found, rests.again, Value.exactlyEqual_refl wellFormed⟩
  · rw [callExposed, allowed, if_neg Bool.false_ne_true, Machine.bind_apply,
      convertArguments_of_forall₂ name passes, ← called]
    rfl

/-- A function of a map of lists of anything, of a text that may be null, and of anything else. -/
def tally : Function where
  name := "tally"
  parameters := [{ name := "lists", type := .map (.list .dynamic) },
    { name := "label", type := .string, allowNull := true }]
  variadic := some { name := "others", type := .dynamic }
  result := .fixed .number
  implementation arguments _ := .ok (Value.ofNat arguments.length)

/-- Called with a table of one list only, the function is also given a null text. -/
theorem callExposed_faithful_tally :
    ∃ values, List.Forall₂ (Passes tally Host.mixedList) (padded tally [.table ⟨2⟩]).zipIdx values ∧
      tally.checkCount values.length = .ok () ∧ tally.call values = tally.callAsGiven values ∧
      tally.callAsGiven values = .ok (Value.ofNat 2) := by
  have passes : List.Forall₂ (Passes tally Host.mixedList) (padded tally [.table ⟨2⟩]).zipIdx
      [.map (.list .dynamic) [("a", .list .dynamic [.bool true, .null .bool])], .null .string] :=
    .cons ⟨_, rfl, rfl⟩ (.cons ⟨_, rfl, rfl⟩ .nil)
  have parameters : ∀ parameter ∈ tally.parameters, parameter.type.WellFormed :=
    List.forall_mem_cons.mpr ⟨.map (.list .dynamic), List.forall_mem_singleton.mpr .string⟩
  have variadic : ∀ parameter ∈ tally.variadic, parameter.type.WellFormed :=
    fun _ same => Option.some.inj same ▸ .dynamic
  obtain ⟨counted, -, called, -⟩ := callExposed_faithful Host.mixedList_carries parameters variadic
    (.inr rfl) passes "tally"
  exact ⟨_, passes, counted, called, rfl⟩

end Wrapped

end Crosswalk
