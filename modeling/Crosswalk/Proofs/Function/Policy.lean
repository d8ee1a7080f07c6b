/-
Module: Crosswalk.Proofs.Function.Policy
Purpose: What a call lets through to the implementation. An implementation may do more than compute a result,
  so calls are followed with a state that only the implementation changes: a call leaves the state as it is,
  or it runs the implementation once, on arguments that have exactly the types of their parameters and that
  the policies of these allow. Otherwise the first argument that is refused decides what the call fails with,
  and if none is refused an unknown one makes the result unknown. A number that cannot be written is not
  refused: it ends the call with a failure that names no argument.
Main exports: Function.refusesNull, Function.stopsAt, Function.FailsToWrite, Function.acceptFrom_eq,
  Function.callIn, Function.Admits, Function.EndsEarly, Function.RunsOn, Function.call_policy,
  Function.call_namesNoArgument
-/
import Crosswalk.Proofs.Decimal.Limits
import Crosswalk.Proofs.Function
import Crosswalk.Proofs.Value.Failure
import Crosswalk.Proofs.Value.Typing

namespace Crosswalk

/-! ### The policies of parameters -/

/-- What the implementation is given for an argument, under the policy of its parameter. -/
structure Parameter.Receives (parameter : Parameter) (argument value : Value) : Prop where
  converted : argument.convert parameter.type = .ok value
  typed : value.type = parameter.type
  null : value.isNull = true → parameter.allowNull = true
  unknown : value.isKnown = false → parameter.allowUnknown = true

namespace Function

variable {function : Function} {parameter : Parameter} {argument value : Value} {index : Nat}

/-- An argument is a null that the parameter at its index does not take. -/
def refusesNull (function : Function) (entry : Value × Nat) : Bool :=
  entry.1.isNull && !(function.parameterAt? entry.2).any Parameter.allowNull

/-- An argument is unknown, which the parameter at its index does not take. -/
def stopsAt (function : Function) (entry : Value × Nat) : Bool :=
  !entry.1.isKnown && !(function.parameterAt? entry.2).any Parameter.allowUnknown

theorem refusesNull_eq_false (found : function.parameterAt? index = some parameter) :
    function.refusesNull (value, index) = false ↔ (value.isNull = true → parameter.allowNull = true) := by
  simp [refusesNull, found, imp_iff_not_or]

theorem stopsAt_eq_false (found : function.parameterAt? index = some parameter) :
    function.stopsAt (value, index) = false ↔ (value.isKnown = false → parameter.allowUnknown = true) := by
  simp [stopsAt, found, imp_iff_not_or]

/-- The types of all parameters are well-formed and without dynamic parts. -/
def StaticallyTyped (function : Function) : Prop :=
  ∀ (index : Nat) (parameter : Parameter), function.parameterAt? index = some parameter →
    parameter.type.WellFormed ∧ parameter.type.hasDynamic = false

/-- An argument converts to the type of its parameter, and it is no null that this refuses. -/
def Accepts (function : Function) (entry : Value × Nat) (converted : Value) : Prop :=
  ∃ parameter, function.parameterAt? entry.2 = some parameter ∧
    entry.1.convert parameter.type = .ok converted ∧
    (converted.isNull = true → parameter.allowNull = true)

/-- Why an argument is rejected, and where in it. -/
inductive Rejects (function : Function) (entry : Value × Nat) : Path → ArgumentCause → Prop
  | conversion {parameter : Parameter} {path : Path} {cause : ConversionCause}
      (found : function.parameterAt? entry.2 = some parameter)
      (failed : entry.1.convert parameter.type = .error (.conversion path cause)) :
      Rejects function entry path (.conversion cause)
  | null {parameter : Parameter} {converted : Value}
      (found : function.parameterAt? entry.2 = some parameter)
      (converts : entry.1.convert parameter.type = .ok converted) (isNull : converted.isNull = true)
      (refused : parameter.allowNull = false) : Rejects function entry [] .null

/-- A number inside an argument cannot be written, so that the conversion of the argument ends with a fault that
    is no answer whether the argument converts. -/
def FailsToWrite (function : Function) (entry : Value × Nat) (fault : Fault) : Prop :=
  ∃ parameter, function.parameterAt? entry.2 = some parameter ∧
    entry.1.convert parameter.type = .error fault ∧
    ∃ path amount, entry.1.follow? path = some (.number amount) ∧ amount.Unwritable fault

/-! ### One argument -/

/-- Acceptance of an argument by the parameter at its index. -/
def acceptAt (function : Function) (entry : Value × Nat) : Outcome Value :=
  match function.parameterAt? entry.2 with
  | none => .error (.argument entry.2 [] (.tooMany function.parameters.length))
  | some parameter => accept parameter entry.2 entry.1

theorem acceptAt_of_found (found : function.parameterAt? index = some parameter) :
    function.acceptAt (argument, index) = accept parameter index argument := by
  simp only [acceptAt, found]

theorem acceptAt_eq_ok {entry : Value × Nat} {converted : Value} :
    function.acceptAt entry = .ok converted ↔ function.Accepts entry converted := by
  unfold acceptAt Accepts
  cases found : function.parameterAt? entry.2 with
  | none => simp
  | some parameter =>
      simp only [accept, Option.some.injEq, exists_eq_left']
      cases entry.1.convert parameter.type with
      | error fault => cases fault <;> simp
      | ok value =>
          simp only [Bool.and_eq_true, Bool.not_eq_true', Except.ok.injEq]
          split
          next refused =>
              simp only [reduceCtorEq, false_iff, not_and]
              rintro rfl allowed
              exact Bool.false_ne_true (refused.2.symm.trans (allowed refused.1))
          next allowed =>
              refine ⟨?_, fun accepted => congrArg _ accepted.1⟩
              rintro same
              cases same
              exact ⟨rfl, fun isNull => Bool.not_eq_false _ ▸ fun refused => allowed ⟨isNull, refused⟩⟩

/-- A rejected argument makes the call fail at its index. -/
theorem Rejects.acceptAt {entry : Value × Nat} {path : Path} {cause : ArgumentCause}
    (rejects : function.Rejects entry path cause) :
    function.acceptAt entry = .error (.argument entry.2 path cause) := by
  cases rejects with
  | conversion found failed => simp [Function.acceptAt, found, accept, failed]
  | null found converts isNull refused => simp [Function.acceptAt, found, accept, converts, isNull, refused]

theorem FailsToWrite.acceptAt {entry : Value × Nat} {fault : Fault} (fails : function.FailsToWrite entry fault) :
    function.acceptAt entry = .error fault := by
  obtain ⟨parameter, found, failed, _, _, -, unwritable⟩ := fails
  rcases unwritable.fault_cases with rfl | ⟨cause, rfl⟩ <;>
    simp [Function.acceptAt, found, accept, failed]

/-- An argument that is not accepted is rejected, unless a number in it cannot be written. -/
theorem acceptAt_eq_error {entry : Value × Nat} {fault : Fault} (static : function.StaticallyTyped)
    (found : function.parameterAt? entry.2 = some parameter) (inner : entry.1.WellFormed)
    (failed : function.acceptAt entry = .error fault) :
    (∃ path cause, function.Rejects entry path cause ∧ fault = .argument entry.2 path cause) ∨
      function.FailsToWrite entry fault := by
  rw [acceptAt_of_found found] at failed
  unfold accept at failed
  split at failed
  next path cause converts =>
      exact .inl ⟨path, _, .conversion found converts, (Except.error.inj failed).symm⟩
  next other notConversion converts =>
      obtain rfl := Except.error.inj failed
      obtain ⟨outer, settled⟩ := static entry.2 parameter found
      rcases Value.fault_of_convertTo outer settled inner converts with ⟨path, cause, rfl⟩ | unwritable
      · exact absurd rfl (notConversion path cause)
      · exact .inr ⟨parameter, found, converts, unwritable⟩
  next converted converts =>
      split at failed
      next refused =>
          obtain ⟨isNull, notAllowed⟩ := Bool.and_eq_true_iff.mp refused
          exact .inl ⟨[], .null, .null found converts isNull (by simpa using notAllowed),
            (Except.error.inj failed).symm⟩
      next => cases failed

/-- What the implementation is given for an argument with its index. -/
def Receives (function : Function) (entry : Value × Nat) (value : Value) : Prop :=
  ∃ parameter, function.parameterAt? entry.2 = some parameter ∧ parameter.Receives entry.1 value

/-- The implementation is given what an accepted argument converts to, unless that stops the call. -/
theorem receives_iff {entry : Value × Nat} (static : function.StaticallyTyped) :
    function.Receives entry value ↔
      function.Accepts entry value ∧ function.stopsAt (value, entry.2) = false := by
  constructor
  · rintro ⟨parameter, found, receives⟩
    exact ⟨⟨parameter, found, receives.converted, receives.null⟩,
      (stopsAt_eq_false found).mpr receives.unknown⟩
  · rintro ⟨⟨parameter, found, converts, null⟩, notStopped⟩
    obtain ⟨outer, settled⟩ := static entry.2 parameter found
    exact ⟨parameter, found, converts, Value.type_of_convertTo outer settled converts, null,
      (stopsAt_eq_false found).mp notStopped⟩

/-! ### All arguments -/

/-- Arguments are accepted one by one. -/
theorem acceptFrom_eq (function : Function) (arguments : List Value) (index : Nat) :
    function.acceptFrom index arguments =
      ((arguments.zipIdx index).mapM function.acceptAt).map fun converted =>
        (converted, (converted.zipIdx index).any function.stopsAt) := by
  induction arguments generalizing index with
  | nil => rfl
  | cons argument rest ih =>
      rw [acceptFrom, List.zipIdx_cons, List.mapM_cons, ih]
      cases found : function.parameterAt? index with
      | none =>
          simp only [acceptAt, found]
          rfl
      | some parameter =>
          have here (converted : Value) : function.stopsAt (converted, index) =
              (!converted.isKnown && !parameter.allowUnknown) := by simp [stopsAt, found]
          rw [acceptAt_of_found found]
          dsimp only
          cases accept parameter index argument with
          | error => rfl
          | ok converted =>
              cases (rest.zipIdx (index + 1)).mapM function.acceptAt with
              | error => rfl
              | ok others =>
                  change Except.ok (_, _) = Except.ok (_, _)
                  rw [List.zipIdx_cons, List.any_cons, here]

/-- The arguments are accepted, and the flag says whether one of them stops the call. -/
theorem acceptFrom_eq_ok {arguments converted : List Value} {stopped : Bool} :
    function.acceptFrom index arguments = .ok (converted, stopped) ↔
      List.Forall₂ function.Accepts (arguments.zipIdx index) converted ∧
        (converted.zipIdx index).any function.stopsAt = stopped := by
  rw [acceptFrom_eq, Outcome.map_eq_ok]
  simp only [Prod.mk.injEq, Outcome.mapM_eq_ok, acceptAt_eq_ok]
  constructor
  · rintro ⟨_, accepted, rfl, stops⟩
    exact ⟨accepted, stops⟩
  · rintro ⟨accepted, stops⟩
    exact ⟨converted, accepted, rfl, stops⟩

/-- Arguments on which the implementation runs, with the values that it is given for them. -/
structure Admits (function : Function) (arguments converted : List Value) : Prop where
  takes : function.Takes arguments.length
  each : List.Forall₂ function.Receives arguments.zipIdx converted

/-- The implementation is given values for all arguments if these are accepted and none stops the call. -/
theorem receives_all_iff (static : function.StaticallyTyped) {arguments converted : List Value} :
    List.Forall₂ function.Receives (arguments.zipIdx index) converted ↔
      function.acceptFrom index arguments = .ok (converted, false) := by
  rw [acceptFrom_eq_ok]
  induction arguments generalizing index converted with
  | nil => cases converted <;> simp
  | cons argument rest ih =>
      cases converted with
      | nil => simp [List.zipIdx_cons]
      | cons value values =>
          simp only [List.zipIdx_cons, List.forall₂_cons, List.any_cons, Bool.or_eq_false_iff, ih,
            receives_iff static]
          tauto

/-! ### Calls of an implementation with effects -/

/-- The result of a call, from what the implementation returns. -/
def conclude (type : Ty) (result : Value) : Outcome Value :=
  if !type.isDynamic && result.type ≠ type then result.convert type else .ok result

/-- A call of a function whose implementation also reads and changes a state, whether it succeeds or fails. -/
def callIn {σ : Type} (function : Function) (run : List Value → Ty → σ → Outcome Value × σ)
    (arguments : List Value) (state : σ) : Outcome Value × σ :=
  match function.checkCount arguments.length with
  | .error fault => (.error fault, state)
  | .ok () =>
    match function.acceptFrom 0 arguments with
    | .error fault => (.error fault, state)
    | .ok (converted, stopped) =>
      let type := function.result.resolve converted
      if stopped then (.ok (.unknown type), state)
      else
        let (returned, after) := run converted type state
        (returned >>= conclude type, after)

/-- A call is such a call of an implementation that has no use for a state. -/
theorem callIn_pure {σ : Type} (function : Function) (arguments : List Value) (state : σ) :
    function.callIn (fun values type state => (function.implementation values type, state)) arguments state =
      (function.call arguments, state) := by
  unfold callIn call
  cases function.checkCount arguments.length with
  | error => rfl
  | ok =>
      cases function.acceptFrom 0 arguments with
      | error => rfl
      | ok accepted =>
          obtain ⟨converted, stopped⟩ := accepted
          cases stopped <;> rfl

/-- A call has an outcome without running the implementation, whatever that is. -/
def EndsEarly (function : Function) (arguments : List Value) (outcome : Outcome Value) : Prop :=
  ∀ (σ : Type) (run : List Value → Ty → σ → Outcome Value × σ) (state : σ),
    function.callIn run arguments state = (outcome, state)

/-- A call runs the implementation, whatever that is, once on some values and the type of the result. -/
def RunsOn (function : Function) (arguments converted : List Value) : Prop :=
  ∀ (σ : Type) (run : List Value → Ty → σ → Outcome Value × σ) (state : σ),
    function.callIn run arguments state =
      let type := function.result.resolve converted
      ((run converted type state).1 >>= conclude type, (run converted type state).2)

variable {arguments : List Value}

theorem endsEarly_of_count {fault : Fault} (miscounted : function.checkCount arguments.length = .error fault) :
    function.EndsEarly arguments (.error fault) := by
  intro σ run state
  rw [callIn, miscounted]

theorem endsEarly_of_refused {fault : Fault} (takes : function.Takes arguments.length)
    (failed : function.acceptFrom 0 arguments = .error fault) :
    function.EndsEarly arguments (.error fault) := by
  intro σ run state
  rw [callIn, checkCount_eq_ok.mpr takes, failed]

theorem endsEarly_of_stopped {converted : List Value} (takes : function.Takes arguments.length)
    (accepted : function.acceptFrom 0 arguments = .ok (converted, true)) :
    function.EndsEarly arguments (.ok (.unknown (function.result.resolve converted))) := by
  intro σ run state
  rw [callIn, checkCount_eq_ok.mpr takes, accepted]
  rfl

theorem runsOn_of_accepted {converted : List Value} (takes : function.Takes arguments.length)
    (accepted : function.acceptFrom 0 arguments = .ok (converted, false)) :
    function.RunsOn arguments converted := by
  intro σ run state
  rw [callIn, checkCount_eq_ok.mpr takes, accepted]
  rfl

/-- The implementation runs once on the arguments that are admitted, and not at all on others. -/
theorem runsOn_or_endsEarly (static : function.StaticallyTyped) (arguments : List Value) :
    (∃ converted, function.Admits arguments converted ∧ function.RunsOn arguments converted) ∨
      (∀ converted, ¬ function.Admits arguments converted) ∧
        ∃ outcome, function.EndsEarly arguments outcome := by
  cases counted : function.checkCount arguments.length with
  | error fault =>
      refine .inr ⟨fun converted admits => ?_, _, endsEarly_of_count counted⟩
      cases counted.symm.trans (checkCount_eq_ok.mpr admits.takes)
  | ok =>
      have takes := checkCount_eq_ok.mp counted
      have admitted {converted : List Value} (admits : function.Admits arguments converted) :=
        (receives_all_iff static).mp admits.each
      cases accepted : function.acceptFrom 0 arguments with
      | error fault =>
          refine .inr ⟨fun converted admits => ?_, _, endsEarly_of_refused takes accepted⟩
          cases accepted.symm.trans (admitted admits)
      | ok result =>
          obtain ⟨converted, stopped⟩ := result
          cases stopped with
          | true =>
              refine .inr ⟨fun others admits => ?_, _, endsEarly_of_stopped takes accepted⟩
              cases accepted.symm.trans (admitted admits)
          | false =>
              exact .inl ⟨converted, ⟨takes, (receives_all_iff static).mpr accepted⟩,
                runsOn_of_accepted takes accepted⟩

/-- The first argument that is not accepted decides how the call fails. -/
theorem endsEarly_of_first {before after : List (Value × Nat)} {entry : Value × Nat} {fault : Fault}
    (takes : function.Takes arguments.length) (split : arguments.zipIdx = before ++ entry :: after)
    (earlier : ∀ other ∈ before, ∃ converted, function.Accepts other converted)
    (failed : function.acceptAt entry = .error fault) : function.EndsEarly arguments (.error fault) := by
  have first : arguments.zipIdx.mapM function.acceptAt = .error fault := by
    refine Outcome.mapM_eq_error.mpr ⟨before, entry, after, split, fun other member => ?_, failed⟩
    obtain ⟨converted, accepts⟩ := earlier other member
    exact ⟨converted, acceptAt_eq_ok.mpr accepts⟩
  refine endsEarly_of_refused takes ?_
  rw [acceptFrom_eq, first]
  rfl

/-- An argument that is neither rejected nor has a number that cannot be written is accepted. -/
theorem exists_accepts (static : function.StaticallyTyped) (inner : ∀ argument ∈ arguments, argument.WellFormed)
    (takes : function.Takes arguments.length) {entry : Value × Nat} (member : entry ∈ arguments.zipIdx)
    (notRejected : ∀ path cause, ¬ function.Rejects entry path cause)
    (writable : ∀ fault, ¬ function.FailsToWrite entry fault) :
    ∃ converted, function.Accepts entry converted := by
  have bound : entry.2 < arguments.length := by simpa using (List.mem_zipIdx member).2.1
  obtain ⟨parameter, found⟩ := takes.exists_parameterAt? bound
  cases taken : function.acceptAt entry with
  | ok converted => exact ⟨converted, acceptAt_eq_ok.mp taken⟩
  | error fault =>
      rcases acceptAt_eq_error static found (inner _ (List.fst_mem_of_mem_zipIdx member)) taken with
        ⟨path, cause, rejects, -⟩ | fails
      · exact absurd rejects (notRejected path cause)
      · exact absurd fails (writable fault)

/-- Of the arguments that are rejected the first one is reported, after whatever unknown ones, if no argument
    before it has a number that cannot be written. -/
theorem exists_rejected (static : function.StaticallyTyped)
    (inner : ∀ argument ∈ arguments, argument.WellFormed) (takes : function.Takes arguments.length)
    (rejected : ∃ entry ∈ arguments.zipIdx, ∃ path cause, function.Rejects entry path cause) :
    ∃ before entry after path cause, arguments.zipIdx = before ++ entry :: after ∧
      (∀ earlier ∈ before, ∀ path cause, ¬ function.Rejects earlier path cause) ∧
      function.Rejects entry path cause ∧
      ((∀ earlier ∈ before, ∀ fault, ¬ function.FailsToWrite earlier fault) →
        function.EndsEarly arguments (.error (.argument entry.2 path cause))) := by
  have some : ∃ entry ∈ arguments.zipIdx, ¬ ∀ path cause, ¬ function.Rejects entry path cause := by
    simpa only [not_forall, not_not] using rejected
  obtain ⟨before, entry, after, split, noneBefore, isRejected⟩ := Outcome.exists_first some
  obtain ⟨path, cause, rejects⟩ : ∃ path cause, function.Rejects entry path cause := by
    simpa only [not_forall, not_not] using isRejected
  refine ⟨before, entry, after, path, cause, split, noneBefore, rejects, fun writable => ?_⟩
  refine endsEarly_of_first takes split (fun other member => ?_) rejects.acceptAt
  have inArguments : other ∈ arguments.zipIdx := split ▸ List.mem_append_left _ member
  exact exists_accepts static inner takes inArguments (noneBefore other member) (writable other member)

/-- The first argument that has a number that cannot be written ends the call with the failure to write it, if
    no argument before it is rejected. -/
theorem endsEarly_of_unwritable (static : function.StaticallyTyped)
    (inner : ∀ argument ∈ arguments, argument.WellFormed) (takes : function.Takes arguments.length)
    {before after : List (Value × Nat)} {entry : Value × Nat} {fault : Fault}
    (split : arguments.zipIdx = before ++ entry :: after)
    (noneBefore : ∀ earlier ∈ before, ∀ path cause, ¬ function.Rejects earlier path cause)
    (writable : ∀ earlier ∈ before, ∀ other, ¬ function.FailsToWrite earlier other)
    (fails : function.FailsToWrite entry fault) : function.EndsEarly arguments (.error fault) := by
  refine endsEarly_of_first takes split (fun other member => ?_) fails.acceptAt
  have inArguments : other ∈ arguments.zipIdx := split ▸ List.mem_append_left _ member
  exact exists_accepts static inner takes inArguments (noneBefore other member) (writable other member)

/-- What a call returns has the type of the result, unless that has dynamic parts. -/
theorem type_of_callIn {σ : Type} {run : List Value → Ty → σ → Outcome Value × σ} {state after : σ}
    {result : Value} (called : function.callIn run arguments state = (.ok result, after)) :
    ∃ converted, List.Forall₂ function.Accepts arguments.zipIdx converted ∧
      ((function.result.resolve converted).WellFormed →
        (function.result.resolve converted).hasDynamic = false →
        result.type = function.result.resolve converted) := by
  unfold callIn at called
  split at called
  · cases called
  split at called
  · cases called
  next converted stopped accepted =>
      refine ⟨converted, (acceptFrom_eq_ok.mp accepted).1, fun outer static => ?_⟩
      dsimp only at called
      split at called
      next =>
          cases called
          rfl
      next =>
          obtain ⟨returned, -, concluded⟩ := Outcome.bind_eq_ok.mp (congrArg Prod.fst called)
          unfold conclude at concluded
          split at concluded
          next => exact Value.type_of_convertTo outer static concluded
          next already =>
              obtain rfl := Except.ok.inj concluded
              simpa [Ty.isDynamic_eq_false static] using already

theorem EndsEarly.call {outcome : Outcome Value} (early : function.EndsEarly arguments outcome) :
    function.call arguments = outcome :=
  congrArg Prod.fst ((callIn_pure function arguments ()).symm.trans (early Unit _ ()))

/-- A call keeps to the policy of the parameters. Whatever the implementation does besides computing a result,
    it runs once, on arguments that convert to exactly the types of their parameters and that are null or
    unknown only where these allow it, or it does not run. If all arguments are accepted, an unknown one where
    that is not allowed makes the result unknown. If some are rejected, the first of them is what the call fails
    with, also after unknown ones, unless an argument before it has a number that cannot be written: the failure
    to write the first such number is then what the call fails with. What is returned has the type of the
    result. -/
theorem call_policy (static : function.StaticallyTyped)
    (inner : ∀ argument ∈ arguments, argument.WellFormed) :
    (∀ (σ : Type) (state : σ),
      function.callIn (fun values type state => (function.implementation values type, state)) arguments
        state = (function.call arguments, state)) ∧
    ((∃ converted, function.Admits arguments converted ∧ function.RunsOn arguments converted) ∨
      (∀ converted, ¬ function.Admits arguments converted) ∧
        ∃ outcome, function.EndsEarly arguments outcome) ∧
    (∀ converted, function.Takes arguments.length →
      List.Forall₂ function.Accepts arguments.zipIdx converted →
      (∃ entry ∈ converted.zipIdx, function.stopsAt entry = true) →
      function.EndsEarly arguments (.ok (.unknown (function.result.resolve converted)))) ∧
    (function.Takes arguments.length →
      (∃ entry ∈ arguments.zipIdx, ∃ path cause, function.Rejects entry path cause) →
      ∃ before entry after path cause, arguments.zipIdx = before ++ entry :: after ∧
        (∀ earlier ∈ before, ∀ path cause, ¬ function.Rejects earlier path cause) ∧
        function.Rejects entry path cause ∧
        ((∀ earlier ∈ before, ∀ fault, ¬ function.FailsToWrite earlier fault) →
          function.EndsEarly arguments (.error (.argument entry.2 path cause)))) ∧
    (function.Takes arguments.length → ∀ before entry after fault,
      arguments.zipIdx = before ++ entry :: after →
      (∀ earlier ∈ before, ∀ path cause, ¬ function.Rejects earlier path cause) →
      (∀ earlier ∈ before, ∀ other, ¬ function.FailsToWrite earlier other) →
      function.FailsToWrite entry fault → function.EndsEarly arguments (.error fault)) ∧
    ∀ (σ : Type) (run : List Value → Ty → σ → Outcome Value × σ) (state after : σ) (result : Value),
      function.callIn run arguments state = (.ok result, after) →
      ∃ converted, List.Forall₂ function.Accepts arguments.zipIdx converted ∧
        ((function.result.resolve converted).WellFormed →
          (function.result.resolve converted).hasDynamic = false →
          result.type = function.result.resolve converted) := by
  refine ⟨fun σ state => callIn_pure function arguments state, runsOn_or_endsEarly static arguments, ?_,
    exists_rejected static inner, fun takes _ _ _ _ => endsEarly_of_unwritable static inner takes,
    fun σ run state after result => type_of_callIn⟩
  intro converted takes accepted stops
  exact endsEarly_of_stopped takes (acceptFrom_eq_ok.mpr ⟨accepted, List.any_eq_true.mpr stops⟩)

/-- A function of an amount and its unit. -/
def label : Function where
  name := "label"
  parameters := [{ name := "amount", type := .number }, { name := "unit", type := .string }]
  result := .fixed .string
  implementation _ type := .ok (.unknown type)

/-- The label of an unknown amount is unknown, whatever the implementation does. -/
theorem call_policy_label :
    label.StaticallyTyped ∧ (∀ argument ∈ [Value.unknown .number, .bool true], argument.WellFormed) ∧
      label.EndsEarly [.unknown .number, .bool true] (.ok (.unknown .string)) := by
  have static : label.StaticallyTyped := by
    intro index parameter found
    have members := mem_of_parameterAt? found
    simp only [label, List.mem_cons, List.not_mem_nil, or_false, Option.mem_def, reduceCtorEq] at members
    rcases members with rfl | rfl
    · exact ⟨.number, rfl⟩
    · exact ⟨.string, rfl⟩
  have inner : ∀ argument ∈ [Value.unknown .number, .bool true], argument.WellFormed :=
    List.forall_mem_cons.mpr ⟨.unknown .number, List.forall_mem_singleton.mpr (.bool true)⟩
  refine ⟨static, inner, ?_⟩
  obtain ⟨-, -, stops, -, -, -⟩ := call_policy static inner
  refine stops [.unknown .number, Value.ofText "true"] ⟨by decide, .inl (by decide)⟩ ?_ ?_
  · exact .cons ⟨_, rfl, rfl, nofun⟩ (.cons ⟨_, rfl, rfl, nofun⟩ .nil)
  · exact ⟨(.unknown .number, 0), List.mem_cons_self, rfl⟩

/-- A function of two texts. -/
def pairing : Function where
  name := "pairing"
  parameters := [{ name := "first", type := .string }, { name := "second", type := .string }]
  result := .fixed .string
  implementation _ type := .ok (.unknown type)

theorem call_pairing {amount : Decimal} (unwritten : amount.render = .error .overflow) (second : Value) :
    pairing.call [.number amount, second] = .error .exponentOverflow := by
  have failed : (Value.number amount).convert .string = .error .exponentOverflow := by
    change (amount.render.mapError Fault.ofWriting).map Value.ofText = _
    rw [unwritten]
    rfl
  have refused : accept ⟨"first", .string, false, false⟩ 0 (.number amount) = .error .exponentOverflow := by
    rw [accept, failed]
  change (accept ⟨"first", .string, false, false⟩ 0 (.number amount) >>= fun _ => _) >>= _ = _
  rw [refused]
  rfl

/-- A rejected null is not reported if a number before it cannot be written: the call fails, and its failure
    names no argument. -/
theorem call_namesNoArgument :
    pairing.Takes 2 ∧ pairing.Rejects (.null .string, 1) [] .null ∧
      pairing.call [.number .beyondWriting, .null .string] = .error .exponentOverflow :=
  ⟨⟨by decide, .inl (by decide)⟩, .null rfl rfl rfl rfl, call_pairing Decimal.render_beyondWriting _⟩

end Function

end Crosswalk
