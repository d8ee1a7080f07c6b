/-
Module: Crosswalk.Proofs.Wrapped.Builtin
Purpose: Which failures of the built-in functions scripts do not see. A call converts its arguments one by one
  and then runs the implementation on them. What escapes from it is a number that cannot be written, met by a
  conversion, or what asks too much of the implementation; all else is a result or an error.
Main exports: Host.KeysNative, Host.fault_of_keysNative, Wrapped.Overtaxes, Wrapped.callExposed_cases,
  Wrapped.callExposed_escapes_iff
-/
import Crosswalk.Proofs.Decimal.Limits
import Crosswalk.Proofs.Function.Builtin
import Crosswalk.Proofs.Wrapped.Dispatch
import Crosswalk.Proofs.Wrapped.Exposed

namespace Crosswalk

namespace Function

variable {function : Function} {arguments : List Value}

/-! ### Calls with values -/

/-- The parameters of a built-in function have types without dynamic parts, or the dynamic type. -/
theorem builtins_settled : ∀ function ∈ builtins, ∀ (index : Nat) (parameter : Parameter),
    function.parameterAt? index = some parameter →
    parameter.type.hasDynamic = false ∨ parameter.type = .dynamic := by
  have declared : ∀ function ∈ builtins,
      (∀ parameter ∈ function.parameters,
        parameter.type.hasDynamic = false ∨ parameter.type = .dynamic) ∧
      ∀ parameter ∈ function.variadic, parameter.type.hasDynamic = false := by
    simp only [builtins, List.forall_mem_cons]
    simp [upper, lower, onText, join, max, min, extremum, abs, length, Ty.hasDynamic]
  intro function builtin index parameter found
  obtain ⟨fixed, further⟩ := declared function builtin
  exact (mem_of_parameterAt? found).elim (fixed parameter) fun variadic => .inl (further parameter variadic)

/-- None of the arguments is refused as a null, or stops the call because it is unknown. -/
def TakesAll (function : Function) (arguments : List Value) : Prop :=
  ∀ entry ∈ arguments.zipIdx, function.refusesNull entry = false ∧ function.stopsAt entry = false

theorem takesAll_of_present (present : ∀ argument ∈ arguments, argument.isAbsent = false) :
    function.TakesAll arguments := by
  intro entry member
  have data := present entry.1 (List.fst_mem_of_mem_zipIdx member)
  simp only [Value.isAbsent, Bool.or_eq_false_iff, Bool.not_eq_false'] at data
  simp [refusesNull, stopsAt, data]

/-- A call whose arguments are all taken runs the implementation and returns what that does. -/
theorem callAsGiven_of_takesAll (exact : function.Exact) (taken : function.TakesAll arguments) :
    function.callAsGiven arguments =
      function.implementation arguments (function.result.resolve arguments) := by
  have noNull : arguments.zipIdx.find? function.refusesNull = none :=
    List.find?_eq_none.mpr fun entry member => by simp [(taken entry member).1]
  have noneStops : arguments.zipIdx.any function.stopsAt = false :=
    List.any_eq_false.mpr fun entry member => by simp [(taken entry member).2]
  simp only [callAsGiven, noNull, noneStops, Bool.false_eq_true, if_false]
  cases computed : function.implementation arguments (function.result.resolve arguments) with
  | error fault => rfl
  | ok result =>
      change (if _ then _ else _) = _
      simp [exact arguments result computed]

/-- A call refuses a null, or does not run the implementation because of an unknown argument, or runs it. -/
theorem callAsGiven_cases (exact : function.Exact) :
    (∃ index, function.callAsGiven arguments = .error (.argument index [] .null)) ∨
      function.callAsGiven arguments = .ok (.unknown (function.result.resolve arguments)) ∨
      function.TakesAll arguments ∧ function.callAsGiven arguments =
          function.implementation arguments (function.result.resolve arguments) := by
  cases refused : arguments.zipIdx.find? function.refusesNull with
  | some entry => exact .inl ⟨entry.2, by rw [callAsGiven, refused]⟩
  | none =>
      cases stopped : arguments.zipIdx.any function.stopsAt with
      | true => exact .inr (.inl (by simp [callAsGiven, refused, stopped]))
      | false =>
          have taken : function.TakesAll arguments := fun entry member =>
            ⟨by simpa using List.find?_eq_none.mp refused entry member,
              by simpa using List.any_eq_false.mp stopped entry member⟩
          exact .inr (.inr ⟨taken, callAsGiven_of_takesAll exact taken⟩)

end Function

/-! ### Numbers within the limits -/

/-- The numbers inside a value can be rounded. -/
def Value.AmountsRound (value : Value) : Prop :=
  ∀ (path : Path) (amount : Decimal), value.follow? path = some (.number amount) → amount.Rounds

/-- A number that can be rounded is not written only if it is whole and too long. -/
theorem Decimal.Rounds.fault_eq {amount : Decimal} (rounds : amount.Rounds) {fault : Fault}
    (unwritable : amount.Unwritable fault) : fault = .invalid .tooManyDigits := by
  by_cases short : amount.IsShort
  · exact absurd unwritable (Decimal.not_unwritable (rounds.render short) fault)
  · obtain ⟨error, failed, rfl⟩ := unwritable
    cases (Decimal.render_eq_tooLong_iff.mpr short).symm.trans failed
    rfl

/-- What converts to a number is that number, or a string that reads as it. -/
theorem Value.number_of_convert {value : Value} {amount : Decimal}
    (converted : value.convert .number = .ok (.number amount)) :
    value = .number amount ∨ ∃ text, value = .string text ∧ Decimal.parse text = .ok amount := by
  cases converts_of_convertTo converted with
  | whole whole =>
      cases whole with
      | same => exact .inl rfl
      | absent lacking alike =>
          obtain ⟨dynamic, -⟩ | ⟨-, isAbsent⟩ := convertAbsent_eq_ok alike
          · cases dynamic
          · split at isAbsent <;> cases isAbsent
      | primitive present alike =>
          cases value with
          | string text =>
              rw [convertPrimitive] at alike
              split at alike
              next reads => exact .inr ⟨text, rfl, Value.number.inj (Except.ok.inj alike) ▸ reads⟩
              next => cases alike
          | _ => cases alike

theorem Value.AmountsRound.rounds_of_convert {value : Value} (inner : value.AmountsRound) {amount : Decimal}
    (converted : value.convert .number = .ok (.number amount)) : amount.Rounds := by
  obtain rfl | ⟨text, -, reads⟩ := number_of_convert converted
  · exact inner [] amount rfl
  · exact Decimal.rounds_of_parse reads

/-- A host value converts to a number that can be rounded if the numbers inside wrapped values can. -/
theorem Tree.rounds_of_convert {tree : Tree} (payloads : tree.All Value.AmountsRound) {amount : Decimal}
    (converted : tree.convert .number = .ok (.number amount)) : amount.Rounds := by
  cases payloads with
  | nil | boolean | function | foreign | endless => cases converted
  | number x =>
      change Reading.ofNumber x = _ at converted
      unfold Reading.ofNumber at converted
      split at converted
      next stands =>
        cases converted
        exact Decimal.rounds_of_toDecimal? stands
      next => cases converted
  | string text =>
      rw [convert_string_number] at converted
      obtain same | ⟨_, -, reads⟩ := Value.number_of_convert converted
      · cases same
      · exact Decimal.rounds_of_parse reads
  | wrapped inner =>
      rw [convert_wrapped] at converted
      exact inner.rounds_of_convert converted
  | table entries =>
      obtain ⟨value, isObject, converted⟩ := Outcome.bind_eq_ok.mp converted
      obtain ⟨attributes, rfl⟩ := Reading.toImplied_object isObject
      obtain same | ⟨text, same, -⟩ := Value.number_of_convert converted <;> cases same

/-! ### Host values with native keys -/

namespace Host

/-- The keys of the tables inside a value are neither wrapped values nor nil, which is no key of a table. -/
def KeysNative (host : Host) (value : HostValue) : Prop :=
  ∀ key, host.HasKey value key → key ≠ .nil ∧ host.unwrap key = none

variable {host : Host}

theorem keysNative_of_leaf {value : HostValue} (leaf : ∀ ref, value ≠ .table ref) :
    host.KeysNative value :=
  fun _ ⟨ref, inside, _⟩ => absurd (eq_of_within leaf inside).symm (leaf ref)

/-- A wrapped value holds a number that cannot be written, and the fault that writing it ends with. -/
def HoldsUnwritable (host : Host) (fault : Fault) : Prop :=
  ∃ object payload path amount, host.unwrap object = some payload ∧
    payload.follow? path = some (.number amount) ∧ amount.Unwritable fault

/-- Only a number that cannot be written lets a failure escape from the conversion of an acyclic value with
    native keys. -/
theorem fault_of_keysNative (payloads : host.Carries Value.WellFormed) {value : HostValue}
    (acyclic : host.Acyclic value) (native : host.KeysNative value) {want : Ty} (outer : want.WellFormed)
    (settled : want.hasDynamic = false ∨ want = .dynamic) {fault : Fault}
    (failed : host.convert value want = .error fault) :
    fault.IsConversion ∨ host.HoldsUnwritable fault := by
  refine (Tree.fault_of_convert (treeTo_all payloads _ value) outer settled failed).imp_right fun escapes => ?_
  cases escapes_of_treeTo (by omega) escapes with
  | unwritable _ wraps follows unwritable => exact ⟨_, _, _, _, wraps, follows, unwritable⟩
  | endless cyclic => exact absurd acyclic cyclic
  | textless isKey textless =>
      obtain ⟨notNil, notWrapped⟩ := native _ isKey
      obtain isNil | ⟨payload, wraps, -⟩ := textless
      · exact absurd isNil notNil
      · cases notWrapped.symm.trans wraps

end Host

/-! ### Calls from the host -/

namespace Wrapped

variable {function : Function} {host : Host}

theorem isConversion_eq_true {fault : Fault} : isConversion fault = true ↔ fault.IsConversion := by
  cases fault <;> simp [isConversion, Fault.IsConversion]

/-! ### Arguments -/

/-- An argument that does not convert ends the conversion of the arguments. -/
theorem convertArguments_of_failed (name : String) {before after : List HostValue} {argument : HostValue}
    {index : Nat} {values : List Value} {parameter : Parameter} {fault : Fault}
    (passes : List.Forall₂ (Passes function host) (before.zipIdx index) values)
    (found : function.parameterAt? (index + before.length) = some parameter)
    (failed : host.convert argument parameter.type = .error fault) :
    convertArguments name function index (before ++ argument :: after) host =
      .error (endOn isConversion (.badArgument name (index + before.length)) fault) := by
  -- on the arguments before it, which are converted and then dropped with the rest
  induction before generalizing index values with
  | nil =>
      rw [List.length_nil, Nat.add_zero] at found ⊢
      rw [List.nil_append, convertArguments, found]
      change (raising isConversion _ (host.convert argument parameter.type) >>= fun value =>
        convertArguments name function (index + 1) after >>= fun others => pure (value :: others)) host = _
      rw [failed, Machine.bind_of_error (raising_error ..)]
  | cons other before ih =>
      rw [List.zipIdx_cons] at passes
      cases passes with
      | cons first rest =>
          obtain ⟨asked, here, converted⟩ := first
          have position : index + (other :: before).length = index + 1 + before.length := by
            rw [List.length_cons, Nat.add_comm before.length, ← Nat.add_assoc]
          rw [position] at found ⊢
          rw [List.cons_append, convertArguments, here]
          change (raising isConversion _ (host.convert other asked.type) >>= fun value =>
            convertArguments name function (index + 1) (before ++ argument :: after) >>= fun others =>
              pure (value :: others)) host = _
          rw [converted, Machine.bind_of_ok (raising_eq_ok.mpr ⟨rfl, rfl⟩),
            Machine.bind_of_error (ih rest found)]

/-- Either all arguments convert, or the first one that does not follows others that do. -/
theorem convertArguments_cases (host : Host) {arguments : List HostValue} {index : Nat}
    (each : ∀ entry ∈ arguments.zipIdx index,
      ∃ parameter, function.parameterAt? entry.2 = some parameter) :
    (∃ values, List.Forall₂ (Passes function host) (arguments.zipIdx index) values) ∨
      ∃ before argument after values parameter fault, arguments = before ++ argument :: after ∧
        List.Forall₂ (Passes function host) (before.zipIdx index) values ∧
        function.parameterAt? (index + before.length) = some parameter ∧
        host.convert argument parameter.type = .error fault := by
  induction arguments generalizing index with
  | nil => exact .inl ⟨[], .nil⟩
  | cons argument rest ih =>
      rw [List.zipIdx_cons, List.forall_mem_cons] at each
      obtain ⟨⟨parameter, found⟩, later⟩ := each
      cases converted : host.convert argument parameter.type with
      | error fault => exact .inr ⟨[], argument, rest, [], parameter, fault, rfl, .nil, found, converted⟩
      | ok value =>
          have passes : Passes function host (argument, index) value := ⟨parameter, found, converted⟩
          rcases ih later with ⟨values, others⟩ |
            ⟨before, failing, after, values, asked, fault, rfl, others, foundLater, failed⟩
          · exact .inl ⟨value :: values, .cons passes others⟩
          · refine .inr ⟨argument :: before, failing, after, value :: values, asked, fault, rfl,
              .cons passes others, ?_, failed⟩
            rwa [List.length_cons, Nat.add_comm before.length, ← Nat.add_assoc]

/-! ### Exposed functions -/

variable {arguments : List HostValue} {values : List Value}

/-- A function has a parameter for each of its arguments. -/
def Fits (function : Function) (arguments : List HostValue) : Prop :=
  arguments.length ≤ function.parameters.length ∨ function.variadic.isSome = true

/-- A call with too many arguments is refused. -/
theorem callExposed_of_tooMany (name : String) (tooMany : ¬ Fits function arguments) :
    callExposed name function arguments host =
      .error (.raised (.tooManyArguments name function.parameters.length)) := by
  obtain ⟨more, fixed⟩ := not_or.mp tooMany
  have exceeds : (function.parameters.length < (padded function arguments).length &&
      function.variadic.isNone) = true := by
    simp only [padded, List.length_append, List.length_replicate, Bool.and_eq_true, decide_eq_true_eq]
    exact ⟨by omega, by simpa using fixed⟩
  rw [callExposed, exceeds, if_pos rfl]
  rfl

/-- A parameter is found for each argument of a call, given or missing. -/
theorem parameterAt?_padded (fits : Fits function arguments) :
    ∀ entry ∈ (padded function arguments).zipIdx,
      ∃ parameter, function.parameterAt? entry.2 = some parameter := by
  rintro ⟨argument, index⟩ member
  have takes := Function.checkCount_eq_ok.mp (checkCount_padded fits).1
  exact takes.exists_parameterAt? (by simpa using (List.mem_zipIdx member).2.1)

/-- A call with no more arguments than there are parameters converts them first. -/
theorem callExposed_of_fits (name : String) (fits : Fits function arguments) :
    callExposed name function arguments =
      convertArguments name function 0 (padded function arguments) >>= fun values =>
        raising (fun fault => isConversion fault || isOperation fault) (callError name)
          (function.call values) >>= Machine.wrap := by
  rw [callExposed, (checkCount_padded fits).2, if_neg Bool.false_ne_true]

/-- A call whose arguments convert does what the function does with the values. -/
theorem callExposed_of_passes (name : String) (fits : Fits function arguments)
    (passes : List.Forall₂ (Passes function host) (padded function arguments).zipIdx values) :
    callExposed name function arguments host =
      (raising (fun fault => isConversion fault || isOperation fault) (callError name)
        (function.call values) >>= Machine.wrap) host := by
  rw [callExposed_of_fits name fits, Machine.bind_of_ok (convertArguments_of_forall₂ name passes)]

/-- A call with an argument that does not convert fails like the conversion. -/
theorem callExposed_of_failed (name : String) (fits : Fits function arguments)
    {before after : List HostValue} {argument : HostValue} {parameter : Parameter} {fault : Fault}
    (split : padded function arguments = before ++ argument :: after)
    (passes : List.Forall₂ (Passes function host) before.zipIdx values)
    (found : function.parameterAt? before.length = some parameter)
    (failed : host.convert argument parameter.type = .error fault) :
    callExposed name function arguments host =
      .error (endOn isConversion (.badArgument name before.length) fault) := by
  rw [← Nat.zero_add before.length] at found
  have ended : convertArguments name function 0 (before ++ argument :: after) host = _ :=
    convertArguments_of_failed name passes found failed
  rw [Nat.zero_add, ← split] at ended
  rw [callExposed_of_fits name fits, Machine.bind_of_error ended]

/-- Converted arguments are not changed by the second conversion. -/
theorem call_of_passes (payloads : host.Carries Value.WellFormed) (sound : function.Sound)
    (fits : Fits function arguments)
    (passes : List.Forall₂ (Passes function host) (padded function arguments).zipIdx values) :
    function.checkCount values.length = .ok () ∧ function.call values = function.callAsGiven values := by
  have length : values.length = (padded function arguments).length := by
    simpa using passes.length_eq.symm
  have counted : function.checkCount values.length = .ok () := length ▸ (checkCount_padded fits).1
  refine ⟨counted, Function.call_of_rests counted fun entry member => ?_⟩
  obtain ⟨argument, parameter, found, converted⟩ := exists_passes passes member
  exact ⟨parameter, found, Host.convert_rests payloads (sound.parameterAt? found) converted⟩

/-- Converted arguments that are taken suit the function. -/
theorem suits_of_passes (payloads : host.Carries Value.WellFormed) (sound : function.Sound)
    (settled : ∀ (index : Nat) (parameter : Parameter), function.parameterAt? index = some parameter →
      parameter.type.hasDynamic = false ∨ parameter.type = .dynamic)
    (counted : function.checkCount values.length = .ok ())
    (passes : List.Forall₂ (Passes function host) (padded function arguments).zipIdx values)
    (taken : function.TakesAll values) : function.Suits values where
  counted := counted
  each := by
    intro entry member
    obtain ⟨argument, parameter, found, converted⟩ := exists_passes passes member
    obtain ⟨notRefused, notStopped⟩ := taken entry member
    refine ⟨parameter, found, ?_, (Function.refusesNull_eq_false found).mp notRefused,
      (Function.stopsAt_eq_false found).mp notStopped⟩
    exact (settled _ _ found).symm.imp_right fun static =>
      (Host.convert_hasType payloads (sound.parameterAt? found) static converted).2.1

/-- What a call asks of a built-in function that it cannot do, with the failure that scripts do not see. -/
inductive Overtaxes (function : Function) (arguments : List HostValue) (host : Host) : Fault → Prop
  /-- The first argument that does not convert has a number that cannot be written as a text. -/
  | argument {before after : List HostValue} {argument : HostValue} {values : List Value}
      {parameter : Parameter} {error : Decimal.WritingError} (fits : Fits function arguments)
      (split : padded function arguments = before ++ argument :: after)
      (passes : List.Forall₂ (Passes function host) before.zipIdx values)
      (found : function.parameterAt? before.length = some parameter)
      (unwritable : host.convert argument parameter.type = .error (.ofWriting error)) :
      Overtaxes function arguments host (.ofWriting error)
  /-- The arguments convert to values on which the implementation fails. -/
  | implementation {values : List Value} {fault : Fault} (fits : Fits function arguments)
      (passes : List.Forall₂ (Passes function host) (padded function arguments).zipIdx values)
      (overtaxed : function.Overtaxed values fault) : Overtaxes function arguments host fault

/-- A host value that is no table is acyclic, and there are no keys in it. -/
theorem acyclic_and_native {argument : HostValue} (leaf : ∀ ref, argument ≠ .table ref) :
    host.Acyclic argument ∧ host.KeysNative argument :=
  ⟨Host.acyclic_of_acc (Host.acc_of_leaf leaf), Host.keysNative_of_leaf leaf⟩

/-- An argument of a call, given or missing, is acyclic and has native keys. -/
theorem plain_of_split (acyclic : ∀ argument ∈ arguments, host.Acyclic argument)
    (native : ∀ argument ∈ arguments, host.KeysNative argument) {before after : List HostValue}
    {argument : HostValue} (split : padded function arguments = before ++ argument :: after) :
    host.Acyclic argument ∧ host.KeysNative argument := by
  have member : argument ∈ padded function arguments := by simp [split]
  rcases List.mem_append.mp member with given | missing
  · exact ⟨acyclic argument given, native argument given⟩
  · exact List.eq_of_mem_replicate missing ▸ acyclic_and_native nofun

section Call

variable (builtin : function ∈ Function.builtins) (payloads : host.Carries Value.WellFormed)
include builtin payloads

/-- What asks too much of a built-in function makes the call fail. -/
theorem callExposed_of_overtaxes (name : String) {fault : Fault}
    (overtaxes : Overtaxes function arguments host fault) :
    callExposed name function arguments host = .error (.fault fault) := by
  cases overtaxes with
  | argument fits split passes found unwritable =>
      rw [callExposed_of_failed name fits split passes found unwritable, endOn,
        if_neg (mt isConversion_eq_true.mp (Fault.ofWriting_not_isConversion _))]
  | @implementation values _ fits passes overtaxed =>
      have sound := Function.builtins_sound function builtin
      obtain ⟨-, called⟩ := call_of_passes payloads sound fits passes
      rw [callExposed_of_passes name fits passes, called,
        Function.callAsGiven_of_takesAll (Function.builtins_exact function builtin)
          (Function.takesAll_of_present overtaxed.present),
        overtaxed.implementation_eq, Machine.bind_of_error (raising_error ..)]
      exact congrArg Except.error (if_neg overtaxed.hidden)

/-- What a built-in function does with arguments that convert: it returns a wrapped value, or fails with an
    error, or is asked too much. -/
theorem callExposed_cases_of_passes (name : String) (fits : Fits function arguments)
    (passes : List.Forall₂ (Passes function host) (padded function arguments).zipIdx values) :
    (∃ value, value.WellFormed ∧ callExposed name function arguments host = .ok (host.wrap value)) ∨
      (∃ error, callExposed name function arguments host = .error (.raised error)) ∨
      ∃ fault, Overtaxes function arguments host fault := by
  have sound := Function.builtins_sound function builtin
  have wellFormed : ∀ value ∈ values, value.WellFormed := by
    intro value member
    obtain ⟨index, located⟩ := Function.exists_mem_zipIdx member
    obtain ⟨argument, parameter, found, converted⟩ := exists_passes passes located
    exact Host.convert_wellFormed payloads (sound.parameterAt? found) converted
  obtain ⟨counted, called⟩ := call_of_passes payloads sound fits passes
  rw [callExposed_of_passes name fits passes, called]
  rcases Function.callAsGiven_cases (Function.builtins_exact function builtin) with
    ⟨index, refused⟩ | unknown | ⟨taken, ran⟩
  · rw [refused, Machine.bind_of_error (raising_error ..)]
    exact .inr (.inl ⟨_, rfl⟩)
  · rw [unknown]
    exact .inl ⟨_, .unknown (sound.result values wellFormed), rfl⟩
  · rw [ran]
    cases computed : function.implementation values (function.result.resolve values) with
    | ok result => exact .inl ⟨result, sound.implementation values _ result wellFormed computed, rfl⟩
    | error fault =>
        have suits := suits_of_passes payloads sound (Function.builtins_settled function builtin) counted
          passes taken
        rcases Function.builtins_accounted function builtin values _ fault suits computed with
          reported | overtaxed
        · rw [Machine.bind_of_error (raising_error ..), endOn, if_pos (by simp [reported])]
          exact .inr (.inl ⟨_, rfl⟩)
        · exact .inr (.inr ⟨fault, .implementation fits passes overtaxed⟩)

/-- A call of a built-in function with host values among whose keys there are no wrapped ones returns a
    wrapped value, or raises an error, or asks too much of the function. -/
theorem callExposed_cases (name : String) (acyclic : ∀ argument ∈ arguments, host.Acyclic argument)
    (native : ∀ argument ∈ arguments, host.KeysNative argument) :
    (∃ value, value.WellFormed ∧ callExposed name function arguments host = .ok (host.wrap value)) ∨
      (∃ error, callExposed name function arguments host = .error (.raised error)) ∨
      ∃ fault, Overtaxes function arguments host fault := by
  have sound := Function.builtins_sound function builtin
  by_cases fits : Fits function arguments
  case neg => exact .inr (.inl ⟨_, callExposed_of_tooMany name fits⟩)
  -- the arguments are converted in order, so the first one that fails decides
  rcases convertArguments_cases host (parameterAt?_padded fits) with
    ⟨values, passes⟩ |
      ⟨before, argument, after, values, parameter, fault, split, passes, found, failed⟩
  · exact callExposed_cases_of_passes builtin payloads name fits passes
  · rw [Nat.zero_add] at found
    have plain := plain_of_split acyclic native split
    have settled := Function.builtins_settled function builtin _ _ found
    rcases Host.fault_of_keysNative payloads plain.1 plain.2 (sound.parameterAt? found) settled failed with
      conversion | ⟨_, _, _, _, -, -, error, -, rfl⟩
    · rw [callExposed_of_failed name fits split passes found failed, endOn,
        if_pos (isConversion_eq_true.mpr conversion)]
      exact .inr (.inl ⟨_, rfl⟩)
    · exact .inr (.inr ⟨_, .argument fits split passes found failed⟩)

/-- As long as the numbers inside wrapped values can be rounded, nothing asks too much but an unknown element
    in a list to be joined, and a whole number that is too long to be written. -/
theorem isJoin_of_overtaxes (acyclic : ∀ argument ∈ arguments, host.Acyclic argument)
    (native : ∀ argument ∈ arguments, host.KeysNative argument) (amounts : host.Carries Value.AmountsRound)
    {fault : Fault} (overtaxes : Overtaxes function arguments host fault) :
    (function = Function.join ∧ fault = .mistyped) ∨
      (fault = .invalid .tooManyDigits ∧ host.HoldsUnwritable fault) := by
  have sound := Function.builtins_sound function builtin
  cases overtaxes with
  | argument fits split passes found failed =>
      have settled := Function.builtins_settled function builtin _ _ found
      have plain := plain_of_split acyclic native split
      rcases Host.fault_of_keysNative payloads plain.1 plain.2 (sound.parameterAt? found) settled failed with
        conversion | holds
      · exact absurd conversion (Fault.ofWriting_not_isConversion _)
      · obtain ⟨object, payload, path, amount, wraps, follows, unwritable⟩ := holds
        have tooLong := (amounts _ _ wraps _ _ follows).fault_eq unwritable
        exact .inr ⟨tooLong, object, payload, path, amount, wraps, follows, unwritable⟩
  | implementation fits passes overtaxed =>
      cases overtaxed with
      | unknownElement isJoin => exact .inl ⟨isJoin, rfl⟩
      | magnitude isAbs given overflow =>
          subst isAbs given
          obtain ⟨argument, parameter, found, converted⟩ := exists_passes passes List.mem_cons_self
          cases found
          obtain ⟨result, fine⟩ :=
            (Tree.rounds_of_convert (Host.tree_all amounts argument) converted).magnitude
          cases fine.symm.trans overflow

end Call

/-- A call of a built-in function with acyclic host values that have native keys fails in a way that scripts
    do not see exactly if it asks too much of the function; otherwise it returns one wrapped value or raises
    an error. As long as the numbers inside wrapped values are within the limits of the exponent, the only
    such calls are that of the joining function with a list of which an element is unknown and none is null, and
    those that have to write a whole number with more digits than are written. -/
theorem callExposed_escapes_iff {function : Function} (builtin : function ∈ Function.builtins) {host : Host}
    (payloads : host.Carries Value.WellFormed) {arguments : List HostValue}
    (acyclic : ∀ argument ∈ arguments, host.Acyclic argument)
    (native : ∀ argument ∈ arguments, host.KeysNative argument) (name : String) :
    (∀ fault, callExposed name function arguments host = .error (.fault fault) ↔
        Overtaxes function arguments host fault) ∧
      ((∀ fault, ¬ Overtaxes function arguments host fault) →
        (∃ value, value.WellFormed ∧
          callExposed name function arguments host = .ok (host.wrap value)) ∨
        ∃ error, callExposed name function arguments host = .error (.raised error)) ∧
      (host.Carries Value.AmountsRound → ∀ fault, Overtaxes function arguments host fault →
        (function = Function.join ∧ fault = .mistyped) ∨
          (fault = .invalid .tooManyDigits ∧ host.HoldsUnwritable fault)) := by
  have cases := callExposed_cases builtin payloads name acyclic native
  refine ⟨fun fault => ⟨fun escapes => ?_, callExposed_of_overtaxes builtin payloads name⟩,
    fun fine => ?_, fun amounts fault => isJoin_of_overtaxes builtin payloads acyclic native amounts⟩
  · rcases cases with ⟨value, -, returns⟩ | ⟨error, raises⟩ | ⟨other, overtaxes⟩
    · cases returns.symm.trans escapes
    · cases raises.symm.trans escapes
    · cases (callExposed_of_overtaxes builtin payloads name overtaxes).symm.trans escapes
      exact overtaxes
  · rcases cases with returns | raises | ⟨other, overtaxes⟩
    · exact .inl returns
    · exact .inr raises
    · exact absurd overtaxes (fine other)

/-- A wrapped list of elements of any type, of which an unknown number becomes an unknown string, is too much
    to be joined. -/
theorem callExposed_escapes_iff_unknownNumber :
    Overtaxes Function.join [.string ", ", .userdata ⟨0⟩]
      (Host.keyed (.list .dynamic [.string "a", .unknown .number])) .mistyped := by
  have isJoin : Function.join ∈ Function.builtins := by simp [Function.builtins]
  have payloads : (Host.keyed (.list .dynamic [.string "a", .unknown .number])).Carries Value.WellFormed := by
    refine fun _ _ wraps => Host.keyed_unwrap wraps ▸ .list .dynamic (fun _ _ => .inl rfl) ?_
    exact List.forall_mem_cons.mpr
      ⟨.string (by rfl), List.forall_mem_singleton.mpr (.unknown .number)⟩
  have leaf : ∀ argument ∈ [HostValue.string ", ", .userdata ⟨0⟩], ∀ ref, argument ≠ .table ref := by
    simp
  exact ((callExposed_escapes_iff isJoin payloads (fun _ member => (acyclic_and_native (leaf _ member)).1)
    (fun _ member => (acyclic_and_native (leaf _ member)).2) "join").1 .mistyped).mp rfl

/-- Joining a wrapped list of one unknown string fails in a way that scripts do not see. -/
theorem callExposed_joinUnknown :
    (Host.keyed (.list .string [.unknown .string])).Carries Value.WellFormed ∧
      callExposed "join" Function.join [.string ",", .userdata ⟨0⟩]
        (Host.keyed (.list .string [.unknown .string])) = .error (.fault .mistyped) := by
  refine ⟨fun _ _ wraps => Host.keyed_unwrap wraps ▸ ?_, rfl⟩
  exact .list .string (fun _ member => .inr (List.mem_singleton.mp member ▸ rfl))
    (List.forall_mem_singleton.mpr (.unknown .string))

end Wrapped

end Crosswalk
