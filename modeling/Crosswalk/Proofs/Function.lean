/-
Module: Crosswalk.Proofs.Function
Purpose: Calling a function on well-formed values yields a well-formed value, provided that its
  implementation does so on arguments of the types of its parameters. The built-in functions are of this kind.
Main exports: Function.Takes, Function.Sound, Function.call_wellFormed, Function.builtins_sound
-/
import Crosswalk.Proofs.Operation
import Crosswalk.Proofs.Value.Conversion
import Crosswalk.Function.Builtin

namespace Crosswalk.Function

/-! ### Parameters -/

/-- A function takes as many arguments as it has parameters, or more if it is variadic. -/
def Takes (function : Function) (count : Nat) : Prop :=
  function.parameters.length ≤ count ∧
    (count ≤ function.parameters.length ∨ function.variadic.isSome = true)

theorem checkCount_eq_ok {function : Function} {count : Nat} :
    function.checkCount count = .ok () ↔ function.Takes count := by
  unfold checkCount Takes
  split
  next parameter missing =>
      have fewer := (List.getElem?_eq_some_iff.mp missing).1
      simp only [reduceCtorEq, false_iff, not_and]
      omega
  next enough =>
      have least := List.getElem?_eq_none_iff.mp enough
      cases function.variadic with
      | some => simp [least]
      | none => simp [least]

theorem mem_of_parameterAt? {function : Function} {index : Nat} {parameter : Parameter}
    (found : function.parameterAt? index = some parameter) :
    parameter ∈ function.parameters ∨ parameter ∈ function.variadic := by
  unfold parameterAt? at found
  split at found
  · exact .inl (List.mem_of_getElem? found)
  · exact .inr found

/-- Each of the arguments that a function takes has a parameter. -/
theorem Takes.exists_parameterAt? {function : Function} {count : Nat} (takes : function.Takes count)
    {index : Nat} (bound : index < count) : ∃ parameter, function.parameterAt? index = some parameter := by
  unfold Function.parameterAt?
  split
  next within => exact ⟨_, List.getElem?_eq_getElem within⟩
  next beyond => exact Option.isSome_iff_exists.mp (takes.2.resolve_left (by omega))

/-! ### Calls -/

/-- The types of a function are well-formed, and its implementation makes well-formed values of well-formed
    ones. -/
structure Sound (function : Function) : Prop where
  parameters : ∀ parameter ∈ function.parameters, parameter.type.WellFormed
  variadic : ∀ parameter ∈ function.variadic, parameter.type.WellFormed
  result : ∀ arguments : List Value, (∀ argument ∈ arguments, argument.WellFormed) →
    (function.result.resolve arguments).WellFormed
  implementation : ∀ (arguments : List Value) (type : Ty) (result : Value),
    (∀ argument ∈ arguments, argument.WellFormed) →
    function.implementation arguments type = .ok result → result.WellFormed

theorem Sound.parameterAt? {function : Function} (sound : function.Sound) {index : Nat}
    {parameter : Parameter} (found : function.parameterAt? index = some parameter) :
    parameter.type.WellFormed :=
  (mem_of_parameterAt? found).elim (sound.parameters parameter) (sound.variadic parameter)

theorem accept_wellFormed {parameter : Parameter} {index : Nat} {argument converted : Value}
    (outer : parameter.type.WellFormed) (inner : argument.WellFormed)
    (accepted : accept parameter index argument = .ok converted) : converted.WellFormed := by
  unfold accept at accepted
  split at accepted
  · cases accepted
  · cases accepted
  next value isValue =>
      split at accepted
      · cases accepted
      · exact Except.ok.inj accepted ▸ Value.convertTo_wellFormed outer inner isValue

/-- Accepted arguments are well-formed. -/
theorem acceptFrom_wellFormed {function : Function} (sound : function.Sound) {index : Nat}
    {arguments converted : List Value} {stopped : Bool}
    (inner : ∀ argument ∈ arguments, argument.WellFormed)
    (accepted : function.acceptFrom index arguments = .ok (converted, stopped)) :
    ∀ value ∈ converted, value.WellFormed := by
  induction arguments generalizing index converted stopped with
  | nil =>
      obtain ⟨rfl, -⟩ := Prod.mk.inj (Except.ok.inj accepted)
      exact List.forall_mem_nil _
  | cons argument rest ih =>
      unfold acceptFrom at accepted
      split at accepted
      next => cases accepted
      next parameter found =>
          obtain ⟨first, one, accepted⟩ := Outcome.bind_eq_ok.mp accepted
          obtain ⟨⟨others, _⟩, later, done⟩ := Outcome.bind_eq_ok.mp accepted
          obtain ⟨rfl, -⟩ := Prod.mk.inj (Except.ok.inj done)
          obtain ⟨here, there⟩ := List.forall_mem_cons.mp inner
          exact List.forall_mem_cons.mpr
            ⟨accept_wellFormed (sound.parameterAt? found) here one, ih there later⟩

/-- A sound function called with well-formed values returns a well-formed one. -/
theorem call_wellFormed {function : Function} (sound : function.Sound) {arguments : List Value}
    {result : Value} (inner : ∀ argument ∈ arguments, argument.WellFormed)
    (called : function.call arguments = .ok result) : result.WellFormed := by
  obtain ⟨_, -, called⟩ := Outcome.bind_eq_ok.mp called
  obtain ⟨⟨converted, stopped⟩, accepted, called⟩ := Outcome.bind_eq_ok.mp called
  have values := acceptFrom_wellFormed sound inner accepted
  have outer := sound.result converted values
  simp only at called
  split at called
  · exact Except.ok.inj called ▸ .unknown outer
  · obtain ⟨returned, implemented, called⟩ := Outcome.bind_eq_ok.mp called
    have plain := sound.implementation converted _ returned values implemented
    split at called
    · exact Value.convertTo_wellFormed outer plain called
    · exact Except.ok.inj called ▸ plain

/-! ### The built-in functions -/

theorem onText_sound (name doc : String) (transform : List Char → List Char) :
    (onText name doc transform).Sound where
  parameters := List.forall_mem_singleton.mpr .string
  variadic := nofun
  result _ _ := .string
  implementation arguments type result _ computed := by
    simp only [onText] at computed
    split at computed
    · exact Except.ok.inj computed ▸ Value.ofText_wellFormed _
    · cases computed

theorem join_sound : join.Sound where
  parameters := List.forall_mem_cons.mpr ⟨.string, List.forall_mem_singleton.mpr (.list .string)⟩
  variadic := nofun
  result _ _ := .string
  implementation arguments type result _ computed := by
    simp only [join] at computed
    split at computed
    · obtain ⟨parts, -, rfl⟩ := Outcome.map_eq_ok.mp computed
      exact Value.ofText_wellFormed _
    · cases computed

theorem extremum_sound (name doc : String) (better : Decimal → Decimal → Bool) :
    (extremum name doc better).Sound where
  parameters := List.forall_mem_nil _
  variadic _ same := Option.some.inj same ▸ .number
  result _ _ := .number
  implementation arguments type result _ computed := by
    obtain ⟨amounts, -, computed⟩ := Outcome.bind_eq_ok.mp computed
    split at computed
    · cases computed
    · exact Except.ok.inj computed ▸ .number _

theorem abs_sound : abs.Sound where
  parameters := List.forall_mem_singleton.mpr .number
  variadic := nofun
  result _ _ := .number
  implementation arguments type result _ computed := by
    simp only [abs] at computed
    split at computed
    · obtain ⟨amount, -, rfl⟩ := Outcome.map_eq_ok.mp computed
      exact .number amount
    · cases computed

theorem length_sound : length.Sound where
  parameters := List.forall_mem_singleton.mpr .dynamic
  variadic := nofun
  result _ _ := .number
  implementation arguments type result _ computed := by
    simp only [length] at computed
    split at computed
    · exact Value.length_wellFormed computed
    · cases computed

/-- All built-in functions are sound. -/
theorem builtins_sound : ∀ function ∈ builtins, function.Sound := by
  simp only [builtins, List.forall_mem_cons]
  exact ⟨onText_sound _ _ _, onText_sound _ _ _, join_sound, extremum_sound _ _ _,
    extremum_sound _ _ _, abs_sound, length_sound, List.forall_mem_nil _⟩

end Crosswalk.Function
