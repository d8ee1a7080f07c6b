/-
Module: Crosswalk.Proofs.Operation
Purpose: Looking into well-formed values and operating on them yields well-formed values. What is found is a
  part of the value or an unknown of a part of its type; what is computed is a number, a truth value, a
  text in composed form, or an unknown of one of these types.
Main exports: Value.index_wellFormed, Value.getAttribute_wellFormed, Value.length_wellFormed,
  Operation.apply_wellFormed
-/
import Crosswalk.Proofs.Value.Construction
import Crosswalk.Value.Access
import Crosswalk.Operation

namespace Crosswalk.Value

/-! ### Looking into values -/

theorem mem_of_elementAt {α : Type} {items : List α} {position : Int} {item : α}
    (found : elementAt items position = .ok item) : item ∈ items := by
  unfold elementAt at found
  split at found
  · cases found
  · split at found
    next atIndex => exact Except.ok.inj found ▸ List.mem_of_getElem? atIndex
    next => cases found

theorem index_wellFormed {value key result : Value} (inner : value.WellFormed)
    (found : index value key = .ok result) : result.WellFormed := by
  cases inner with
  | null => cases found
  | bool | number | string | set | object => cases found
  | list _ _ items =>
      obtain ⟨position, -, found⟩ := Outcome.bind_eq_ok.mp found
      exact items result (mem_of_elementAt found)
  | tuple _ items =>
      obtain ⟨position, -, found⟩ := Outcome.bind_eq_ok.mp found
      exact items result (mem_of_elementAt found)
  | map _ _ _ entries =>
      simp only [index] at found
      split at found
      · split at found
        next stored => exact Except.ok.inj found ▸ entries _ (mem_of_lookup stored)
        next => cases found
      · cases found
  | unknown outer =>
      cases outer with
      | list outer =>
          obtain ⟨_, -, rfl⟩ := Outcome.map_eq_ok.mp found
          exact .unknown outer
      | tuple outer =>
          simp only [index, Outcome.map_eq_ok, Outcome.bind_eq_ok] at found
          obtain ⟨ty, ⟨position, -, found⟩, rfl⟩ := found
          exact .unknown (outer ty (mem_of_elementAt found))
      | map outer =>
          simp only [index] at found
          split at found
          · exact Except.ok.inj found ▸ .unknown outer
          · cases found
      | _ => cases found

/-- The attributes of an object are its entries. -/
theorem getAttribute_object {entries : List (String × Value)}
    (nodup : (entries.map Prod.fst).Nodup) (name : String) :
    (object entries).getAttribute name =
      match entries.lookup name with
      | some element => .ok element
      | none => .error (.operation [] (.unsupportedAttribute name)) := by
  have names : (entryTypes entries).map Prod.fst = entries.map Prod.fst := by
    rw [entryTypes_eq_map, List.map_map]
    rfl
  simp only [getAttribute, type, Ty.objectOf]
  rw [Ty.attribute?_sortBy (names ▸ nodup), Ty.attribute?]
  cases found : entries.lookup name with
  | none =>
      rw [lookup_eq_none_of_not_mem (names ▸ not_mem_of_lookup_eq_none found)]
  | some element =>
      have declared : (entries.map fun entry => (entry.1, entry.2.type)).lookup name =
          some element.type := lookup_map_of_mem nodup (mem_of_lookup found)
      rw [entryTypes_eq_map, declared]

theorem getAttribute_wellFormed {value : Value} {name : String} {result : Value}
    (inner : value.WellFormed) (found : getAttribute value name = .ok result) :
    result.WellFormed := by
  have outer := inner.type
  unfold getAttribute at found
  split at found
  next attributes isObject =>
      split at found
      next => cases found
      next ty attr =>
          split at found
          next entries =>
              split at found
              next element stored =>
                  cases inner with
                  | object _ _ parts => exact Except.ok.inj found ▸ parts _ (mem_of_lookup stored)
              next => cases found
          next =>
              rw [isObject] at outer
              cases outer with
              | object _ parts => exact Except.ok.inj found ▸ .unknown (parts _ (mem_of_lookup attr))
          next => cases found
  next => cases found

theorem length_wellFormed {value result : Value} (found : length value = .ok result) :
    result.WellFormed := by
  unfold length at found
  split at found
  case h_6 => split at found <;> cases found
  case h_7 =>
      split at found
      · exact Except.ok.inj found ▸ .number _
      · exact Except.ok.inj found ▸ .unknown .number
      · exact Except.ok.inj found ▸ .unknown .number
      · exact Except.ok.inj found ▸ .unknown .number
      · exact Except.ok.inj found ▸ .unknown .number
      · cases found
  case h_8 => cases found
  all_goals exact Except.ok.inj found ▸ .number _

/-! ### Operations -/

theorem arithmetic_wellFormed {compute : Decimal → Decimal → Except Signal Decimal}
    {a b result : Value} (computed : arithmetic compute a b = .ok result) : result.WellFormed := by
  obtain ⟨_, -, computed⟩ := Outcome.bind_eq_ok.mp computed
  obtain ⟨_, -, computed⟩ := Outcome.bind_eq_ok.mp computed
  split at computed
  · obtain ⟨amount, -, rfl⟩ := Outcome.map_eq_ok.mp computed
    exact .number amount
  · exact Except.ok.inj computed ▸ .unknown .number

theorem dividing_wellFormed {compute : Decimal → Decimal → Except Signal Decimal}
    {a b result : Value} (computed : dividing compute a b = .ok result) : result.WellFormed := by
  obtain ⟨_, -, computed⟩ := Outcome.bind_eq_ok.mp computed
  obtain ⟨_, -, computed⟩ := Outcome.bind_eq_ok.mp computed
  split at computed
  · split at computed
    · cases computed
    · exact arithmetic_wellFormed computed
  · exact Except.ok.inj computed ▸ .unknown .number

theorem negate_wellFormed {a result : Value} (computed : negate a = .ok result) :
    result.WellFormed := by
  obtain ⟨_, -, computed⟩ := Outcome.bind_eq_ok.mp computed
  split at computed
  · obtain ⟨amount, -, rfl⟩ := Outcome.map_eq_ok.mp computed
    exact .number amount
  · exact Except.ok.inj computed ▸ .unknown .number

theorem comparison_wellFormed {amounts : Decimal → Decimal → Bool} {texts : String → String → Bool}
    {a b result : Value} (computed : comparison amounts texts a b = .ok result) :
    result.WellFormed := by
  simp only [comparison] at computed
  split at computed
  · obtain ⟨_, impossible, -⟩ := Outcome.bind_eq_ok.mp computed
    cases impossible
  · obtain ⟨_, -, computed⟩ := Outcome.bind_eq_ok.mp computed
    obtain ⟨_, -, computed⟩ := Outcome.bind_eq_ok.mp computed
    split at computed
    · exact Except.ok.inj computed ▸ .bool _
    · exact Except.ok.inj computed ▸ .bool _
    · exact Except.ok.inj computed ▸ .unknown .bool

/-- A comparison with an answer is one of two numbers or of two strings. -/
theorem comparison_eq_ok {amounts : Decimal → Decimal → Bool} {texts : String → String → Bool}
    {left right : Value} {flag : Bool} (compared : comparison amounts texts left right = .ok (.bool flag)) :
    (∃ x y, left = .number x ∧ right = .number y ∧ flag = amounts x y) ∨
      ∃ s t, left = .string s ∧ right = .string t ∧ flag = texts s t := by
  simp only [comparison] at compared
  split at compared
  · obtain ⟨_, impossible, -⟩ := Outcome.bind_eq_ok.mp compared
    cases impossible
  next comparable =>
      obtain ⟨_, -, checked⟩ := Outcome.bind_eq_ok.mp compared
      obtain ⟨_, -, matched⟩ := Outcome.bind_eq_ok.mp checked
      clear comparable compared checked
      split at matched
      next x y => exact .inl ⟨x, y, rfl, rfl, by simpa using matched.symm⟩
      next s t => exact .inr ⟨s, t, rfl, rfl, by simpa using matched.symm⟩
      next => cases matched

theorem join_wellFormed {a b result : Value} (computed : join a b = .ok result) :
    result.WellFormed := by
  obtain ⟨_, -, computed⟩ := Outcome.bind_eq_ok.mp computed
  obtain ⟨_, -, computed⟩ := Outcome.bind_eq_ok.mp computed
  split at computed
  · exact Except.ok.inj computed ▸ ofText_wellFormed _
  · exact Except.ok.inj computed ▸ .unknown .string

end Crosswalk.Value

namespace Crosswalk.Operation

theorem onPair_wellFormed {operation : Operation} {a b result : Value}
    (computed : operation.onPair a b = .ok result) : result.WellFormed := by
  cases operation with
  | add | subtract | multiply => exact Value.arithmetic_wellFormed computed
  | divide | modulo => exact Value.dividing_wellFormed computed
  | negate => exact Value.negate_wellFormed computed
  | lessThan | lessThanOrEqual => exact Value.comparison_wellFormed computed
  | joinStrings => exact Value.join_wellFormed computed

/-- Whatever an operation is applied to, its result is well-formed. -/
theorem apply_wellFormed {operation : Operation} {operands : List Value} {result : Value}
    (computed : operation.apply operands = .ok result) : result.WellFormed := by
  unfold apply at computed
  split at computed
  · exact Value.negate_wellFormed computed
  · cases computed
  · exact onPair_wellFormed computed
  · cases computed

end Crosswalk.Operation
