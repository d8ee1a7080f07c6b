/-
Module: Crosswalk.Proofs.Host.Conversion
Purpose: Conversion of host values is type sound. Whatever a host holds, a value that one of its values
  converts to has the wanted type at every depth, and lacks data exactly where the host value does.
Main exports: Host.Carries, Host.carries_of_sole, Host.treeTo_induct, Host.tree_all, Host.convert_wellFormed,
  Host.convert_hasType
-/
import Crosswalk.Proofs.Reading
import Crosswalk.Host.State

namespace Crosswalk.Host

/-! ### Trees of host values -/

/-- Every structural value that userdata of the host holds has a property. -/
def Carries (host : Host) (Holds : Value → Prop) : Prop :=
  ∀ object value, host.unwrap object = some value → Holds value

/-- What a host with one piece of userdata carries. -/
theorem carries_of_sole {host : Host} {held : Value} {metatable : Option TableRef}
    (sole : host.userdata = #[⟨.structural held, metatable⟩]) : host.Carries (· = held) := by
  intro object value found
  cases object with
  | userdata ref =>
      simp only [unwrap, sole, List.getElem?_toArray] at found
      obtain ⟨id⟩ := ref
      match id with
      | 0 => exact (Option.some.inj found).symm
      | _ + 1 => cases found
  | _ => cases found

theorem Carries.mono {host : Host} {Holds Keeps : Value → Prop} (payloads : host.Carries Holds)
    (weaker : ∀ value, Holds value → Keeps value) : host.Carries Keeps :=
  fun object value found => weaker value (payloads object value found)

/-- Induction on what is seen of a host value to a depth, with an assumption for every key and value of a
    table. -/
theorem treeTo_induct {host : Host} {motive : HostValue → Tree → Prop} (nil : motive .nil .nil)
    (boolean : ∀ flag, motive (.boolean flag) (.boolean flag))
    (number : ∀ x, motive (.number x) (.number x)) (string : ∀ text, motive (.string text) (.string text))
    (function : ∀ ref, motive (.function ref) .function)
    (wrapped : ∀ value held, host.unwrap value = some held → motive value (.wrapped held))
    (foreign : ∀ ref, motive (.userdata ref) .foreign) (cutOff : ∀ ref, motive (.table ref) .endless)
    (table : ∀ ref depth, (∀ entry ∈ (host.tableAt ref).items,
      motive entry.1 (host.treeTo depth entry.1) ∧ motive entry.2 (host.treeTo depth entry.2)) →
      motive (.table ref) (host.treeTo (depth + 1) (.table ref)))
    (depth : Nat) (value : HostValue) : motive value (host.treeTo depth value) := by
  have leaf (depth : Nat) (value : HostValue) (notTable : ∀ ref, value ≠ .table ref) :
      motive value (host.treeTo depth value) := by
    cases value with
    | nil => simpa only [treeTo] using nil
    | boolean flag => simpa only [treeTo] using boolean flag
    | number x => simpa only [treeTo] using number x
    | string text => simpa only [treeTo] using string text
    | function ref => simpa only [treeTo] using function ref
    | table ref => exact absurd rfl (notTable ref)
    | userdata ref =>
        rw [treeTo]
        split
        next held found => exact wrapped _ held found
        next => exact foreign ref
  induction depth generalizing value with
  | zero =>
      by_cases notTable : ∀ ref, value ≠ .table ref
      · exact leaf 0 value notTable
      · obtain ⟨ref, rfl⟩ := not_forall_not.mp notTable
        exact cutOff ref
  | succ depth ih =>
      by_cases notTable : ∀ ref, value ≠ .table ref
      · exact leaf (depth + 1) value notTable
      · obtain ⟨ref, rfl⟩ := not_forall_not.mp notTable
        exact table ref depth fun entry _ => ⟨ih entry.1, ih entry.2⟩

/-- The structural values in what is seen of a host value are among those that the host holds. -/
theorem treeTo_all {host : Host} {Holds : Value → Prop} (payloads : host.Carries Holds)
    (depth : Nat) (value : HostValue) : (host.treeTo depth value).All Holds := by
  apply treeTo_induct (motive := fun _ tree => tree.All Holds) .nil .boolean .number .string
    (fun _ => .function) _ (fun _ => .foreign) (fun _ => .endless)
  · intro ref depth ih
    exact .table (List.forall_mem_map.mpr fun entry member => (ih entry member).1)
      (List.forall_mem_map.mpr fun entry member => (ih entry member).2)
  · exact fun _ held found => .wrapped (payloads _ held found)

theorem tree_all {host : Host} {Holds : Value → Prop} (payloads : host.Carries Holds)
    (value : HostValue) : (host.tree value).All Holds :=
  treeTo_all payloads _ value

theorem treeTo_eq_nil {host : Host} {depth : Nat} {value : HostValue} :
    host.treeTo depth value = .nil ↔ value = .nil := by
  cases value with
  | userdata ref =>
      rw [treeTo]
      split <;> simp
  | table => cases depth <;> simp [treeTo]
  | _ => simp [treeTo]

theorem treeTo_eq_wrapped {host : Host} {depth : Nat} {value : HostValue} {held : Value} :
    host.treeTo depth value = .wrapped held ↔ host.unwrap value = some held := by
  cases value with
  | userdata ref =>
      rw [treeTo]
      split
      next other found => simp [found]
      next none => simp [none]
  | table => cases depth <;> simp [treeTo, unwrap]
  | _ => simp [treeTo, unwrap]

theorem tree_eq_wrapped {host : Host} {value : HostValue} {held : Value} :
    host.tree value = .wrapped held ↔ host.unwrap value = some held :=
  treeTo_eq_wrapped

/-! ### Type soundness -/

section Conversion

variable {host : Host} (payloads : host.Carries Value.WellFormed)
include payloads

/-- What a host value converts to is well-formed. -/
theorem convert_wellFormed {value : HostValue} {want : Ty} (outer : want.WellFormed)
    {result : Value} (converted : host.convert value want = .ok result) : result.WellFormed :=
  (Tree.read_sound (treeTo_all payloads _ value)).wellFormed want result outer converted

/-- What a host value converts to has the wanted type, and so has every part of it; it is null exactly if
    the host value is nil or wraps a null, and unknown exactly if that wraps an unknown value. -/
theorem convert_hasType {value : HostValue} {want : Ty} (outer : want.WellFormed)
    (static : want.hasDynamic = false) {result : Value}
    (converted : host.convert value want = .ok result) :
    result.type = want ∧ result.HasType want ∧
      (result.isNull = true ↔ value = .nil ∨ ∃ ty, host.unwrap value = some (.null ty)) ∧
      (result.isKnown = false ↔ ∃ ty, host.unwrap value = some (.unknown ty)) := by
  have typed : result.HasType want :=
    (Tree.read_sound (treeTo_all payloads _ value)).typed want result outer static converted
  have absent := Tree.convert_absent converted
  simp only [treeTo_eq_nil, treeTo_eq_wrapped] at absent
  exact ⟨typed.type_eq outer, typed, absent⟩

end Conversion

/-- A host with a table of one entry: a wrapped list of elements of any type, one of them null. -/
def mixedList : Host :=
  { start {} with
    tables := (start {}).tables.push { entries := [(.string "a", .userdata ⟨0⟩)] }
    userdata := #[⟨.structural (.list .dynamic [.bool true, .null .bool]), some wrappedMetatable⟩] }

theorem mixedList_carries : mixedList.Carries Value.WellFormed := by
  refine (carries_of_sole rfl).mono ?_
  rintro _ rfl
  refine .list .dynamic (fun _ _ => .inl rfl) (List.forall_mem_cons.mpr ⟨.bool true, ?_⟩)
  exact List.forall_mem_singleton.mpr (.null .bool)

/-- The wrapped list becomes a list of bools inside the map that the table converts to. -/
theorem convert_hasType_mixedList :
    ∃ result, mixedList.convert (.table ⟨2⟩) (.map (.list .bool)) = .ok result ∧
      result.type = .map (.list .bool) ∧ result.HasType (.map (.list .bool)) := by
  have converted : mixedList.convert (.table ⟨2⟩) (.map (.list .bool)) =
      .ok (.map (.list .bool) [("a", .list .bool [.bool true, .null .bool])]) := rfl
  obtain ⟨type, typed, -⟩ :=
    convert_hasType mixedList_carries (.map (.list .bool)) rfl converted
  exact ⟨_, converted, type, typed⟩

end Crosswalk.Host
