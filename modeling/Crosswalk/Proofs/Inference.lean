/-
Module: Crosswalk.Proofs.Inference
Purpose: The type that a host value implies is the type that it converts to where the type is left open.
  Converting to the dynamic type is converting to the implied type; such a conversion yields that type, and
  it succeeds wherever a type is implied, unless a datum that is not a number stands among the values.
Main exports: Reading.impliedObject_eq_ok, Tree.convert_dynamic, Tree.type_of_implied,
  Tree.exists_convert_implied, Host.Reaches, Host.inference_predicts_conversion
-/
import Crosswalk.Proofs.Host.Conversion

namespace Crosswalk

theorem Binary64.isSome_toDecimal? {x : Binary64} (isNumber : x.isNaN = false) :
    x.toDecimal?.isSome = true := by
  cases x with
  | finite =>
      rw [toDecimal?]
      split <;> rfl
  | infinity => rfl
  | nan => cases isNumber

namespace Reading

/-! ### The implied type of a table -/

/-- An entry gives an attribute of the implied type, by its name and the type that its value implies. -/
structure Gives (entry : String × Reading) (attr : String × Ty) : Prop where
  name : attr.1 = entry.1
  implied : entry.2.implied = .ok attr.2

/-- A table implies the object type of the types that its entries imply. -/
theorem impliedObject_eq_ok {entries : List Entry} {ty : Ty} :
    impliedObject entries = .ok ty ↔
      ∃ named attributes, byText entries = .ok named ∧ ty = .objectOf attributes ∧
        List.Forall₂ Gives named attributes := by
  simp only [impliedObject, impliedEach, Outcome.bind_eq_ok, Outcome.mapM_eq_ok]
  constructor
  · rintro ⟨named, byKey, attributes, each, done⟩
    refine ⟨named, attributes, byKey, (Except.ok.inj done).symm, each.imp fun other attr one => ?_⟩
    obtain ⟨ty, implied, rfl⟩ := Outcome.map_eq_ok.mp one
    exact ⟨rfl, Outcome.under_eq_ok.mp implied⟩
  · rintro ⟨named, attributes, byKey, rfl, each⟩
    refine ⟨named, byKey, attributes, each.imp fun other attr one => ?_, rfl⟩
    exact Outcome.map_eq_ok.mpr ⟨attr.2, Outcome.under_eq_ok.mpr one.implied, Prod.ext one.name.symm rfl⟩

/-- A wanted attribute of an implied object type is an entry of the table that implies its type. -/
theorem lookup_of_implied {entries : List Entry} {named : List (String × Reading)}
    {attributes : List (String × Ty)} (byKey : byText entries = .ok named)
    (each : List.Forall₂ Gives named attributes)
    {want : String × Ty} (member : want ∈ sortBy (fun a b => textPrecedes a.1 b.1) attributes) :
    ∃ entry ∈ entries, named.lookup want.1 = some entry.reading ∧
      entry.reading.implied = .ok want.2 := by
  obtain ⟨other, inNamed, name, implied⟩ :=
    Outcome.exists_of_forall₂ each ((sortBy_perm _ _).mem_iff.mp member)
  obtain ⟨entry, inEntries, -, same⟩ := mem_of_byText byKey inNamed
  refine ⟨entry, inEntries, ?_, same ▸ implied⟩
  rw [name, ← same]
  exact lookup_of_mem (byText_eq_ok byKey).1 inNamed

/-- The names of an implied object type are those of the entries. -/
theorem keys_of_implied {named : List (String × Reading)} {attributes : List (String × Ty)}
    (each : List.Forall₂ Gives named attributes) :
    attributes.map Prod.fst = named.map Prod.fst :=
  Outcome.keys_eq_of_forall₂ (each.imp fun _ _ one => one.name)

/-- A table converts to an object type that it implies if each of its values converts to the type that
    this one implies. -/
theorem exists_convert_objectOf {entries : List Entry} {named : List (String × Reading)}
    {attributes : List (String × Ty)} (byKey : byText entries = .ok named)
    (each : List.Forall₂ Gives named attributes)
    (converts : ∀ other ∈ named, ∀ ty, other.2.implied = .ok ty →
      ∃ item, other.2.convert ty = .ok item) :
    ∃ result, (table entries).convert (.objectOf attributes) = .ok result := by
  let wants := sortBy (fun a b => textPrecedes a.1 b.1) attributes
  have found : ∀ want ∈ wants, ∃ item,
      (Outcome.under (.attr want.1) (((named.lookup want.1).getD nil).convert want.2)).map
        (want.1, ·) = .ok item := by
    intro want member
    obtain ⟨entry, -, found, implied⟩ := lookup_of_implied byKey each member
    obtain ⟨item, converted⟩ := converts _ (mem_of_lookup found) want.2 implied
    rw [found]
    exact ⟨(want.1, item), Outcome.map_eq_ok.mpr ⟨item, Outcome.under_eq_ok.mpr converted, rfl⟩⟩
  obtain ⟨items, all⟩ := Outcome.exists_mapM_eq_ok found
  have provided : named.find? (fun entry => (wants.lookup entry.1).isNone) = none := by
    rw [List.find?_eq_none]
    intro other member missing
    have names := (sortBy_perm (fun a b => textPrecedes a.1 b.1) attributes).map Prod.fst
    apply not_mem_of_lookup_eq_none (Option.isNone_iff_eq_none.mp missing)
    rw [names.mem_iff, keys_of_implied each]
    exact List.mem_map_of_mem member
  refine ⟨.object items, ?_⟩
  refine Outcome.bind_eq_ok.mpr ⟨named, byKey, Outcome.bind_eq_ok.mpr ⟨items, all, ?_⟩⟩
  rw [provided]

theorem toImplied_eq (entries : List Entry) :
    toImplied entries = impliedObject entries >>= (table entries).convert := by
  cases implied : impliedObject entries with
  | error fault => rw [toImplied, implied]; rfl
  | ok ty =>
      obtain ⟨named, attributes, -, rfl, -⟩ := impliedObject_eq_ok.mp implied
      rw [toImplied, implied]
      rfl

end Reading

namespace Tree

/-! ### Conversion to the dynamic type -/

/-- Converting to the dynamic type is converting to the implied type. -/
theorem convert_dynamic (tree : Tree) :
    tree.convert .dynamic = tree.implied >>= tree.convert := by
  cases tree with
  | table entries => exact Reading.toImplied_eq (readEntries entries)
  | wrapped value =>
      change value.convert value.type =
        value.convert (if value.type.isDynamic then value.type else value.type)
      rw [ite_self]
  | _ => rfl

theorem convert_dynamic_of_implied {tree : Tree} {ty : Ty} (implied : tree.implied = .ok ty) :
    tree.convert .dynamic = tree.convert ty := by
  rw [convert_dynamic, implied]
  rfl

theorem convert_dynamic_of_error {tree : Tree} {fault : Fault} (failed : tree.implied = .error fault) :
    tree.convert .dynamic = .error fault := by
  rw [convert_dynamic, failed]
  rfl

/-- What a table holds under a text is the value of an entry. -/
theorem exists_entry_of_byText {entries : List (Tree × Tree)} {named : List (String × Reading)}
    (byKey : Reading.byText (readEntries entries) = .ok named) {other : String × Reading}
    (member : other ∈ named) : ∃ entry ∈ entries, other.2 = entry.2.read := by
  obtain ⟨entry, inEntries, -, same⟩ := Reading.mem_of_byText byKey member
  rw [readEntries_eq_map] at inEntries
  obtain ⟨original, inTable, rfl⟩ := List.mem_map.mp inEntries
  exact ⟨original, inTable, same⟩

/-- A wanted attribute of the type that a table implies is an entry of the table that implies its type. -/
theorem exists_entry_of_implied {entries : List (Tree × Tree)} {named : List (String × Reading)}
    {attributes : List (String × Ty)} (byKey : Reading.byText (readEntries entries) = .ok named)
    (each : List.Forall₂ Reading.Gives named attributes)
    {want : String × Ty} (member : want ∈ sortBy (fun a b => textPrecedes a.1 b.1) attributes) :
    ∃ entry ∈ entries, named.lookup want.1 = some entry.2.read ∧ entry.2.implied = .ok want.2 := by
  obtain ⟨entry, inEntries, found, implied⟩ := Reading.lookup_of_implied byKey each member
  rw [readEntries_eq_map] at inEntries
  obtain ⟨original, inTable, rfl⟩ := List.mem_map.mp inEntries
  exact ⟨original, inTable, found, implied⟩

/-- What a tree converts to at the type that it implies has that type. -/
theorem type_of_implied {tree : Tree} {ty : Ty} {result : Value} (implied : tree.implied = .ok ty)
    (converted : tree.convert ty = .ok result) : result.type = ty := by
  induction tree using Tree.induct generalizing ty result with
  | nil => cases implied; cases converted; rfl
  | boolean flag => cases implied; cases converted; rfl
  | string text => cases implied; cases converted; rfl
  | number x => cases implied; exact (ofNumber_form x result converted).type_eq
  | function | foreign | endless => cases implied
  | wrapped value =>
      cases implied
      have same : value.convert value.type = .ok result := by
        simpa [convert, read, Reading.wrapped] using converted
      exact congrArg Value.type (Except.ok.inj (same.symm.trans (Value.convertTo_type value)))
  | table entries ih =>
      obtain ⟨named, attributes, byKey, rfl, each⟩ := Reading.impliedObject_eq_ok.mp implied
      have nodup : (attributes.map Prod.fst).Nodup :=
        Reading.keys_of_implied each ▸ (Reading.byText_eq_ok byKey).1
      obtain ⟨again, items, rfl, byKeyAgain, -, converted⟩ := Reading.toObject_eq_ok converted
      obtain rfl : named = again := Except.ok.inj (byKey.symm.trans byKeyAgain)
      let wants := sortBy (fun a b => textPrecedes a.1 b.1) attributes
      have typed : List.Forall₂ (fun (want : String × Ty) (item : String × Value) =>
          (item.1, item.2.type) = want) wants items := by
        apply Outcome.forall₂_of_mem converted
        intro want member item one
        obtain ⟨entry, inTable, found, implied⟩ := exists_entry_of_implied byKey each member
        rw [found] at one
        exact Prod.ext one.1 ((ih entry inTable).2 implied one.2)
      have types : Value.entryTypes items = wants := by
        rw [Value.entryTypes_eq_map, ← List.forall₂_eq_eq_eq, List.forall₂_map_left_iff]
        exact typed.flip
      rw [Value.type, types, Ty.objectOf_of_sorted (Ty.sorted_sortBy nodup)]
      rfl

/-- No datum that is not a number stands among the values of a tree. Keys do not count. -/
inductive Numeric : Tree → Prop
  | nil : Numeric .nil
  | boolean (flag : Bool) : Numeric (.boolean flag)
  | number {x : Binary64} (isNumber : x.isNaN = false) : Numeric (.number x)
  | string (text : String) : Numeric (.string text)
  | table {entries : List (Tree × Tree)} (values : ∀ entry ∈ entries, Numeric entry.2) :
      Numeric (.table entries)
  | function : Numeric .function
  | wrapped (value : Value) : Numeric (.wrapped value)
  | foreign : Numeric .foreign
  | endless : Numeric .endless

/-- A tree converts to the type that it implies, if all its numbers are numbers. -/
theorem exists_convert_implied {tree : Tree} (numeric : tree.Numeric) {ty : Ty}
    (implied : tree.implied = .ok ty) : ∃ result, tree.convert ty = .ok result := by
  induction numeric generalizing ty with
  | nil | boolean | string =>
      cases implied
      exact ⟨_, rfl⟩
  | function | foreign | endless => cases implied
  | @number x isNumber =>
      cases implied
      obtain ⟨amount, form⟩ := Option.isSome_iff_exists.mp (Binary64.isSome_toDecimal? isNumber)
      refine ⟨.number amount, ?_⟩
      change Reading.ofNumber x = _
      rw [Reading.ofNumber, form]
  | wrapped value =>
      cases implied
      refine ⟨value, ?_⟩
      simpa [convert, read, Reading.wrapped, Value.convert] using Value.convertTo_type value
  | @table entries _ ih =>
      obtain ⟨named, attributes, byKey, rfl, each⟩ := Reading.impliedObject_eq_ok.mp implied
      apply Reading.exists_convert_objectOf byKey each
      intro other member ty implied
      obtain ⟨entry, inTable, same⟩ := exists_entry_of_byText byKey member
      rw [same] at implied ⊢
      exact ih entry inTable implied

end Tree

/-! ### Host values -/

namespace Host

/-- A value is reached from another one through the values of tables, and not through their keys. -/
inductive Reaches (host : Host) : HostValue → HostValue → Prop
  | refl (value : HostValue) : Reaches host value value
  | entry {ref : TableRef} {entry : HostValue × HostValue} {inner : HostValue}
      (member : entry ∈ (host.tableAt ref).items) (further : Reaches host entry.2 inner) :
      Reaches host (.table ref) inner

theorem treeTo_numeric {host : Host} (depth : Nat) {value : HostValue}
    (numbers : ∀ x, host.Reaches value (.number x) → x.isNaN = false) :
    (host.treeTo depth value).Numeric := by
  revert numbers
  apply treeTo_induct
    (motive := fun value tree =>
      (∀ x, host.Reaches value (.number x) → x.isNaN = false) → tree.Numeric)
    (fun _ => .nil) (fun flag _ => .boolean flag) (fun x numbers => .number (numbers x (.refl _)))
    (fun text _ => .string text) (fun _ _ => .function) (fun _ held _ _ => .wrapped held)
    (fun _ _ => .foreign) (fun _ _ => .endless)
  intro ref depth ih numbers
  refine .table (List.forall_mem_map.mpr fun entry member => ?_)
  exact (ih entry member).2 fun x inside => numbers x (.entry member inside)

/-- Inference predicts conversion. Where the type is left open, a host value converts to a value of the type
    that it implies; if it implies none, it does not convert, for the same reason; and if it implies one,
    it converts, unless a datum that is not a number is reached through its values. -/
theorem inference_predicts_conversion (host : Host) (value : HostValue) :
    (∀ result, host.convert value .dynamic = .ok result → host.implied value = .ok result.type) ∧
      (∀ fault, host.implied value = .error fault → host.convert value .dynamic = .error fault) ∧
      (∀ ty, host.implied value = .ok ty →
        (∀ x, host.Reaches value (.number x) → x.isNaN = false) →
          ∃ result, host.convert value .dynamic = .ok result) := by
  refine ⟨fun result converted => ?_, fun fault failed => ?_, fun ty implied numbers => ?_⟩
  · cases implied : host.implied value with
    | error fault => cases converted.symm.trans (Tree.convert_dynamic_of_error implied)
    | ok ty =>
        have same : host.convert value .dynamic = (host.tree value).convert ty :=
          Tree.convert_dynamic_of_implied implied
        rw [Tree.type_of_implied implied (same.symm.trans converted)]
  · exact Tree.convert_dynamic_of_error failed
  · obtain ⟨result, converted⟩ := Tree.exists_convert_implied (treeTo_numeric _ numbers) implied
    exact ⟨result, (Tree.convert_dynamic_of_implied implied).trans converted⟩

/-- A host with two tables: one of a wrapped null, whose type has a dynamic part, and an infinite number, and
    one of a function. -/
def openEnded : Host :=
  { start {} with
    tables := (start {}).tables ++ #[
      { entries := [(.string "a", .userdata ⟨0⟩), (.string "b", .number (.infinity false))] },
      { entries := [(.string "c", .function ⟨0⟩)] }]
    userdata := #[⟨.structural (.null (.list .dynamic)), some wrappedMetatable⟩] }

/-- The first table converts at the type that it implies, and the function in the second one fails both. -/
theorem inference_predicts_conversion_openEnded :
    (∃ result, openEnded.convert (.table ⟨2⟩) .dynamic = .ok result ∧
      result.type = .object [("a", .list .dynamic), ("b", .number)]) ∧
    openEnded.convert (.table ⟨3⟩) .dynamic =
      .error (.conversion [.attr "c"] (.notAllowed "function")) := by
  have implied : openEnded.implied (.table ⟨2⟩) =
      .ok (.object [("a", .list .dynamic), ("b", .number)]) := rfl
  have numbers : ∀ x, openEnded.Reaches (.table ⟨2⟩) (.number x) → x.isNaN = false := by
    intro x inside
    cases inside with
    | entry member further =>
        have items : (openEnded.tableAt ⟨2⟩).items =
            [(.string "a", .userdata ⟨0⟩), (.string "b", .number (.infinity false))] := rfl
        rw [items] at member
        rcases List.mem_cons.mp member with rfl | member
        · cases further
        · cases List.mem_singleton.mp member
          cases further
          rfl
  obtain ⟨typed, -, converts⟩ := inference_predicts_conversion openEnded (.table ⟨2⟩)
  obtain ⟨-, fails, -⟩ := inference_predicts_conversion openEnded (.table ⟨3⟩)
  obtain ⟨result, converted⟩ := converts _ implied numbers
  refine ⟨⟨result, converted, ?_⟩, fails _ rfl⟩
  exact Except.ok.inj ((typed result converted).symm.trans implied)

end Host

end Crosswalk
