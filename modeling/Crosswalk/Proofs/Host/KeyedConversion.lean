/-
Module: Crosswalk.Proofs.Host.KeyedConversion
Purpose: Which tables convert by key text. A map takes a table whose keys have different texts and whose values
  convert, and neither loses nor invents an entry. An object takes such a table if it declares every key that
  the table has; it has nulls for the others it declares. Where only undeclared keys stand in the way, the
  first of them is reported.
Main exports: Reading.toObject_iff, Host.convert_map_iff, Host.Declares, Host.convert_object_iff,
  Host.keyed_targets
-/
import Crosswalk.Proofs.Binary64.Whole
import Crosswalk.Proofs.Host.Filling

namespace Crosswalk

namespace Reading

/-- A table becomes an object if its keys have different texts, all of them declared, and what stands under
    each declared name converts. -/
theorem toObject_iff {wants : List (String × Ty)} {entries : List Entry} {result : Value} :
    toObject wants entries = .ok result ↔
      ∃ named attributes, result = .object attributes ∧ byText entries = .ok named ∧
        (∀ entry ∈ named, (wants.lookup entry.1).isSome) ∧
        List.Forall₂ (fun want attr => attr.1 = want.1 ∧
          ((named.lookup want.1).getD nil).convert want.2 = .ok attr.2) wants attributes := by
  constructor
  · exact toObject_eq_ok
  · rintro ⟨named, attributes, rfl, byKey, declared, each⟩
    refine Outcome.bind_eq_ok.mpr ⟨named, byKey, Outcome.bind_eq_ok.mpr ⟨attributes, ?_, ?_⟩⟩
    · refine Outcome.mapM_eq_ok.mpr (each.imp fun want attr pair => Outcome.map_eq_ok.mpr ?_)
      exact ⟨attr.2, Outcome.under_eq_ok.mpr pair.2, Prod.ext pair.1.symm rfl⟩
    · have none : named.find? (fun entry => (wants.lookup entry.1).isNone) = none :=
        List.find?_eq_none.mpr fun entry member => by simpa using declared entry member
      rw [none]

/-- Where everything else is right, the first key that is not declared is reported. -/
theorem toObject_unexpected {wants : List (String × Ty)} {entries : List Entry}
    {before after : List (String × Reading)} {other : String × Reading}
    (byKey : byText entries = .ok (before ++ other :: after))
    (each : ∀ want ∈ wants, ∃ value,
      (((before ++ other :: after).lookup want.1).getD nil).convert want.2 = .ok value)
    (earlier : ∀ entry ∈ before, (wants.lookup entry.1).isSome) (undeclared : wants.lookup other.1 = none) :
    toObject wants entries = .error (.conversion [] (.unexpectedKey other.1)) := by
  have converts : ∀ want ∈ wants, ∃ attr, (Outcome.under (.attr want.1)
      ((((before ++ other :: after).lookup want.1).getD nil).convert want.2)).map (want.1, ·) = .ok attr := by
    intro want member
    obtain ⟨value, converted⟩ := each want member
    exact ⟨(want.1, value), Outcome.map_eq_ok.mpr ⟨value, Outcome.under_eq_ok.mpr converted, rfl⟩⟩
  obtain ⟨attributes, all⟩ := Outcome.exists_mapM_eq_ok converts
  have found : (before ++ other :: after).find? (fun entry => (wants.lookup entry.1).isNone) = some other := by
    refine List.find?_eq_some_iff_append.mpr ⟨by simp [undeclared], before, after, rfl, fun entry member => ?_⟩
    simpa using earlier entry member
  refine Outcome.bind_eq_error.mpr (.inr ⟨_, byKey, Outcome.bind_eq_error.mpr (.inr ⟨attributes, all, ?_⟩)⟩)
  rw [found]

end Reading

namespace Host

/-- Attributes have the text of a key among their names. -/
def Declares (wants : List (String × Ty)) (key : HostValue) : Prop :=
  ∃ text, key.keyText? = some text ∧ (wants.lookup text).isSome

section Targets

variable {host : Host} {ref : TableRef}
  (named : ∀ entry ∈ (host.tableAt ref).entries, entry.1.keyText?.isSome = true)

/-- The entries of a map that holds what the values of a table convert to, under the texts of their keys. -/
def MapsEach (host : Host) (ref : TableRef) (want : Ty) (entries : List (String × Value)) : Prop :=
  List.Forall₂ (fun item entry => item.1.keyText? = some entry.1 ∧ host.convert item.2 want = .ok entry.2)
    (host.tableAt ref).items entries

/-- The attributes of an object that holds what the values of a table convert to, and nulls under the names
    that no key has. -/
def FillsEach (host : Host) (ref : TableRef) (wants : List (String × Ty))
    (attributes : List (String × Value)) : Prop :=
  List.Forall₂ (fun want attr => attr.1 = want.1 ∧
    ((∃ item ∈ (host.tableAt ref).items, item.1.keyText? = some want.1 ∧
        host.convert item.2 want.2 = .ok attr.2) ∨
      ((∀ item ∈ (host.tableAt ref).items, item.1.keyText? ≠ some want.1) ∧ attr.2 = .null want.2)))
    wants attributes

/-! ### Maps -/

/-- A table has one such list of entries. -/
theorem MapsEach.unique {want : Ty} {entries others : List (String × Value)}
    (each : host.MapsEach ref want entries) (other : host.MapsEach ref want others) : entries = others := by
  refine List.right_unique_forall₂' (fun item entry another here there => ?_) each other
  refine Prod.ext (Option.some.inj (here.1.symm.trans there.1)) ?_
  exact Except.ok.inj (here.2.symm.trans there.2)

/-- The keys of the entries are different if the texts are. -/
theorem MapsEach.nodup_iff {want : Ty} {entries : List (String × Value)}
    (each : host.MapsEach ref want entries) :
    (entries.map Prod.fst).Nodup ↔ ((host.tableAt ref).keys.map HostValue.keyText?).Nodup := by
  have texts : (entries.map Prod.fst).map some = (host.tableAt ref).keys.map HostValue.keyText? := by
    rw [HostTable.keys, List.map_map, List.map_map, ← List.forall₂_eq_eq_eq, List.forall₂_map_left_iff,
      List.forall₂_map_right_iff]
    exact each.flip.imp fun _ _ pair => pair.1.symm
  rw [← texts, List.nodup_map_iff fun _ _ same => Option.some.inj same]

/-- No entry is lost and none is invented: there are as many as in the table, and under the text of each key
    stands what its value converts to. -/
theorem MapsEach.lookups {want : Ty} {entries : List (String × Value)}
    (each : host.MapsEach ref want entries) (nodup : (entries.map Prod.fst).Nodup) :
    entries.length = (host.tableAt ref).count ∧
      ∀ item ∈ (host.tableAt ref).items, ∃ text value, item.1.keyText? = some text ∧
        host.convert item.2 want = .ok value ∧ entries.lookup text = some value := by
  refine ⟨each.length_eq.symm.trans (sortBy_perm _ (host.tableAt ref).entries).length_eq, ?_⟩
  intro item member
  obtain ⟨entry, inEntries, isText, converted⟩ := Outcome.exists_of_forall₂ each.flip member
  exact ⟨entry.1, entry.2, isText, converted, lookup_of_mem nodup inEntries⟩

include named in
/-- A table becomes a map if its keys have different texts and each of its values converts. -/
theorem convert_map_iff (payloads : host.Carries Value.WellFormed) {element : Ty} (outer : element.WellFormed)
    (static : element.hasDynamic = false) {result : Value} :
    host.convert (.table ref) (.map element) = .ok result ↔
      ((host.tableAt ref).keys.map HostValue.keyText?).Nodup ∧
      ∃ entries, result = .map element entries ∧ host.MapsEach ref element entries := by
  constructor
  · intro converted
    obtain ⟨entries, rfl, nodup, each⟩ := convert_map_eq_ok named static converted
    exact ⟨(MapsEach.nodup_iff each).mp nodup, entries, rfl, each⟩
  · rintro ⟨distinct, entries, rfl, each⟩
    have converts : ∀ other ∈ host.textReadings ref, ∃ value, other.2.convert element = .ok value ∧
        value.type = element := by
      refine List.forall_mem_map.mpr fun item member => ?_
      obtain ⟨entry, -, -, converted⟩ := Outcome.exists_of_forall₂ each.flip member
      exact ⟨entry.2, converted, (convert_hasType payloads outer static converted).1⟩
    obtain ⟨made, success⟩ := Reading.exists_toMap static ((byText_known_iff named).mpr ⟨distinct, rfl⟩) converts
    rw [← convert_map] at success
    obtain ⟨others, rfl, -, again⟩ := convert_map_eq_ok named static success
    rw [success, MapsEach.unique again each]

/-! ### Objects -/

theorem textReadings_of_split {before after : List (HostValue × HostValue)} {item : HostValue × HostValue}
    (split : (host.tableAt ref).items = before ++ item :: after) {text : String}
    (isText : item.1.keyText? = some text) :
    host.textReadings ref =
      (before.map fun item => (item.1.keyText?.getD "", host.reading item.2)) ++
        (text, host.reading item.2) ::
          after.map fun item => (item.1.keyText?.getD "", host.reading item.2) := by
  rw [textReadings, split, List.map_append, List.map_cons, isText]
  rfl

section Objects

variable {wants : List (String × Ty)}
  (distinct : ((host.tableAt ref).keys.map HostValue.keyText?).Nodup)

include named in
/-- A table becomes an object if its keys have different texts, all of them declared, and the value of each
    converts. -/
theorem convert_object_iff {result : Value} :
    host.convert (.table ref) (.object wants) = .ok result ↔
      ((host.tableAt ref).keys.map HostValue.keyText?).Nodup ∧
      (∀ key ∈ (host.tableAt ref).keys, Declares wants key) ∧
      ∃ attributes, result = .object attributes ∧ host.FillsEach ref wants attributes := by
  rw [convert_object, Reading.toObject_iff]
  have texts := textReadings_pairs named
  constructor
  · rintro ⟨_, attributes, rfl, byKey, declared, each⟩
    obtain ⟨distinct, rfl⟩ := (byText_known_iff named).mp byKey
    refine ⟨distinct, List.forall_mem_map.mpr fun item member => ?_, attributes, rfl, ?_⟩
    · obtain ⟨other, inNamed, isText, -⟩ := Outcome.exists_of_forall₂ texts.flip member
      exact ⟨other.1, isText, declared other inNamed⟩
    · exact each.imp fun want attr pair => ⟨pair.1, (convert_textReadings_iff named distinct).mp pair.2⟩
  · rintro ⟨distinct, declared, attributes, rfl, each⟩
    refine ⟨_, attributes, rfl, (byText_known_iff named).mpr ⟨distinct, rfl⟩, fun other member => ?_, ?_⟩
    · obtain ⟨item, inItems, isText, -⟩ := Outcome.exists_of_forall₂ texts member
      obtain ⟨text, same, isDeclared⟩ := declared item.1 (List.mem_map_of_mem inItems)
      exact Option.some.inj (isText.symm.trans same) ▸ isDeclared
    · exact each.imp fun want attr pair => ⟨pair.1, (convert_textReadings_iff named distinct).mpr pair.2⟩

include named in
/-- A table with a key that is not declared has a first one. -/
theorem exists_undeclared (undeclared : ∃ key ∈ (host.tableAt ref).keys, ¬ Declares wants key) :
    ∃ before item after text, (host.tableAt ref).items = before ++ item :: after ∧
      (∀ other ∈ before, Declares wants other.1) ∧ item.1.keyText? = some text ∧
      wants.lookup text = none := by
  obtain ⟨key, inKeys, notDeclared⟩ := undeclared
  obtain ⟨item, inItems, rfl⟩ := List.mem_map.mp inKeys
  have lacking : ∃ item ∈ (host.tableAt ref).items, ¬ Declares wants item.1 := ⟨item, inItems, notDeclared⟩
  obtain ⟨before, first, after, split, declared, lacks⟩ := Outcome.exists_first lacking
  obtain ⟨text, isText⟩ := exists_text named (split ▸ List.mem_append_right before List.mem_cons_self)
  refine ⟨before, first, after, text, split, declared, isText, ?_⟩
  rw [← Option.not_isSome_iff_eq_none]
  exact fun isDeclared => lacks ⟨text, isText, isDeclared⟩

include named distinct in
/-- Something stands under each declared name if the values of the keys with these texts convert. -/
theorem exists_convert_declared
    (converts : ∀ want ∈ wants, ∀ item ∈ (host.tableAt ref).items, item.1.keyText? = some want.1 →
      ∃ value, host.convert item.2 want.2 = .ok value) :
    ∀ want ∈ wants, ∃ value,
      (((host.textReadings ref).lookup want.1).getD Reading.nil).convert want.2 = .ok value := by
  intro want member
  by_cases present : ∃ item ∈ (host.tableAt ref).items, item.1.keyText? = some want.1
  · obtain ⟨item, inItems, isText⟩ := present
    obtain ⟨value, converted⟩ := converts want member item inItems isText
    refine ⟨value, (convert_textReadings_iff named distinct).mpr (.inl ?_)⟩
    exact ⟨item, inItems, isText, converted⟩
  · have absent : ∀ item ∈ (host.tableAt ref).items, item.1.keyText? ≠ some want.1 :=
      fun item inItems isText => present ⟨item, inItems, isText⟩
    exact ⟨_, (convert_textReadings_iff named distinct).mpr (.inr ⟨absent, rfl⟩)⟩

include named distinct in
/-- Where the values under declared names convert, the first key that is not declared is reported. -/
theorem convert_object_unexpected
    (converts : ∀ want ∈ wants, ∀ item ∈ (host.tableAt ref).items, item.1.keyText? = some want.1 →
      ∃ value, host.convert item.2 want.2 = .ok value)
    (undeclared : ∃ key ∈ (host.tableAt ref).keys, ¬ Declares wants key) :
    ∃ before key after text, (host.tableAt ref).keys = before ++ key :: after ∧
      (∀ other ∈ before, Declares wants other) ∧ key.keyText? = some text ∧ wants.lookup text = none ∧
      host.convert (.table ref) (.object wants) = .error (.conversion [] (.unexpectedKey text)) := by
  obtain ⟨before, item, after, text, split, declared, isText, notDeclared⟩ := exists_undeclared named undeclared
  refine ⟨before.map Prod.fst, item.1, after.map Prod.fst, text, ?_, List.forall_mem_map.mpr declared, isText,
    notDeclared, ?_⟩
  · rw [HostTable.keys, split, List.map_append, List.map_cons]
  · have readings := textReadings_of_split split isText
    have each := exists_convert_declared named distinct converts
    have byKey := (byText_known_iff named).mpr ⟨distinct, rfl⟩
    rw [readings] at each byKey
    rw [convert_object]
    refine Reading.toObject_unexpected byKey each (List.forall_mem_map.mpr fun other member => ?_) notDeclared
    obtain ⟨otherText, isOther, isDeclared⟩ := declared other member
    simpa [isOther] using isDeclared

end Objects

end Targets

/-- Keyed targets lose and invent no entry. A map takes a table whose keys have different texts and whose
    values convert, and under the text of each key it has the conversion of its value, and nothing else. An
    object takes such a table if it declares all of these texts, and has nulls under the names that are no
    texts of keys. If everything is right but there are keys that it does not declare, the first of them is
    reported. -/
theorem keyed_targets {host : Host} {ref : TableRef}
    (consistent : HostTable.Consistent (host.tableAt ref).entries)
    (plain : ∀ entry ∈ (host.tableAt ref).entries, entry.1.IsPlain)
    (payloads : host.Carries Value.WellFormed) {element : Ty} (outer : element.WellFormed)
    (static : element.hasDynamic = false) :
    (∀ result, host.convert (.table ref) (.map element) = .ok result ↔
      ((host.tableAt ref).keys.map HostValue.keyText?).Nodup ∧
      ∃ entries, result = .map element entries ∧ host.MapsEach ref element entries) ∧
    (∀ entries, host.convert (.table ref) (.map element) = .ok (.map element entries) →
      (entries.map Prod.fst).Nodup ∧ entries.length = (host.tableAt ref).count ∧
      ∀ item ∈ (host.tableAt ref).items, ∃ text value, item.1.keyText? = some text ∧
        host.convert item.2 element = .ok value ∧ entries.lookup text = some value) ∧
    ∀ wants,
      (∀ result, host.convert (.table ref) (.object wants) = .ok result ↔
        ((host.tableAt ref).keys.map HostValue.keyText?).Nodup ∧
        (∀ key ∈ (host.tableAt ref).keys, Declares wants key) ∧
        ∃ attributes, result = .object attributes ∧ host.FillsEach ref wants attributes) ∧
      (((host.tableAt ref).keys.map HostValue.keyText?).Nodup →
        (∀ want ∈ wants, ∀ item ∈ (host.tableAt ref).items, item.1.keyText? = some want.1 →
          ∃ value, host.convert item.2 want.2 = .ok value) →
        (∃ key ∈ (host.tableAt ref).keys, ¬ Declares wants key) →
        ∃ before key after text, (host.tableAt ref).keys = before ++ key :: after ∧
          (∀ other ∈ before, Declares wants other) ∧ key.keyText? = some text ∧ wants.lookup text = none ∧
          host.convert (.table ref) (.object wants) = .error (.conversion [] (.unexpectedKey text))) := by
  have named : ∀ entry ∈ (host.tableAt ref).entries, entry.1.keyText?.isSome = true := fun entry member =>
    (plain entry member).named (consistent.keys entry.1 (List.mem_map_of_mem member))
  refine ⟨fun result => ?_, fun entries converted => ?_, fun wants => ⟨fun result => ?_, ?_⟩⟩
  · exact convert_map_iff named payloads outer static
  · obtain ⟨distinct, _, ⟨⟩, each⟩ := (convert_map_iff named payloads outer static).mp converted
    have nodup := (MapsEach.nodup_iff each).mpr distinct
    exact ⟨nodup, MapsEach.lookups each nodup⟩
  · exact convert_object_iff named
  · exact convert_object_unexpected named

/-- A host with a table under a text and a number, one of whose values is wrapped. -/
def labeled : Host :=
  { start {} with
    tables := (start {}).tables.push { entries := [(.string "a", .userdata ⟨0⟩), (.ofNat 1, .boolean false)] }
    userdata := #[⟨.structural (.null .bool), some wrappedMetatable⟩] }

theorem labeled_consistent : HostTable.Consistent (labeled.tableAt ⟨2⟩).entries := by
  refine ⟨by decide +kernel, ?_, ?_⟩
  · refine List.forall_mem_cons.mpr ⟨⟨nofun, by rintro _ ⟨⟩⟩, List.forall_mem_singleton.mpr ?_⟩
    exact HostTable.isKey_ofNat 1
  · exact List.forall_mem_cons.mpr ⟨nofun, List.forall_mem_singleton.mpr nofun⟩

theorem labeled_carries : labeled.Carries Value.WellFormed := by
  refine (carries_of_sole rfl).mono ?_
  rintro _ rfl
  exact .null .bool

/-- The number stands before the text in the map, and it is what an object without an attribute "1" does not
    expect. -/
theorem keyed_targets_labeled :
    labeled.convert (.table ⟨2⟩) (.map .bool) = .ok (.map .bool [("1", .bool false), ("a", .null .bool)]) ∧
      labeled.convert (.table ⟨2⟩) (.object [("a", .bool), ("b", .bool)]) =
        .error (.conversion [] (.unexpectedKey "1")) := by
  have items : (labeled.tableAt ⟨2⟩).items = [(.ofNat 1, .boolean false), (.string "a", .userdata ⟨0⟩)] := by
    decide +kernel
  have keys : (labeled.tableAt ⟨2⟩).keys = [.ofNat 1, .string "a"] := by rw [HostTable.keys, items]; rfl
  have one : (HostValue.ofNat 1).keyText? = some "1" := by decide +kernel
  have distinct : ((labeled.tableAt ⟨2⟩).keys.map HostValue.keyText?).Nodup := by
    rw [keys, List.map_cons, one]
    decide
  have plain : ∀ entry ∈ (labeled.tableAt ⟨2⟩).entries, entry.1.IsPlain :=
    List.forall_mem_cons.mpr ⟨.inr (.inl rfl), List.forall_mem_singleton.mpr (.inl rfl)⟩
  obtain ⟨map, -, object⟩ := keyed_targets labeled_consistent plain labeled_carries .bool rfl
  constructor
  · refine (map _).mpr ⟨distinct, _, rfl, ?_⟩
    rw [MapsEach, items]
    exact .cons ⟨one, rfl⟩ (.cons ⟨rfl, rfl⟩ .nil)
  · obtain ⟨-, unexpected⟩ := object [("a", .bool), ("b", .bool)]
    have undeclared : ∃ key ∈ (labeled.tableAt ⟨2⟩).keys, ¬ Declares [("a", .bool), ("b", .bool)] key := by
      refine ⟨.ofNat 1, keys ▸ List.mem_cons_self, ?_⟩
      rintro ⟨text, isText, declared⟩
      cases one.symm.trans isText
      cases declared
    have converts : ∀ want ∈ [("a", Ty.bool), ("b", Ty.bool)], ∀ item ∈ (labeled.tableAt ⟨2⟩).items,
        item.1.keyText? = some want.1 → ∃ value, labeled.convert item.2 want.2 = .ok value := by
      rw [items]
      refine List.forall_mem_cons.mpr ⟨?_, List.forall_mem_singleton.mpr ?_⟩
      all_goals
        exact List.forall_mem_cons.mpr ⟨fun _ => ⟨_, rfl⟩, List.forall_mem_singleton.mpr fun _ => ⟨_, rfl⟩⟩
    obtain ⟨before, key, after, text, split, -, isText, notDeclared, failed⟩ :=
      unexpected distinct converts undeclared
    have member : key ∈ (labeled.tableAt ⟨2⟩).keys := split ▸ List.mem_append_right before List.mem_cons_self
    rw [keys] at member
    rcases List.mem_cons.mp member with rfl | later
    · cases one.symm.trans isText
      exact failed
    · cases List.mem_singleton.mp later
      cases isText
      cases notDeclared

end Host

end Crosswalk
