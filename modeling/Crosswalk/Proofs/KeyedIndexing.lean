/-
Module: Crosswalk.Proofs.KeyedIndexing
Purpose: Whether indexing finds what conversion stored. A table that becomes a map or an object keeps the
  texts of its keys as they are, while indexing normalizes the text of the key that it is given. The two
  agree for exactly those keys that are the only spelling of their text: numbers, truth values, and
  strings that no other string becomes under normalization. All other keys are lost, or are found
  under strings that are no keys of the table.
Main exports: Host.FindsStored, MapIndexing, ObjectIndexing
-/
import Crosswalk.Proofs.Host.KeyedTable

namespace Crosswalk

open Text (OnlySpelling)

/-! ### What is stored -/

namespace Ty

/-- The type of what a map or an object stores under a key text. -/
def stored? : Ty → String → Option Ty
  | .map element, _ => some element
  | .object attributes, name => attribute? attributes name
  | _, _ => none

/-- What a map or an object stores under a key text that the table lacks: an object has a null of every
    declared name. -/
def byDefault? : Ty → String → Option Value
  | .object attributes, name => (attribute? attributes name).map .null
  | _, _ => none

end Ty

namespace Host

/-- Indexing the wrapped result of a conversion finds what was stored: at every key of the table what its
    value converts to, and at every other string nothing but the null of a declared name. -/
structure FindsStored (host : Host) (table : HostTable) (want : Ty) (result : Value) : Prop where
  stored : ∀ entry ∈ table.entries, ∃ text ty found, entry.1.keyText? = some text ∧
    want.stored? text = some ty ∧ host.convert (table.get entry.1) ty = .ok found ∧
    host.IndexYields result entry.1 (some found)
  missing : ∀ text, (∀ entry ∈ table.entries, entry.1.keyText? ≠ some text) →
    host.IndexYields result (.string text) (want.byDefault? text)

/-- Entries that hold what the values of a table convert to, under the texts of their keys. -/
structure Stores (host : Host) (table : HostTable) (want : Ty) (entries : List (String × Value)) :
    Prop where
  stored : ∀ entry ∈ table.entries, ∃ text ty found, entry.1.keyText? = some text ∧
    want.stored? text = some ty ∧ host.convert (table.get entry.1) ty = .ok found ∧
    entries.lookup text = some found
  missing : ∀ text, (∀ entry ∈ table.entries, entry.1.keyText? ≠ some text) →
    entries.lookup text = want.byDefault? text

/-- Indexing a value looks for the normalized text of a key among entries. -/
def LooksUp (host : Host) (result : Value) (entries : List (String × Value)) : Prop :=
  ∀ key text, key.keyText? = some text →
    host.IndexYields result key (entries.lookup (Text.normalize text))

section Stores

variable {host : Host} {table : HostTable} {want : Ty} {result : Value}
  {entries : List (String × Value)} (stores : host.Stores table want entries)
  (looks : host.LooksUp result entries)
include stores looks

/-- Indexing finds what is stored if normalized texts are found where the texts are. -/
theorem Stores.findsStored
    (same : ∀ text, entries.lookup (Text.normalize text) = entries.lookup text) :
    host.FindsStored table want result where
  stored entry member := by
    obtain ⟨text, ty, found, named, declared, converted, stored⟩ := stores.stored entry member
    refine ⟨text, ty, found, named, declared, converted, ?_⟩
    have yields := looks entry.1 text named
    rwa [same, stored] at yields
  missing text absent := by
    have yields := looks (.string text) text rfl
    rwa [same, stores.missing text absent] at yields

/-- Where indexing finds what is stored, nobody sees whether a text is normalized. -/
theorem Stores.present_eq (finds : host.FindsStored table want result) (text : String) :
    (host.wrap result).2.present (entries.lookup (Text.normalize text)) =
      (host.wrap result).2.present (entries.lookup text) := by
  by_cases absent : ∀ entry ∈ table.entries, entry.1.keyText? ≠ some text
  · rw [stores.missing text absent]
    exact (looks (.string text) text rfl).unique (finds.missing text absent)
  · obtain ⟨entry, member, named⟩ : ∃ entry ∈ table.entries, entry.1.keyText? = some text := by
      simpa using absent
    obtain ⟨_, ty, found, named', declared, converted, yields⟩ := finds.stored entry member
    obtain ⟨_, ty', found', named'', declared', converted', stored⟩ := stores.stored entry member
    obtain rfl := Option.some.inj (named.symm.trans named')
    obtain rfl := Option.some.inj (named.symm.trans named'')
    obtain rfl := Option.some.inj (declared.symm.trans declared')
    obtain rfl := Except.ok.inj (converted.symm.trans converted')
    rw [stored]
    exact (looks entry.1 text named).unique yields

/-- Where indexing finds what is stored, what is stored under one spelling of a text is stored under all
    others, unless indexing does not show it. -/
theorem Stores.lookup_of_spelling (finds : host.FindsStored table want result) {text other : String}
    (same : Text.normalize other = Text.normalize text) {value : Value}
    (stored : entries.lookup text = some value)
    (shown : (value.isNull && host.settings.nullIndex = .nil) = false) :
    entries.lookup other = some value := by
  have presented : (host.wrap result).2.present (entries.lookup other) =
      (host.wrap result).2.present (some value) := by
    rw [← stores.present_eq looks finds other, same, stores.present_eq looks finds text, stored]
  have held := congrArg (fun pair => pair.2.unwrap pair.1) presented
  have visible : (!(value.isNull && (host.wrap result).2.settings.nullIndex = .nil)) = true := by
    rw [Bool.not_eq_true']
    exact shown
  simp only [unwrap_present, Option.filter_some, visible, if_true] at held
  exact (Option.filter_eq_some_iff.mp held).1

end Stores

theorem looksUp_map {host : Host} (equipped : host.Equipped) (element : Ty)
    (entries : List (String × Value)) : host.LooksUp (.map element entries) entries :=
  fun _ _ named => indexYields_map equipped element entries named

theorem looksUp_object {host : Host} (equipped : host.Equipped) {entries : List (String × Value)}
    (nodup : (entries.map Prod.fst).Nodup) : host.LooksUp (.object entries) entries :=
  fun _ _ named => indexYields_object equipped nodup named

section Tables

variable {host : Host} {ref : TableRef}
  (plain : ∀ entry ∈ (host.tableAt ref).entries, entry.1.keyText?.isSome)
include plain

/-- A map stores the entries of its table, whose keys have different texts: each of the map's keys is the
    text of a key. -/
theorem stores_map {element : Ty} (static : element.hasDynamic = false) {result : Value}
    (converted : host.convert (.table ref) (.map element) = .ok result) :
    ∃ entries, result = .map element entries ∧
      host.Stores (host.tableAt ref) (.map element) entries ∧
      ((host.tableAt ref).entries.map fun entry => entry.1.keyText?).Nodup ∧
      ∀ attr ∈ entries, ∃ entry ∈ (host.tableAt ref).entries, entry.1.keyText? = some attr.1 := by
  obtain ⟨entries, rfl, nodup, pairs⟩ := convert_map_eq_ok plain static converted
  have perm := sortBy_perm (fun a b => HostTable.keyPrecedes a.1 b.1) (host.tableAt ref).entries
  have texts : ((host.tableAt ref).items.map fun item => item.1.keyText?) =
      (entries.map Prod.fst).map some := by
    rw [← List.forall₂_eq_eq_eq, List.map_map, List.forall₂_map_left_iff,
      List.forall₂_map_right_iff]
    exact pairs.imp fun _ _ pair => pair.1
  have distinct : ((host.tableAt ref).entries.map fun entry => entry.1.keyText?).Nodup :=
    (perm.map _).nodup_iff.mp
      (texts ▸ List.Nodup.map (fun _ _ same => Option.some.inj same) nodup)
  have origin : ∀ attr ∈ entries, ∃ entry ∈ (host.tableAt ref).entries,
      entry.1.keyText? = some attr.1 := by
    intro attr member
    obtain ⟨item, inItems, named, -⟩ := Outcome.exists_of_forall₂ pairs member
    exact ⟨item, perm.mem_iff.mp inItems, named⟩
  refine ⟨entries, rfl, ⟨?_, ?_⟩, distinct, origin⟩
  · intro entry member
    obtain ⟨attr, stored, named, value⟩ :=
      Outcome.exists_of_forall₂ pairs.flip (perm.mem_iff.mpr member)
    refine ⟨attr.1, element, attr.2, named, rfl, ?_, lookup_of_mem nodup stored⟩
    rw [HostTable.get_of_mem distinct member, value]
  · intro text absent
    apply lookup_eq_none_of_not_mem
    intro member
    obtain ⟨attr, stored, rfl⟩ := List.mem_map.mp member
    obtain ⟨entry, inEntries, named⟩ := origin attr stored
    exact absent entry inEntries named

/-- An object stores an attribute for every declared name. -/
theorem stores_object {wants : List (String × Ty)} (names : (wants.map Prod.fst).Nodup)
    {result : Value} (converted : host.convert (.table ref) (.object wants) = .ok result) :
    ∃ attributes, result = .object attributes ∧ attributes.map Prod.fst = wants.map Prod.fst ∧
      host.Stores (host.tableAt ref) (.object wants) attributes := by
  obtain ⟨attributes, rfl, distinct, declared, pairs⟩ := convert_object_eq_ok plain converted
  have perm := sortBy_perm (fun a b => HostTable.keyPrecedes a.1 b.1) (host.tableAt ref).entries
  have distinctEntries : ((host.tableAt ref).entries.map fun entry => entry.1.keyText?).Nodup :=
    (perm.map _).nodup_iff.mp distinct
  have keys : attributes.map Prod.fst = wants.map Prod.fst :=
    Outcome.keys_eq_of_forall₂ (pairs.imp fun _ _ pair => pair.1)
  have nodup : (attributes.map Prod.fst).Nodup := keys ▸ names
  refine ⟨attributes, rfl, keys, ?_, ?_⟩
  · intro entry member
    have inItems := perm.mem_iff.mpr member
    obtain ⟨text, named, isDeclared⟩ := declared entry inItems
    obtain ⟨ty, found⟩ := Option.isSome_iff_exists.mp isDeclared
    obtain ⟨⟨_, value⟩, stored, rfl, ⟨item, inItems', named', converted⟩ | ⟨absent, -⟩⟩ :=
      Outcome.exists_of_forall₂ pairs.flip (mem_of_lookup found)
    · obtain rfl := List.inj_on_of_nodup_map distinct inItems' inItems (named'.trans named.symm)
      refine ⟨_, ty, value, named, found, ?_, lookup_of_mem nodup stored⟩
      rw [HostTable.get_of_mem distinctEntries member, converted]
    · exact absurd named (absent entry inItems)
  · intro text absent
    rw [Ty.byDefault?, Ty.attribute?]
    cases found : wants.lookup text with
    | none => exact lookup_eq_none_of_not_mem (keys ▸ not_mem_of_lookup_eq_none found)
    | some ty =>
        obtain ⟨⟨_, value⟩, stored, rfl, ⟨item, inItems, named, -⟩ | ⟨-, isNull⟩⟩ :=
          Outcome.exists_of_forall₂ pairs.flip (mem_of_lookup found)
        · exact absurd named (absent item (perm.mem_iff.mp inItems))
        · exact (lookup_of_mem nodup stored).trans (congrArg some isNull)

end Tables

end Host

/-! ### Maps -/

/-- Indexing finds what was stored whenever a table with these keys becomes a map, whatever its values
    are. -/
def MapIndexing (keys : List HostValue) : Prop :=
  ∀ (host : Host) (ref : TableRef) (element : Ty) (result : Value), host.Equipped →
    (host.tableAt ref).entries.map Prod.fst = keys → element.hasDynamic = false →
    host.convert (.table ref) (.map element) = .ok result →
    host.FindsStored (host.tableAt ref) (.map element) result

/-- A host with a table in which only the keys with one text are true. -/
def Host.marking (keys : List HostValue) (text : String) : Host :=
  ((start {}).newTable
    { entries := keys.map fun key => (key, .boolean (key.keyText? = some text)) }).2

theorem Host.entries_marking (keys : List HostValue) (text : String) :
    ((marking keys text).tableAt ⟨2⟩).entries =
      keys.map fun key => (key, .boolean (key.keyText? = some text)) :=
  rfl

theorem Host.keys_marking (keys : List HostValue) (text : String) :
    ((marking keys text).tableAt ⟨2⟩).entries.map Prod.fst = keys := by
  rw [entries_marking, List.map_map]
  exact List.map_id keys

section Maps

variable {keys : List HostValue} (plain : ∀ key ∈ keys, key.keyText?.isSome)
include plain

theorem mapIndexing_of_onlySpelling
    (only : (keys.map HostValue.keyText?).Nodup →
      ∀ key ∈ keys, ∀ text, key.keyText? = some text → OnlySpelling text) :
    MapIndexing keys := by
  rintro host ref element result equipped rfl static converted
  rw [List.forall_mem_map] at plain only
  rw [List.map_map] at only
  obtain ⟨entries, rfl, stores, distinct, origin⟩ := Host.stores_map plain static converted
  apply stores.findsStored (Host.looksUp_map equipped element entries)
  apply Text.lookup_normalize
  intro attr member
  obtain ⟨entry, inEntries, named⟩ := origin attr member
  exact only distinct entry inEntries attr.1 named

/-- The table with marked keys becomes a map in which only the marked text is true. -/
theorem Host.stores_marking (distinct : (keys.map HostValue.keyText?).Nodup) (text : String) :
    ∃ entries, (marking keys text).convert (.table ⟨2⟩) (.map .bool) = .ok (.map .bool entries) ∧
      (marking keys text).Stores ((marking keys text).tableAt ⟨2⟩) (.map .bool) entries ∧
      ∀ key ∈ keys, ∀ own, key.keyText? = some own →
        entries.lookup own = some (.bool (own = text)) := by
  have plainEntries : ∀ entry ∈ ((marking keys text).tableAt ⟨2⟩).entries,
      entry.1.keyText?.isSome := by
    rw [entries_marking]
    exact List.forall_mem_map.mpr plain
  have distinctEntries : (((marking keys text).tableAt ⟨2⟩).entries.map
      fun entry => entry.1.keyText?).Nodup := by
    rw [entries_marking, List.map_map]
    exact distinct
  obtain ⟨result, converted⟩ : ∃ result,
      (marking keys text).convert (.table ⟨2⟩) (.map .bool) = .ok result := by
    apply exists_convert_map plainEntries distinctEntries rfl
    rw [entries_marking]
    exact List.forall_mem_map.mpr fun key _ => ⟨.bool _, rfl, rfl⟩
  obtain ⟨entries, rfl, stores, -, -⟩ := stores_map plainEntries rfl converted
  refine ⟨entries, converted, stores, ?_⟩
  intro key member own named
  have entry : (key, HostValue.boolean (key.keyText? = some text)) ∈
      ((marking keys text).tableAt ⟨2⟩).entries :=
    entries_marking keys text ▸ List.mem_map_of_mem member
  obtain ⟨_, ty, value, named', declared, converted, stored⟩ := stores.stored _ entry
  obtain rfl := Option.some.inj (named.symm.trans named')
  obtain rfl := Option.some.inj declared
  rw [HostTable.get_of_mem distinctEntries entry] at converted
  rw [stored, ← Except.ok.inj converted]
  simp [named]

theorem onlySpelling_of_mapIndexing (finds : MapIndexing keys)
    (distinct : (keys.map HostValue.keyText?).Nodup) {key : HostValue} (member : key ∈ keys)
    {text : String} (named : key.keyText? = some text) : OnlySpelling text := by
  intro other same
  have equipped : (Host.marking keys text).Equipped := (Host.start_equipped {}).newTable _
  obtain ⟨entries, converted, stores, marked⟩ := Host.stores_marking plain distinct text
  have found := finds _ ⟨2⟩ .bool _ equipped (Host.keys_marking keys text) rfl converted
  have marks : entries.lookup text = some (.bool true) := by simp [marked key member text named]
  have spelled : entries.lookup other = some (.bool true) :=
    stores.lookup_of_spelling (Host.looksUp_map equipped .bool entries) found same marks rfl
  by_cases isText : ∃ key ∈ keys, key.keyText? = some other
  · obtain ⟨key, member, named⟩ := isText
    simpa [marked key member other named] using spelled
  · have absent : entries.lookup other = none := by
      refine stores.missing other fun entry member named => isText ?_
      exact ⟨entry.1, Host.keys_marking keys text ▸ List.mem_map_of_mem member, named⟩
    cases absent.symm.trans spelled

end Maps

/-! ### Objects -/

/-- Indexing finds what was stored whenever a table becomes an object with these attribute names, whatever
    the table holds and whatever the static types of the attributes are. -/
def ObjectIndexing (names : List String) : Prop :=
  ∀ (host : Host) (ref : TableRef) (attributes : List (String × Ty)) (result : Value),
    host.Equipped → (∀ entry ∈ (host.tableAt ref).entries, entry.1.keyText?.isSome) →
    attributes.map Prod.fst = names → (Ty.object attributes).hasDynamic = false →
    host.convert (.table ref) (.object attributes) = .ok result →
    host.FindsStored (host.tableAt ref) (.object attributes) result

/-- A host with an empty table that shows nulls. -/
def Host.showing : Host :=
  ((start { nullIndex := .wrapped }).newTable {}).2

theorem Host.entries_showing : (showing.tableAt ⟨2⟩).entries = [] :=
  rfl

/-- Attributes of which only the one with a given name is a number. -/
def markedAttributes (names : List String) (text : String) : List (String × Ty) :=
  names.map fun name => (name, if name = text then .number else .bool)

theorem markedAttributes_static (names : List String) (text : String) :
    (Ty.object (markedAttributes names text)).hasDynamic = false := by
  rw [Ty.hasDynamic, Ty.attributesHaveDynamic_eq_any, List.any_eq_false, markedAttributes]
  intro attr member
  obtain ⟨name, -, rfl⟩ := List.mem_map.mp member
  dsimp only
  split <;> decide

theorem eq_of_lookup_markedAttributes {names : List String} {text other : String}
    (found : (markedAttributes names text).lookup other = some .number) : other = text := by
  obtain ⟨name, -, same⟩ := List.mem_map.mp (mem_of_lookup found)
  obtain ⟨rfl, isNumber⟩ := Prod.mk.inj same
  by_contra different
  rw [if_neg different] at isNumber
  cases isNumber

section Objects

variable {names : List String} (distinct : names.Nodup)
include distinct

theorem objectIndexing_of_onlySpelling (only : ∀ name ∈ names, OnlySpelling name) :
    ObjectIndexing names := by
  rintro host ref attributes result equipped plain rfl static converted
  obtain ⟨entries, rfl, keys, stores⟩ := Host.stores_object plain distinct converted
  apply stores.findsStored (Host.looksUp_object equipped (keys ▸ distinct))
  apply Text.lookup_normalize
  intro attr member
  apply only attr.1
  exact keys ▸ List.mem_map_of_mem member

theorem onlySpelling_of_objectIndexing (finds : ObjectIndexing names) {text : String}
    (member : text ∈ names) : OnlySpelling text := by
  intro other same
  have equipped : Host.showing.Equipped := (Host.start_equipped _).newTable _
  have plain : ∀ entry ∈ (Host.showing.tableAt ⟨2⟩).entries, entry.1.keyText?.isSome := by
    rw [Host.entries_showing]
    exact List.forall_mem_nil _
  have keys : (markedAttributes names text).map Prod.fst = names := by
    rw [markedAttributes, List.map_map]
    exact List.map_id names
  have nodup : ((markedAttributes names text).map Prod.fst).Nodup := by rwa [keys]
  obtain ⟨result, converted⟩ : ∃ result, Host.showing.convert (.table ⟨2⟩)
      (.object (markedAttributes names text)) = .ok result :=
    ⟨_, Reading.toObject_nil (markedAttributes names text)⟩
  have found := finds _ ⟨2⟩ _ _ equipped plain keys (markedAttributes_static names text) converted
  obtain ⟨entries, rfl, entryKeys, stores⟩ := Host.stores_object plain nodup converted
  have nulls (own : String) : entries.lookup own =
      ((markedAttributes names text).lookup own).map .null := by
    apply stores.missing own
    rw [Host.entries_showing]
    exact List.forall_mem_nil _
  have declared : (markedAttributes names text).lookup text = some .number := by
    refine lookup_of_mem nodup (List.mem_map.mpr ⟨text, member, ?_⟩)
    rw [if_pos rfl]
  have marks : entries.lookup text = some (.null .number) := by rw [nulls, declared]; rfl
  have looks := Host.looksUp_object equipped (entryKeys ▸ nodup)
  have spelled := stores.lookup_of_spelling looks found same marks rfl
  rw [nulls] at spelled
  obtain ⟨ty, spelledType, isNumber⟩ := Option.map_eq_some_iff.mp spelled
  cases isNumber
  exact eq_of_lookup_markedAttributes spelledType

end Objects

/-! ### Keys that are found -/

/-- Indexing finds what conversion stored for exactly those keys and those attribute names that are the only
    spelling of their text. Keys of which two have one text never become the keys of a map. -/
theorem keyedIndexing_iff {keys : List HostValue} {names : List String}
    (plain : ∀ key ∈ keys, key.keyText?.isSome) (distinct : names.Nodup) :
    (MapIndexing keys ↔ ((keys.map HostValue.keyText?).Nodup →
      ∀ key ∈ keys, ∀ text, key.keyText? = some text → OnlySpelling text)) ∧
    (ObjectIndexing names ↔ ∀ name ∈ names, OnlySpelling name) := by
  constructor
  · constructor
    · intro finds different key member text named
      exact onlySpelling_of_mapIndexing plain finds different member named
    · exact mapIndexing_of_onlySpelling plain
  · constructor
    · intro finds name member
      exact onlySpelling_of_objectIndexing distinct finds member
    · exact objectIndexing_of_onlySpelling distinct

/-- A string and a truth value. -/
def plainKeys : List HostValue :=
  [.string "name", .boolean true]

theorem plainKeys_plain : ∀ key ∈ plainKeys, key.keyText?.isSome := by
  decide

/-- A plain name and a truth value are found, in maps and in objects. -/
theorem keyedIndexing_plainKeys : MapIndexing plainKeys ∧ ObjectIndexing ["name"] := by
  have name : OnlySpelling "name" := Text.onlySpelling_of_basic (by decide)
  obtain ⟨maps, objects⟩ := keyedIndexing_iff plainKeys_plain (List.nodup_singleton "name")
  constructor
  · apply maps.mpr
    intro _ key member text named
    rcases List.mem_pair.mp member with rfl | rfl
    · exact Option.some.inj named ▸ name
    · exact HostValue.keyText?_onlySpelling named (by simp [HostValue.kind])
  · apply objects.mpr
    intro own member
    exact List.mem_singleton.mp member ▸ name

/-- A name whose accent is a character of its own. -/
def decomposedKey : HostValue :=
  .string "e\u0301"

/-- The map that a table with that key becomes has the key, but indexing the map with it gives nil. -/
theorem mapIndexing_decomposedKey :
    (Host.marking [decomposedKey] "e\u0301").convert (.table ⟨2⟩) (.map .bool) =
      .ok (.map .bool [("e\u0301", .bool true)]) ∧
    (Host.marking [decomposedKey] "e\u0301").IndexYields (.map .bool [("e\u0301", .bool true)])
      decomposedKey none ∧
    ¬ MapIndexing [decomposedKey] := by
  have composed : Text.normalize "e\u0301" = "é" := by decide +kernel
  refine ⟨rfl, ?_, ?_⟩
  · have yields := Host.indexYields_map ((Host.start_equipped {}).newTable _ :
      (Host.marking [decomposedKey] "e\u0301").Equipped) .bool [("e\u0301", .bool true)]
      (rfl : decomposedKey.keyText? = some "e\u0301")
    rw [composed] at yields
    exact yields
  · intro finds
    have plain : ∀ key ∈ [decomposedKey], key.keyText?.isSome := by decide
    have only : OnlySpelling "e\u0301" :=
      onlySpelling_of_mapIndexing plain finds (List.nodup_singleton _) List.mem_cons_self rfl
    have isNormal := only.isNormal
    rw [Text.IsNormal, composed] at isNormal
    exact absurd isNormal (by decide)

end Crosswalk
