/-
Module: Crosswalk.Proofs.Host.KeyedTable
Purpose: Conversion of tables by key text. A map has an entry for every entry of the table, under the text
  of its key, and an object has an attribute for every declared name, null where the table has nothing;
  what an entry becomes is what its value converts to on its own.
Main exports: HostTable.get_of_mem, Host.convert_map_eq_ok, Host.convert_object_eq_ok
-/
import Crosswalk.Proofs.Host.Reach

namespace Crosswalk

/-! ### Equal keys -/

namespace Binary64

theorem toInt?_zero (negative : Bool) (isMagnitude : IsMagnitude 0) :
    (finite negative 0 isMagnitude).toInt? = some 0 := by
  cases negative <;> simp [toInt?, signedUnits]

/-- Signed magnitudes are equal if sign and magnitude are, or if both are zero. -/
theorem signedUnits_eq_iff {negative other : Bool} {units others : Nat} :
    signedUnits negative units = signedUnits other others ↔
      units = others ∧ (negative = other ∨ units = 0) := by
  cases negative <;> cases other <;> simp [signedUnits] <;> omega

/-- Numerically equal numbers are the same number, or both are zeros. -/
theorem eq_or_zeros_of_numericallyEqual {x y : Binary64} (equal : x.numericallyEqual y = true) :
    x = y ∨ ∃ negative other, x = zero negative ∧ y = zero other := by
  unfold numericallyEqual compareBy at equal
  split at equal
  next left right leftRank rightRank =>
      obtain rfl := eq_of_beq equal
      have ranks : x.rank = y.rank := leftRank.trans rightRank.symm
      cases x with
      | nan => cases leftRank
      | infinity negative =>
          cases y with
          | nan => cases rightRank
          | infinity other =>
              have same := signedUnits_eq_iff.mp (Option.some.inj ranks)
              exact .inl (congrArg _ (same.2.resolve_right isMagnitude_zero.1.ne'))
          | finite other units isMagnitude =>
              have same := signedUnits_eq_iff.mp (Option.some.inj ranks)
              exact absurd same.1 isMagnitude.1.ne'
      | finite negative units isMagnitude =>
          cases y with
          | nan => cases rightRank
          | infinity other =>
              have same := signedUnits_eq_iff.mp (Option.some.inj ranks)
              exact absurd same.1 isMagnitude.1.ne
          | finite other others isMagnitude' =>
              obtain ⟨rfl, rfl | rfl⟩ := signedUnits_eq_iff.mp (Option.some.inj ranks)
              · exact .inl rfl
              · exact .inr ⟨negative, other, rfl, rfl⟩
  next => cases equal

/-- Numerically equal numbers are the same integer, if they are one. -/
theorem toInt?_eq_of_numericallyEqual {x y : Binary64} (equal : x.numericallyEqual y = true) :
    x.toInt? = y.toInt? := by
  rcases eq_or_zeros_of_numericallyEqual equal with rfl | ⟨negative, other, rfl, rfl⟩
  · rfl
  · simp only [zero, toInt?_zero]

/-- Numerically equal numbers stand for the same decimal. -/
theorem toDecimal?_eq_of_numericallyEqual {x y : Binary64} (equal : x.numericallyEqual y = true) :
    x.toDecimal? = y.toDecimal? := by
  rcases eq_or_zeros_of_numericallyEqual equal with rfl | ⟨negative, other, rfl, rfl⟩
  · rfl
  · simp only [zero, toDecimal?, toInt?_zero]

end Binary64

namespace HostValue

theorem same_self (value : HostValue) : value.same value = true := by
  cases value <;> simp [same]

/-- Values that are the same are one value or numerically equal numbers. -/
theorem same_cases {value other : HostValue} (same : value.same other = true) :
    value = other ∨ ∃ x y, value = .number x ∧ other = .number y ∧ x.numericallyEqual y = true := by
  unfold HostValue.same at same
  split at same
  next x y =>
      rcases Bool.or_eq_true_iff.mp same with equal | equal
      · exact .inl (congrArg _ (of_decide_eq_true equal))
      · exact .inr ⟨x, y, rfl, rfl, equal⟩
  next => exact .inl (of_decide_eq_true same)

/-- Keys that a table does not tell apart have the same text. -/
theorem keyText?_eq_of_same {key other : HostValue} (same : key.same other = true) :
    key.keyText? = other.keyText? := by
  rcases same_cases same with rfl | ⟨x, y, rfl, rfl, equal⟩
  · rfl
  · rw [keyText?, keyText?, Binary64.toDecimal?_eq_of_numericallyEqual equal]

end HostValue

/-- A table whose keys have different texts has the value of each entry at its key. -/
theorem HostTable.get_of_mem {table : HostTable}
    (distinct : (table.entries.map fun entry => entry.1.keyText?).Nodup)
    {entry : HostValue × HostValue} (member : entry ∈ table.entries) :
    table.get entry.1 = entry.2 := by
  unfold get
  split
  next found isFound =>
      have same := List.find?_some isFound
      have text := HostValue.keyText?_eq_of_same same
      rw [List.inj_on_of_nodup_map distinct (List.mem_of_find?_eq_some isFound) member text]
  next none =>
      have different := List.find?_eq_none.mp none entry member
      exact absurd (HostValue.same_self entry.1) different

namespace Host

/-! ### Reading by key text -/

variable {host : Host} {ref : TableRef}

/-- The readings of the entries of a table under the texts of their keys. -/
def textReadings (host : Host) (ref : TableRef) : List (String × Reading) :=
  (host.tableAt ref).items.map fun item => (item.1.keyText?.getD "", host.reading item.2)

variable (plain : ∀ entry ∈ (host.tableAt ref).entries, entry.1.keyText?.isSome)
include plain

theorem exists_text {item : HostValue × HostValue} (member : item ∈ (host.tableAt ref).items) :
    ∃ text, item.1.keyText? = some text :=
  Option.isSome_iff_exists.mp (plain item ((sortBy_perm _ (host.tableAt ref).entries).mem_iff.mp member))

/-- Each entry is read under the text of its key. -/
theorem textReadings_pairs :
    List.Forall₂ (fun item other => item.1.keyText? = some other.1 ∧ other.2 = host.reading item.2)
      (host.tableAt ref).items (host.textReadings ref) := by
  rw [textReadings, List.forall₂_map_right_iff, List.forall₂_same]
  intro item member
  obtain ⟨text, isText⟩ := exists_text plain member
  simp [isText]

theorem texts_textReadings :
    ((host.textReadings ref).map Prod.fst).map some = (host.tableAt ref).keys.map HostValue.keyText? := by
  rw [HostTable.keys, List.map_map, List.map_map, ← List.forall₂_eq_eq_eq, List.forall₂_map_left_iff,
    List.forall₂_map_right_iff]
  exact (textReadings_pairs plain).flip.imp fun _ _ pair => pair.1.symm

theorem nodup_textReadings :
    ((host.textReadings ref).map Prod.fst).Nodup ↔ ((host.tableAt ref).keys.map HostValue.keyText?).Nodup := by
  rw [← texts_textReadings plain, List.nodup_map_iff fun _ _ same => Option.some.inj same]

/-- A table is read by key text if its keys have different texts. -/
theorem byText_known_iff {named : List (String × Reading)} :
    Reading.byText ((host.tableAt ref).items.map host.known) = .ok named ↔
      ((host.tableAt ref).keys.map HostValue.keyText?).Nodup ∧ named = host.textReadings ref := by
  rw [← nodup_textReadings plain]
  constructor
  · intro read
    obtain ⟨nodup, pairs⟩ := Reading.byText_eq_ok read
    have same : named = host.textReadings ref := by
      rw [← List.forall₂_eq_eq_eq, textReadings, List.forall₂_map_right_iff]
      refine (Outcome.forall₂_of_mem (List.forall₂_map_left_iff.mp pairs) ?_).flip
      intro item member other pair
      obtain ⟨text, isText⟩ := exists_text plain member
      have known := (known_text isText).symm.trans pair.1
      exact Prod.ext ((Except.ok.inj known).symm.trans (by rw [isText]; rfl)) pair.2
    exact ⟨same ▸ nodup, same⟩
  · rintro ⟨nodup, rfl⟩
    refine Reading.byText_of_forall₂ ?_ nodup
    rw [List.forall₂_map_left_iff]
    exact (textReadings_pairs plain).imp fun item other pair => ⟨known_text pair.1, pair.2⟩

section Lookup

variable {name : String}

/-- Under the text of a key the entry of the key is found. -/
theorem lookup_textReadings (distinct : ((host.tableAt ref).keys.map HostValue.keyText?).Nodup)
    {item : HostValue × HostValue} (member : item ∈ (host.tableAt ref).items)
    (isText : item.1.keyText? = some name) :
    (host.textReadings ref).lookup name = some (host.reading item.2) := by
  apply lookup_of_mem ((nodup_textReadings plain).mpr distinct)
  exact List.mem_map.mpr ⟨item, member, by rw [isText]; rfl⟩

theorem lookup_textReadings_absent
    (absent : ∀ item ∈ (host.tableAt ref).items, item.1.keyText? ≠ some name) :
    (host.textReadings ref).lookup name = none := by
  apply lookup_eq_none_of_not_mem
  intro member
  obtain ⟨other, inNamed, rfl⟩ := List.mem_map.mp member
  obtain ⟨item, inItems, isText, -⟩ := Outcome.exists_of_forall₂ (textReadings_pairs plain) inNamed
  exact absent item inItems isText

/-- What is found under a name converts as the entry with that text does, and where no key has the text it
    is nil. -/
theorem convert_textReadings_iff (distinct : ((host.tableAt ref).keys.map HostValue.keyText?).Nodup)
    {want : Ty} {result : Value} :
    (((host.textReadings ref).lookup name).getD Reading.nil).convert want = .ok result ↔
      (∃ item ∈ (host.tableAt ref).items, item.1.keyText? = some name ∧
        host.convert item.2 want = .ok result) ∨
      ((∀ item ∈ (host.tableAt ref).items, item.1.keyText? ≠ some name) ∧ result = .null want) := by
  by_cases present : ∃ item ∈ (host.tableAt ref).items, item.1.keyText? = some name
  · obtain ⟨item, member, isText⟩ := present
    rw [lookup_textReadings plain distinct member isText]
    constructor
    · exact fun converted => .inl ⟨item, member, isText, converted⟩
    · rintro (⟨other, otherMember, otherText, converted⟩ | ⟨absent, -⟩)
      · have same := (lookup_textReadings plain distinct member isText).symm.trans
          (lookup_textReadings plain distinct otherMember otherText)
        exact same ▸ converted
      · exact absurd isText (absent item member)
  · have absent : ∀ item ∈ (host.tableAt ref).items, item.1.keyText? ≠ some name :=
      fun item member isText => present ⟨item, member, isText⟩
    rw [lookup_textReadings_absent plain absent]
    constructor
    · exact fun converted => .inr ⟨absent, (Except.ok.inj converted).symm⟩
    · rintro (⟨item, member, isText, -⟩ | ⟨-, rfl⟩)
      · exact absurd isText (absent item member)
      · rfl

end Lookup

/-! ### Maps and objects -/

omit plain in
theorem convert_map (host : Host) (ref : TableRef) (element : Ty) :
    host.convert (.table ref) (.map element) =
      Reading.toMap element ((host.tableAt ref).items.map host.known) :=
  congrArg (fun reading : Reading => reading.convert (.map element)) (reading_table host ref)

omit plain in
theorem convert_object (host : Host) (ref : TableRef) (wants : List (String × Ty)) :
    host.convert (.table ref) (.object wants) =
      Reading.toObject wants ((host.tableAt ref).items.map host.known) :=
  congrArg (fun reading : Reading => reading.convert (.object wants)) (reading_table host ref)

/-- A map that a table converts to. -/
theorem convert_map_eq_ok {element : Ty} (static : element.hasDynamic = false) {result : Value}
    (converted : host.convert (.table ref) (.map element) = .ok result) :
    ∃ entries, result = .map element entries ∧ (entries.map Prod.fst).Nodup ∧
      List.Forall₂ (fun item entry => item.1.keyText? = some entry.1 ∧
        host.convert item.2 element = .ok entry.2) (host.tableAt ref).items entries := by
  rw [convert_map] at converted
  obtain ⟨named, items, common, byKey, each, built⟩ := Reading.toMap_eq_ok converted
  obtain ⟨distinct, rfl⟩ := (byText_known_iff plain).mp byKey
  obtain ⟨each, same⟩ := Reading.convertElements_eq_ok each
  rw [List.forall₂_map_left_iff] at each
  obtain rfl : common = element := same.resolve_right fun dynamic => by simp [static] at dynamic
  obtain ⟨ty, found, rfl⟩ := Value.mapOf_eq_ok built
  obtain ⟨rfl, -⟩ := Value.elementType_check_eq_ok.mp found
  have nodupKeys : ((((host.textReadings ref).map Prod.fst).zip items).map Prod.fst).Nodup := by
    rw [List.map_fst_zip (by simp [each.length_eq])]
    exact (nodup_textReadings plain).mpr distinct
  rw [entriesOf_of_nodup nodupKeys]
  refine ⟨_, rfl, nodupKeys, (Outcome.forall₂_zip_keys (textReadings_pairs plain) each).imp ?_⟩
  rintro item entry ⟨⟨_, _⟩, ⟨text, rfl⟩, same, value⟩
  exact ⟨same ▸ text, value⟩

/-- A table whose keys have different texts becomes a map if each of its values becomes an element. -/
theorem exists_convert_map
    (distinct : ((host.tableAt ref).entries.map fun entry => entry.1.keyText?).Nodup)
    {element : Ty} (static : element.hasDynamic = false)
    (each : ∀ entry ∈ (host.tableAt ref).entries, ∃ value,
      host.convert entry.2 element = .ok value ∧ value.type = element) :
    ∃ result, host.convert (.table ref) (.map element) = .ok result := by
  have perm := sortBy_perm (fun a b => HostTable.keyPrecedes a.1 b.1) (host.tableAt ref).entries
  have texts : ((host.tableAt ref).keys.map HostValue.keyText?).Nodup := by
    rw [HostTable.keys, List.map_map]
    exact (perm.map _).nodup_iff.mpr distinct
  rw [convert_map]
  refine Reading.exists_toMap static ((byText_known_iff plain).mpr ⟨texts, rfl⟩) ?_
  exact List.forall_mem_map.mpr fun item member => each item (perm.mem_iff.mp member)

/-- An object that a table converts to. Every key of the table is declared; a declared name that is the
    text of no key has a null. -/
theorem convert_object_eq_ok {wants : List (String × Ty)} {result : Value}
    (converted : host.convert (.table ref) (.object wants) = .ok result) :
    ∃ attributes, result = .object attributes ∧
      ((host.tableAt ref).items.map fun item => item.1.keyText?).Nodup ∧
      (∀ item ∈ (host.tableAt ref).items, ∃ text, item.1.keyText? = some text ∧
        (wants.lookup text).isSome) ∧
      List.Forall₂ (fun want attr => attr.1 = want.1 ∧
        ((∃ item ∈ (host.tableAt ref).items, item.1.keyText? = some want.1 ∧
            host.convert item.2 want.2 = .ok attr.2) ∨
          ((∀ item ∈ (host.tableAt ref).items, item.1.keyText? ≠ some want.1) ∧
            attr.2 = .null want.2))) wants attributes := by
  rw [convert_object] at converted
  obtain ⟨named, attributes, rfl, byKey, declared, each⟩ := Reading.toObject_eq_ok converted
  obtain ⟨distinct, rfl⟩ := (byText_known_iff plain).mp byKey
  have texts := textReadings_pairs plain
  refine ⟨attributes, rfl, ?_, ?_, ?_⟩
  · rwa [HostTable.keys, List.map_map] at distinct
  · intro item member
    obtain ⟨other, inNamed, text, -⟩ := Outcome.exists_of_forall₂ texts.flip member
    exact ⟨other.1, text, declared other inNamed⟩
  · exact each.imp fun want attr pair => ⟨pair.1, (convert_textReadings_iff plain distinct).mp pair.2⟩

end Host

end Crosswalk
