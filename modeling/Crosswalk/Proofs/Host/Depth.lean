/-
Module: Crosswalk.Proofs.Host.Depth
Purpose: How far a host value is seen matters only where its reading runs into the end. A tree that is cut off
  has endless tables there, so an outcome that is not endless did not touch them, and it is the same, success
  or failure, on every deeper tree.
Main exports: Reading.Extends, Reading.table_extends, Host.treeTo_extends, Host.treeTo_extends_of_le
-/
import Crosswalk.Proofs.Host.Conversion

namespace Crosswalk

open Outcome (Persists)

/-- Whatever a reading yields without running into its end, the other one yields as well. -/
structure Reading.Extends (reading other : Reading) : Prop where
  implied : Persists Eq reading.implied other.implied
  convert : ∀ want, Persists Eq (reading.convert want) (other.convert want)

/-- Whatever a reading comes to at one type without running into its end, the other one does as well. -/
def Reading.Matches (want : Ty) (reading other : Reading) : Prop :=
  Persists Eq (reading.convert want) (other.convert want)

theorem Reading.Matches.ofEq {want : Ty} {reading other : Reading}
    (same : other.convert want = reading.convert want) : Reading.Matches want reading other := by
  rw [Matches, same]
  exact .refl _

/-- An entry with the same position, whose text yields what that of the entry yields, and with a related
    reading. -/
structure Entry.Extends (Related : Reading → Reading → Prop) (entry other : Entry) : Prop where
  position : other.position = entry.position
  text : Persists Eq entry.text other.text
  reading : Related entry.reading other.reading

theorem Entry.Extends.mono {Related Weaker : Reading → Reading → Prop} {entry other : Entry}
    (extended : Entry.Extends Related entry other)
    (weaker : Related entry.reading other.reading → Weaker entry.reading other.reading) :
    Entry.Extends Weaker entry other :=
  ⟨extended.position, extended.text, weaker extended.reading⟩

theorem Entry.Extends.ofEq {Related : Reading → Reading → Prop} {entry other : Entry}
    (position : other.position = entry.position) (text : other.text = entry.text)
    (reading : Related entry.reading other.reading) : Entry.Extends Related entry other :=
  ⟨position, text ▸ .refl _, reading⟩

namespace Reading

theorem Extends.refl (reading : Reading) : reading.Extends reading where
  implied := .refl _
  convert _ := .refl _

theorem Extends.trans {first second third : Reading} (before : first.Extends second)
    (after : second.Extends third) : first.Extends third where
  implied := before.implied.trans after.implied
  convert want := (before.convert want).trans (after.convert want)

/-- A tree that ends at once yields only that the value is true. -/
theorem endless_extends (entries : List Entry) : endless.Extends (table entries) where
  implied := .endless _
  convert want := by
    cases want with
    | bool => exact .refl _
    | _ => exact .endless _

theorem keyText_persists {reading other : Reading} (strings : Matches .string reading other) :
    Persists Eq reading.keyText other.keyText := by
  unfold Matches at strings
  unfold keyText
  generalize reading.convert .string = first at strings ⊢
  generalize other.convert .string = second at strings ⊢
  cases strings with
  | endless => exact .endless _
  | ok same => exact same ▸ .refl _
  | error fault => exact .refl _

theorem atPosition_cons (entry : Entry) (rest : List Entry) (position : Nat) :
    atPosition (entry :: rest) position =
      if entry.position = some (position : Int) then entry.reading else atPosition rest position := by
  unfold atPosition
  rw [List.find?_cons]
  by_cases here : entry.position = some (position : Int) <;> simp [here]

/-! ### Labeled readings -/

/-- Related readings under one label. -/
def Labeled {κ : Type} (Related : Reading → Reading → Prop) (first second : κ × Reading) : Prop :=
  first.1 = second.1 ∧ Related first.2 second.2

section Entries

variable {Related : Reading → Reading → Prop} {entries others : List Entry}
  (extended : List.Forall₂ (Entry.Extends Related) entries others)
include extended

private theorem byText_go_persists {found earlier : List (String × Reading)}
    (before : List.Forall₂ (Labeled Related) found earlier) :
    Persists (List.Forall₂ (Labeled Related)) (byText.go found entries) (byText.go earlier others) := by
  induction extended generalizing found earlier with
  | nil => exact .ok before
  | @cons entry other _ _ first _ ih =>
      apply first.text.bind
      rintro text _ rfl
      have keys : found.map Prod.fst = earlier.map Prod.fst :=
        (Outcome.keys_eq_of_forall₂ (before.imp fun _ _ pair => pair.1.symm)).symm
      have seen : (found.any fun other => other.1 = text) =
          earlier.any fun other => other.1 = text := by
        have overKeys (named : List (String × Reading)) :
            (named.any fun other => other.1 = text) = (named.map Prod.fst).any (· = text) := by
          rw [List.any_map]
          rfl
        rw [overKeys, overKeys, keys]
      rw [seen]
      split
      · exact .error _
      · exact ih (List.rel_append before (.cons ⟨rfl, first.reading⟩ .nil))

theorem byText_persists : Persists (List.Forall₂ (Labeled Related)) (byText entries) (byText others) :=
  byText_go_persists extended .nil

/-- At every position there is the related reading, nil being related to itself. -/
theorem atPosition_related (absent : Related nil nil) (position : Nat) :
    Related (atPosition entries position) (atPosition others position) := by
  induction extended with
  | nil => exact absent
  | @cons entry other _ _ first _ ih =>
      rw [atPosition_cons, atPosition_cons, first.position]
      split
      · exact first.reading
      · exact ih

/-- The checks of keys ask for positions, which extended entries keep, and report one by its text. -/
theorem hasPosition_extended (position : Nat) : hasPosition others position = hasPosition entries position := by
  induction extended with
  | nil => rfl
  | cons first _ ih =>
      unfold hasPosition at ih ⊢
      rw [List.any_cons, List.any_cons, first.position, ih]

theorem firstGap?_extended (start bound : Nat) : firstGap? others start bound = firstGap? entries start bound := by
  induction bound generalizing start with
  | zero => rfl
  | succ bound ih => rw [firstGap?, firstGap?, hasPosition_extended extended, ih]

theorem checkSequenceKeys_persists :
    Persists Eq (checkSequenceKeys entries) (checkSequenceKeys others) := by
  unfold checkSequenceKeys
  refine Persists.forM extended fun entry other inner => ?_
  rw [inner.position, firstGap?_extended extended, ← extended.length_eq]
  split
  · exact inner.text.bind fun text _ same => same ▸ .refl _
  · exact .refl _

theorem checkTupleKeys_persists (count : Nat) :
    Persists Eq (checkTupleKeys count entries) (checkTupleKeys count others) := by
  unfold checkTupleKeys
  refine Persists.forM extended fun entry other inner => ?_
  rw [inner.position]
  split
  · exact inner.text.bind fun text _ same => same ▸ .refl _
  · exact .refl _

end Entries

section Located

variable {want : Ty} {located others : List (Step × Reading)}
  (labeled : List.Forall₂ (Labeled (Matches want)) located others)
include labeled

theorem convertAll_persists :
    Persists Eq (convertAll want located) (convertAll want others) := by
  apply Persists.mapM_eq labeled
  rintro ⟨step, reading⟩ ⟨_, other⟩ ⟨rfl, inner⟩
  exact inner.under

theorem convertAtType_persists (fixed : Ty) :
    Persists Eq (convertAtType want fixed located) (convertAtType want fixed others) := by
  induction labeled with
  | nil => exact .refl _
  | @cons before other _ _ pair _ ih =>
      obtain ⟨step, reading⟩ := before
      obtain ⟨_, deeper⟩ := other
      obtain ⟨rfl, inner⟩ := pair
      apply inner.under.bind
      rintro value _ rfl
      split
      · exact .refl _
      · apply ih.bind
        rintro rest _ rfl
        exact .refl _

theorem convertElements_persists :
    Persists Eq (convertElements want located) (convertElements want others) := by
  unfold convertElements
  split
  · exact (convertAll_persists labeled).map fun _ _ same => congrArg (·, want) same
  · cases labeled with
    | nil => exact .refl _
    | @cons before other _ _ pair labeled =>
        obtain ⟨step, reading⟩ := before
        obtain ⟨_, deeper⟩ := other
        obtain ⟨rfl, inner⟩ := pair
        apply inner.under.bind
        rintro first _ rfl
        apply (convertAtType_persists labeled first.type).bind
        rintro rest _ rfl
        exact .refl _

end Located

/-- Under every name there is the related reading, nil being related to itself. -/
theorem lookup_related {Related : Reading → Reading → Prop} {named earlier : List (String × Reading)}
    (labeled : List.Forall₂ (Labeled Related) named earlier) (absent : Related nil nil) (name : String) :
    Related ((named.lookup name).getD nil) ((earlier.lookup name).getD nil) := by
  induction labeled with
  | nil => exact absent
  | @cons before other _ _ pair _ ih =>
      obtain ⟨text, reading⟩ := before
      obtain ⟨_, deeper⟩ := other
      obtain ⟨rfl, inner⟩ := pair
      simp only [List.lookup_cons]
      cases name == text with
      | true => exact inner
      | false => exact ih

/-- The first of the names with a property stands in the same place. -/
theorem find?_labeled {Related : Reading → Reading → Prop} {named earlier : List (String × Reading)}
    (labeled : List.Forall₂ (Labeled Related) named earlier) (sought : String → Bool) :
    (named.find? fun entry => sought entry.1).map Prod.fst =
      (earlier.find? fun entry => sought entry.1).map Prod.fst := by
  induction labeled with
  | nil => rfl
  | @cons before other _ _ pair _ ih =>
      rw [List.find?_cons, List.find?_cons, pair.1]
      cases sought other.1 with
      | true => exact congrArg some pair.1
      | false => exact ih

/-! ### Tables -/

section Tables

variable {entries others : List Entry}

theorem toSequence_persists {want : Ty}
    (extended : List.Forall₂ (Entry.Extends (Matches want)) entries others) :
    Persists Eq (toSequence want entries) (toSequence want others) := by
  apply (checkSequenceKeys_persists extended).bind
  intro _ _ _
  rw [← extended.length_eq]
  apply convertElements_persists
  rw [List.forall₂_map_left_iff, List.forall₂_map_right_iff, List.forall₂_same]
  exact fun position _ => ⟨rfl, atPosition_related extended (.refl _) position⟩

theorem toTuple_persists {wants : List Ty}
    (extended : List.Forall₂ (Entry.Extends fun reading other => ∀ want ∈ wants, Matches want reading other)
      entries others) :
    Persists Eq (toTuple wants entries) (toTuple wants others) := by
  refine Persists.bind ?_ fun (items other : List Value) (same : items = other) => ?_
  · have places : List.Forall₂ (fun place other => place = other ∧ place.1 ∈ wants) wants.zipIdx
        wants.zipIdx :=
      List.forall₂_same.mpr fun place member => ⟨rfl, List.fst_mem_of_mem_zipIdx member⟩
    refine Persists.mapM_eq places ?_
    rintro ⟨want, position⟩ _ ⟨rfl, member⟩
    have inner := atPosition_related extended (fun _ _ => .refl _) position
    exact (inner want member).under
  · apply (checkTupleKeys_persists extended wants.length).bind
    intro _ _ _
    exact .ok (congrArg Value.tuple same)

theorem toMap_persists {want : Ty}
    (extended : List.Forall₂ (Entry.Extends (Matches want)) entries others) :
    Persists Eq (toMap want entries) (toMap want others) := by
  apply (byText_persists extended).bind
  intro named earlier labeled
  have keys : named.map Prod.fst = earlier.map Prod.fst :=
    (Outcome.keys_eq_of_forall₂ (labeled.imp fun _ _ pair => pair.1.symm)).symm
  refine (convertElements_persists ?_).bind ?_
  · rw [List.forall₂_map_left_iff, List.forall₂_map_right_iff]
    exact labeled.imp fun _ _ pair => ⟨congrArg Step.key pair.1, pair.2⟩
  · rintro ⟨values, element⟩ _ rfl
    rw [keys]
    exact .refl _

theorem toObject_persists {wants : List (String × Ty)}
    (extended : List.Forall₂ (Entry.Extends fun reading other => ∀ want ∈ wants, Matches want.2 reading other)
      entries others) :
    Persists Eq (toObject wants entries) (toObject wants others) := by
  apply (byText_persists extended).bind
  intro named earlier labeled
  refine Persists.bind ?_ fun (attributes other : List (String × Value))
    (same : attributes = other) => ?_
  · have declared : List.Forall₂ (fun want other => want = other ∧ want ∈ wants) wants wants :=
      List.forall₂_same.mpr fun want member => ⟨rfl, member⟩
    refine Persists.mapM_eq declared ?_
    rintro want _ ⟨rfl, member⟩
    have inner := lookup_related labeled (fun _ _ => .refl _) want.1
    exact (inner want member).under.map fun _ _ same => congrArg _ same
  · have first := find?_labeled labeled fun name => (wants.lookup name).isNone
    rw [same]
    cases found : named.find? fun entry => (wants.lookup entry.1).isNone with
    | none =>
        rw [found, Option.map_none, eq_comm, Option.map_eq_none_iff] at first
        rw [first]
        exact .refl _
    | some entry =>
        rw [found, Option.map_some, eq_comm, Option.map_eq_some_iff] at first
        obtain ⟨other, again, sameName⟩ := first
        simp only [again, sameName]
        exact .refl _

theorem impliedObject_persists
    (extended : List.Forall₂ (Entry.Extends fun reading other => Persists Eq reading.implied other.implied)
      entries others) :
    Persists Eq (impliedObject entries) (impliedObject others) := by
  apply (byText_persists extended).bind
  intro named earlier labeled
  refine Persists.bind (Persists.mapM_eq labeled ?_) fun _ _ same => ?_
  · rintro ⟨text, reading⟩ ⟨_, other⟩ ⟨rfl, inner⟩
    exact inner.under.map fun _ _ same => congrArg _ same
  · exact .ok (congrArg _ same)

section Extension

variable (extended : List.Forall₂ (Entry.Extends Extends) entries others)
include extended

theorem impliedObject_extended : Persists Eq (impliedObject entries) (impliedObject others) :=
  impliedObject_persists (extended.imp fun _ _ pair => pair.mono Extends.implied)

/-- Extended entries can be converted to every type. -/
theorem extended_matches (want : Ty) : List.Forall₂ (Entry.Extends (Matches want)) entries others :=
  extended.imp fun _ _ pair => pair.mono fun inner => inner.convert want

theorem toObject_extended (wants : List (String × Ty)) :
    Persists Eq (toObject wants entries) (toObject wants others) :=
  toObject_persists (extended.imp fun _ _ pair => pair.mono fun inner want _ => inner.convert want.2)

theorem toImplied_persists : Persists Eq (toImplied entries) (toImplied others) := by
  apply (impliedObject_extended extended).bind
  rintro ty _ rfl
  split
  · exact toObject_extended extended _
  · exact .refl _

/-- A table whose entries are extended is itself extended. -/
theorem table_extends : (table entries).Extends (table others) where
  implied := impliedObject_extended extended
  convert want := by
    cases want with
    | dynamic => exact toImplied_persists extended
    | bool => exact .refl _
    | number | string =>
        apply (toImplied_persists extended).bind
        rintro value _ rfl
        exact .refl _
    | list element | set element =>
        apply (toSequence_persists (extended_matches extended element)).bind
        rintro pair _ rfl
        exact .refl _
    | map element => exact toMap_persists (extended_matches extended element)
    | object wants => exact toObject_extended extended wants
    | tuple wants =>
        exact toTuple_persists (extended.imp fun _ _ pair => pair.mono fun inner want _ => inner.convert want)

end Extension

end Tables

end Reading

/-! ### Host values -/

theorem HostValue.leaf_or_table (value : HostValue) :
    (∀ ref, value ≠ .table ref) ∨ ∃ ref, value = .table ref := by
  rcases em (∃ ref, value = .table ref) with table | leaf
  · exact .inr table
  · exact .inl (not_exists.mp leaf)

namespace Host

/-- Only tables are cut off. -/
theorem treeTo_of_leaf (host : Host) {value : HostValue} (leaf : ∀ ref, value ≠ .table ref)
    (depth other : Nat) : host.treeTo depth value = host.treeTo other value := by
  cases value with
  | table ref => exact absurd rfl (leaf ref)
  | _ => simp only [treeTo]

theorem treeTo_kind_table (host : Host) (depth : Nat) (ref : TableRef) :
    (host.treeTo depth (.table ref)).kind = .table := by
  cases depth <;> rfl

theorem position?_treeTo_succ (host : Host) (depth : Nat) (value : HostValue) :
    (host.treeTo (depth + 1) value).position? = (host.treeTo depth value).position? := by
  rcases value.leaf_or_table with leaf | ⟨ref, rfl⟩
  · rw [treeTo_of_leaf host leaf (depth + 1) depth]
  · cases depth <;> rfl

/-- The text of a key, seen to a depth. -/
def keyTextTo (host : Host) (depth : Nat) (key : HostValue) : Outcome String :=
  (host.treeTo depth key).keyText (host.treeTo depth key).read

theorem keyTextTo_table (host : Host) (depth : Nat) (ref : TableRef) :
    host.keyTextTo depth (.table ref) = (host.treeTo depth (.table ref)).read.keyText := by
  cases depth <;> rfl

/-- The text of a key depends on the depth only through the string that the key converts to. -/
theorem keyTextTo_persists {host : Host} {depth deeper : Nat} {key : HostValue}
    (strings : Reading.Matches .string (host.treeTo depth key).read (host.treeTo deeper key).read) :
    Persists Eq (host.keyTextTo depth key) (host.keyTextTo deeper key) := by
  rcases key.leaf_or_table with leaf | ⟨ref, rfl⟩
  · rw [keyTextTo, keyTextTo, treeTo_of_leaf host leaf depth deeper]
    exact .refl _
  · rw [keyTextTo_table, keyTextTo_table]
    exact Reading.keyText_persists strings

/-- A tree that reaches one level deeper yields what the tree yields. -/
theorem treeTo_extends (host : Host) (depth : Nat) (value : HostValue) :
    (host.treeTo depth value).read.Extends (host.treeTo (depth + 1) value).read := by
  induction depth generalizing value with
  | zero =>
      rcases value.leaf_or_table with leaf | ⟨ref, rfl⟩
      · rw [treeTo_of_leaf host leaf (0 + 1) 0]
        exact .refl _
      · exact Reading.endless_extends _
  | succ depth ih =>
      rcases value.leaf_or_table with leaf | ⟨ref, rfl⟩
      · rw [treeTo_of_leaf host leaf (depth + 1 + 1) (depth + 1)]
        exact .refl _
      · apply Reading.table_extends
        rw [Tree.readEntries_eq_map, Tree.readEntries_eq_map, List.map_map, List.map_map,
          List.forall₂_map_left_iff, List.forall₂_map_right_iff, List.forall₂_same]
        intro entry _
        exact ⟨position?_treeTo_succ host depth entry.1, keyTextTo_persists ((ih entry.1).convert .string),
          ih entry.2⟩

/-- A tree that reaches deeper yields what the tree yields. -/
theorem treeTo_extends_of_le (host : Host) {depth deeper : Nat} (le : depth ≤ deeper) (value : HostValue) :
    (host.treeTo depth value).read.Extends (host.treeTo deeper value).read := by
  induction le with
  | refl => exact .refl _
  | step _ ih => exact ih.trans (treeTo_extends host _ value)

end Host

end Crosswalk
