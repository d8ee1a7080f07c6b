/-
Module: Crosswalk.Proofs.Document.Reading
Purpose: What the readers of documents yield. A mapping that is read has no key twice, so what it says under a
  name is the value of its only entry with that name. In JSON documents keys are texts, and every integer is
  short enough to be shown.
Main exports: Document.KeysDistinct, Document.field?_eq_some_iff, Document.Plain, Document.ofJson_plain,
  Document.ofYaml_keysDistinct
-/
import Crosswalk.Document.Json
import Crosswalk.Document.Yaml
import Crosswalk.Proofs.Decimal.Numeral
import Crosswalk.Proofs.Document.Shown
import Crosswalk.Proofs.Outcome
import Mathlib.Data.List.Induction

namespace Crosswalk

namespace Document

variable {entries : List (Document × Document)} {name : String}

/-! ### Fields of a mapping -/

theorem sameKey_string_iff {key : Document} : sameKey key (.string name) = true ↔ key = .string name := by
  cases key <;> simp [sameKey, keyInteger?]

theorem field?_cons (key value : Document) (rest : List (Document × Document)) :
    field? ((key, value) :: rest) name =
      if sameKey key (.string name) then some value else field? rest name := by
  cases same : sameKey key (.string name) <;> simp [field?, same]

theorem mem_of_field? {value : Document} (found : field? entries name = some value) :
    (.string name, value) ∈ entries := by
  induction entries with
  | nil => cases found
  | cons entry rest ih =>
      obtain ⟨key, first⟩ := entry
      rw [field?_cons] at found
      split at found
      next same =>
          rw [sameKey_string_iff.mp same, Option.some.inj found]
          exact List.mem_cons_self
      next => exact List.mem_cons_of_mem _ (ih found)

theorem field?_of_not_mem (absent : .string name ∉ entries.map Prod.fst) : field? entries name = none := by
  cases found : field? entries name with
  | none => rfl
  | some value => exact absurd (List.mem_map_of_mem (mem_of_field? found)) absent

/-! ### Different keys -/

/-- No key of a mapping is the same key as a later one. -/
def KeysDistinct (entries : List (Document × Document)) : Prop :=
  (entries.map Prod.fst).Pairwise fun earlier later => sameKey earlier later = false

/-- A mapping whose keys are different says of a name what its entry says. -/
theorem field?_eq_some_iff (distinct : KeysDistinct entries) {value : Document} :
    field? entries name = some value ↔ (.string name, value) ∈ entries := by
  refine ⟨mem_of_field?, fun member => ?_⟩
  induction entries with
  | nil => cases member
  | cons entry rest ih =>
      obtain ⟨key, first⟩ := entry
      obtain ⟨others, distinct⟩ := List.pairwise_cons.mp distinct
      rw [field?_cons]
      rcases List.mem_cons.mp member with same | later
      · obtain ⟨rfl, rfl⟩ := Prod.mk.inj same
        exact if_pos (sameKey_string_iff.mpr rfl)
      · rw [if_neg (Bool.not_eq_true _ ▸ others _ (List.mem_map_of_mem later))]
        exact ih distinct later

theorem keys_putKey (key value : Document) (entries : List (Document × Document)) :
    (putKey key value entries).map Prod.fst =
      if entries.any fun entry => sameKey entry.1 key then entries.map Prod.fst
      else entries.map Prod.fst ++ [key] := by
  induction entries with
  | nil => rfl
  | cons entry rest ih =>
      obtain ⟨first, old⟩ := entry
      rw [putKey]
      by_cases same : sameKey first key = true
      · simp [same]
      · rw [if_neg same, List.map_cons, ih]
        simp only [List.any_cons, same, Bool.false_or]
        split <;> rfl

/-- A mapping in which a key gets a value says no key twice, if it did not before. -/
theorem KeysDistinct.putKey (distinct : KeysDistinct entries) (key value : Document) :
    KeysDistinct (putKey key value entries) := by
  rw [KeysDistinct, keys_putKey]
  split
  next => exact distinct
  next absent =>
      refine List.pairwise_append.mpr ⟨distinct, List.pairwise_singleton _ _, fun earlier member last isLast => ?_⟩
      obtain ⟨entry, inEntries, rfl⟩ := List.mem_map.mp member
      obtain rfl := List.mem_singleton.mp isLast
      by_contra same
      exact absent (List.any_eq_true.mpr ⟨entry, inEntries, by simpa using same⟩)

/-- The values of a mapping in which a key gets a value are this one and values from before. -/
theorem mem_putKey {key value : Document} {entry : Document × Document} (member : entry ∈ putKey key value entries) :
    entry ∈ entries ∨ entry.2 = value := by
  induction entries with
  | nil =>
      obtain rfl := List.mem_singleton.mp member
      exact .inr rfl
  | cons first rest ih =>
      rw [putKey] at member
      split at member
      next =>
          rcases List.mem_cons.mp member with rfl | later
          · exact .inr rfl
          · exact .inl (List.mem_cons_of_mem _ later)
      next =>
          rcases List.mem_cons.mp member with rfl | later
          · exact .inl List.mem_cons_self
          · exact (ih later).imp_left (List.mem_cons_of_mem _)

/-! ### Data of JSON documents -/

/-- What JSON documents denote: keys are different texts, and no integer is too long to be shown. -/
inductive Plain : Document → Prop
  | null : Plain .null
  | boolean (flag : Bool) : Plain (.boolean flag)
  | integer {n : Int} (short : digitCount n.natAbs ≤ Text.mostDigits) : Plain (.integer n)
  | real (x : Binary64) : Plain (.real x)
  | string (text : String) : Plain (.string text)
  | sequence {items : List Document} (each : ∀ item ∈ items, Plain item) : Plain (.sequence items)
  | mapping {entries : List (Document × Document)} (named : ∀ key ∈ entries.map Prod.fst, ∃ name, key = .string name)
      (distinct : KeysDistinct entries) (each : ∀ entry ∈ entries, Plain entry.2) : Plain (.mapping entries)

theorem Plain.part {document part : Document} (plain : document.Plain) (member : part ∈ document.parts) :
    part.Plain := by
  cases plain with
  | sequence each => exact each part member
  | mapping named distinct each =>
      obtain ⟨entry, inEntries, rfl | rfl⟩ := mem_entryParts.mp member
      · obtain ⟨name, isText⟩ := named entry.1 (List.mem_map_of_mem inEntries)
        exact isText ▸ .string name
      · exact each entry inEntries
  | _ => cases member

/-- What a JSON document denotes can be shown. -/
theorem Plain.not_overlong {document : Document} (plain : document.Plain) : ¬document.Overlong := by
  intro overlong
  induction overlong with
  | integer long =>
      cases plain with
      | integer short => omega
  | part member _ ih => exact ih (plain.part member)

/-- A member of an object that is read puts a text to a datum. -/
theorem Plain.putKey (plain : Plain (.mapping entries)) (name : String) {value : Document} (isPlain : value.Plain) :
    Plain (.mapping (putKey (.string name) value entries)) := by
  cases plain with
  | mapping named distinct each =>
      refine .mapping (fun key member => ?_) (distinct.putKey _ _) fun entry member => ?_
      · rw [keys_putKey] at member
        split at member
        next => exact named key member
        next =>
            rcases List.mem_append.mp member with before | last
            · exact named key before
            · exact ⟨name, List.mem_singleton.mp last⟩
      · rcases mem_putKey member with before | isValue
        · exact each entry before
        · exact isValue ▸ isPlain

end Document

/-! ### Integers that are read -/

namespace Text

theorem digitValue?_lt {c : Char} : (digitValue? c).getD 0 < 10 := by
  cases found : digitValue? c with
  | none => exact Nat.zero_lt_succ 9
  | some value =>
      obtain ⟨origin, -, block⟩ := List.exists_of_findSome?_eq_some found
      split at block
      next inBlock =>
          simp only [Bool.and_eq_true, decide_eq_true_eq] at inBlock
          rw [Option.getD_some, ← Option.some.inj block]
          omega
      next => cases block

/-- Digits denote a number below the power of ten for their count. -/
theorem digitsValue_lt (digits : List Char) : digitsValue digits < tenPow digits.length := by
  rw [digitsValue, Decimal.digitsValueFrom_eq_foldl]
  induction digits using List.reverseRecOn with
  | nil => exact Nat.one_pos
  | append_singleton digits last ih =>
      have one := digitValue?_lt (c := last)
      rw [List.foldl_concat, List.length_append, List.length_singleton, tenPow_succ]
      omega

/-- Digits that are not too many denote a number that has not too many digits. -/
theorem digitCount_digitsValue_le {digits : List Char} (short : digits.length ≤ mostDigits) :
    digitCount (digitsValue digits) ≤ mostDigits := by
  obtain ⟨k, most⟩ : ∃ k, mostDigits = k + 1 := ⟨4299, rfl⟩
  rw [most] at short ⊢
  exact digitCount_le_of_lt ((digitsValue_lt digits).trans_le (Nat.pow_le_pow_right (by decide) short))

end Text

namespace Document

namespace Json

/-! ### The reader of JSON -/

/-- Whatever a reader reads has a property. -/
def Yields {α : Type} (reader : Reader α) (Holds : α → Prop) : Prop :=
  ∀ text result rest, reader text = .ok (result, rest) → Holds result

theorem number_yields (negative : Bool) : Yields (number negative) Plain := by
  intro text result rest read
  unfold number at read
  split at read
  next => cases read
  next whole behind _ =>
      dsimp only at read
      split at read
      next =>
          split at read
          next short =>
              cases read
              refine .integer ?_
              have magnitude : (if negative then -(Text.digitsValue whole : Int) else Text.digitsValue whole).natAbs =
                  Text.digitsValue whole := by split <;> simp
              rw [magnitude]
              exact Text.digitCount_digitsValue_le short
          next => cases read
      next =>
          split at read
          next =>
              cases read
              exact .real _
          next => cases read

theorem atom_yields : Yields atom Plain := by
  intro text result rest read
  unfold atom at read
  split at read
  next => cases read; exact .null
  next => cases read; exact .boolean true
  next => cases read; exact .boolean false
  next =>
      split at read
      next => cases read; exact .real _
      next => cases read; exact .real _
      next => cases read; exact .real _
      next =>
          split at read
          next => exact number_yields true _ _ _ read
          next => exact number_yields false _ _ _ read

/-- What is read with some fuel is plain: a value, and the elements and the members of which plain ones have
    been read already. -/
structure ReadsPlain (fuel : Nat) : Prop where
  value : Yields (value fuel) Plain
  elements {read : List Document} (before : ∀ item ∈ read, item.Plain) :
    Yields (elements fuel read) fun items => ∀ item ∈ items, item.Plain
  members {read : List (Document × Document)} (before : Plain (.mapping read)) :
    Yields (members fuel read) fun entries => Plain (.mapping entries)

theorem plain_nil : Plain (.mapping []) :=
  .mapping (List.forall_mem_nil _) .nil (List.forall_mem_nil _)

section Step

variable {fuel : Nat} (below : ReadsPlain fuel)
include below

theorem value_yields : Yields (value (fuel + 1)) Plain := by
  intro text result rest read
  unfold Json.value at read
  split at read
  next =>
      obtain ⟨⟨string, behind⟩, -, same⟩ := Outcome.map_eq_ok.mp read
      cases same
      exact .string string
  next =>
      split at read
      next =>
          cases read
          exact .sequence (List.forall_mem_nil _)
      next =>
          obtain ⟨⟨items, behind⟩, inside, same⟩ := Outcome.map_eq_ok.mp read
          cases same
          exact .sequence (below.elements (List.forall_mem_nil _) _ _ _ inside)
  next =>
      split at read
      next =>
          cases read
          exact plain_nil
      next =>
          obtain ⟨⟨entries, behind⟩, inside, same⟩ := Outcome.map_eq_ok.mp read
          cases same
          exact below.members plain_nil _ _ _ inside
  next => exact atom_yields _ _ _ read

theorem elements_yields {read : List Document} (before : ∀ item ∈ read, item.Plain) :
    Yields (elements (fuel + 1) read) fun items => ∀ item ∈ items, item.Plain := by
  intro text result rest ends
  unfold Json.elements at ends
  obtain ⟨⟨item, behind⟩, first, ends⟩ := Outcome.bind_eq_ok.mp ends
  have both : ∀ other ∈ item :: read, other.Plain := List.forall_mem_cons.mpr ⟨below.value _ _ _ first, before⟩
  dsimp only at ends
  split at ends
  next => exact below.elements both _ _ _ ends
  next =>
      cases ends
      exact fun other member => both other (List.mem_reverse.mp member)
  next => cases ends

theorem members_yields {read : List (Document × Document)} (before : Plain (.mapping read)) :
    Yields (members (fuel + 1) read) fun entries => Plain (.mapping entries) := by
  intro text result rest ends
  unfold Json.members at ends
  obtain ⟨⟨key, behind⟩, -, ends⟩ := Outcome.bind_eq_ok.mp ends
  dsimp only at ends
  split at ends
  next =>
      obtain ⟨⟨item, behind⟩, first, ends⟩ := Outcome.bind_eq_ok.mp ends
      have both := before.putKey key (below.value _ _ _ first)
      dsimp only at ends
      split at ends
      next => exact below.members both _ _ _ ends
      next =>
          cases ends
          exact both
      next => cases ends
  next => cases ends

end Step

/-- Whatever the fuel, what is read is plain. -/
theorem readsPlain (fuel : Nat) : ReadsPlain fuel := by
  induction fuel with
  | zero => exact ⟨fun _ _ _ => nofun, fun _ _ _ _ => nofun, fun _ _ _ _ => nofun⟩
  | succ fuel below => exact ⟨value_yields below, elements_yields below, members_yields below⟩

end Json

/-- JSON documents denote plain data. -/
theorem ofJson_plain {text : String} {document : Document} (read : ofJson text = .ok document) : document.Plain := by
  obtain ⟨⟨found, rest⟩, inside, ends⟩ := Outcome.bind_eq_ok.mp read
  dsimp only at ends
  split at ends
  next =>
      cases ends
      exact (Json.readsPlain _).value _ _ _ inside
  next => cases ends

/-! ### Mappings of YAML documents -/

namespace Yaml

/-- Entries of which the last one counts for each key have no key twice. -/
theorem Node.withoutRepeatedKeys_distinct (entries : List (Document × Document)) :
    KeysDistinct (withoutRepeatedKeys entries) := by
  have run (read : List (Document × Document)) (distinct : KeysDistinct read) :
      KeysDistinct (entries.foldl (fun read entry => putKey entry.1 entry.2 read) read) := by
    induction entries generalizing read with
    | nil => exact distinct
    | cons entry rest ih => exact ih _ (distinct.putKey _ _)
  exact run [] .nil

/-- No scalar denotes a mapping. -/
theorem scalarOf_ne_mapping {tag : Tag} {text : String} : scalarOf tag text ≠ .ok (.mapping entries) := by
  intro found
  cases tag with
  | boolean | integer | real =>
      obtain ⟨_, -, same⟩ := Outcome.map_eq_ok.mp found
      cases same
  | timestamp =>
      simp only [scalarOf] at found
      split at found
      next timestamp _ =>
          cases timestamp with
          | date | time =>
              simp only [Timestamp.toDocument] at found
              split at found <;> cases found
      next => cases found
  | binary =>
      simp only [scalarOf] at found
      split at found
      next => split at found <;> cases found
      next => cases found
  | _ => cases found

theorem scalarReading_ne_mapping {node : Node} {depth : Nat} :
    node.scalarReading depth ≠ .ok (.mapping entries) := by
  intro found
  unfold Node.scalarReading at found
  split at found
  next => exact scalarOf_ne_mapping (Outcome.mapError_eq_ok.mp found)
  next => cases found

theorem reading_keysDistinct {node : Node} {depth : Nat} (found : node.reading depth = .ok (.mapping entries)) :
    KeysDistinct entries := by
  cases node with
  | scalar tag text =>
      unfold Node.reading at found
      split at found
      next => cases found
      next => exact absurd found scalarReading_ne_mapping
  | sequence tag items =>
      unfold Node.reading at found
      split at found
      next =>
          obtain ⟨_, -, same⟩ := Outcome.map_eq_ok.mp found
          cases same
      next =>
          obtain ⟨_, -, same⟩ := Outcome.map_eq_ok.mp found
          cases same
      next => cases found
      next => cases found
      next => exact absurd found scalarReading_ne_mapping
  | mapping tag pairs =>
      unfold Node.reading at found
      split at found
      next =>
          obtain ⟨read, -, same⟩ := Outcome.map_eq_ok.mp found
          cases same
          exact Node.withoutRepeatedKeys_distinct read
      next =>
          obtain ⟨_, -, same⟩ := Outcome.map_eq_ok.mp found
          cases same
      next => cases found
      next => cases found
      next => exact absurd found scalarReading_ne_mapping

end Yaml

/-- A mapping that a YAML document denotes has no key twice. -/
theorem ofYaml_keysDistinct {text : String} (read : ofYaml text = .ok (.mapping entries)) : KeysDistinct entries := by
  unfold ofYaml at read
  split at read
  next => cases read
  next =>
      obtain ⟨node, -, read⟩ := Outcome.bind_eq_ok.mp read
      split at read
      next => exact Yaml.reading_keysDistinct (Outcome.mapError_eq_ok.mp read)
      next => cases read

end Document

end Crosswalk
