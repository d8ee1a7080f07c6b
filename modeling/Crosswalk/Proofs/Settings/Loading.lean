/-
Module: Crosswalk.Proofs.Settings.Loading
Purpose: Which files give settings. The text must be a document that is a mapping, and every entry of the mapping
  must give a setting a value that it takes; the settings are then written as these entries, and as the defaults
  for what has no entry. The refusal of a JSON document says what is wrong with it, as its keys are texts and its
  integers can be shown.
Main exports: Settings.readDocument_keysDistinct, Settings.load_eq_ok_iff, Settings.load_json_reports
-/
import Crosswalk.Proofs.Settings
import Crosswalk.Settings.Load

namespace Crosswalk.Settings

open Document

variable {file text : String} {entries : List (Document × Document)} {settings : Settings}

/-! ### Mappings without repeated keys -/

/-- A mapping that a file holds has no key twice. -/
theorem readDocument_keysDistinct (read : readDocument file text = .ok (.mapping entries)) : KeysDistinct entries := by
  unfold readDocument at read
  split at read
  next =>
      cases ofJson_plain (Outcome.mapError_eq_ok.mp read) with
      | mapping named distinct => exact distinct
  next =>
      split at read
      next document found =>
          split at read
          next =>
              cases read
              exact .nil
          next =>
              cases read
              exact ofYaml_keysDistinct found
      next => cases read

theorem Admissible.mem_keys {name : String} {datum : Document} (admissible : Admissible name datum) : name ∈ keys := by
  cases admissible <;> decide

/-- Settings are written under different names. -/
theorem lookup_toEntries_iff {name : String} {datum : Document} :
    settings.toEntries.lookup name = some datum ↔ (name, datum) ∈ settings.toEntries := by
  have names : (settings.toEntries.map Prod.fst).Nodup := (by decide : keys.Nodup)
  exact ⟨mem_of_lookup, lookup_of_mem names⟩

/-- A value that a JSON document holds can be shown. -/
theorem not_unshowable_of_plain (plain : Plain (.mapping entries)) : ¬Unshowable entries := by
  have shows {name : String} {given : Document} (found : field? entries name = some given) : ¬given.Overlong := by
    cases plain with
    | mapping named distinct each => exact (each _ (mem_of_field? found)).not_overlong
  intro unshowable
  cases unshowable with
  | stringLength found overlong => exact shows found overlong
  | nullIndex _ found overlong => exact shows found overlong

section Distinct

variable (distinct : KeysDistinct entries)
include distinct

/-- Keys and values are those of settings exactly if each entry gives a setting a value that it takes. -/
theorem forall_admissible_iff :
    (KeysKnown entries ∧ ValuesAdmissible entries) ↔
      ∀ entry ∈ entries, ∃ name, entry.1 = .string name ∧ Admissible name entry.2 := by
  constructor
  · rintro ⟨known, admissible⟩ ⟨key, value⟩ member
    obtain ⟨name, -, rfl⟩ := known key (List.mem_map_of_mem member)
    exact ⟨name, rfl, admissible name value ((field?_eq_some_iff distinct).mpr member)⟩
  · intro each
    constructor
    · intro key member
      obtain ⟨entry, inEntries, rfl⟩ := List.mem_map.mp member
      obtain ⟨name, isText, admissible⟩ := each entry inEntries
      exact ⟨name, admissible.mem_keys, isText⟩
    · intro name value found
      obtain ⟨_, isText, admissible⟩ := each _ (mem_of_field? found)
      cases isText
      exact admissible

/-- What a mapping gives a setting, or the default, is what an entry gives it, or the default if there is none. -/
theorem field?_or_default_iff {name : String} {datum : Document} :
    (field? entries name).or ((toEntries {}).lookup name) = some datum ↔
      (.string name, datum) ∈ entries ∨ .string name ∉ entries.map Prod.fst ∧ (name, datum) ∈ toEntries {} := by
  rw [Option.or_eq_some_iff, field?_eq_some_iff distinct, lookup_toEntries_iff]
  refine or_congr_right (and_congr_left fun _ => ⟨fun unstated member => ?_, field?_of_not_mem⟩)
  obtain ⟨entry, inEntries, isText⟩ := List.mem_map.mp member
  have found : field? entries name = some entry.2 := (field?_eq_some_iff distinct).mpr (isText ▸ inEntries)
  cases unstated.symm.trans found

/-- Settings agree with a mapping exactly if they are written as its entries, and as the defaults for what has no
    entry. -/
theorem agrees_iff_mem :
    Agrees entries settings ↔ ∀ name datum, (name, datum) ∈ settings.toEntries ↔
      (.string name, datum) ∈ entries ∨ .string name ∉ entries.map Prod.fst ∧ (name, datum) ∈ toEntries {} := by
  refine forall_congr' fun name => ?_
  rw [Option.ext_iff]
  exact forall_congr' fun datum => by rw [lookup_toEntries_iff, field?_or_default_iff distinct]

end Distinct

/-! ### Loading -/

/-- Settings that agree with the same mapping are the same. -/
theorem Agrees.unique (known : KeysKnown entries) {other : Settings} (agrees : Agrees entries settings)
    (agrees' : Agrees entries other) : settings = other := by
  obtain ⟨first, second, third⟩ := (agrees_iff known).mp agrees
  obtain ⟨first', second', third'⟩ := (agrees_iff known).mp agrees'
  have sameLength := stringLengthForm.write_injective (first.symm.trans first')
  have sameIndex := nullIndexForm.write_injective (second.symm.trans second')
  have sameOrdering := truthForm.write_injective (third.symm.trans third')
  cases settings
  cases other
  rw [mk.injEq]
  exact ⟨sameLength, sameIndex, sameOrdering⟩

/-- The settings that a mapping gives are the only ones that agree with it. -/
theorem ofEntries_eq_ok_iff :
    ofEntries entries = .ok settings ↔ (KeysKnown entries ∧ ValuesAdmissible entries) ∧ Agrees entries settings := by
  have ends := ends_ofEntries entries
  generalize ofEntries entries = ending at ends ⊢
  cases ends with
  | accepted known admissible agrees =>
      rw [Except.ok.injEq]
      constructor
      · rintro rfl
        exact ⟨⟨known, admissible⟩, agrees⟩
      · exact fun accepted => agrees.unique known accepted.2
  | reported _ refused => exact iff_of_false nofun fun accepted => refused accepted.1
  | unnamed unnamed => exact iff_of_false nofun fun accepted => unnamed accepted.1.1.named
  | unshown _ unshowable => exact iff_of_false nofun fun accepted => unshowable.not_valuesAdmissible accepted.1.2

/-- A file gives settings exactly if its text is a document that is a mapping in which every entry gives a setting
    a value that it takes. The settings are written as these entries, and as the defaults for what has no
    entry. -/
theorem load_eq_ok_iff :
    load file (some text) = .ok settings ↔
      ∃ entries, readDocument file text = .ok (.mapping entries) ∧
        (∀ entry ∈ entries, ∃ name, entry.1 = .string name ∧ Admissible name entry.2) ∧
        ∀ name datum, (name, datum) ∈ settings.toEntries ↔
          (.string name, datum) ∈ entries ∨
            .string name ∉ entries.map Prod.fst ∧ (name, datum) ∈ toEntries {} := by
  have ofMapping {entries : List (Document × Document)} (read : readDocument file text = .ok (.mapping entries)) :
      ofEntries entries = .ok settings ↔
        (∀ entry ∈ entries, ∃ name, entry.1 = .string name ∧ Admissible name entry.2) ∧
        ∀ name datum, (name, datum) ∈ settings.toEntries ↔
          (.string name, datum) ∈ entries ∨
            .string name ∉ entries.map Prod.fst ∧ (name, datum) ∈ toEntries {} := by
    have distinct := readDocument_keysDistinct read
    rw [ofEntries_eq_ok_iff, forall_admissible_iff distinct, agrees_iff_mem distinct]
  constructor
  · intro loaded
    obtain ⟨document, read, given⟩ := Outcome.bind_eq_ok.mp loaded
    cases document with
    | mapping entries => exact ⟨entries, read, (ofMapping read).mp given⟩
    | _ => cases given
  · rintro ⟨entries, read, accepted⟩
    exact Outcome.bind_eq_ok.mpr ⟨_, read, (ofMapping read).mpr accepted⟩

/-- A JSON document is validated completely: unless its text is no document or the document is no mapping, a refusal
    says what is wrong with the mapping. -/
theorem load_json_reports (isJson : namesJson file = true) {error : SettingsError}
    (failed : load file (some text) = .error error) :
    (∃ defect, ofJson text = .error defect ∧ error = .invalidJson defect) ∨
    (∃ document, ofJson text = .ok document ∧ (∀ entries, document ≠ .mapping entries) ∧
      error = .notAMapping file) ∨
    ∃ entries, ofJson text = .ok (.mapping entries) ∧ Reports entries error := by
  have read : readDocument file text = (ofJson text).mapError .invalidJson := if_pos isJson
  simp only [load, read] at failed
  cases found : ofJson text with
  | error defect =>
      rw [found] at failed
      cases failed
      exact .inl ⟨defect, rfl, rfl⟩
  | ok document =>
      rw [found] at failed
      cases document with
      | mapping entries =>
          refine .inr (.inr ⟨entries, rfl, ?_⟩)
          have plain := ofJson_plain found
          have ends := ends_ofEntries entries
          rw [show ofEntries entries = .error error from failed] at ends
          cases ends with
          | reported _ _ _ reports => exact reports
          | unnamed unnamed =>
              cases plain with
              | mapping named => exact absurd named unnamed
          | unshown _ unshowable => exact absurd unshowable (not_unshowable_of_plain plain)
      | _ =>
          cases failed
          exact .inr (.inl ⟨_, rfl, nofun, rfl⟩)

end Crosswalk.Settings
