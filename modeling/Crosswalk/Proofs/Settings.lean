/-
Module: Crosswalk.Proofs.Settings
Purpose: Which mappings of document data give settings, and which settings they give. Every key must be a
  setting and every value one that the setting takes; what the settings are written as is then what the mapping
  says, with the defaults where it says nothing. A refusal names what is wrong, unless a key is no text, or the
  value to be shown with it has an integer in it that is too long.
Main exports: Settings.Admissible, Settings.Form, Settings.given_eq_ok_iff, Settings.Unshowable, Settings.Ends,
  Settings.ofEntries_validates
-/
import Crosswalk.Settings.Basic
import Crosswalk.Proofs.Document.Reading
import Crosswalk.Proofs.Entries

namespace Crosswalk

/-! ### Choices -/

namespace Choices

variable {α : Type} [DecidableEq α] {choices : Choices α} {value : α}

theorem nameOf_cons (name : String) (first value : α) (choices : Choices α) :
    nameOf ((name, first) :: choices) value = if first = value then name else nameOf choices value := by
  by_cases same : first = value <;> simp [nameOf, same]

theorem nameOf_mem (listed : value ∈ choices.map Prod.snd) : nameOf choices value ∈ choices.map Prod.fst := by
  induction choices with
  | nil => cases listed
  | cons entry choices ih =>
      obtain ⟨name, first⟩ := entry
      rw [nameOf_cons]
      split
      next => simp
      next different =>
          rcases List.mem_cons.mp listed with rfl | listed
          · exact absurd rfl different
          · exact List.mem_cons_of_mem _ (ih listed)

/-- Among choices without repetition, a value is found under its name and under no other one. -/
theorem lookup_eq_some_iff (names : (choices.map Prod.fst).Nodup) (values : (choices.map Prod.snd).Nodup)
    (listed : value ∈ choices.map Prod.snd) {name : String} :
    choices.lookup name = some value ↔ name = nameOf choices value := by
  induction choices with
  | nil => cases listed
  | cons entry choices ih =>
      obtain ⟨first, chosen⟩ := entry
      obtain ⟨newName, names⟩ := List.nodup_cons.mp names
      obtain ⟨newValue, values⟩ := List.nodup_cons.mp values
      have later (different : chosen ≠ value) : value ∈ choices.map Prod.snd :=
        (List.mem_cons.mp listed).resolve_left different.symm
      rw [nameOf_cons, List.lookup_cons]
      by_cases sameName : name = first
      · have other (different : chosen ≠ value) : name ≠ nameOf choices value := fun same =>
          newName (sameName ▸ same ▸ nameOf_mem (later different))
        split_ifs with sameValue
        · simp [sameName, sameValue]
        · simpa [sameName, sameValue] using sameName ▸ other sameValue
      · have behind : (name == first) = false := by simpa using sameName
        have absent (sameValue : chosen = value) : choices.lookup name ≠ some value := by
          intro found
          have present : value ∈ choices.map Prod.snd := List.mem_map.mpr ⟨_, mem_of_lookup found, rfl⟩
          exact newValue (sameValue ▸ present)
        split_ifs with sameValue
        · simpa [behind, sameName] using absent sameValue
        · simpa [behind] using ih names values (later sameValue)

end Choices

namespace Settings

open Document

variable {α : Type} {entries : List (Document × Document)}

/-! ### Admissible mappings -/

/-- The values that each setting takes. -/
inductive Admissible : String → Document → Prop
  | codePoints : Admissible "string_length" (.string "codepoints")
  | bytes : Admissible "string_length" (.string "utf8")
  | nil : Admissible "null_index_result" (.string "nil")
  | wrapped : Admissible "null_index_result" (.string "wrapped")
  | stringOrdering (flag : Bool) : Admissible "string_ordering" (.boolean flag)

/-- All keys of a mapping are texts. -/
def KeysNamed (entries : List (Document × Document)) : Prop :=
  ∀ key ∈ entries.map Prod.fst, ∃ name, key = .string name

/-- All keys of a mapping are settings. -/
def KeysKnown (entries : List (Document × Document)) : Prop :=
  ∀ key ∈ entries.map Prod.fst, ∃ name ∈ keys, key = .string name

/-- All values in a mapping are taken by the settings that they are given for. -/
def ValuesAdmissible (entries : List (Document × Document)) : Prop :=
  ∀ name value, field? entries name = some value → Admissible name value

/-- What an error says about a mapping is so: it lists the keys that are no settings, or names a setting that
    does not take its value. If the setting has choices, the error lists them and shows the value. -/
inductive Reports (entries : List (Document × Document)) : SettingsError → Prop
  | unknownKeys {names : List String} (nonempty : names ≠ [])
      (unknown : ∀ name, name ∈ names ↔ .string name ∈ entries.map Prod.fst ∧ name ∉ keys) :
      Reports entries (.unknownKeys names)
  | notAChoice {key : String} {choices : List String} {given : Document} {shown : String}
      (found : field? entries key = some given) (refused : ¬Admissible key given)
      (listed : ∀ name, name ∈ choices ↔ Admissible key (.string name)) (isShown : given.shown? = some shown) :
      Reports entries (.notAChoice key choices shown)
  | notATruthValue {key : String} {given : Document} (found : field? entries key = some given)
      (refused : ¬Admissible key given) : Reports entries (.notATruthValue key)

/-- The value to be shown with a refusal cannot be shown: the first setting with choices that does not take its
    value has one that is too long. -/
inductive Unshowable (entries : List (Document × Document)) : Prop
  | stringLength {given : Document} (found : field? entries "string_length" = some given)
      (overlong : given.Overlong) : Unshowable entries
  | nullIndex {given : Document}
      (taken : ∀ before, field? entries "string_length" = some before → Admissible "string_length" before)
      (found : field? entries "null_index_result" = some given) (overlong : given.Overlong) : Unshowable entries

/-! ### Reading one setting -/

/-- How the values of a setting stand in documents: each as one datum, from which it is read. -/
structure Form (α : Type) where
  read : Document → Option α
  write : α → Document
  read_eq_some_iff {given : Document} {value : α} : read given = some value ↔ given = write value

theorem Form.write_injective (form : Form α) {first second : α} (same : form.write first = form.write second) :
    first = second := by
  have read := form.read_eq_some_iff.mpr same
  exact Option.some.inj ((form.read_eq_some_iff.mpr rfl).symm.trans read)

/-- The value of a setting: the default if nothing is given. -/
def given (form : Form α) (refusal : Document → SettingsError) (byDefault : α) :
    Option Document → Except SettingsError α
  | none => .ok byDefault
  | some datum =>
    match form.read datum with
    | some value => .ok value
    | none => .error (refusal datum)

variable {form : Form α} {refusal : Document → SettingsError} {byDefault : α} {field : Option Document}

/-- A setting has the value that is written as what is given, or as the default. -/
theorem given_eq_ok_iff {value : α} :
    given form refusal byDefault field = .ok value ↔ field.getD (form.write byDefault) = form.write value := by
  cases field with
  | none =>
      rw [given, Option.getD_none, Except.ok.injEq]
      exact ⟨congrArg form.write, form.write_injective⟩
  | some datum =>
      rw [given, Option.getD_some, ← form.read_eq_some_iff]
      cases form.read datum with
      | none => simp
      | some other => simp

theorem given_eq_error {error : SettingsError} (failed : given form refusal byDefault field = .error error) :
    ∃ datum, field = some datum ∧ (∀ value, datum ≠ form.write value) ∧ error = refusal datum := by
  cases field with
  | none => cases failed
  | some datum =>
      rw [given] at failed
      split at failed
      next => cases failed
      next unread =>
          refine ⟨datum, rfl, fun value same => ?_, (Except.error.inj failed).symm⟩
          cases unread.symm.trans (form.read_eq_some_iff.mpr same)

/-- The datum is the name of a choice. -/
def chosen (choices : Choices α) : Document → Option α
  | .string name => choices.lookup name
  | _ => none

/-- The form of a setting with choices: their names. -/
def choiceForm [DecidableEq α] (choices : Choices α) (names : (choices.map Prod.fst).Nodup)
    (values : (choices.map Prod.snd).Nodup) (complete : ∀ value, value ∈ choices.map Prod.snd) : Form α where
  read := chosen choices
  write value := .string (choices.nameOf value)
  read_eq_some_iff {given value} := by
    cases given with
    | string name =>
        rw [chosen, Choices.lookup_eq_some_iff names values (complete value), Document.string.injEq]
    | _ => simp [chosen]

/-- A setting with choices takes the names of the choices. -/
theorem exists_choiceForm_write_iff [DecidableEq α] {choices : Choices α} {names : (choices.map Prod.fst).Nodup}
    {values : (choices.map Prod.snd).Nodup} {complete : ∀ value, value ∈ choices.map Prod.snd} {name : String} :
    (∃ value, .string name = (choiceForm choices names values complete).write value) ↔
      name ∈ choices.map Prod.fst := by
  constructor
  · rintro ⟨value, same⟩
    rw [Document.string.inj same]
    exact Choices.nameOf_mem (complete value)
  · intro listed
    obtain ⟨entry, member, rfl⟩ := List.mem_map.mp listed
    have found := (Choices.lookup_eq_some_iff names values (complete entry.2)).mp (lookup_of_mem names member)
    exact ⟨entry.2, congrArg Document.string found⟩

/-- The refusal of a value for a setting with choices. -/
def notChosen (key : String) (choices : Choices α) (datum : Document) : SettingsError :=
  match datum.shown? with
  | some shown => .notAChoice key (choices.map Prod.fst) shown
  | none => .unshownValue

/-- The form of a setting that is a truth value. -/
def truthForm : Form Bool where
  read
    | .boolean flag => some flag
    | _ => none
  write := .boolean
  read_eq_some_iff {given value} := by cases given <;> simp

def stringLengthForm : Form StringLength :=
  choiceForm StringLength.choices (by decide) (by decide) fun value => by cases value <;> decide

def nullIndexForm : Form NullIndex :=
  choiceForm NullIndex.choices (by decide) (by decide) fun value => by cases value <;> decide

/-! ### Settings and their forms -/

theorem choice_eq_given [DecidableEq α] {choices : Choices α} {names : (choices.map Prod.fst).Nodup}
    {values : (choices.map Prod.snd).Nodup} {complete : ∀ value, value ∈ choices.map Prod.snd} (key : String)
    (byDefault : α) :
    choice entries key choices byDefault =
      given (choiceForm choices names values complete) (notChosen key choices) byDefault (field? entries key) := by
  unfold choice given
  cases field? entries key with
  | none => rfl
  | some datum =>
      dsimp only [choiceForm]
      change (match chosen choices datum with | some value => _ | none => _) = _
      cases chosen choices datum with
      | some value => rfl
      | none =>
          dsimp only [notChosen]
          cases datum.shown? <;> rfl

theorem truthValue_eq_given (key : String) (byDefault : Bool) :
    truthValue entries key byDefault =
      given truthForm (fun _ => .notATruthValue key) byDefault (field? entries key) := by
  unfold truthValue given
  cases field? entries key with
  | none => rfl
  | some datum => cases datum <;> rfl

/-- A setting takes the values that its form writes. -/
theorem admissible_iff {name : String} {datum : Document} :
    Admissible name datum ↔
      name = "string_length" ∧ (∃ value, datum = stringLengthForm.write value) ∨
      name = "null_index_result" ∧ (∃ value, datum = nullIndexForm.write value) ∨
      name = "string_ordering" ∧ ∃ value, datum = truthForm.write value := by
  constructor
  · intro admissible
    cases admissible with
    | codePoints => exact .inl ⟨rfl, .codePoints, rfl⟩
    | bytes => exact .inl ⟨rfl, .bytes, rfl⟩
    | nil => exact .inr (.inl ⟨rfl, .nil, rfl⟩)
    | wrapped => exact .inr (.inl ⟨rfl, .wrapped, rfl⟩)
    | stringOrdering flag => exact .inr (.inr ⟨rfl, flag, rfl⟩)
  · rintro (⟨rfl, _ | _, rfl⟩ | ⟨rfl, _ | _, rfl⟩ | ⟨rfl, flag, rfl⟩)
    · exact .codePoints
    · exact .bytes
    · exact .nil
    · exact .wrapped
    · exact .stringOrdering flag

theorem admissible_stringLength {datum : Document} :
    Admissible "string_length" datum ↔ ∃ value, datum = stringLengthForm.write value := by
  simp [admissible_iff]

theorem admissible_nullIndex {datum : Document} :
    Admissible "null_index_result" datum ↔ ∃ value, datum = nullIndexForm.write value := by
  simp [admissible_iff]

theorem admissible_stringOrdering {datum : Document} :
    Admissible "string_ordering" datum ↔ ∃ value, datum = truthForm.write value := by
  simp [admissible_iff]

/-! ### Unknown keys -/

theorem isSetting_iff {key : Document} : unknownKeys.isSetting key = true ↔ ∃ name ∈ keys, key = .string name := by
  cases key <;> simp [unknownKeys.isSetting]

/-- The names of keys, of which the first that is no text has none. -/
theorem mapM_name (list : List Document) :
    (∃ names, list = names.map .string ∧ list.mapM unknownKeys.name = .ok names) ∨
      (∃ key ∈ list, ∀ name, key ≠ .string name) ∧ list.mapM unknownKeys.name = .error .unnamedKey := by
  induction list with
  | nil => exact .inl ⟨[], rfl, rfl⟩
  | cons key list ih =>
      rw [List.mapM_cons]
      cases key with
      | string name =>
          rcases ih with ⟨names, rfl, named⟩ | ⟨⟨key, member, noText⟩, unnamed⟩
          · exact .inl ⟨name :: names, rfl, by rw [named]; rfl⟩
          · exact .inr ⟨⟨key, List.mem_cons_of_mem _ member, noText⟩, by rw [unnamed]; rfl⟩
      | _ => exact .inr ⟨⟨_, List.mem_cons_self, nofun⟩, rfl⟩

/-- The keys of a mapping are settings, or some are texts that are none, or some are no texts. -/
theorem unknownKeys_cases (entries : List (Document × Document)) :
    (KeysKnown entries ∧ unknownKeys entries = .ok []) ∨
    (∃ names, KeysNamed entries ∧ unknownKeys entries = .ok names ∧ Reports entries (.unknownKeys names)) ∨
    (¬KeysNamed entries ∧ unknownKeys entries = .error .unnamedKey) := by
  obtain ⟨unknown, filtered⟩ :
      ∃ unknown, (entries.map Prod.fst).filter (fun key => !unknownKeys.isSetting key) = unknown := ⟨_, rfl⟩
  have mem_unknown {key : Document} :
      key ∈ unknown ↔ key ∈ entries.map Prod.fst ∧ ¬∃ name ∈ keys, key = .string name := by
    rw [← filtered, List.mem_filter, ← isSetting_iff]
    simp
  rw [unknownKeys, filtered]
  rcases mapM_name unknown with ⟨names, texts, named⟩ | ⟨⟨key, member, noText⟩, unnamed⟩
  · have listed {name : String} : name ∈ names ↔ .string name ∈ entries.map Prod.fst ∧ name ∉ keys := by
      have inUnknown : name ∈ names ↔ Document.string name ∈ unknown := by simp [texts]
      rw [inUnknown, mem_unknown]
      simp
    rw [named]
    by_cases none : names = []
    · subst none
      refine .inl ⟨fun key member => ?_, rfl⟩
      by_contra other
      simpa [texts] using mem_unknown.mpr ⟨member, other⟩
    · refine .inr (.inl ⟨sortBy textPrecedes names, fun key member => ?_, rfl, .unknownKeys ?_ fun name => ?_⟩)
      · by_cases known : ∃ name ∈ keys, key = .string name
        · obtain ⟨name, -, isText⟩ := known
          exact ⟨name, isText⟩
        · obtain ⟨name, -, isText⟩ := List.mem_map.mp (texts ▸ mem_unknown.mpr ⟨member, known⟩)
          exact ⟨name, isText.symm⟩
      · exact fun empty => none (List.perm_nil.mp (empty ▸ (sortBy_perm textPrecedes names).symm))
      · rw [(sortBy_perm textPrecedes names).mem_iff, listed]
  · refine .inr (.inr ⟨fun named => ?_, by rw [unnamed]; rfl⟩)
    obtain ⟨name, isText⟩ := named key (mem_unknown.mp member).1
    exact noText name isText

theorem KeysKnown.named (known : KeysKnown entries) : KeysNamed entries := by
  intro key member
  obtain ⟨name, -, isText⟩ := known key member
  exact ⟨name, isText⟩

/-- Unknown keys that are reported are no settings. -/
theorem Reports.not_keysKnown {names : List String} (reports : Reports entries (.unknownKeys names)) :
    ¬KeysKnown entries := by
  cases reports with
  | unknownKeys nonempty unknown =>
      intro known
      obtain ⟨name, member⟩ := List.exists_mem_of_ne_nil names nonempty
      obtain ⟨inKeys, noSetting⟩ := (unknown name).mp member
      obtain ⟨_, setting, same⟩ := known _ inKeys
      cases same
      exact noSetting setting

/-! ### Reading all settings -/

/-- Settings that are read one by one from a mapping with no other keys. -/
theorem ofEntries_of_keysKnown (known : KeysKnown entries) :
    ofEntries entries = (do
      let stringLength ← given stringLengthForm (notChosen "string_length" StringLength.choices)
        .codePoints (field? entries "string_length")
      let nullIndex ← given nullIndexForm (notChosen "null_index_result" NullIndex.choices)
        .nil (field? entries "null_index_result")
      let stringOrdering ← given truthForm (fun _ => .notATruthValue "string_ordering") true
        (field? entries "string_ordering")
      .ok { stringLength, nullIndex, stringOrdering }) := by
  have none : unknownKeys entries = .ok [] := by
    rcases unknownKeys_cases entries with ⟨-, none⟩ | ⟨names, -, -, reports⟩ | ⟨unnamed, -⟩
    · exact none
    · exact absurd known reports.not_keysKnown
    · exact absurd known.named unnamed
  rw [ofEntries, none]
  have first (byDefault : StringLength) : choice entries "string_length" StringLength.choices byDefault =
      given stringLengthForm (notChosen "string_length" StringLength.choices) byDefault
        (field? entries "string_length") := choice_eq_given _ _
  have second (byDefault : NullIndex) : choice entries "null_index_result" NullIndex.choices byDefault =
      given nullIndexForm (notChosen "null_index_result" NullIndex.choices) byDefault
        (field? entries "null_index_result") := choice_eq_given _ _
  simp only [first, second, truthValue_eq_given]
  rfl

/-- Settings are written as what a mapping says, with the defaults where it says nothing. -/
def Agrees (entries : List (Document × Document)) (settings : Settings) : Prop :=
  ∀ name, settings.toEntries.lookup name = (field? entries name).or ((toEntries {}).lookup name)

/-- How reading a mapping ends. -/
inductive Ends (entries : List (Document × Document)) : Except SettingsError Settings → Prop
  | accepted {settings : Settings} (known : KeysKnown entries) (admissible : ValuesAdmissible entries)
      (agrees : Agrees entries settings) : Ends entries (.ok settings)
  | reported {error : SettingsError} (named : KeysNamed entries)
      (refused : ¬(KeysKnown entries ∧ ValuesAdmissible entries))
      (showable : ¬(KeysKnown entries ∧ Unshowable entries)) (reports : Reports entries error) :
      Ends entries (.error error)
  | unnamed (unnamed : ¬KeysNamed entries) : Ends entries (.error .unnamedKey)
  | unshown (known : KeysKnown entries) (unshowable : Unshowable entries) : Ends entries (.error .unshownValue)

section Known

variable (known : KeysKnown entries)
include known

theorem field?_of_not_setting {name : String} (unknown : name ∉ keys) : field? entries name = none := by
  apply field?_of_not_mem
  intro member
  obtain ⟨_, setting, same⟩ := known _ member
  cases same
  exact unknown setting

theorem agrees_iff {settings : Settings} :
    Agrees entries settings ↔
      (field? entries "string_length").getD (stringLengthForm.write .codePoints) =
        stringLengthForm.write settings.stringLength ∧
      (field? entries "null_index_result").getD (nullIndexForm.write .nil) =
        nullIndexForm.write settings.nullIndex ∧
      (field? entries "string_ordering").getD (truthForm.write true) =
        truthForm.write settings.stringOrdering := by
  have stringLength (settings : Settings) : settings.toEntries.lookup "string_length" =
      some (stringLengthForm.write settings.stringLength) := rfl
  have nullIndex (settings : Settings) : settings.toEntries.lookup "null_index_result" =
      some (nullIndexForm.write settings.nullIndex) := rfl
  have stringOrdering (settings : Settings) : settings.toEntries.lookup "string_ordering" =
      some (truthForm.write settings.stringOrdering) := rfl
  constructor
  · intro agrees
    have first := agrees "string_length"
    have second := agrees "null_index_result"
    have third := agrees "string_ordering"
    rw [stringLength, stringLength, Option.or_some, Option.some.injEq] at first
    rw [nullIndex, nullIndex, Option.or_some, Option.some.injEq] at second
    rw [stringOrdering, stringOrdering, Option.or_some, Option.some.injEq] at third
    exact ⟨first.symm, second.symm, third.symm⟩
  · rintro ⟨first, second, third⟩ name
    by_cases setting : name ∈ keys
    · simp only [keys, List.mem_cons, List.not_mem_nil, or_false] at setting
      rcases setting with rfl | rfl | rfl
      · rw [stringLength, stringLength, Option.or_some, ← first]
      · rw [nullIndex, nullIndex, Option.or_some, ← second]
      · rw [stringOrdering, stringOrdering, Option.or_some, ← third]
    · have unwritten (settings : Settings) : settings.toEntries.lookup name = none :=
        lookup_eq_none_of_not_mem setting
      rw [unwritten, unwritten, field?_of_not_setting known setting]
      rfl

/-- What agreeing settings are written as is admissible. -/
theorem admissible_of_agrees {settings : Settings} (agrees : Agrees entries settings) : ValuesAdmissible entries := by
  intro name value found
  have setting : name ∈ keys := by
    by_contra unknown
    cases found.symm.trans (field?_of_not_setting known unknown)
  obtain ⟨first, second, third⟩ := (agrees_iff known).mp agrees
  rw [admissible_iff]
  simp only [keys, List.mem_cons, List.not_mem_nil, or_false] at setting
  rcases setting with rfl | rfl | rfl
  · exact .inl ⟨rfl, _, by rw [← first, found]; rfl⟩
  · exact .inr (.inl ⟨rfl, _, by rw [← second, found]; rfl⟩)
  · exact .inr (.inr ⟨rfl, _, by rw [← third, found]; rfl⟩)

end Known

/-! ### Values that cannot be shown -/

/-- What a setting takes can be shown. -/
theorem Admissible.not_overlong {name : String} {datum : Document} (admissible : Admissible name datum) :
    ¬datum.Overlong := by
  intro overlong
  cases admissible <;> cases overlong with | part member => cases member

theorem Unshowable.not_valuesAdmissible (unshowable : Unshowable entries) : ¬ValuesAdmissible entries := by
  intro admissible
  cases unshowable with
  | stringLength found overlong => exact (admissible _ _ found).not_overlong overlong
  | nullIndex taken found overlong => exact (admissible _ _ found).not_overlong overlong

/-- If the first setting does not take its value, that value is the one to be shown. -/
theorem unshowable_iff_of_refused {datum : Document} (found : field? entries "string_length" = some datum)
    (refused : ¬Admissible "string_length" datum) : Unshowable entries ↔ datum.Overlong := by
  refine ⟨fun unshowable => ?_, .stringLength found⟩
  cases unshowable with
  | stringLength found' overlong =>
      obtain rfl := Option.some.inj (found.symm.trans found')
      exact overlong
  | nullIndex taken => exact absurd (taken datum found) refused

section Taken

variable (taken : ∀ before, field? entries "string_length" = some before → Admissible "string_length" before)
include taken

/-- If the first setting takes its value, that of the second one is to be shown. -/
theorem unshowable_iff_of_taken {datum : Document} (found : field? entries "null_index_result" = some datum) :
    Unshowable entries ↔ datum.Overlong := by
  refine ⟨fun unshowable => ?_, .nullIndex taken found⟩
  cases unshowable with
  | stringLength found' overlong => exact absurd overlong (taken _ found').not_overlong
  | nullIndex _ found' overlong =>
      obtain rfl := Option.some.inj (found.symm.trans found')
      exact overlong

/-- If both settings with choices take their values, none is to be shown. -/
theorem not_unshowable_of_taken
    (both : ∀ given, field? entries "null_index_result" = some given → Admissible "null_index_result" given) :
    ¬Unshowable entries := by
  intro unshowable
  cases unshowable with
  | stringLength found overlong => exact (taken _ found).not_overlong overlong
  | nullIndex _ found overlong => exact (both _ found).not_overlong overlong

end Taken

/-! ### How reading ends -/

section Refused

variable {key : String} {datum : Document} (known : KeysKnown entries)
  (found : field? entries key = some datum) (refused : ¬Admissible key datum)
include known found refused

/-- A value that a setting does not take keeps the mapping from being accepted. -/
theorem ends_of_refused {error : SettingsError} (showable : ¬Unshowable entries) (reports : Reports entries error) :
    Ends entries (.error error) :=
  .reported known.named (fun accepted => refused (accepted.2 key datum found)) (fun both => showable both.2) reports

/-- A value that is no choice is shown, if that can be done. -/
theorem ends_of_notChosen {choices : Choices α}
    (listed : ∀ name, name ∈ choices.map Prod.fst ↔ Admissible key (.string name))
    (toBeShown : Unshowable entries ↔ datum.Overlong) : Ends entries (.error (notChosen key choices datum)) := by
  unfold notChosen
  cases shown : datum.shown? with
  | some text =>
      have showable : ¬datum.Overlong := fun overlong => by
        cases shown.symm.trans (shown?_eq_none_iff.mpr overlong)
      exact ends_of_refused known found refused (mt toBeShown.mp showable) (.notAChoice found refused listed shown)
  | none => exact .unshown known (toBeShown.mpr (shown?_eq_none_iff.mp shown))

end Refused

/-- A mapping with known keys is accepted, or a setting does not take its value. -/
theorem ends_of_keysKnown (known : KeysKnown entries) : Ends entries (ofEntries entries) := by
  rw [ofEntries_of_keysKnown known]
  cases first : given stringLengthForm (notChosen "string_length" StringLength.choices) .codePoints
      (field? entries "string_length") with
  | error =>
      obtain ⟨datum, found, unwritten, rfl⟩ := given_eq_error first
      have refused := mt admissible_stringLength.mp (not_exists.mpr unwritten)
      exact ends_of_notChosen known found refused
        (fun name => exists_choiceForm_write_iff.symm.trans admissible_stringLength.symm)
        (unshowable_iff_of_refused found refused)
  | ok stringLength =>
  have taken (given : Document) (found : field? entries "string_length" = some given) :
      Admissible "string_length" given :=
    admissible_stringLength.mpr ⟨stringLength, by simpa [found] using given_eq_ok_iff.mp first⟩
  cases second : given nullIndexForm (notChosen "null_index_result" NullIndex.choices) .nil
      (field? entries "null_index_result") with
  | error =>
      obtain ⟨datum, found, unwritten, rfl⟩ := given_eq_error second
      have refused := mt admissible_nullIndex.mp (not_exists.mpr unwritten)
      exact ends_of_notChosen known found refused
        (fun name => exists_choiceForm_write_iff.symm.trans admissible_nullIndex.symm)
        (unshowable_iff_of_taken taken found)
  | ok nullIndex =>
  have both (given : Document) (found : field? entries "null_index_result" = some given) :
      Admissible "null_index_result" given :=
    admissible_nullIndex.mpr ⟨nullIndex, by simpa [found] using given_eq_ok_iff.mp second⟩
  cases third : given truthForm (fun _ => .notATruthValue "string_ordering") true
      (field? entries "string_ordering") with
  | error =>
      obtain ⟨datum, found, unwritten, rfl⟩ := given_eq_error third
      have refused := mt admissible_stringOrdering.mp (not_exists.mpr unwritten)
      exact ends_of_refused known found refused (not_unshowable_of_taken taken both)
        (.notATruthValue found refused)
  | ok stringOrdering =>
      have agrees : Agrees entries ⟨stringLength, nullIndex, stringOrdering⟩ :=
        (agrees_iff known).mpr ⟨given_eq_ok_iff.mp first, given_eq_ok_iff.mp second, given_eq_ok_iff.mp third⟩
      exact .accepted known (admissible_of_agrees known agrees) agrees

/-- Every mapping is accepted or refused, and a refusal says what is wrong unless a key is no text or a value to be
    shown is too long. -/
theorem ends_ofEntries (entries : List (Document × Document)) : Ends entries (ofEntries entries) := by
  rcases unknownKeys_cases entries with ⟨known, -⟩ | ⟨names, named, listed, reports⟩ | ⟨unnamed, failed⟩
  · exact ends_of_keysKnown known
  · have ending : ofEntries entries = .error (.unknownKeys names) := by
      cases reports with
      | unknownKeys nonempty =>
          obtain ⟨first, others, rfl⟩ := List.exists_cons_of_ne_nil nonempty
          rw [ofEntries, listed]
          rfl
    rw [ending]
    exact .reported named (fun accepted => reports.not_keysKnown accepted.1)
      (fun unshown => reports.not_keysKnown unshown.1) reports
  · rw [ofEntries, failed]
    exact .unnamed unnamed

/-- A mapping gives settings exactly if every key is a setting and every value one that the setting takes. They
    are the settings that are written as what the mapping says, and as the defaults where it says nothing. Every
    other mapping is refused with an error that says what is wrong with it, but for two cases in which the refusal
    itself fails: a key that is no text cannot be named, and the first value that is none of the choices of its
    setting cannot be shown if an integer in it is too long. -/
theorem ofEntries_validates (entries : List (Document × Document)) :
    ((∃ settings, ofEntries entries = .ok settings) ↔ KeysKnown entries ∧ ValuesAdmissible entries) ∧
    (∀ settings, ofEntries entries = .ok settings → ∀ name,
      settings.toEntries.lookup name = (field? entries name).or ((toEntries {}).lookup name)) ∧
    (∀ error, ofEntries entries = .error error →
      Reports entries error ∨ error = .unnamedKey ∨ error = .unshownValue) ∧
    (ofEntries entries = .error .unnamedKey ↔ ¬KeysNamed entries) ∧
    (ofEntries entries = .error .unshownValue ↔ KeysKnown entries ∧ Unshowable entries) := by
  have ends := ends_ofEntries entries
  generalize ofEntries entries = ending at ends ⊢
  cases ends with
  | @accepted settings known admissible agrees =>
      refine ⟨iff_of_true ⟨settings, rfl⟩ ⟨known, admissible⟩, ?_, nofun,
        iff_of_false nofun (not_not_intro known.named),
        iff_of_false nofun fun unshown => unshown.2.not_valuesAdmissible admissible⟩
      rintro _ ⟨⟩
      exact agrees
  | reported named refused showable reports =>
      refine ⟨iff_of_false nofun refused, nofun, ?_, iff_of_false ?_ (not_not_intro named), iff_of_false ?_ showable⟩
      · rintro _ ⟨⟩
        exact .inl reports
      · rintro ⟨⟩
        cases reports
      · rintro ⟨⟩
        cases reports
  | unnamed unnamed =>
      refine ⟨iff_of_false nofun fun accepted => unnamed accepted.1.named, nofun, ?_, iff_of_true rfl unnamed,
        iff_of_false nofun fun unshown => unnamed unshown.1.named⟩
      rintro _ ⟨⟩
      exact .inr (.inl rfl)
  | unshown known unshowable =>
      refine ⟨iff_of_false nofun fun accepted => unshowable.not_valuesAdmissible accepted.2, nofun, ?_,
        iff_of_false nofun (not_not_intro known.named), iff_of_true rfl ⟨known, unshowable⟩⟩
      rintro _ ⟨⟩
      exact .inr (.inr rfl)

/-- Not every refusal says what is wrong: that of an unknown key that is an integer fails itself. -/
theorem integerKey_unreported :
    ofEntries [(.integer 1, .integer 2)] = .error .unnamedKey ∧ ¬Reports [(.integer 1, .integer 2)] .unnamedKey :=
  ⟨rfl, nofun⟩

end Settings

end Crosswalk
