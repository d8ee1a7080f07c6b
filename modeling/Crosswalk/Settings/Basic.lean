/-
Module: Crosswalk.Settings.Basic
Purpose: The settings of a crosswalk between host and structural values, read from and written to document
  data. Every key must be a setting and every value one of its choices.
Main exports: StringLength, NullIndex, Settings, SettingsError, Settings.ofEntries, Settings.toEntries
-/
import Crosswalk.Document.Basic
import Crosswalk.Document.Defect
import Crosswalk.Sorting

namespace Crosswalk

/-- What the length of a wrapped string counts. -/
inductive StringLength where
  | codePoints
  | bytes
deriving DecidableEq, Repr

/-- What indexing gives for a null element. -/
inductive NullIndex where
  | nil
  | wrapped
deriving DecidableEq, Repr

/-- The settings. The defaults need no document. -/
structure Settings where
  stringLength : StringLength := .codePoints
  nullIndex : NullIndex := .nil
  /-- Strings are ordered by their text and not read as numbers. -/
  stringOrdering : Bool := true
deriving DecidableEq, Repr

/-- Why a document gives no settings. -/
inductive SettingsError where
  | unknownKeys (names : List String)
  /-- A key without a setting is no text, so it cannot be named. -/
  | unnamedKey
  /-- A value is none of the choices; it stands in the message as it is shown. -/
  | notAChoice (key : String) (choices : List String) (shown : String)
  /-- A value is none of the choices, and it cannot be shown. -/
  | unshownValue
  | notATruthValue (key : String)
  | notAMapping (file : String)
  | notFound (file : String)
  /-- The text of the file is not a JSON document, or denotes nothing. -/
  | invalidJson (defect : Defect)
  /-- The text of the file is not a YAML document, or denotes nothing. -/
  | invalidYaml (defect : Defect)

namespace SettingsError

/-- The wording of an error, where it has one. -/
def message? : SettingsError → Option String
  | .unknownKeys names => some ("unknown configuration keys: " ++ ", ".intercalate names)
  | .notAChoice key choices shown =>
    some (key ++ " must be one of: " ++ ", ".intercalate choices ++ " (got " ++ shown ++ ")")
  | .notATruthValue key => some (key ++ " must be true or false")
  | .notAMapping file => some (file ++ ": configuration must be a mapping")
  | .notFound file => some ("configuration not found: " ++ file)
  | .unnamedKey | .unshownValue | .invalidJson _ | .invalidYaml _ => none

end SettingsError

/-- The choices of a setting with their names. -/
abbrev Choices (α : Type) := List (String × α)

/-- What string lengths can count. -/
def StringLength.choices : Choices StringLength :=
  [("codepoints", .codePoints), ("utf8", .bytes)]

/-- What indexing a null element can give. -/
def NullIndex.choices : Choices NullIndex :=
  [("nil", .nil), ("wrapped", .wrapped)]

/-- The name of a choice. -/
def Choices.nameOf {α : Type} [BEq α] (choices : Choices α) (choice : α) : String :=
  ((choices.find? fun entry => entry.2 == choice).map Prod.fst).getD ""

namespace Settings

/-- The keys of the settings. -/
def keys : List String :=
  ["string_length", "null_index_result", "string_ordering"]

/-- The keys of a document that are no settings: they are named in text order if all of them are
    texts. -/
def unknownKeys (entries : List (Document × Document)) : Except SettingsError (List String) :=
  let unknown := (entries.map Prod.fst).filter fun key => !isSetting key
  (unknown.mapM name).map (sortBy textPrecedes)
where
  /-- A key that is a setting. -/
  isSetting : Document → Bool
    | .string name => keys.contains name
    | _ => false
  /-- The text of a key. -/
  name : Document → Except SettingsError String
    | .string name => .ok name
    | _ => .error .unnamedKey

/-- The value of a setting with choices; an absent key leaves the default. -/
def choice {α : Type} (entries : List (Document × Document)) (key : String) (choices : Choices α)
    (byDefault : α) : Except SettingsError α :=
  match Document.field? entries key with
  | none => .ok byDefault
  | some given =>
    let chosen : Option α := match given with
      | .string name => choices.lookup name
      | _ => none
    match chosen with
    | some value => .ok value
    | none =>
      match given.shown? with
      | some shown => .error (.notAChoice key (choices.map Prod.fst) shown)
      | none => .error .unshownValue

/-- The value of a setting that is a truth value. -/
def truthValue (entries : List (Document × Document)) (key : String) (byDefault : Bool) :
    Except SettingsError Bool :=
  match Document.field? entries key with
  | none => .ok byDefault
  | some (.boolean flag) => .ok flag
  | some _ => .error (.notATruthValue key)

/-- Reads settings from the entries of a mapping. -/
def ofEntries (entries : List (Document × Document)) : Except SettingsError Settings := do
  match ← unknownKeys entries with
  | [] =>
    let defaults : Settings := {}
    let stringLength ← choice entries "string_length" StringLength.choices defaults.stringLength
    let nullIndex ← choice entries "null_index_result" NullIndex.choices defaults.nullIndex
    let stringOrdering ← truthValue entries "string_ordering" defaults.stringOrdering
    .ok { stringLength, nullIndex, stringOrdering }
  | names => .error (.unknownKeys names)

/-- Writes settings as the entries of a mapping. -/
def toEntries (settings : Settings) : List (String × Document) :=
  [ ("string_length", .string (StringLength.choices.nameOf settings.stringLength)),
    ("null_index_result", .string (NullIndex.choices.nameOf settings.nullIndex)),
    ("string_ordering", .boolean settings.stringOrdering) ]

end Settings

end Crosswalk
