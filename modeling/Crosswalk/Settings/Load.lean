/-
Module: Crosswalk.Settings.Load
Purpose: Settings from the text of a file. The name of the file says whether the text is JSON or YAML.
Main exports: Settings.load
-/
import Crosswalk.Settings.Basic
import Crosswalk.Document.Json
import Crosswalk.Document.Yaml

namespace Crosswalk.Settings

/-- A file name that ends in `.json`, with something before it after the last directory. -/
def namesJson (file : String) : Bool :=
  let suffix := ".json".toList
  let name := (file.toList.reverse.takeWhile (· ≠ '/')).reverse
  suffix.isSuffixOf name && suffix.length < name.length

/-- Reads the document in a file. A YAML document that counts as nothing is an empty mapping. -/
def readDocument (file text : String) : Except SettingsError Document :=
  if namesJson file then
    (Document.ofJson text).mapError .invalidJson
  else
    match Document.ofYaml text with
    | .ok document => .ok (if document.isBlank then .mapping [] else document)
    | .error defect => .error (.invalidYaml defect)

/-- Loads the settings in a file with a name and, if it exists, a text. -/
def load (file : String) (text : Option String) : Except SettingsError Settings := do
  match text with
  | none => .error (.notFound file)
  | some text =>
    match ← readDocument file text with
    | .mapping entries => ofEntries entries
    | _ => .error (.notAMapping file)

end Crosswalk.Settings
