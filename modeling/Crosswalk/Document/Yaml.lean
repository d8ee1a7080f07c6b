/-
Module: Crosswalk.Document.Yaml
Purpose: Reading YAML 1.1 documents: the characters of a text become tokens, tokens become nodes, and nodes
  denote data. A text holds one document at most.
Main exports: Document.ofYaml
-/
import Crosswalk.Document.Yaml.Datum

namespace Crosswalk.Document

open Yaml

/-- Reads a text as a YAML document. A text without a document is null. -/
def ofYaml (text : String) : Except Defect Document := do
  if !text.toList.all isPermitted then .error .malformed
  match ← Node.ofTokens (Tokens.ofText (unifyLineEnds text.toList)) with
  | some node => node.toDocument
  | none => .ok .null

end Crosswalk.Document
