/-
Module: Crosswalk.Path
Purpose: Paths that locate a position inside a nested value, and how they are written in messages. An
  attribute whose name is an identifier is written with a dot, everything else between brackets.
Main exports: Step, Path, Step.render, Path.render
-/
import Crosswalk.Text.Quoted

namespace Crosswalk

/-- One step into a value. -/
inductive Step where
  /-- The attribute of an object. -/
  | attr (name : String)
  /-- The element at a position of a sequence. -/
  | position (index : Int)
  /-- The element of a map at a key. -/
  | key (name : String)
deriving DecidableEq, Repr

/-- A position inside a value: the steps to it from the outside. -/
abbrev Path := List Step

namespace Step

/-- A letter or underscore of ASCII. -/
def startsIdentifier (c : Char) : Bool :=
  c.isAlpha || c = '_'

/-- A letter, digit or underscore of ASCII. -/
def continuesIdentifier (c : Char) : Bool :=
  c.isAlphanum || c = '_'

/-- The end of a text, or a single line end before it. -/
def isEnd : List Char → Bool
  | [] => true
  | [c] => c = '\n'
  | _ => false

/-- An identifier; one line end may follow it. -/
def isIdentifier : List Char → Bool
  | [] => false
  | c :: rest => startsIdentifier c && isEnd (rest.dropWhile continuesIdentifier)

/-- A text between brackets. -/
def bracketed (inner : String) : String :=
  "[" ++ inner ++ "]"

/-- One step of a written path. -/
def render : Step → String
  | .attr name =>
    if isIdentifier name.toList then "." ++ name else bracketed (Text.quoteKey name)
  | .position index => bracketed (toString index)
  | .key name => bracketed (Text.quoteKey name)

end Step

namespace Path

/-- A written path: its steps one after the other. -/
def render (path : Path) : String :=
  String.join (path.map Step.render)

example : render [.attr "a", .position (-2), .key "x\"y"] = ".a[-2][\"x\\\"y\"]" := by
  decide +kernel

end Path

end Crosswalk
