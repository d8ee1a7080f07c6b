/-
Module: Crosswalk.Text.Case
Purpose: Full case mapping of texts. A letter may map to several (the sharp s has the capital form SS),
  and the small form of a capital sigma depends on its neighbours: at the end of a word it is the
  final sigma.
Main exports: upper, lower
-/
import Crosswalk.Text.Case.Table

namespace Crosswalk.Text

namespace Case

/-- The single character that a table of runs gives for a code point. -/
def mapped? (runs : List (Nat × Nat × Nat × Int)) (code : Nat) : Option Char :=
  runs.findSome? fun (first, last, stride, difference) =>
    if first ≤ code && code ≤ last && (code - first) % stride == 0
    then some (Char.ofNat ((code : Int) + difference).toNat) else none

/-- The characters that a table of expansions gives for a code point. -/
def expansion? (expansions : List (Nat × List Nat)) (code : Nat) : Option (List Char) :=
  (expansions.lookup code).map (·.map Char.ofNat)

/-- Case mapping of one character, by a table of expansions and one of runs. -/
def mapChar (expansions : List (Nat × List Nat)) (runs : List (Nat × Nat × Nat × Int))
    (c : Char) : List Char :=
  match expansion? expansions c.toNat with
  | some mappedTo => mappedTo
  | none =>
    match mapped? runs c.toNat with
    | some mappedTo => [mappedTo]
    | none => [c]

/-- The first character that is not case-ignorable is a cased one. -/
def meetsCased (text : List Char) : Bool :=
  match text.dropWhile fun c => ignorableRanges.contains c.toNat with
  | [] => false
  | c :: _ => casedRanges.contains c.toNat

/-- The small form of a capital sigma between the characters `before` it, the nearest first, and those
    `after` it: final where it ends a word. -/
def smallSigma (before after : List Char) : Char :=
  if meetsCased before && !meetsCased after then 'ς' else 'σ'

/-- The small forms of the characters of a text that follow those in `before`, the nearest first. -/
def lowerFrom (before : List Char) : List Char → List Char
  | [] => []
  | c :: rest =>
    (if c = 'Σ' then [smallSigma before rest] else mapChar lowerExpansions lowerRuns c)
      ++ lowerFrom (c :: before) rest

end Case

/-- All letters in their capital forms. -/
def upper (text : List Char) : List Char :=
  text.flatMap (Case.mapChar Case.upperExpansions Case.upperRuns)

/-- All letters in their small forms. -/
def lower (text : List Char) : List Char :=
  Case.lowerFrom [] text

example : upper ['a', 'ß'] = ['A', 'S', 'S'] := by decide +kernel
example : lower ['Α', 'Σ'] = ['α', 'ς'] := by decide +kernel
example : lower ['Σ', 'Α'] = ['σ', 'α'] := by decide +kernel

end Crosswalk.Text
