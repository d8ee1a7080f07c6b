/-
Module: Crosswalk.Value.Equality
Purpose: Equality of structural values as the structural system sees it, with three answers. While a part
  that matters is unknown the answer is open, unless some other part is different in any case.
Main exports: Value.sameAs, Value.equals
-/
import Crosswalk.Value.Basic

namespace Crosswalk.Value

/-- Conjunction of answers, of which `none` is the open one: a difference decides. -/
def bothSame : Option Bool → Option Bool → Option Bool
  | some false, _ => some false
  | _, some false => some false
  | some true, some true => some true
  | _, _ => none

mutual

/-- Whether two values are the same; `none` if that is open. Nulls are the same whatever their types, and
    other values of different types are not. -/
def sameAs (a b : Value) : Option Bool :=
  if !a.isKnown || !b.isKnown then none
  else if a.isNull || b.isNull then some (a.isNull && b.isNull)
  else if a.type ≠ b.type then some false
  else
    match a, b with
    | .bool p, .bool q => some (p = q)
    | .number m, .number n => some (m = n)
    | .string s, .string t => some (s = t)
    | .set _ as, .set _ bs =>
      if as.any (fun item => !item.isKnown) || bs.any (fun item => !item.isKnown) then none
      else some (as.length = bs.length && membersAmong as bs)
    | .list _ as, .list _ bs => sameItems as bs
    | .tuple as, .tuple bs => sameItems as bs
    | .map _ as, .map _ bs => if as.length = bs.length then sameEntries as bs else some false
    | .object as, .object bs => if as.length = bs.length then sameEntries as bs else some false
    | _, _ => some false
termination_by structural a

/-- Whether two lists of values are the same position by position. -/
def sameItems : List Value → List Value → Option Bool
  | [], [] => some true
  | a :: as, b :: bs => bothSame (sameAs a b) (sameItems as bs)
  | _, _ => some false
termination_by structural as => as

/-- Whether each of the entries has the same value under its key among the others. -/
def sameEntries : List (String × Value) → List (String × Value) → Option Bool
  | [], _ => some true
  | (key, a) :: as, bs =>
    bothSame
      (match bs.lookup key with
        | some b => sameAs a b
        | none => some false)
      (sameEntries as bs)
termination_by structural as => as

end

/-- An answer as a value: an open one is an unknown truth value. -/
def ofAnswer : Option Bool → Value
  | some flag => .bool flag
  | none => .unknown .bool

/-- Structural equality as a value. -/
def equals (a b : Value) : Value :=
  ofAnswer (sameAs a b)

example : sameAs (.tuple [.unknown .bool, .bool true]) (.tuple [.bool true, .bool false])
    = some false := by decide

end Crosswalk.Value
