/-
Module: Crosswalk.Ty.Convertible
Purpose: Which types convert to which, and the type that several types have in common. Number and bool meet
  only in string; collections and structures convert part by part.
Main exports: Ty.unify, Ty.canConvert
-/
import Crosswalk.Ty.Basic

namespace Crosswalk.Ty

/-- The types that differ from each other and are not dynamic, in order of first occurrence. -/
def distinct (types : List Ty) : List Ty :=
  types.foldl (fun seen ty => if ty.isDynamic || seen.contains ty then seen else seen ++ [ty]) []

/-- The type that all of the types convert to: of equal types that type, and string for different
    primitive ones. Dynamic types have no say; without any other type the result is dynamic. -/
def unify (types : List Ty) : Option Ty :=
  match distinct types with
  | [] => some .dynamic
  | [ty] => some ty
  | several => if several.all isPrimitive then some .string else none

mutual

/-- Values of the type `given` may convert to the type `want`. -/
def acceptsFrom (want given : Ty) : Bool :=
  if given = want || given.isDynamic then true
  else
    match want, given with
    | .dynamic, _ => true
    | .string, .bool | .string, .number => true
    | .bool, .string | .number, .string => true
    | .list want, .list given | .list want, .set given => acceptsFrom want given
    | .set want, .list given | .set want, .set given => acceptsFrom want given
    | .list want, .tuple haves | .set want, .tuple haves =>
      if want.isDynamic then (unify haves).isSome else haves.all fun ty => acceptsFrom want ty
    | .tuple wants, .tuple haves => acceptsElements wants haves
    | .tuple wants, .list given | .tuple wants, .set given => allAcceptFrom wants given
    | .map want, .map given => acceptsFrom want given
    | .map want, .object haves =>
      if want.isDynamic then (unify (haves.map Prod.snd)).isSome
      else haves.all fun entry => acceptsFrom want entry.2
    | .object wants, .object haves => acceptsAttributes wants haves
    | .object wants, .map given => allAttributesAcceptFrom wants given
    | _, _ => false
termination_by structural want

/-- Two lists of types of one length accept each other position by position. -/
def acceptsElements : List Ty → List Ty → Bool
  | [], [] => true
  | want :: wants, given :: haves => acceptsFrom want given && acceptsElements wants haves
  | _, _ => false
termination_by structural wants => wants

/-- All of the types accept one type. -/
def allAcceptFrom : List Ty → Ty → Bool
  | [], _ => true
  | want :: wants, given => acceptsFrom want given && allAcceptFrom wants given
termination_by structural wants => wants

/-- Each attribute is present under its name, with a type that it accepts. -/
def acceptsAttributes : List (String × Ty) → List (String × Ty) → Bool
  | [], _ => true
  | (name, want) :: wants, haves =>
    (match attribute? haves name with
      | some given => acceptsFrom want given
      | none => false)
    && acceptsAttributes wants haves
termination_by structural wants => wants

/-- All of the attributes accept one type. -/
def allAttributesAcceptFrom : List (String × Ty) → Ty → Bool
  | [], _ => true
  | (_, want) :: wants, given => acceptsFrom want given && allAttributesAcceptFrom wants given
termination_by structural wants => wants

end

/-- Values of the type `given` may convert to the type `want`. -/
def canConvert (given want : Ty) : Bool :=
  acceptsFrom want given

example : unify [.number, .dynamic, .bool] = some .string := by decide
example : unify [.number, .list .number] = none := by decide
example : canConvert (.tuple [.number, .bool]) (.set .string) = true := by decide

end Crosswalk.Ty
