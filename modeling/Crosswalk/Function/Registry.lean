/-
Module: Crosswalk.Function.Registry
Purpose: Functions looked up by name. A registry starts with the built-in functions; registering a function
  replaces the one of its name.
Main exports: Registry, Registry.standard, Registry.register, Registry.get?, Registry.names
-/
import Crosswalk.Function.Builtin
import Crosswalk.Entries

namespace Crosswalk

/-- A registry of functions by name. -/
structure Registry where
  functions : List (String × Function)

namespace Registry

/-- Adds a function under its name. -/
def register (registry : Registry) (function : Function) : Registry :=
  ⟨putEntry function.name function registry.functions⟩

/-- The registry of the built-in functions. -/
def standard : Registry :=
  Function.builtins.foldl register ⟨[]⟩

/-- The function of a name. -/
def get? (registry : Registry) (name : String) : Option Function :=
  registry.functions.lookup name

/-- The registered names in text order. -/
def names (registry : Registry) : List String :=
  sortBy textPrecedes (registry.functions.map Prod.fst)

end Registry

end Crosswalk
