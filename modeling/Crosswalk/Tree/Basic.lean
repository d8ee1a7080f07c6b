/-
Module: Crosswalk.Tree.Basic
Purpose: Host values as immutable trees. Reading a host value does not change it, so tables are seen as lists
  of their entries in iteration order, and references as the kinds of the objects behind them.
Main exports: Tree, Tree.kind, Tree.position?
-/
import Crosswalk.Host.Value
import Crosswalk.Value.Basic

namespace Crosswalk

/-- What a host value holds at one moment. -/
inductive Tree where
  | nil
  | boolean (flag : Bool)
  | number (x : Binary64)
  | string (text : String)
  /-- A table: keys and values in iteration order. -/
  | table (entries : List (Tree × Tree))
  | function
  /-- Userdata that holds a structural value. -/
  | wrapped (value : Value)
  /-- Userdata of other origin. -/
  | foreign
  /-- A table whose entries are not seen, because it stands deeper than there are tables: some table on the
      way to it contains itself. -/
  | endless
deriving Inhabited

namespace Tree

/-- The kind of the host value. -/
def kind : Tree → HostKind
  | .nil => .nil
  | .boolean _ => .boolean
  | .number _ => .number
  | .string _ => .string
  | .table _ | .endless => .table
  | .function => .function
  | .wrapped _ | .foreign => .userdata

/-- The position that a key denotes: a whole number. -/
def position? : Tree → Option Int
  | .number x => x.toInt?
  | _ => none

end Tree

end Crosswalk
