/-
Module: Crosswalk.Host.Table
Purpose: The tables of the host: mutable associations of host values with a deterministic iteration order.
  Numbers come first in ascending order, then texts by code point, then false and true, then references in
  order of insertion. Positions start at zero, and setting a key to nil removes it.
Main exports: HostTable, HostTable.get, HostTable.set, HostTable.length, HostTable.items, HostTable.append
-/
import Crosswalk.Host.Value
import Crosswalk.Fault
import Crosswalk.Sorting

namespace Crosswalk

/-- A table: its entries in order of insertion, and its metatable. -/
structure HostTable where
  entries : List (HostValue × HostValue) := []
  metatable : Option TableRef := none

namespace HostTable

/-- The value at a key, or nil. -/
def get (table : HostTable) (key : HostValue) : HostValue :=
  match table.entries.find? fun entry => entry.1.same key with
  | some entry => entry.2
  | none => .nil

/-- The value at a text key. -/
def getField (table : HostTable) (name : String) : HostValue :=
  table.get (.string name)

/-- The value at a position. -/
def getIndex (table : HostTable) (position : Nat) : HostValue :=
  table.get (HostValue.ofNat position)

/-- Entries with a key set: in its place if it is there, at the end otherwise. -/
def put (key value : HostValue) : List (HostValue × HostValue) → List (HostValue × HostValue)
  | [] => [(key, value)]
  | (k, v) :: rest => if k.same key then (k, value) :: rest else (k, v) :: put key value rest

/-- Sets a key; nil removes it. Nil and data that are not numbers are no keys. -/
def set (table : HostTable) (key value : HostValue) : Outcome HostTable :=
  match key with
  | .nil => .error (.invalid .nilKey)
  | .number (.nan ..) => .error (.invalid .nanKey)
  | _ =>
    .ok <| match value with
      | .nil => { table with entries := table.entries.filter fun entry => !entry.1.same key }
      | _ => { table with entries := put key value table.entries }

/-- All positions from this one on are the same key: the infinite number. -/
def horizon : Nat := twoPow 1024

/-- The first position from `start` on that is not present, of the next `bound` ones. -/
def firstFree (table : HostTable) (start : Nat) : Nat → Nat
  | 0 => start
  | bound + 1 =>
    if (table.getIndex start).isNil then start else firstFree table (start + 1) bound

/-- The number of positions present from the first one on without a gap, which is the least position that
    is not present. Beyond the horizon there is nothing new to find. -/
def length (table : HostTable) : Nat :=
  table.firstFree 0 horizon

/-- Sets the first free position. -/
def append (table : HostTable) (value : HostValue) : Outcome HostTable :=
  table.set (HostValue.ofNat table.length) value

/-- The group of a key in the iteration order. -/
def group : HostValue → Nat
  | .number _ => 0
  | .string _ => 1
  | .boolean _ => 2
  | _ => 3

/-- The iteration order of keys. References precede each other, so that a stable sort keeps them in order
    of insertion. -/
def keyPrecedes (a b : HostValue) : Bool :=
  match a, b with
  | .number x, .number y => x.lessOrEqual y
  | .string s, .string t => textPrecedes s t
  | .boolean p, .boolean q => !p || q
  | _, _ => group a ≤ group b

/-- The entries in iteration order. -/
def items (table : HostTable) : List (HostValue × HostValue) :=
  sortBy (fun a b => keyPrecedes a.1 b.1) table.entries

/-- The keys in iteration order. -/
def keys (table : HostTable) : List HostValue :=
  table.items.map Prod.fst

/-- The number of entries. -/
def count (table : HostTable) : Nat :=
  table.entries.length

end HostTable

end Crosswalk
