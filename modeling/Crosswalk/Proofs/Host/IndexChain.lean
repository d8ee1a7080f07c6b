/-
Module: Crosswalk.Proofs.Host.IndexChain
Purpose: Indexing follows the chain of objects that handlers for indexing link. The first table of the chain with
  a value for the key gives it, before any function is called; otherwise the end of the chain decides. A chain
  that ends visits no object twice, so it is no longer than there are objects, however the objects are linked.
Main exports: Host.own, Host.next?, Host.Chain, Host.Chain.length_le, Host.indexVia_of_first,
  Host.indexVia_of_end, Host.index_follows_chain
-/
import Crosswalk.Proofs.Host.Indexing

namespace Crosswalk.Host

variable {host : Host} {object next last key : HostValue} {passed : List HostValue}

/-! ### Chains -/

/-- The value that an object itself has for a key: that of a table entry, or nil. -/
def own (host : Host) (object key : HostValue) : HostValue :=
  match object with
  | .table ref => (host.tableAt ref).get key
  | _ => .nil

/-- The object that an object refers to for what it does not have: its handler for indexing, unless that is a
    function. -/
def next? (host : Host) (object : HostValue) : Option HostValue :=
  match host.metafield object Event.index.key with
  | .nil | .function _ => none
  | next => some next

/-- The chain from an object: the objects that refer to a next one, and the last one, which refers to none. -/
inductive Chain (host : Host) : HostValue → List HostValue → HostValue → Prop
  | ends {last : HostValue} (end? : host.next? last = none) : Chain host last [] last
  | link {object next last : HostValue} {passed : List HostValue} (refers : host.next? object = some next)
      (chain : Chain host next passed last) : Chain host object (object :: passed) last

namespace Chain

/-- An object has one chain. -/
theorem unique {other : HostValue} {others : List HostValue} (chain : host.Chain object passed last)
    (chain' : host.Chain object others other) : passed = others ∧ last = other := by
  induction chain generalizing others with
  | ends end? =>
      cases chain' with
      | ends => exact ⟨rfl, rfl⟩
      | link refers => cases end?.symm.trans refers
  | link refers _ ih =>
      cases chain' with
      | ends end? => cases end?.symm.trans refers
      | link refers' chain' =>
          cases refers.symm.trans refers'
          obtain ⟨rfl, rfl⟩ := ih chain'
          exact ⟨rfl, rfl⟩

/-- The chain from a later object is no longer. -/
theorem later {reached : HostValue} (chain : host.Chain object passed last) (member : reached ∈ passed) :
    ∃ rest, host.Chain reached rest last ∧ rest.length ≤ passed.length := by
  induction chain with
  | ends => cases member
  | @link object next last passed refers chain ih =>
      rcases List.mem_cons.mp member with rfl | member
      · exact ⟨_, .link refers chain, le_rfl⟩
      · obtain ⟨rest, chain, shorter⟩ := ih member
        exact ⟨rest, chain, shorter.trans (Nat.le_succ _)⟩

/-- A chain visits no object twice. -/
theorem nodup (chain : host.Chain object passed last) : passed.Nodup := by
  induction chain with
  | ends => exact .nil
  | link refers chain ih =>
      refine List.nodup_cons.mpr ⟨fun again => ?_, ih⟩
      obtain ⟨rest, longer, shorter⟩ := chain.later again
      obtain ⟨rfl, -⟩ := longer.unique (.link refers chain)
      exact Nat.not_succ_le_self _ shorter

end Chain

/-- The tables and userdata of a host. -/
def objects (host : Host) : List HostValue :=
  ((List.range host.tables.size).map fun id => .table ⟨id⟩) ++
    (List.range host.userdata.size).map fun id => .userdata ⟨id⟩

theorem length_objects (host : Host) : host.objects.length = host.objectCount := by
  simp [objects, objectCount]

theorem mem_objects_of_metatable? {ref : TableRef} (found : host.metatable? object = some ref) :
    object ∈ host.objects := by
  cases object with
  | table own =>
      have inBounds : own.id < host.tables.size := by
        by_contra missing
        have absent : host.tables[own.id]? = none := by simpa using missing
        rw [metatable?, tableAt, absent] at found
        cases found
      exact List.mem_append_left _ (List.mem_map.mpr ⟨own.id, List.mem_range.mpr inBounds, rfl⟩)
  | userdata own =>
      have inBounds : own.id < host.userdata.size := by
        by_contra missing
        have absent : host.userdata[own.id]? = none := by simpa using missing
        rw [metatable?, absent] at found
        cases found
      exact List.mem_append_right _ (List.mem_map.mpr ⟨own.id, List.mem_range.mpr inBounds, rfl⟩)
  | nil | boolean | number | string | function => cases found

/-- Only objects with a metatable refer to others. -/
theorem mem_objects_of_next? (refers : host.next? object = some next) : object ∈ host.objects := by
  cases found : host.metatable? object with
  | some ref => exact mem_objects_of_metatable? found
  | none =>
      rw [next?, metafield, found] at refers
      cases refers

/-- A chain is no longer than there are objects. -/
theorem Chain.length_le (chain : host.Chain object passed last) : passed.length ≤ host.objectCount := by
  have inside : ∀ reached ∈ passed, reached ∈ host.objects := by
    induction chain with
    | ends => exact List.forall_mem_nil _
    | link refers _ ih => exact List.forall_mem_cons.mpr ⟨mem_objects_of_next? refers, ih⟩
  rw [← length_objects]
  exact (List.subperm_of_subset chain.nodup inside).length_le

/-! ### One object of a chain -/

section Step

variable (links : Nat)

/-- What an object has itself is found first. -/
theorem indexVia_of_own (found : host.own object key ≠ .nil) :
    indexVia links object key host = .ok (host.own object key, host) := by
  unfold indexVia
  rw [Machine.get_bind_apply]
  cases object with
  | table ref =>
      rw [own] at found ⊢
      dsimp only at found ⊢
      generalize (host.tableAt ref).get key = value at found ⊢
      cases value with
      | nil => exact absurd rfl found
      | _ => rfl
  | _ => exact absurd rfl found

variable (absent : host.own object key = .nil)
include absent

/-- What an object does not have is up to its handler. -/
theorem indexVia_of_absent :
    indexVia links object key host =
      (match host.metafield object Event.index.key with
      | .nil => if object.kind = .table then pure .nil else Machine.raise (.index object.kind)
      | .function ref => callFirst (.function ref) [object, key]
      | next =>
        match links with
        | 0 => Machine.raise (.index next.kind)
        | links + 1 => indexVia links next key : Machine HostValue) host := by
  conv_lhs => unfold indexVia
  rw [Machine.get_bind_apply]
  cases object with
  | table ref =>
      rw [own] at absent
      simp only [absent]
      rfl
  | _ => rfl

/-- What an object does not have is looked for in the next one. -/
theorem indexVia_succ (refers : host.next? object = some next) :
    indexVia (links + 1) object key host = indexVia links next key host := by
  rw [indexVia_of_absent _ absent]
  unfold next? at refers
  split at refers
  next => cases refers
  next => cases refers
  next =>
      obtain rfl := Option.some.inj refers
      rfl

theorem indexVia_of_function {ref : FunctionRef} (handler : host.metafield object Event.index.key = .function ref) :
    indexVia links object key host = callFirst (.function ref) [object, key] host := by
  rw [indexVia_of_absent _ absent, handler]

theorem indexVia_of_none (none : host.metafield object Event.index.key = .nil) :
    indexVia links object key host =
      if object.kind = .table then .ok (.nil, host) else .error (.raised (.index object.kind)) := by
  rw [indexVia_of_absent _ absent, none]
  dsimp only
  split <;> rfl

end Step

/-- The end of a chain has no handler for indexing, or a function. -/
theorem Chain.end_cases (chain : host.Chain object passed last) :
    host.metafield last Event.index.key = .nil ∨ ∃ ref, host.metafield last Event.index.key = .function ref := by
  induction chain with
  | ends end? =>
      unfold next? at end?
      split at end?
      next none => exact .inl none
      next ref handler => exact .inr ⟨ref, handler⟩
      next => cases end?
  | link _ _ ih => exact ih

/-! ### Whole chains -/

/-- How indexing ends with an object that does not have the key and refers to no further one: its handler is a
    function, or it has none. -/
def atEnd (host : Host) (last key : HostValue) : Except Escape (HostValue × Host) :=
  match host.metafield last Event.index.key with
  | .function ref => callFirst (.function ref) [last, key] host
  | _ => if last.kind = .table then .ok (.nil, host) else .error (.raised (.index last.kind))

section Run

variable (chain : host.Chain object passed last) {links : Nat} (enough : passed.length ≤ links)
include chain enough

/-- The first object of a chain that has a value for the key gives it. -/
theorem indexVia_of_first {before after : List HostValue} {found : HostValue}
    (parts : passed ++ [last] = before ++ found :: after) (absent : ∀ earlier ∈ before, host.own earlier key = .nil)
    (present : host.own found key ≠ .nil) : indexVia links object key host = .ok (host.own found key, host) := by
  induction chain generalizing before links with
  | ends =>
      obtain ⟨rfl, same⟩ | ⟨_, rfl, none⟩ := List.cons_eq_append_iff.mp parts
      · cases same
        exact indexVia_of_own links present
      · simp at none
  | link refers chain ih =>
      obtain ⟨rfl, same⟩ | ⟨rest, rfl, parts⟩ := List.cons_eq_append_iff.mp parts
      · cases same
        exact indexVia_of_own links present
      · obtain ⟨first, others⟩ := List.forall_mem_cons.mp absent
        cases links with
        | zero => cases enough
        | succ links =>
            rw [indexVia_succ links first refers]
            exact ih (Nat.le_of_succ_le_succ enough) (List.cons_eq_cons.mp parts).2 others

/-- What no object before the last one has is looked for in the last one. -/
theorem exists_indexVia_last (absent : ∀ reached ∈ passed, host.own reached key = .nil) :
    ∃ rest, indexVia links object key host = indexVia rest last key host := by
  induction chain generalizing links with
  | ends => exact ⟨links, rfl⟩
  | link refers chain ih =>
      obtain ⟨first, others⟩ := List.forall_mem_cons.mp absent
      cases links with
      | zero => cases enough
      | succ links =>
          rw [indexVia_succ links first refers]
          exact ih (Nat.le_of_succ_le_succ enough) others

/-- What no object of a chain has is up to its end. -/
theorem indexVia_of_end (absent : ∀ reached ∈ passed ++ [last], host.own reached key = .nil) :
    indexVia links object key host = host.atEnd last key := by
  obtain ⟨before, atLast⟩ := List.forall_mem_append.mp absent
  have atLast := atLast last List.mem_cons_self
  obtain ⟨rest, looked⟩ := exists_indexVia_last chain enough before
  rw [looked, atEnd]
  rcases chain.end_cases with none | ⟨ref, handler⟩
  · rw [none, indexVia_of_none rest atLast none]
  · rw [handler, indexVia_of_function rest atLast handler]

end Run

theorem atEnd_eq_error (chain : host.Chain object passed last) {failure : Escape} :
    host.atEnd last key = .error failure ↔
      host.metafield last Event.index.key = .nil ∧ last.kind ≠ .table ∧ failure = .raised (.index last.kind) ∨
        ∃ ref, host.metafield last Event.index.key = .function ref ∧
          callFirst (.function ref) [last, key] host = .error failure := by
  rw [atEnd]
  rcases chain.end_cases with none | ⟨ref, handler⟩
  · rw [none]
    by_cases isTable : last.kind = .table
    · simp [isTable]
    · simp [isTable, eq_comm]
  · rw [handler]
    simp

/-- Indexing ends, however long the chain from the object is. The first table of the chain with a value for the
    key gives it. If none has one, a function at the end is called with the last object and the key, a last
    table gives nil, and anything else is an error that names its kind. There are no other errors, but those of
    the function. -/
theorem index_follows_chain (chain : host.Chain object passed last) (key : HostValue) :
    (∀ links, passed.length ≤ links → indexVia links object key host = index object key host) ∧
    (∀ before found after, passed ++ [last] = before ++ found :: after →
      (∀ earlier ∈ before, host.own earlier key = .nil) → host.own found key ≠ .nil →
      index object key host = .ok (host.own found key, host)) ∧
    ((∀ reached ∈ passed ++ [last], host.own reached key = .nil) →
      (∀ ref, host.metafield last Event.index.key = .function ref →
        index object key host = callFirst (.function ref) [last, key] host) ∧
      (host.metafield last Event.index.key = .nil → last.kind = .table →
        index object key host = .ok (.nil, host))) ∧
    ∀ failure, index object key host = .error failure ↔
      (∀ reached ∈ passed ++ [last], host.own reached key = .nil) ∧
        (host.metafield last Event.index.key = .nil ∧ last.kind ≠ .table ∧ failure = .raised (.index last.kind) ∨
          ∃ ref, host.metafield last Event.index.key = .function ref ∧
            callFirst (.function ref) [last, key] host = .error failure) := by
  have budget := chain.length_le
  have run : index object key host = indexVia host.objectCount object key host := rfl
  rw [run]
  by_cases absent : ∀ reached ∈ passed ++ [last], host.own reached key = .nil
  · have ending := indexVia_of_end chain budget absent
    refine ⟨fun links enough => (indexVia_of_end chain enough absent).trans ending.symm, ?_, fun _ => ⟨?_, ?_⟩,
      fun failure => ?_⟩
    · intro before found after parts _ present
      exact absurd (absent found (by simp [parts])) present
    · intro ref handler
      rw [ending, atEnd, handler]
    · intro none isTable
      rw [ending, atEnd, none]
      exact if_pos isTable
    · rw [ending, atEnd_eq_error chain]
      exact (and_iff_right absent).symm
  · have some : ∃ reached ∈ passed ++ [last], ¬host.own reached key = .nil := by
      simpa only [not_forall, exists_prop] using absent
    obtain ⟨before, found, after, parts, earlier, present⟩ := Outcome.exists_first some
    have ending := indexVia_of_first chain budget parts earlier present
    refine ⟨fun links enough => (indexVia_of_first chain enough parts earlier present).trans ending.symm, ?_,
      fun none => absurd none absent, fun failure => ?_⟩
    · intro before found after parts earlier present
      exact indexVia_of_first chain budget parts earlier present
    · rw [ending]
      exact iff_of_false nofun fun refused => absent refused.1

/-- A host with a table that refers to userdata, which refers to a table with an entry, which refers to a truth
    value. -/
def linked : Host :=
  { start {} with
    tables := #[{}, {},
      { metatable := some ⟨3⟩ }, { entries := [(.string "__index", .userdata ⟨0⟩)] },
      { entries := [(.string "__index", .table ⟨5⟩)] },
      { entries := [(.string "x", .boolean true)], metatable := some ⟨6⟩ },
      { entries := [(.string "__index", .boolean false)] }]
    userdata := #[⟨.foreign "u", some ⟨4⟩⟩] }

/-- An entry is found behind two objects that lack it, and a key that no object has is an error that names the
    kind of the truth value at the end. -/
theorem index_follows_chain_linked :
    linked.Chain (.table ⟨2⟩) [.table ⟨2⟩, .userdata ⟨0⟩, .table ⟨5⟩] (.boolean false) ∧
    index (.table ⟨2⟩) (.string "x") linked = .ok (.boolean true, linked) ∧
    index (.table ⟨2⟩) (.string "y") linked = .error (.raised (.index .boolean)) := by
  have chain : linked.Chain (.table ⟨2⟩) [.table ⟨2⟩, .userdata ⟨0⟩, .table ⟨5⟩] (.boolean false) :=
    .link rfl (.link rfl (.link rfl (.ends rfl)))
  refine ⟨chain, ?_, ?_⟩
  · exact (index_follows_chain chain (.string "x")).2.1 [.table ⟨2⟩, .userdata ⟨0⟩] (.table ⟨5⟩) [.boolean false] rfl
      (by decide +kernel) (by decide +kernel)
  · exact ((index_follows_chain chain (.string "y")).2.2.2 _).mpr ⟨by decide +kernel, .inl ⟨rfl, nofun, rfl⟩⟩

end Crosswalk.Host
