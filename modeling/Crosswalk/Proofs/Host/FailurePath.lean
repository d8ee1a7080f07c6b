/-
Module: Crosswalk.Proofs.Host.FailurePath
Purpose: The path of a conversion failure locates it. Each step of the path names an entry of a table, or a
  part of a wrapped value once inside of it, and the path reaches a type in the wanted one; what stands at
  its end does not convert to that type, for the same reason and by itself.
Main exports: Spot, Host.part?, Host.follow?, Host.convertAt, Host.failurePath_locates
-/
import Crosswalk.Proofs.Host.Containment
import Crosswalk.Proofs.Reading.Failure

namespace Crosswalk

/-- Where a path into a host value leads: to a host value, or to a part of a wrapped one. -/
inductive Spot where
  | object (value : HostValue)
  | payload (value : Value)

namespace Host

/-- What a step leads to: the value of the table entry that it names by the position or the text of its key,
    or the part of a wrapped value. -/
def part? (host : Host) : Spot → Step → Option Spot
  | .object (.table ref), step =>
    ((host.tableAt ref).items.find? fun entry => (host.tree entry.1).isAt step).map fun entry =>
      .object entry.2
  | .object value, step => (host.unwrap value).bind fun payload => (payload.part? step).map .payload
  | .payload value, step => (value.part? step).map .payload

/-- What a path leads to. -/
def follow? (host : Host) (value : HostValue) (path : Path) : Option Spot :=
  path.foldlM host.part? (.object value)

/-- Conversion of what stands at a spot. -/
def convertAt (host : Host) : Spot → Ty → Outcome Value
  | .object value, want => host.convert value want
  | .payload value, want => value.convert want

variable {host : Host}

/-! ### Spots and trees -/

/-- The tree of what stands at a spot. -/
def spotTree (host : Host) : Spot → Tree
  | .object value => host.tree value
  | .payload value => .wrapped value

/-- No host value at a spot contains itself. -/
def AcyclicAt (host : Host) : Spot → Prop
  | .object value => host.Acyclic value
  | .payload _ => True

theorem convert_spotTree {spot : Spot} (acyclic : host.AcyclicAt spot) (want : Ty) :
    (host.spotTree spot).convert want = host.convertAt spot want := by
  cases spot with
  | object value => exact (convert_of_acyclic acyclic want).symm
  | payload value => exact Tree.convert_wrapped value want

theorem AcyclicAt.part? {spot next : Spot} (acyclic : host.AcyclicAt spot) {step : Step}
    (leads : host.part? spot step = some next) : host.AcyclicAt next := by
  cases spot with
  | payload =>
      obtain ⟨part, -, rfl⟩ := Option.map_eq_some_iff.mp leads
      trivial
  | object value =>
      cases value with
      | table ref =>
          obtain ⟨entry, found, rfl⟩ := Option.map_eq_some_iff.mp leads
          exact acyclic.within
            (.single ⟨ref, rfl, entry, List.mem_of_find?_eq_some found, .inr rfl⟩)
      | userdata ref =>
          obtain ⟨payload, -, inside⟩ := Option.bind_eq_some_iff.mp leads
          obtain ⟨part, -, rfl⟩ := Option.map_eq_some_iff.mp inside
          trivial
      | _ => cases leads

theorem AcyclicAt.foldlM {spot last : Spot} (acyclic : host.AcyclicAt spot) {path : Path}
    (leads : path.foldlM host.part? spot = some last) : host.AcyclicAt last := by
  induction path generalizing spot with
  | nil => exact Option.some.inj leads ▸ acyclic
  | cons step path ih =>
      rw [List.foldlM_cons] at leads
      obtain ⟨next, first, further⟩ := Option.bind_eq_some_iff.mp leads
      exact ih (acyclic.part? first) further

/-- A step leads to the same part of a spot and of its tree. -/
theorem part?_spotTree {spot : Spot} (acyclic : host.AcyclicAt spot) (step : Step) :
    (host.spotTree spot).part? step = (host.part? spot step).map host.spotTree := by
  cases spot with
  | payload value => simp [spotTree, Tree.part?, part?, Function.comp_def]
  | object value =>
      cases value with
      | table ref =>
          rw [spotTree, tree_table acyclic, Tree.part?, part?, List.find?_map]
          simp [Function.comp_def, spotTree]
      | userdata ref =>
          rw [spotTree, tree, treeTo, part?]
          · cases host.unwrap (.userdata ref) with
            | none => rfl
            | some payload => simp [Tree.part?, Function.comp_def, spotTree]
          · intro inner isTable
            cases isTable
      | _ => simp [spotTree, tree, treeTo, Tree.part?, part?, unwrap]

/-- A path leads to the same part of a spot and of its tree. -/
theorem foldlM_spotTree {spot : Spot} (acyclic : host.AcyclicAt spot) (path : Path) :
    (host.spotTree spot).follow? path = (path.foldlM host.part? spot).map host.spotTree := by
  induction path generalizing spot with
  | nil => rfl
  | cons step path ih =>
      rw [Tree.follow?, List.foldlM_cons, List.foldlM_cons, part?_spotTree acyclic]
      cases leads : host.part? spot step with
      | none => rfl
      | some next => exact ih (acyclic.part? leads)

/-! ### Located failures -/

/-- A conversion failure of a host value is located by its path: the path can be followed into the value,
    it reaches a type in the wanted one, and what stands at its end fails to convert to that type, with the
    same cause and an empty path. -/
theorem failurePath_locates (payloads : host.Carries Value.WellFormed) {value : HostValue}
    (acyclic : host.Acyclic value) {want : Ty} (outer : want.WellFormed) {path : Path}
    {cause : ConversionCause} (failed : host.convert value want = .error (.conversion path cause)) :
    ∃ spot asked, host.follow? value path = some spot ∧ want.follow? path = some asked ∧
      host.convertAt spot asked = .error (.conversion [] cause) := by
  rw [convert_of_acyclic acyclic] at failed
  obtain ⟨part, asked, follows, reaches, partFailed⟩ :=
    Tree.exists_follow_of_error (tree_all payloads value) outer failed
  have acyclicAt : host.AcyclicAt (.object value) := acyclic
  obtain ⟨spot, found, rfl⟩ :=
    Option.map_eq_some_iff.mp ((foldlM_spotTree acyclicAt path).symm.trans follows)
  have acyclicThere := acyclicAt.foldlM found
  exact ⟨spot, asked, found, reaches, (convert_spotTree acyclicThere asked).symm.trans partFailed⟩

/-- A host with a table in a table, and a wrapped tuple of a truth value and a list in the inner one. -/
def nestedTuple : Host :=
  { start {} with
    tables := (start {}).tables ++ #[
      { entries := [(.string "a", .table ⟨3⟩)] },
      { entries := [(.string "k", .userdata ⟨0⟩)] }]
    userdata := #[⟨.structural (.tuple [.bool true, .list .bool []]), some wrappedMetatable⟩] }

theorem nestedTuple_carries : nestedTuple.Carries Value.WellFormed := by
  refine (carries_of_sole rfl).mono ?_
  rintro _ rfl
  refine .ofItems (List.forall_mem_cons.mpr ⟨.bool true, List.forall_mem_singleton.mpr ?_⟩)
  exact .list .bool (List.forall_mem_nil _) (List.forall_mem_nil _)

theorem nestedTuple_acyclic : nestedTuple.Acyclic (.table ⟨2⟩) := by
  have inner : Acc (fun inner outer => nestedTuple.Contains outer inner) (.table ⟨3⟩) := by
    refine .intro _ fun part contains => ?_
    obtain ⟨_, ⟨⟩, entry, member, side⟩ := contains
    cases List.mem_singleton.mp member
    rcases side with rfl | rfl <;> exact acc_of_leaf nofun
  refine acyclic_of_acc (.intro _ fun part contains => ?_)
  obtain ⟨_, ⟨⟩, entry, member, side⟩ := contains
  cases List.mem_singleton.mp member
  rcases side with rfl | rfl
  · exact acc_of_leaf nofun
  · exact inner

/-- The list in the tuple is no number; the path to it goes through both tables into the wrapped value. -/
theorem failurePath_locates_nestedTuple :
    ∃ spot asked,
      nestedTuple.follow? (.table ⟨2⟩) [.attr "a", .key "k", .position 1] = some spot ∧
      (Ty.object [("a", .map (.tuple [.bool, .number]))]).follow?
        [.attr "a", .key "k", .position 1] = some asked ∧
      nestedTuple.convertAt spot asked = .error (.conversion [] (.required .number)) := by
  have outer : (Ty.object [("a", .map (.tuple [.bool, .number]))]).WellFormed := by
    refine .object (List.pairwise_singleton _ _) (List.forall_mem_singleton.mpr (.map (.tuple ?_)))
    exact List.forall_mem_cons.mpr ⟨.bool, List.forall_mem_singleton.mpr .number⟩
  have failed : nestedTuple.convert (.table ⟨2⟩) (.object [("a", .map (.tuple [.bool, .number]))]) =
      .error (.conversion [.attr "a", .key "k", .position 1] (.required .number)) := rfl
  exact failurePath_locates nestedTuple_carries nestedTuple_acyclic outer failed

end Host

end Crosswalk
