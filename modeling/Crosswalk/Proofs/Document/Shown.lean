/-
Module: Crosswalk.Proofs.Document.Shown
Purpose: Data of documents from their parts, and which data can be shown in a message: those without an integer
  that is too long to be written, at any depth.
Main exports: Document.parts, Document.ofParts, Document.Overlong, Document.shown?_eq_none_iff
-/
import Crosswalk.Document.Basic
import Mathlib.Data.List.Basic

namespace Crosswalk.Document

/-! ### Parts -/

/-- The keys and values of entries. -/
def entryParts (entries : List (Document × Document)) : List Document :=
  entries.flatMap fun entry => [entry.1, entry.2]

theorem mem_entryParts {entries : List (Document × Document)} {part : Document} :
    part ∈ entryParts entries ↔ ∃ entry ∈ entries, part = entry.1 ∨ part = entry.2 := by
  simp [entryParts]

/-- The data that a datum is made of. -/
def parts : Document → List Document
  | .sequence items => items
  | .mapping entries | .pairs entries => entryParts entries
  | .set keys => keys
  | _ => []

theorem sizeOf_entryPart_lt {entries : List (Document × Document)} {part : Document}
    (member : part ∈ entryParts entries) : sizeOf part < sizeOf entries := by
  obtain ⟨⟨key, value⟩, inEntries, isPart⟩ := mem_entryParts.mp member
  have inside := List.sizeOf_lt_of_mem inEntries
  rw [Prod.mk.sizeOf_spec] at inside
  rcases isPart with rfl | rfl <;> omega

theorem sizeOf_part_lt {document part : Document} (member : part ∈ document.parts) :
    sizeOf part < sizeOf document := by
  cases document with
  | sequence items | set items =>
      have inside : sizeOf part < sizeOf items := List.sizeOf_lt_of_mem member
      simp only [sequence.sizeOf_spec, set.sizeOf_spec]
      omega
  | mapping entries | pairs entries =>
      have inside := sizeOf_entryPart_lt member
      simp only [mapping.sizeOf_spec, pairs.sizeOf_spec]
      omega
  | _ => cases member

/-- What holds of a datum if it holds of its parts holds of every datum. -/
@[elab_as_elim]
theorem ofParts {motive : Document → Prop}
    (step : ∀ document, (∀ part ∈ document.parts, motive part) → motive document) (document : Document) :
    motive document :=
  step document fun part _ => ofParts step part
termination_by document
decreasing_by exact sizeOf_part_lt ‹_›

/-! ### Data that cannot be shown -/

/-- A datum is an integer that is too long to be written, or has one in it. -/
inductive Overlong : Document → Prop
  | integer {n : Int} (long : Text.mostDigits < digitCount n.natAbs) : Overlong (.integer n)
  | part {document part : Document} (member : part ∈ document.parts) (overlong : Overlong part) :
      Overlong document

theorem shownItems?_eq_none_iff {items : List Document} :
    shownItems? items = none ↔ ∃ item ∈ items, item.shown? = none := by
  induction items with
  | nil => simp [shownItems?]
  | cons item rest ih =>
      rw [shownItems?, List.exists_mem_cons_iff, ← ih]
      cases item.shown? <;> cases shownItems? rest <;> simp

theorem shownEntries?_eq_none_iff {before between after : String} {entries : List (Document × Document)} :
    shownEntries? before between after entries = none ↔ ∃ part ∈ entryParts entries, part.shown? = none := by
  induction entries with
  | nil => simp [shownEntries?, entryParts]
  | cons entry rest ih =>
      obtain ⟨key, value⟩ := entry
      have parts : entryParts ((key, value) :: rest) = key :: value :: entryParts rest := rfl
      rw [shownEntries?, parts, List.exists_mem_cons_iff, List.exists_mem_cons_iff, ← ih]
      cases key.shown? <;> cases value.shown? <;> cases shownEntries? before between after rest <;> simp

theorem shownInteger?_eq_none_iff {n : Int} :
    shownInteger? n = none ↔ Text.mostDigits < digitCount n.natAbs := by
  simp [shownInteger?]

/-- Whether a datum can be shown depends on its parts and on whether it is an integer itself. -/
theorem shown?_eq_none_iff_parts {document : Document} :
    document.shown? = none ↔
      (∃ n : Int, document = .integer n ∧ Text.mostDigits < digitCount n.natAbs) ∨
        ∃ part ∈ document.parts, part.shown? = none := by
  cases document with
  | integer n => simp [shown?, shownInteger?_eq_none_iff, parts]
  | sequence items => simp [shown?, shownItems?_eq_none_iff, parts]
  | mapping entries | pairs entries => simp [shown?, shownEntries?_eq_none_iff, parts]
  | set keys =>
      cases keys with
      | nil => simp [shown?, parts]
      | cons key rest => simp [shown?, shownItems?_eq_none_iff, parts]
  | _ => simp [shown?, parts]

/-- A datum cannot be shown exactly if an integer in it is too long. -/
theorem shown?_eq_none_iff {document : Document} : document.shown? = none ↔ document.Overlong := by
  induction document using ofParts with
  | step document ih =>
      rw [shown?_eq_none_iff_parts]
      constructor
      · rintro (⟨n, rfl, long⟩ | ⟨part, member, unshown⟩)
        · exact .integer long
        · exact .part member ((ih part member).mp unshown)
      · intro overlong
        cases overlong with
        | integer long => exact .inl ⟨_, rfl, long⟩
        | part member overlong => exact .inr ⟨_, member, (ih _ member).mpr overlong⟩

end Crosswalk.Document
