/-
Module: Crosswalk.Proofs.Path
Purpose: A written path can be read back. What a step is written as ends where the next one starts: a name holds
  neither a dot nor a bracket, a position no closing bracket, and a quoted key no quotation mark without a
  backslash before it. The one thing that is lost is whether a key whose text is no identifier was an attribute.
Main exports: Text.escapeKey_cancel, Step.Spelt, Step.Alike, Step.Spelt.cancel, Path.render_eq_iff
-/
import Crosswalk.Path
import Crosswalk.Proofs.Host.WholeText

namespace Crosswalk

/-! ### Where a part of a text ends -/

/-- A part that no stop occurs in ends at the first stop. -/
theorem cancel_until {α : Type} {isStop : α → Prop} {a b r s : List α} (within : ∀ c ∈ a, ¬isStop c)
    (within' : ∀ c ∈ b, ¬isStop c) (stops : ∀ c ∈ r.head?, isStop c) (stops' : ∀ c ∈ s.head?, isStop c)
    (same : a ++ r = b ++ s) : a = b ∧ r = s := by
  induction a generalizing b with
  | nil =>
      cases b with
      | nil => exact ⟨rfl, same⟩
      | cons c b =>
          rw [List.nil_append] at same
          exact absurd (stops c (by simp [same])) (within' c List.mem_cons_self)
  | cons c a ih =>
      cases b with
      | nil =>
          rw [List.nil_append] at same
          exact absurd (stops' c (by simp [← same])) (within c List.mem_cons_self)
      | cons d b =>
          rw [List.cons_append, List.cons_append] at same
          obtain ⟨rfl, behind⟩ := List.cons_eq_cons.mp same
          obtain ⟨rfl, rest⟩ := ih (fun c member => within c (List.mem_cons_of_mem _ member))
            (fun c member => within' c (List.mem_cons_of_mem _ member)) behind
          exact ⟨rfl, rest⟩

/-- A key ends at the first quotation mark without a backslash before it. -/
theorem Text.escapeKey_cancel {a b r s : List Char} (same : escapeKey a ++ '"' :: r = escapeKey b ++ '"' :: s) :
    a = b ∧ r = s := by
  induction a generalizing b with
  | nil =>
      cases b with
      | nil => simpa [escapeKey] using same
      | cons d b =>
          rw [escapeKey, escapeKey] at same
          split at same
          next => simp at same
          next plain =>
              obtain ⟨rfl, -⟩ := List.cons_eq_cons.mp same
              exact absurd (.inl rfl) plain
  | cons c a ih =>
      cases b with
      | nil =>
          rw [escapeKey, escapeKey] at same
          split at same
          next => simp at same
          next plain =>
              obtain ⟨rfl, -⟩ := List.cons_eq_cons.mp same
              exact absurd (.inl rfl) plain
      | cons d b =>
          have parts : c = d ∧ escapeKey a ++ '"' :: r = escapeKey b ++ '"' :: s := by
            rw [escapeKey, escapeKey] at same
            -- a backslash stands before both characters, before one of them only, or before none
            split_ifs at same with marked marked'
            next => simpa using same
            next =>
                obtain ⟨rfl, -⟩ := List.cons_eq_cons.mp same
                exact absurd (.inr rfl) marked'
            next =>
                obtain ⟨rfl, -⟩ := List.cons_eq_cons.mp same
                exact absurd (.inr rfl) marked
            next => simpa using same
          obtain ⟨rfl, rest⟩ := ih parts.2
          exact ⟨by rw [parts.1], rest⟩

/-! ### Written steps -/

namespace Step

open Text Decimal

/-- A step that is written with the text of a key: a key, or an attribute whose name is no identifier. -/
inductive Quotes : Step → String → Prop
  | key (name : String) : Quotes (.key name) name
  | attr {name : String} (other : isIdentifier name.toList = false) : Quotes (.attr name) name

/-- What a step is written as: a name behind a dot, or a position or a quoted key between brackets. -/
inductive Spelt : Step → List Char → Prop
  | name {name : String} (identifier : isIdentifier name.toList = true) : Spelt (.attr name) ('.' :: name.toList)
  | position (index : Int) : Spelt (.position index) ('[' :: (positional index 0 ++ [']']))
  | quoted {step : Step} {name : String} (quotes : Quotes step name) :
      Spelt step ('[' :: '"' :: (escapeKey name.toList ++ ['"', ']']))

/-- Two steps have the same kind and key, or they are an attribute and a key of one name that is no
    identifier. -/
inductive Alike : Step → Step → Prop
  | same (step : Step) : Alike step step
  | attrKey {name : String} (other : isIdentifier name.toList = false) : Alike (.attr name) (.key name)
  | keyAttr {name : String} (other : isIdentifier name.toList = false) : Alike (.key name) (.attr name)

theorem Quotes.spelt {step : Step} {name : String} (quotes : Quotes step name) :
    Spelt step (bracketed (quoteKey name)).toList := by
  simpa [bracketed, quoteKey] using Spelt.quoted quotes

theorem spelt_render (step : Step) : Spelt step step.render.toList := by
  cases step with
  | attr name =>
      rw [render]
      split
      next identifier => simpa using Spelt.name identifier
      next other => exact (Quotes.attr (by simpa using other)).spelt
  | position index =>
      rw [render, ← ofList_positional]
      simpa [bracketed] using Spelt.position index
  | key name => exact (Quotes.key name).spelt

/-- A key determines the step that is written with it, up to its kind. -/
theorem Quotes.alike {a b : Step} {name : String} (left : Quotes a name) (right : Quotes b name) : a.Alike b := by
  cases left with
  | key =>
      cases right with
      | key => exact .same _
      | attr other => exact .keyAttr other
  | attr other =>
      cases right with
      | key => exact .attrKey other
      | attr => exact .same _

theorem Alike.render_eq {a b : Step} (alike : a.Alike b) : a.render = b.render := by
  cases alike with
  | same => rfl
  | attrKey other | keyAttr other => simp [render, other]

/-! ### The end of a step -/

/-- The rest of a written path: nothing, or a step. -/
def Follows (text : List Char) : Prop :=
  ∀ c ∈ text.head?, c = '.' ∨ c = '['

/-- Behind an identifier there is nothing but a line end. -/
theorem isEnd_within {text : List Char} (atEnd : isEnd text = true) : ∀ c ∈ text, c = '\n' := by
  unfold isEnd at atEnd
  split at atEnd
  next => simp
  next c => simpa using atEnd
  next => cases atEnd

/-- An identifier, with the line end that may follow it, holds no character that starts a step. -/
theorem isIdentifier_within {name : List Char} (identifier : isIdentifier name = true) :
    ∀ c ∈ name, ¬(c = '.' ∨ c = '[') := by
  have inside {c : Char} (kept : startsIdentifier c = true ∨ continuesIdentifier c = true ∨ c = '\n') :
      ¬(c = '.' ∨ c = '[') := by
    rintro (rfl | rfl) <;> exact absurd kept (by decide)
  cases name with
  | nil => simp
  | cons first rest =>
      rw [isIdentifier, Bool.and_eq_true] at identifier
      intro c member
      rcases List.mem_cons.mp member with rfl | member
      · exact inside (.inl identifier.1)
      · rw [← List.takeWhile_append_dropWhile (p := continuesIdentifier) (l := rest), List.mem_append] at member
        rcases member with inRun | atEnd
        · exact inside (.inr (.inl (List.mem_takeWhile_imp inRun)))
        · exact inside (.inr (.inr (isEnd_within identifier.2 c atEnd)))

/-- An integer holds no closing bracket and no quotation mark. -/
theorem positional_within (index : Int) : ∀ c ∈ positional index 0, c ≠ ']' ∧ c ≠ '"' := by
  intro c member
  rcases positional_isNumeric index 0 c member with digit | rfl | rfl
  · constructor <;> rintro rfl <;> exact absurd digit (by decide)
  · decide
  · decide

/-- Different integers are written differently. -/
theorem positional_injective {i j : Int} (same : positional i 0 = positional j 0) : i = j := by
  have read := (ofChars?_positional i 0).symm.trans ((congrArg Numeral.ofChars? same).trans (ofChars?_positional j 0))
  have parts := Numeral.mk.inj (Option.some.inj read)
  simp only [Int.toNat_zero, tenPow, Nat.pow_eq, Nat.pow_zero, Nat.mul_one] at parts
  rw [← signed_natAbs i, ← signed_natAbs j, parts.1, parts.2.1]

/-- A position between brackets does not start like a quoted key. -/
theorem positional_unquoted (index : Int) (rest text : List Char) :
    positional index 0 ++ ']' :: rest ≠ '"' :: text := by
  have within := positional_within index
  generalize positional index 0 = digits at within ⊢
  cases digits with
  | nil => simp
  | cons c digits =>
      intro same
      exact (within c List.mem_cons_self).2 (List.cons_eq_cons.mp same).1

/-- A step is known from what it is written as, up to its kind, and so is the rest of the path. -/
theorem Spelt.cancel {a b : Step} {text text' r s : List Char} (spelt : a.Spelt text) (spelt' : b.Spelt text')
    (follows : Follows r) (follows' : Follows s) (same : text ++ r = text' ++ s) : a.Alike b ∧ r = s := by
  -- the first two characters tell the three forms apart
  cases spelt with
  | name identifier =>
      cases spelt' with
      | name identifier' =>
          obtain ⟨names, rest⟩ := cancel_until (isIdentifier_within identifier) (isIdentifier_within identifier')
            follows follows' (List.cons_eq_cons.mp same).2
          rw [String.toList_inj.mp names]
          exact ⟨.same _, rest⟩
      | position | quoted => simp at same
  | position i =>
      have stop : ∀ c ∈ (']' :: r).head?, c = ']' := by simp
      have stop' : ∀ c ∈ (']' :: s).head?, c = ']' := by simp
      have within (index : Int) : ∀ c ∈ positional index 0, ¬c = ']' := fun c member =>
        (positional_within index c member).1
      cases spelt' with
      | name => simp at same
      | position j =>
          have inner : positional i 0 ++ ']' :: r = positional j 0 ++ ']' :: s := by simpa using same
          obtain ⟨numbers, rest⟩ := cancel_until (within i) (within j) stop stop' inner
          rw [positional_injective numbers]
          exact ⟨.same _, (List.cons_eq_cons.mp rest).2⟩
      | quoted => exact absurd (by simpa using same) (positional_unquoted i r _)
  | @quoted _ name quotes =>
      cases spelt' with
      | name => simp at same
      | position j => exact absurd (by simpa using same.symm) (positional_unquoted j s _)
      | @quoted _ name' quotes' =>
          have inner : escapeKey name.toList ++ '"' :: ']' :: r = escapeKey name'.toList ++ '"' :: ']' :: s := by
            simpa using same
          obtain ⟨names, rest⟩ := escapeKey_cancel inner
          rw [String.toList_inj.mp names] at quotes
          exact ⟨quotes.alike quotes', (List.cons_eq_cons.mp rest).2⟩

end Step

/-! ### Written paths -/

namespace Path

theorem toList_render (path : Path) : (render path).toList = path.flatMap fun step => step.render.toList := by
  rw [render, String.toList_join, List.flatMap_map]

/-- A written path is the first step and then the rest. -/
theorem toList_render_cons (step : Step) (path : Path) :
    (render (step :: path)).toList = step.render.toList ++ (render path).toList := by
  rw [toList_render, toList_render, List.flatMap_cons]

theorem follows_render (path : Path) : Step.Follows (render path).toList := by
  cases path with
  | nil => simp [Step.Follows, render]
  | cons step path =>
      rw [toList_render_cons]
      have spelt := step.spelt_render
      generalize step.render.toList = text at spelt
      cases spelt <;> simp [Step.Follows]

/-- No step is written as nothing. -/
theorem render_cons_ne (step : Step) (path : Path) : render (step :: path) ≠ render [] := by
  intro same
  have spelt := step.spelt_render
  have empty := congrArg String.toList same
  rw [toList_render_cons] at empty
  generalize step.render.toList = text at spelt empty
  cases spelt <;> simp [render] at empty

/-- Two paths are written alike exactly if they have the same number of steps and each step of one is written
    like the step of the other: with the same kind and key, or as an attribute and a key of one name that is no
    identifier. -/
theorem render_eq_iff {p q : Path} : render p = render q ↔ List.Forall₂ Step.Alike p q := by
  constructor
  · intro same
    induction p generalizing q with
    | nil =>
        cases q with
        | nil => exact .nil
        | cons step q => exact absurd same.symm (render_cons_ne step q)
    | cons step p ih =>
        cases q with
        | nil => exact absurd same (render_cons_ne step p)
        | cons other q =>
            have texts := congrArg String.toList same
            rw [toList_render_cons, toList_render_cons] at texts
            obtain ⟨alike, rest⟩ :=
              step.spelt_render.cancel other.spelt_render (follows_render p) (follows_render q) texts
            exact .cons alike (ih (String.toList_inj.mp rest))
  · intro alike
    apply String.toList_inj.mp
    induction alike with
    | nil => rfl
    | cons alike _ ih => rw [toList_render_cons, toList_render_cons, alike.render_eq, ih]

example : render [.attr "a-b", .position 1] = render [.key "a-b", .position 1] := by decide +kernel

end Path

end Crosswalk
