/-
Module: Crosswalk.Proofs.Outcome
Purpose: What an outcome says about the steps that led to it. A sequence of steps succeeds when each of
  them does, and fails as one of them does; locating or rewording a failure changes no success.
Main exports: Outcome.bind_eq_ok, Outcome.map_eq_ok, Outcome.under_eq_ok, Outcome.mapM_eq_ok,
  Outcome.exists_of_forall₂, Outcome.bind_eq_error, Outcome.mapM_eq_error, Outcome.forM_eq_error,
  Outcome.Persists, Outcome.Agrees
-/
import Crosswalk.Fault
import Mathlib.Data.List.Forall2
import Mathlib.Data.List.Perm.Basic

namespace Crosswalk.Outcome

variable {α β : Type}

@[simp]
theorem bind_eq_ok {ε : Type} {first : Except ε α} {next : α → Except ε β} {result : β} :
    first >>= next = .ok result ↔ ∃ middle, first = .ok middle ∧ next middle = .ok result := by
  cases first with
  | ok middle => simp [bind, Except.bind]
  | error fault => simp [bind, Except.bind]

@[simp]
theorem map_eq_ok {ε : Type} {outcome : Except ε α} {change : α → β} {result : β} :
    Except.map change outcome = .ok result ↔ ∃ middle, outcome = .ok middle ∧ change middle = result := by
  cases outcome with
  | ok middle => simp [Except.map]
  | error fault => simp [Except.map]

@[simp]
theorem mapError_eq_ok {ε δ : Type} {outcome : Except ε α} {reword : ε → δ} {result : α} :
    outcome.mapError reword = .ok result ↔ outcome = .ok result := by
  cases outcome <;> simp [Except.mapError]

/-- A success is the same seen from further out. -/
@[simp]
theorem under_eq_ok {step : Step} {outcome : Outcome α} {result : α} :
    Outcome.under step outcome = .ok result ↔ outcome = .ok result :=
  mapError_eq_ok

/-- A step applied to each element succeeds with the results that it has for each of them. -/
theorem mapM_eq_ok {step : α → Outcome β} {inputs : List α} {results : List β} :
    inputs.mapM step = .ok results ↔
      List.Forall₂ (fun input result => step input = .ok result) inputs results := by
  induction inputs generalizing results with
  | nil =>
      rw [List.mapM_nil, List.forall₂_nil_left_iff]
      exact ⟨fun done => (Except.ok.inj done).symm, fun empty => empty ▸ rfl⟩
  | cons input rest ih =>
      rw [List.mapM_cons, bind_eq_ok, List.forall₂_cons_left_iff]
      simp only [bind_eq_ok, ih, pure, Except.pure, Except.ok.injEq]
      constructor
      · rintro ⟨result, first, others, later, rfl⟩
        exact ⟨result, others, first, later, rfl⟩
      · rintro ⟨result, others, first, later, rfl⟩
        exact ⟨result, first, others, later, rfl⟩

/-- A step applied to each element succeeds if it does for each of them. -/
theorem exists_mapM_eq_ok {step : α → Outcome β} {inputs : List α}
    (each : ∀ input ∈ inputs, ∃ result, step input = .ok result) :
    ∃ results, inputs.mapM step = .ok results := by
  induction inputs with
  | nil => exact ⟨[], rfl⟩
  | cons input rest ih =>
      obtain ⟨result, first⟩ := each input List.mem_cons_self
      obtain ⟨results, later⟩ := ih fun other member => each other (List.mem_cons_of_mem _ member)
      refine ⟨result :: results, ?_⟩
      rw [List.mapM_cons, first, later]
      rfl

/-- A check of each element succeeds if it succeeds for each of them. -/
theorem forM_eq_ok {check : α → Outcome Unit} {inputs : List α} :
    inputs.forM check = .ok () ↔ ∀ input ∈ inputs, check input = .ok () := by
  induction inputs with
  | nil => simp [pure, Except.pure]
  | cons input rest ih =>
      change (check input >>= fun _ => rest.forM check) = .ok () ↔ _
      rw [bind_eq_ok, List.forall_mem_cons, ih]
      exact ⟨fun ⟨_, first, later⟩ => ⟨first, later⟩, fun ⟨first, later⟩ => ⟨(), first, later⟩⟩

/-- Every member of the second of two related lists is related to a member of the first. -/
theorem exists_of_forall₂ {Related : α → β → Prop} {inputs : List α} {results : List β}
    (related : List.Forall₂ Related inputs results) {result : β} (member : result ∈ results) :
    ∃ input ∈ inputs, Related input result := by
  induction related with
  | nil => cases member
  | cons first _ ih =>
      rcases List.mem_cons.mp member with rfl | later
      · exact ⟨_, List.mem_cons_self, first⟩
      · obtain ⟨input, inRest, found⟩ := ih later
        exact ⟨input, List.mem_cons_of_mem _ inRest, found⟩

/-- A relation of two lists follows from another one that holds of members of the first. -/
theorem forall₂_of_mem {Related Wanted : α → β → Prop} {inputs : List α} {results : List β}
    (related : List.Forall₂ Related inputs results)
    (step : ∀ input ∈ inputs, ∀ result, Related input result → Wanted input result) :
    List.Forall₂ Wanted inputs results := by
  have pairs := (List.forall₂_and_left inputs results).mpr ⟨fun input member => member, related⟩
  exact pairs.imp fun input result pair => step input pair.1 result pair.2

/-- A relation of two lists follows from another one that holds of members of both. -/
theorem forall₂_of_mem₂ {Related Wanted : α → β → Prop} {inputs : List α} {results : List β}
    (related : List.Forall₂ Related inputs results)
    (step : ∀ input ∈ inputs, ∀ result ∈ results, Related input result → Wanted input result) :
    List.Forall₂ Wanted inputs results := by
  have among : List.Forall₂ (fun result input => result ∈ results ∧ Related input result) results inputs :=
    forall₂_of_mem related.flip fun result member input pair => ⟨member, pair⟩
  exact forall₂_of_mem among.flip fun input member result pair => step input member result pair.1 pair.2

/-- Lists that are related to one list are related to each other. -/
theorem forall₂_comp {γ : Type} {First : α → β → Prop} {Second : β → γ → Prop} {Both : α → γ → Prop}
    {xs : List α} {ys : List β} {zs : List γ} (first : List.Forall₂ First xs ys)
    (second : List.Forall₂ Second ys zs) (both : ∀ x y z, First x y → Second y z → Both x z) :
    List.Forall₂ Both xs zs := by
  induction first generalizing zs with
  | nil =>
      cases second
      exact .nil
  | cons head _ ih =>
      cases second with
      | cons next later => exact .cons (both _ _ _ head next) (ih later)

/-- The pairs of two lists are related to a list that each of them is related to. -/
theorem forall₂_zip {γ : Type} {First : α → γ → Prop} {Second : β → γ → Prop}
    {xs : List α} {ys : List β} {zs : List γ} (first : List.Forall₂ First xs zs)
    (second : List.Forall₂ Second ys zs) :
    List.Forall₂ (fun pair z => First pair.1 z ∧ Second pair.2 z) (xs.zip ys) zs := by
  induction first generalizing ys with
  | nil =>
      cases second
      exact .nil
  | cons head _ ih =>
      cases second with
      | cons next later => exact .cons ⟨head, next⟩ (ih later)

/-- Entries that take the keys of other entries have the same keys. -/
theorem keys_eq_of_forall₂ {γ : Type} {inputs : List (γ × α)} {results : List (γ × β)}
    (related : List.Forall₂ (fun input result => result.1 = input.1) inputs results) :
    results.map Prod.fst = inputs.map Prod.fst := by
  rw [← List.forall₂_eq_eq_eq, List.forall₂_map_left_iff, List.forall₂_map_right_iff]
  exact related.flip

/-- Values put under the keys of the entries that they come from. -/
theorem forall₂_zip_keys {γ κ : Type} {First : α → κ × β → Prop} {Second : κ × β → γ → Prop}
    {inputs : List α} {named : List (κ × β)} {values : List γ}
    (first : List.Forall₂ First inputs named) (second : List.Forall₂ Second named values) :
    List.Forall₂ (fun input entry => ∃ other, First input other ∧ entry.1 = other.1 ∧
      Second other entry.2) inputs ((named.map Prod.fst).zip values) := by
  induction first generalizing values with
  | nil => exact .nil
  | cons head _ ih =>
      cases second with
      | cons next later => exact .cons ⟨_, head, rfl, next⟩ (ih later)

/-- A list with a member that lacks a property has a first such member. -/
theorem exists_first {Holds : α → Prop} {inputs : List α} (lacking : ∃ input ∈ inputs, ¬ Holds input) :
    ∃ before input after, inputs = before ++ input :: after ∧ (∀ other ∈ before, Holds other) ∧
      ¬ Holds input := by
  classical
  cases found : inputs.find? fun input => decide (¬ Holds input) with
  | none =>
      obtain ⟨input, member, lacks⟩ := lacking
      exact absurd lacks (by simpa using List.find?_eq_none.mp found input member)
  | some input =>
      obtain ⟨lacks, before, after, split, earlier⟩ := List.find?_eq_some_iff_append.mp found
      exact ⟨before, input, after, split, fun other member => by simpa using earlier other member,
        of_decide_eq_true lacks⟩

/-! ### Failures -/

/-- Of two steps the first fails, or the second one on the result of the first. -/
theorem bind_eq_error {first : Outcome α} {next : α → Outcome β} {fault : Fault} :
    first >>= next = .error fault ↔
      first = .error fault ∨ ∃ middle, first = .ok middle ∧ next middle = .error fault := by
  cases first with
  | ok middle => simp [bind, Except.bind]
  | error fault => simp [bind, Except.bind]

@[simp]
theorem map_eq_error {outcome : Outcome α} {change : α → β} {fault : Fault} :
    Except.map change outcome = .error fault ↔ outcome = .error fault := by
  cases outcome with
  | ok middle => simp [Except.map]
  | error fault => simp [Except.map]

/-- A reworded failure comes from a failure. -/
theorem mapError_eq_error {ε δ : Type} {outcome : Except ε α} {reword : ε → δ} {failure : δ} :
    outcome.mapError reword = .error failure ↔ ∃ inner, outcome = .error inner ∧ reword inner = failure := by
  cases outcome <;> simp [Except.mapError]

/-- A failure seen from further out is the failure, located by the step. -/
@[simp]
theorem under_eq_error {step : Step} {outcome : Outcome α} {fault : Fault} :
    Outcome.under step outcome = .error fault ↔
      ∃ inner, outcome = .error inner ∧ inner.under step = fault := by
  cases outcome <;> simp [Outcome.under, Except.mapError]

/-- A step applied to each element fails at the first element for which it does. -/
theorem mapM_eq_error {step : α → Outcome β} {inputs : List α} {fault : Fault} :
    inputs.mapM step = .error fault ↔
      ∃ before input after, inputs = before ++ input :: after ∧
        (∀ other ∈ before, ∃ result, step other = .ok result) ∧ step input = .error fault := by
  constructor
  · intro failed
    induction inputs with
    | nil => cases failed
    | cons input rest ih =>
        rw [List.mapM_cons] at failed
        rcases bind_eq_error.mp failed with first | ⟨result, first, failed⟩
        · exact ⟨[], input, rest, rfl, List.forall_mem_nil _, first⟩
        · rcases bind_eq_error.mp failed with later | ⟨results, -, done⟩
          · obtain ⟨before, other, after, rfl, earlier, found⟩ := ih later
            refine ⟨input :: before, other, after, rfl, ?_, found⟩
            exact List.forall_mem_cons.mpr ⟨⟨result, first⟩, earlier⟩
          · cases done
  · rintro ⟨before, input, after, rfl, earlier, found⟩
    induction before with
    | nil =>
        rw [List.nil_append, List.mapM_cons, found]
        rfl
    | cons other before ih =>
        obtain ⟨⟨result, first⟩, earlier⟩ := List.forall_mem_cons.mp earlier
        rw [List.cons_append, List.mapM_cons, first, ih earlier]
        rfl

/-- A step applied to each element fails as it does for one of them. -/
theorem exists_of_mapM_eq_error {step : α → Outcome β} {inputs : List α} {fault : Fault}
    (failed : inputs.mapM step = .error fault) : ∃ input ∈ inputs, step input = .error fault := by
  obtain ⟨before, input, after, rfl, -, found⟩ := mapM_eq_error.mp failed
  exact ⟨input, List.mem_append_right before List.mem_cons_self, found⟩

/-- A check of each element fails at the first element for which it does. -/
theorem forM_eq_error {check : α → Outcome Unit} {inputs : List α} {fault : Fault} :
    inputs.forM check = .error fault ↔
      ∃ before input after, inputs = before ++ input :: after ∧
        (∀ other ∈ before, check other = .ok ()) ∧ check input = .error fault := by
  induction inputs with
  | nil => simp [pure, Except.pure]
  | cons first rest ih =>
      change (check first >>= fun _ => rest.forM check) = .error fault ↔ _
      rw [bind_eq_error, ih]
      constructor
      · rintro (failed | ⟨_, passed, before, input, after, rfl, earlier, failed⟩)
        · exact ⟨[], first, rest, rfl, List.forall_mem_nil _, failed⟩
        · exact ⟨first :: before, input, after, rfl, List.forall_mem_cons.mpr ⟨passed, earlier⟩, failed⟩
      · rintro ⟨before, input, after, split, earlier, failed⟩
        rcases List.cons_eq_append_iff.mp split with ⟨rfl, same⟩ | ⟨others, rfl, rfl⟩
        · exact .inl ((List.cons.inj same).1 ▸ failed)
        · obtain ⟨passed, earlier⟩ := List.forall_mem_cons.mp earlier
          exact .inr ⟨(), passed, others, input, after, rfl, earlier, failed⟩

/-- A check of each element fails as it does for one of them. -/
theorem exists_of_forM_eq_error {check : α → Outcome Unit} {inputs : List α} {fault : Fault}
    (failed : inputs.forM check = .error fault) : ∃ input ∈ inputs, check input = .error fault := by
  obtain ⟨before, input, after, rfl, -, found⟩ := forM_eq_error.mp failed
  exact ⟨input, List.mem_append_right before List.mem_cons_self, found⟩

/-! ### Two runs of one computation -/

/-- Unless an outcome is endless, another one is the same: a success with a related result, or a failure with
    the same fault. -/
inductive Persists (Related : α → β → Prop) : Outcome α → Outcome β → Prop
  | endless (second : Outcome β) : Persists Related (.error .endless) second
  | ok {result : α} {other : β} (related : Related result other) : Persists Related (.ok result) (.ok other)
  | error (fault : Fault) : Persists Related (.error fault) (.error fault)

namespace Persists

variable {γ δ : Type} {Related : α → β → Prop} {Wanted : γ → δ → Prop} {first : Outcome α}
  {second : Outcome β}

theorem refl (outcome : Outcome α) : Persists Eq outcome outcome := by
  cases outcome with
  | ok result => exact .ok rfl
  | error fault => exact .error fault

theorem eq_of_ne_endless {first second : Outcome α} (persists : Persists Eq first second)
    (ends : first ≠ .error .endless) : second = first := by
  cases persists with
  | endless => exact absurd rfl ends
  | ok related => exact congrArg _ related.symm
  | error => rfl

/-- What is endless later was so before. -/
theorem endless_of {first second : Outcome α} (persists : Persists Eq first second)
    (endless : second = .error .endless) : first = .error .endless := by
  cases persists with
  | endless => rfl
  | ok related => exact related ▸ endless
  | error => exact endless

theorem trans {third : Outcome α} {first second : Outcome α} (before : Persists Eq first second)
    (after : Persists Eq second third) : Persists Eq first third := by
  cases before with
  | endless => exact .endless _
  | ok related => exact related ▸ after
  | error => exact after

/-- Outcomes that persist in each other are equal. -/
theorem antisymm {first second : Outcome α} (forth : Persists Eq first second)
    (back : Persists Eq second first) : first = second := by
  by_cases ends : first = .error .endless
  · by_cases endsToo : second = .error .endless
    · exact ends.trans endsToo.symm
    · exact back.eq_of_ne_endless endsToo
  · exact (forth.eq_of_ne_endless ends).symm

theorem bind (before : Persists Related first second) {next : α → Outcome γ} {other : β → Outcome δ}
    (after : ∀ a b, Related a b → Persists Wanted (next a) (other b)) :
    Persists Wanted (first >>= next) (second >>= other) := by
  cases before with
  | endless => exact .endless _
  | ok related => exact after _ _ related
  | error fault => exact .error fault

theorem map (before : Persists Related first second) {change : α → γ} {other : β → δ}
    (after : ∀ a b, Related a b → Wanted (change a) (other b)) :
    Persists Wanted (Except.map change first) (Except.map other second) := by
  cases before with
  | endless => exact .endless _
  | ok related => exact .ok (after _ _ related)
  | error fault => exact .error fault

theorem under {step : Step} (inner : Persists Related first second) :
    Persists Related (Outcome.under step first) (Outcome.under step second) := by
  cases inner with
  | endless => exact .endless _
  | ok related => exact .ok related
  | error fault => exact .error _

/-- Steps that persist are taken for each of two lists of related inputs. -/
theorem mapM {step : α → Outcome γ} {other : β → Outcome δ} {inputs : List α} {others : List β}
    (inputsRelated : List.Forall₂ Related inputs others)
    (each : ∀ a b, Related a b → Persists Wanted (step a) (other b)) :
    Persists (List.Forall₂ Wanted) (inputs.mapM step) (others.mapM other) := by
  induction inputsRelated with
  | nil => exact ok .nil
  | cons first _ ih =>
      rw [List.mapM_cons, List.mapM_cons]
      apply bind (each _ _ first)
      intro result found same
      exact bind ih fun results rest later => ok (.cons same later)

/-- The same with equal results. -/
theorem mapM_eq {step : α → Outcome γ} {other : β → Outcome γ} {inputs : List α} {others : List β}
    (inputsRelated : List.Forall₂ Related inputs others)
    (each : ∀ a b, Related a b → Persists Eq (step a) (other b)) :
    Persists Eq (inputs.mapM step) (others.mapM other) := by
  have persists := mapM inputsRelated each
  rwa [List.forall₂_eq_eq_eq] at persists

/-- Checks that persist are made of each of two lists of related inputs. -/
theorem forM {check : α → Outcome Unit} {other : β → Outcome Unit} {inputs : List α} {others : List β}
    (inputsRelated : List.Forall₂ Related inputs others)
    (each : ∀ a b, Related a b → Persists Eq (check a) (other b)) :
    Persists Eq (inputs.forM check) (others.forM other) := by
  induction inputsRelated with
  | nil => exact refl _
  | @cons a b inputs others first _ ih =>
      change Persists Eq (check a >>= fun _ => inputs.forM check) (other b >>= fun _ => others.forM other)
      exact bind (each a b first) fun _ _ _ => ih

end Persists

/-- Two outcomes agree: both are successes, with related results, or both are failures. -/
inductive Agrees (Related : α → β → Prop) : Outcome α → Outcome β → Prop
  | ok {result : α} {other : β} (related : Related result other) : Agrees Related (.ok result) (.ok other)
  | error (fault another : Fault) : Agrees Related (.error fault) (.error another)

namespace Agrees

variable {γ δ : Type} {Related : α → β → Prop} {Wanted : γ → δ → Prop} {first : Outcome α}
  {second : Outcome β}

theorem succeeds_iff (agree : Agrees Related first second) :
    (∃ result, first = .ok result) ↔ ∃ other, second = .ok other := by
  cases agree with
  | ok => simp
  | error => simp

theorem related (agree : Agrees Related first second) {result : α} {other : β}
    (success : first = .ok result) (another : second = .ok other) : Related result other := by
  cases agree with
  | ok related =>
      cases success
      cases another
      exact related
  | error => cases success

theorem imp {Weaker : α → β → Prop} (agree : Agrees Related first second)
    (weaker : ∀ a b, first = .ok a → second = .ok b → Related a b → Weaker a b) :
    Agrees Weaker first second := by
  cases agree with
  | ok related => exact .ok (weaker _ _ rfl rfl related)
  | error fault another => exact .error fault another

/-- Outcomes agree if the successes of each are matched by successes of the other. -/
theorem ofSuccesses (forward : ∀ result, first = .ok result → ∃ other, second = .ok other ∧ Related result other)
    (back : ∀ other, second = .ok other → ∃ result, first = .ok result) : Agrees Related first second := by
  cases taken : first with
  | ok result =>
      obtain ⟨other, rfl, related⟩ := forward result taken
      exact .ok related
  | error fault =>
      cases again : second with
      | ok other =>
          obtain ⟨result, success⟩ := back other again
          cases taken.symm.trans success
      | error another => exact .error fault another

/-- An outcome agrees with itself if its result is related to itself. -/
theorem self {Same : α → α → Prop} (same : ∀ result, first = .ok result → Same result result) :
    Agrees Same first first := by
  cases first with
  | ok result => exact .ok (same result rfl)
  | error fault => exact .error fault fault

theorem bind (before : Agrees Related first second) {next : α → Outcome γ} {other : β → Outcome δ}
    (after : ∀ a b, Related a b → Agrees Wanted (next a) (other b)) :
    Agrees Wanted (first >>= next) (second >>= other) := by
  cases before with
  | ok related => exact after _ _ related
  | error fault another => exact .error fault another

theorem map (before : Agrees Related first second) {change : α → γ} {other : β → δ}
    (after : ∀ a b, Related a b → Wanted (change a) (other b)) :
    Agrees Wanted (Except.map change first) (Except.map other second) := by
  cases before with
  | ok related => exact .ok (after _ _ related)
  | error fault another => exact .error fault another

theorem under {step other : Step} (inner : Agrees Related first second) :
    Agrees Related (Outcome.under step first) (Outcome.under other second) := by
  cases inner with
  | ok related => exact .ok related
  | error => exact .error _ _

theorem trans {μ : Type} {Next : β → μ → Prop} {third : Outcome μ}
    (agree : Agrees Related first second) (further : Agrees Next second third) :
    Agrees (Relation.Comp Related Next) first third := by
  cases agree with
  | ok related =>
      cases further with
      | ok next => exact .ok ⟨_, related, next⟩
  | error => cases further with
      | error => exact .error _ _

/-- Steps that agree are taken for each of two lists. -/
theorem mapM {step : α → Outcome γ} {other : β → Outcome δ} {inputs : List α} {others : List β}
    (each : List.Forall₂ (fun a b => Agrees Wanted (step a) (other b)) inputs others) :
    Agrees (List.Forall₂ Wanted) (inputs.mapM step) (others.mapM other) := by
  induction each with
  | nil => exact .ok .nil
  | cons head _ ih =>
      rw [List.mapM_cons, List.mapM_cons]
      apply bind head
      intro result found same
      exact bind ih fun results rest later => .ok (.cons same later)

/-- The order in which steps are taken does not matter to their success, nor to their results but for
    the order. -/
theorem mapM_perm {step : α → Outcome γ} {inputs others : List α} (perm : inputs.Perm others) :
    Agrees List.Perm (inputs.mapM step) (others.mapM step) := by
  have forward {inputs others : List α} (perm : inputs.Perm others) {results : List γ}
      (success : inputs.mapM step = .ok results) :
      ∃ again, others.mapM step = .ok again ∧ results.Perm again := by
    have exchanged := List.perm_comp_forall₂ perm.symm (mapM_eq_ok.mp success)
    obtain ⟨again, each, back⟩ := exchanged
    exact ⟨again, mapM_eq_ok.mpr each, back.symm⟩
  cases taken : inputs.mapM step with
  | ok results =>
      obtain ⟨again, success, permuted⟩ := forward perm taken
      exact success ▸ .ok permuted
  | error fault =>
      cases again : others.mapM step with
      | ok results =>
          obtain ⟨_, success, -⟩ := forward perm.symm again
          cases taken.symm.trans success
      | error another => exact .error fault another

end Agrees

end Crosswalk.Outcome
