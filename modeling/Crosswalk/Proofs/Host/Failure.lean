/-
Module: Crosswalk.Proofs.Host.Failure
Purpose: Which failures of a conversion are not reported as conversion failures. A key that converts to a
  string without having a text is taken for senseless, a number may be too large or too long to write, and
  reading a table that contains itself may never end; nothing else escapes where a type without dynamic parts
  is wanted.
Main exports: Tree.Escapes, Tree.fault_of_convert, Host.Escapes, Host.fault_of_convert,
  Host.convert_eq_endless, ReportsFailures, reportsFailures_iff
-/
import Crosswalk.Proofs.Host.Reach

namespace Crosswalk

namespace Tree

/-! ### Failures that escape -/

/-- The failures that are not conversion failures, with their reasons. -/
inductive Escapes (tree : Tree) : Fault → Prop
  /-- A table has a key without text. -/
  | textless {entries : List (Tree × Tree)} {entry : Tree × Tree} (inside : Within (.table entries) tree)
      (member : entry ∈ entries) (textless : entry.1.LacksText) :
      Escapes tree (.invalid .notAKnownString)
  /-- A wrapped value has a number that cannot be written. -/
  | unwritable {payload : Value} {path : Path} {amount : Decimal} {fault : Fault}
      (inside : Within (.wrapped payload) tree) (follows : payload.follow? path = some (.number amount))
      (unwritable : amount.Unwritable fault) : Escapes tree fault
  /-- A table lies inside itself. -/
  | endless (inside : Within .endless tree) : Escapes tree .endless

/-- What escapes from a part escapes from the whole. -/
theorem Escapes.outward {tree part : Tree} {fault : Fault}
    (outward : ∀ inner, Within inner part → Within inner tree) (escapes : part.Escapes fault) :
    tree.Escapes fault := by
  cases escapes with
  | textless inside member textless => exact .textless (outward _ inside) member textless
  | unwritable inside follows unwritable => exact .unwritable (outward _ inside) follows unwritable
  | endless inside => exact .endless (outward _ inside)

/-- A failure that escapes has no path. -/
theorem Escapes.under_eq {tree : Tree} {fault : Fault} (escapes : tree.Escapes fault) (step : Step) :
    fault.under step = fault := by
  cases escapes with
  | unwritable _ _ unwritable => exact unwritable.under_eq step
  | textless | endless => rfl

/-- Conversion to a type without dynamic parts, or to the dynamic type, fails with a conversion failure
    or with one that escapes. -/
theorem fault_of_convert {tree : Tree} (payloads : tree.All Value.WellFormed) {want : Ty}
    (outer : want.WellFormed) (settled : want.hasDynamic = false ∨ want = .dynamic) {fault : Fault}
    (failed : tree.convert want = .error fault) : fault.IsConversion ∨ tree.Escapes fault := by
  induction tree using Tree.induct generalizing want fault with
  | wrapped value =>
      cases payloads with
      | wrapped holds =>
          rw [convert_wrapped] at failed
          rcases settled with static | rfl
          · rcases Value.fault_of_convertTo outer static holds failed with
              conversion | ⟨path, amount, follows, unwritable⟩
            · exact .inl conversion
            · exact .inr (.unwritable .here follows unwritable)
          · rw [Value.convert_dynamic] at failed
            cases failed
  | table entries ih =>
      cases fails_of_convert payloads outer failed with
      | own cause => exact .inl ⟨[], cause, rfl⟩
      | unwritable isNumber => cases isNumber
      | endless isEndless => cases isEndless
      | undetermined dynamic partly => exact absurd (settled.resolve_left (by simp [dynamic])) partly
      | @key _ entry _ isTable member noText =>
          cases isTable
          cases payloads with
          | table keys _ =>
              rcases keyText_eq_error (keys entry member) noText with
                rfl | ⟨rfl, textless⟩ | ⟨other, keyFailed⟩
              · exact .inl ⟨[], _, rfl⟩
              · exact .inr (.textless .here member textless)
              · have escapes := ((ih entry member).1 (keys entry member) .string (.inl rfl)
                  keyFailed).resolve_left other
                exact .inr (escapes.outward fun _ => .key member)
      | @part step part asked inner leads wanted partFailed =>
          obtain ⟨entry, found, rfl⟩ := Option.map_eq_some_iff.mp leads
          have member := List.mem_of_find?_eq_some found
          have settledPart : asked.hasDynamic = false ∨ asked = .dynamic := by
            rcases settled with static | rfl
            · exact Ty.part?_static static wanted
            · cases wanted
              exact .inr rfl
          cases payloads with
          | table _ values =>
              rcases (ih entry member).2 (values entry member) (Ty.part?_wellFormed outer wanted)
                settledPart partFailed with conversion | escapes
              · exact .inl (Fault.isConversion_under.mpr conversion)
              · rw [escapes.under_eq step]
                exact .inr (escapes.outward fun _ => .value member)
  | _ =>
      cases fails_of_convert payloads outer failed with
      | own cause => exact .inl ⟨[], cause, rfl⟩
      | key isTable => cases isTable
      | part leads => cases leads
      | unwritable isNumber => cases isNumber
      | endless isEndless => exact .inr (.endless (isEndless ▸ .here))
      | undetermined dynamic partly => exact absurd (settled.resolve_left (by simp [dynamic])) partly

/-- A conversion of a whole tree ends. -/
theorem convert_ne_endless {tree : Tree} (whole : tree.Whole) (payloads : tree.All Value.WellFormed) {want : Ty}
    (outer : want.WellFormed) (settled : want.hasDynamic = false ∨ want = .dynamic) :
    tree.convert want ≠ .error .endless := by
  intro failed
  rcases fault_of_convert payloads outer settled failed with ⟨_, _, ⟨⟩⟩ | escapes
  cases escapes with
  | unwritable _ _ unwritable => exact unwritable.ne_endless rfl
  | endless inside => exact whole inside

end Tree

/-! ### Host values -/

namespace Host

/-- A key of a table inside a value. -/
def HasKey (host : Host) (value key : HostValue) : Prop :=
  ∃ ref, host.Within value (.table ref) ∧ ∃ entry ∈ (host.tableAt ref).items, entry.1 = key

/-- A key that converts to a string without having a text: nil, which is no key of a table, or a wrapped
    value without data. -/
def LacksText (host : Host) (key : HostValue) : Prop :=
  key = .nil ∨ ∃ payload, host.unwrap key = some payload ∧ payload.isAbsent = true ∧
    payload.type.canConvert .string = true

/-- The failures that are not conversion failures, with their reasons. -/
inductive Escapes (host : Host) (value : HostValue) : Fault → Prop
  /-- A table has a key without text. -/
  | textless {key : HostValue} (isKey : host.HasKey value key) (textless : host.LacksText key) :
      Escapes host value (.invalid .notAKnownString)
  /-- A wrapped value has a number that cannot be written. -/
  | unwritable {object : HostValue} {payload : Value} {path : Path} {amount : Decimal} {fault : Fault}
      (inside : host.Within value object) (wraps : host.unwrap object = some payload)
      (follows : payload.follow? path = some (.number amount)) (unwritable : amount.Unwritable fault) :
      Escapes host value fault
  /-- A table inside the value contains itself. -/
  | endless (cyclic : ¬ host.Acyclic value) : Escapes host value .endless

variable {host : Host}

theorem lacksText_of_treeTo {depth : Nat} {key : HostValue} (textless : (host.treeTo depth key).LacksText) :
    host.LacksText key := by
  generalize seen : host.treeTo depth key = tree at textless
  cases tree with
  | nil => exact .inl (treeTo_eq_nil.mp seen)
  | wrapped payload => exact .inr ⟨payload, treeTo_eq_wrapped.mp seen, textless⟩
  | _ => cases textless

theorem escapes_of_treeTo {depth : Nat} (deep : host.tables.size < depth) {value : HostValue} {fault : Fault}
    (escapes : (host.treeTo depth value).Escapes fault) : host.Escapes value fault := by
  cases escapes with
  | endless inside =>
      refine .endless fun acyclic => ?_
      exact whole_of_acyclic acyclic ((card_tablesWithin_le host value).trans_lt deep) inside
  | textless inside member textless =>
      obtain ⟨object, smaller, further, isTable⟩ := exists_within_of_treeTo inside
      obtain ⟨ref, least, rfl, original, inItems, rfl⟩ := exists_entry_of_treeTo isTable member
      exact .textless ⟨ref, further, original, inItems, rfl⟩ (lacksText_of_treeTo textless)
  | unwritable inside follows unwritable =>
      obtain ⟨object, smaller, further, wraps⟩ := exists_within_of_treeTo inside
      exact .unwritable further (treeTo_eq_wrapped.mp wraps) follows unwritable

/-- Conversion of a host value to a type without dynamic parts fails with a conversion failure or with one
    that escapes. -/
theorem fault_of_convert (payloads : host.Carries Value.WellFormed) {value : HostValue} {want : Ty}
    (outer : want.WellFormed) (static : want.hasDynamic = false) {fault : Fault}
    (failed : host.convert value want = .error fault) :
    fault.IsConversion ∨ host.Escapes value fault :=
  (Tree.fault_of_convert (treeTo_all payloads _ value) outer (.inl static) failed).imp_right
    (escapes_of_treeTo (by omega))

/-- A conversion that does not ask for parts is endless exactly if inferring the type of the value is. -/
theorem convert_eq_endless (payloads : host.Carries Value.WellFormed) {value : HostValue} {want : Ty}
    (flat : want.nesting = 0) (notTruth : want ≠ .bool) :
    host.convert value want = .error .endless ↔ host.implied value = .error .endless := by
  have same : host.convert value want = (host.tree value).convert want := by rw [convert, flat]; rfl
  rw [same]
  constructor
  · intro endless
    have outer : want.WellFormed ∧ (want.hasDynamic = false ∨ want = .dynamic) := by
      rcases Ty.eq_of_nesting flat with rfl | rfl | rfl | rfl
      all_goals exact ⟨by constructor, by simp [Ty.hasDynamic]⟩
    have cut : ¬ (host.tree value).Whole := fun whole =>
      absurd endless (Tree.convert_ne_endless whole (tree_all payloads value) outer.1 outer.2)
    cases implied : host.implied value with
    | ok ty => exact absurd (Tree.whole_of_implied implied) cut
    | error fault =>
        have failed := Tree.convert_of_implied_error (Tree.kind_of_not_whole cut) implied flat notTruth
        exact congrArg _ (Except.error.inj (failed.symm.trans endless))
  · intro endless
    have isTable : (host.tree value).kind = .table := by
      cases tree : host.tree value with
      | table | endless => rfl
      | _ =>
          rw [implied, tree] at endless
          cases endless
    exact Tree.convert_of_implied_error isTable endless flat notTruth

end Host

/-! ### Classes of values whose failures are reported -/

/-- Conversions to types without dynamic parts succeed or report conversion failures, whatever acyclic value
    they are of, as long as its wrapped keys and the numbers in its wrapped values are of a class. -/
def ReportsFailures (Key : Value → Prop) (Amount : Decimal → Prop) : Prop :=
  ∀ (host : Host) (value : HostValue) (want : Ty), host.Carries Value.WellFormed →
    host.Acyclic value → want.WellFormed → want.hasDynamic = false →
    (∀ key, host.HasKey value key →
      key ≠ .nil ∧ ∀ payload, host.unwrap key = some payload → Key payload) →
    (∀ object payload path amount, host.Within value object → host.unwrap object = some payload →
      payload.follow? path = some (.number amount) → Amount amount) →
    (∃ result, host.convert value want = .ok result) ∨
      ∃ path cause, host.convert value want = .error (.conversion path cause)

/-- A host that wraps a value, and has it as the only key of a table. -/
def Host.keyed (payload : Value) : Host :=
  { Host.start {} with
    tables := (Host.start {}).tables.push { entries := [(.userdata ⟨0⟩, .boolean true)] }
    userdata := #[⟨.structural payload, some Host.wrappedMetatable⟩] }

namespace Host

variable {payload : Value}

theorem keyed_unwrap {object : HostValue} {held : Value}
    (wraps : (keyed payload).unwrap object = some held) : held = payload :=
  carries_of_sole rfl object held wraps

theorem keyed_contains {inner : HostValue} (contains : (keyed payload).Contains (.table ⟨2⟩) inner) :
    inner = .userdata ⟨0⟩ ∨ inner = .boolean true := by
  obtain ⟨_, ⟨⟩, entry, member, side⟩ := contains
  cases List.mem_singleton.mp member
  exact side

theorem keyed_acyclic : (keyed payload).Acyclic (.table ⟨2⟩) := by
  refine acyclic_of_acc (.intro _ fun inner contains => ?_)
  rcases keyed_contains contains with rfl | rfl <;> exact acc_of_leaf nofun

/-- The only key inside the table is the wrapped value. -/
theorem keyed_hasKey {key : HostValue} (isKey : (keyed payload).HasKey (.table ⟨2⟩) key) :
    key = .userdata ⟨0⟩ := by
  obtain ⟨ref, inside, entry, member, rfl⟩ := isKey
  have same : ref = ⟨2⟩ := by
    rcases inside.cases_head with same | ⟨inner, contains, further⟩
    · exact (HostValue.table.inj same).symm
    · have leaf : ∀ ref, inner ≠ .table ref := by
        rcases keyed_contains contains with rfl | rfl <;> exact nofun
      exact absurd (eq_of_within leaf further).symm (leaf ref)
  subst same
  cases List.mem_singleton.mp member
  rfl

/-- The conversion of the table to a map has no text for the key. -/
theorem keyed_convert (textless : payload.isAbsent = true ∧ payload.type.canConvert .string = true) :
    (keyed payload).convert (.table ⟨2⟩) (.map .bool) = .error (.invalid .notAKnownString) := by
  have noText : (Tree.wrapped payload).keyText (Tree.wrapped payload).read =
      .error (.invalid .notAKnownString) := Tree.keyText_of_lacksText textless
  change Reading.toMap .bool (Tree.readEntries [(.wrapped payload, .boolean true)]) = _
  rw [Tree.readEntries, noText]
  rfl

end Host

/-- A class with a key that converts to a string without having a text lets a failure escape. -/
theorem not_textless_of_reportsFailures {Key : Value → Prop} {Amount : Decimal → Prop}
    (reports : ReportsFailures Key Amount) {payload : Value} (wellFormed : payload.WellFormed)
    (isKey : Key payload) :
    ¬ (payload.isAbsent = true ∧ payload.type.canConvert .string = true) := by
  intro textless
  have leaf : ∀ step, payload.part? step = none := by
    intro step
    cases payload with
    | null | unknown => rfl
    | _ => cases textless.1
  have noNumber (path : Path) (amount : Decimal) : payload.follow? path ≠ some (.number amount) := by
    intro follows
    cases Value.eq_of_follow? leaf follows
    cases textless.1
  have escapes := Host.keyed_convert textless
  rcases reports (Host.keyed payload) (.table ⟨2⟩) (.map .bool)
    (fun _ _ wraps => Host.keyed_unwrap wraps ▸ wellFormed) Host.keyed_acyclic (.map .bool) rfl
    (fun key inside => Host.keyed_hasKey inside ▸
      ⟨nofun, fun _ wraps => Host.keyed_unwrap wraps ▸ isKey⟩)
    (fun _ _ path amount _ wraps follows =>
      absurd (Host.keyed_unwrap wraps ▸ follows) (noNumber path amount)) with
    ⟨result, converted⟩ | ⟨path, cause, converted⟩
  · cases escapes.symm.trans converted
  · cases escapes.symm.trans converted

/-- A class with a number that cannot be written lets a failure escape. -/
theorem not_unwritable_of_reportsFailures {Key : Value → Prop} {Amount : Decimal → Prop}
    (reports : ReportsFailures Key Amount) {amount : Decimal} (ofClass : Amount amount) (fault : Fault) :
    ¬ amount.Unwritable fault := by
  intro unwritable
  have escapes : (Host.keyed (.number amount)).convert (.userdata ⟨0⟩) .string = .error fault := by
    obtain ⟨error, failed, rfl⟩ := unwritable
    change (Tree.wrapped (.number amount)).convert .string = _
    rw [Tree.convert_wrapped]
    change (amount.render.mapError Fault.ofWriting).map Value.ofText = _
    rw [failed]
    rfl
  have leaf : ∀ ref, HostValue.userdata ⟨0⟩ ≠ .table ref := nofun
  rcases reports (Host.keyed (.number amount)) (.userdata ⟨0⟩) .string
    (fun _ _ wraps => Host.keyed_unwrap wraps ▸ .number amount)
    (Host.acyclic_of_acc (Host.acc_of_leaf leaf)) .string rfl
    (fun key ⟨ref, inside, _⟩ => absurd (Host.eq_of_within leaf inside).symm (leaf ref))
    (fun object _ path other _ wraps follows => by
      rw [Host.keyed_unwrap wraps] at follows
      cases Value.eq_of_follow? (by intro step; cases step <;> rfl) follows
      exact ofClass) with
    ⟨result, converted⟩ | ⟨path, cause, converted⟩
  · cases escapes.symm.trans converted
  · cases escapes.symm.trans converted
    exact unwritable.not_isConversion ⟨path, cause, rfl⟩

/-- Failures are reported exactly for the classes without keys that convert to a string but have no text,
    and without numbers that cannot be written. -/
theorem reportsFailures_iff {Key : Value → Prop} {Amount : Decimal → Prop} :
    ReportsFailures Key Amount ↔
      (∀ payload, payload.WellFormed → Key payload →
        ¬ (payload.isAbsent = true ∧ payload.type.canConvert .string = true)) ∧
      ∀ amount, Amount amount → ∀ fault, ¬ amount.Unwritable fault := by
  constructor
  · intro reports
    exact ⟨fun _ => not_textless_of_reportsFailures reports,
      fun _ => not_unwritable_of_reportsFailures reports⟩
  · rintro ⟨texts, numbers⟩ host value want payloads acyclic outer static keys amounts
    cases converted : host.convert value want with
    | ok result => exact .inl ⟨result, rfl⟩
    | error fault =>
        rcases Host.fault_of_convert payloads outer static converted with ⟨path, cause, rfl⟩ | escapes
        · exact .inr ⟨path, cause, rfl⟩
        · cases escapes with
          | textless isKey textless =>
              rcases textless with isNil | ⟨payload, wraps, textless⟩
              · exact absurd isNil (keys _ isKey).1
              · exact absurd textless (texts payload (payloads _ _ wraps) ((keys _ isKey).2 _ wraps))
          | unwritable inside wraps follows unwritable =>
              exact absurd unwritable (numbers _ (amounts _ _ _ _ inside wraps follows) fault)
          | endless cyclic => exact absurd acyclic cyclic

/-- The conversion of a table to a map fails on a wrapped null string among its keys, and the failure is not
    a conversion failure. -/
theorem convert_textlessKey :
    (Host.keyed (.null .string)).convert (.table ⟨2⟩) (.map .number) =
        .error (.invalid .notAKnownString) ∧
      ¬ (Fault.invalid .notAKnownString).IsConversion :=
  ⟨rfl, by simp [Fault.IsConversion]⟩

end Crosswalk
