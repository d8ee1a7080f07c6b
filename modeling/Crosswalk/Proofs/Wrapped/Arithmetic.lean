/-
Module: Crosswalk.Proofs.Wrapped.Arithmetic
Purpose: Arithmetic on wrapped numbers is structural arithmetic. An expression over numbers and texts of which
  every operator has a wrapped number below it evaluates in the host, where each operator dispatches to a
  handler and each result is wrapped anew, to what it denotes structurally; where that fails, so does the host,
  with the message of the same failure.
Main exports: Expression, Expression.evaluate, Expression.denote, Host.IsOperand, Host.Extends,
  Expression.evaluate_denotes
-/
import Crosswalk.Proofs.Decimal.Range
import Crosswalk.Proofs.Wrapped.Dispatch

namespace Crosswalk

/-! ### Expressions -/

/-- An expression over host values. -/
inductive Expression where
  | leaf (object : HostValue)
  | binary (operator : Arithmetic) (left right : Expression)
  | minus (operand : Expression)

/-- The structural operation of an operator. -/
def Arithmetic.onValues : Arithmetic → Value → Value → Outcome Value
  | .add => Value.add
  | .sub => Value.subtract
  | .mul => Value.multiply
  | .div => Value.divide
  | .mod => Value.modulo

namespace Expression

/-- The value of an expression in the host, operands from left to right. -/
def evaluate : Expression → Machine HostValue
  | .leaf object => pure object
  | .binary operator left right => do
    let a ← left.evaluate
    let b ← right.evaluate
    Host.arithmetic operator a b
  | .minus operand => do
    Host.unaryMinus (← operand.evaluate)

/-- What an expression denotes: a leaf itself, and an operator the result of the structural operation on its
    operands, which are converted to numbers when it is applied. -/
def denote (host : Host) : Expression → Outcome Tree
  | .leaf object => .ok (host.tree object)
  | .binary operator left right => do
    let a ← left.denote host
    let b ← right.denote host
    let x ← a.convert .number
    let y ← b.convert .number
    .ok (.wrapped (← operator.onValues x y))
  | .minus operand => do
    let a ← operand.denote host
    let x ← a.convert .number
    .ok (.wrapped (← x.negate))

/-- A leaf of an expression is a wrapped value. -/
def HasWrapped (host : Host) : Expression → Prop
  | .leaf object => (host.unwrap object).isSome
  | .binary _ left right => left.HasWrapped host ∨ right.HasWrapped host
  | .minus operand => operand.HasWrapped host

end Expression

/-! ### Operands -/

/-- The text of a hexadecimal numeral, or what begins like one. Blanks, capitals and a sign do not matter. -/
def Binary64.HasHexadecimalPrefix (text : String) : Prop :=
  ∃ digits, (Numeral.takeSign (Text.lower (Text.strip text.toList))).2 = '0' :: 'x' :: digits

/-- The numbers that structural arithmetic takes and gives: known ones in its range, and unknown ones. -/
inductive Value.IsAmount : Value → Prop
  | known {amount : Decimal} (inRange : amount.InRange) : IsAmount (.number amount)
  | unknown : IsAmount (.unknown .number)

namespace Host

/-- Operands of arithmetic: wrapped numbers, and numbers and texts of the host's own. -/
inductive IsOperand (host : Host) : HostValue → Prop
  | wrapped {object : HostValue} {value : Value} (wraps : host.Wraps object value) (isAmount : value.IsAmount) :
      IsOperand host object
  | number (x : Binary64) : IsOperand host (.number x)
  | text {text : String} (decimal : ¬Binary64.HasHexadecimalPrefix text) : IsOperand host (.string text)

/-- Userdata has been added to a host, and nothing else has changed. -/
structure Extends (host after : Host) : Prop where
  rest : after = { host with userdata := after.userdata }
  kept (index : Nat) (userdata : Userdata) (found : host.userdata[index]? = some userdata) :
    after.userdata[index]? = some userdata

end Host

/-- Expressions over operands of which every operator has a wrapped leaf below it. -/
inductive Expression.Admissible (host : Host) : Expression → Prop
  | leaf {object : HostValue} (operand : host.IsOperand object) : Admissible host (.leaf object)
  | binary {operator : Arithmetic} {left right : Expression} (first : left.Admissible host)
      (second : right.Admissible host) (wrapped : left.HasWrapped host ∨ right.HasWrapped host) :
      Admissible host (.binary operator left right)
  | minus {operand : Expression} (inner : operand.Admissible host) (wrapped : operand.HasWrapped host) :
      Admissible host (.minus operand)

/-! ### Structural operations -/

namespace Value

/-- A failure of an operation whose message a script sees. -/
theorem isOperation_of_checkOperand {value : Value} {want : Ty} {index : Nat} {fault : Fault}
    (failed : value.checkOperand want index = .error fault) : Wrapped.isOperation fault = true := by
  unfold checkOperand at failed
  split at failed
  · cases failed
    rfl
  · split at failed <;> cases failed
    rfl

/-- An operation on numbers ends with an amount, or with a failure whose message a script sees. -/
def YieldsAmount : Outcome Value → Prop
  | .ok value => value.IsAmount
  | .error fault => Wrapped.isOperation fault = true

/-- The checks of its operands do not change how an operation ends. -/
theorem yieldsAmount_of_checked {a b : Value} {outcome : Outcome Value} (yields : YieldsAmount outcome) :
    YieldsAmount (a.checkOperand .number 0 >>= fun _ => b.checkOperand .number 1 >>= fun _ => outcome) := by
  cases first : a.checkOperand .number 0 with
  | error fault => exact isOperation_of_checkOperand first
  | ok =>
      cases second : b.checkOperand .number 1 with
      | error fault => exact isOperation_of_checkOperand second
      | ok => exact yields

section Operations

variable {compute : Decimal → Decimal → Except Signal Decimal}
  (inRange : ∀ {x y amount : Decimal}, compute x y = .ok amount → amount.InRange) (a b : Value)
include inRange

theorem arithmetic_yieldsAmount : YieldsAmount (arithmetic compute a b) := by
  refine yieldsAmount_of_checked ?_
  split
  next x y =>
      cases computed : compute x y with
      | ok amount => exact .known (inRange computed)
      | error signal => exact rfl
  next => exact .unknown

theorem dividing_yieldsAmount : YieldsAmount (dividing compute a b) := by
  refine yieldsAmount_of_checked ?_
  split
  next x y =>
      split
      · exact rfl
      · exact arithmetic_yieldsAmount inRange _ _
  next => exact .unknown

end Operations

theorem IsAmount.convert {value : Value} (isAmount : value.IsAmount) : value.convert .number = .ok value := by
  have typed : value.type = .number := by cases isAmount <;> rfl
  exact typed ▸ convertTo_type value

/-- The number with the opposite sign exists. -/
theorem IsAmount.negate {value : Value} (isAmount : value.IsAmount) :
    ∃ result, value.negate = .ok result ∧ result.IsAmount := by
  cases isAmount with
  | known inRange =>
      obtain ⟨amount, negated, inRange⟩ := Decimal.negate_of_inRange inRange
      refine ⟨.number amount, ?_, .known inRange⟩
      change (Except.map Value.number ((Decimal.negate _).mapError fun _ => Fault.exponentOverflow)) = _
      rw [negated]
      rfl
  | unknown => exact ⟨.unknown .number, rfl, .unknown⟩

end Value

namespace Arithmetic

/-- The result of an operator is a number again, or scripts see why the operator fails. -/
theorem onValues_yieldsAmount (operator : Arithmetic) (x y : Value) :
    Value.YieldsAmount (operator.onValues x y) := by
  cases operator with
  | add => exact Value.arithmetic_yieldsAmount Decimal.add_inRange x y
  | sub => exact Value.arithmetic_yieldsAmount Decimal.subtract_inRange x y
  | mul => exact Value.arithmetic_yieldsAmount Decimal.multiply_inRange x y
  | div => exact Value.dividing_yieldsAmount Decimal.divide_inRange x y
  | mod => exact Value.dividing_yieldsAmount Decimal.remainder_inRange x y

end Arithmetic

/-! ### Operands in a host -/

/-- A decimal numeral is read between blanks, whatever its capitals. -/
theorem Binary64.parse_of_not_hexadecimal {text : String} (decimal : ¬HasHexadecimalPrefix text) :
    parse text = .ok ((Numeral.ofChars? (Text.lower (Text.strip text.toList))).map ofNumeral) := by
  obtain ⟨answer, parsed⟩ : ∃ answer, parse text = answer := ⟨_, rfl⟩
  rw [parsed]
  unfold parse at parsed
  extract_lets body at parsed
  split at parsed
  next negative unsigned signed =>
  split at parsed
  next digits => exact absurd ⟨digits, congrArg Prod.snd signed⟩ decimal
  next => exact parsed.symm

namespace Host

variable {host between after : Host} {object : HostValue}

/-- A host reads an operand as a number or does not, but it does not fail. -/
theorem IsOperand.toNumber (operand : host.IsOperand object) : ∃ number, toNumber object = .ok number := by
  cases operand with
  | wrapped wraps => exact ⟨none, wraps.toNumber⟩
  | number x => exact ⟨some x, rfl⟩
  | @text text decimal =>
      exact ⟨_, congrArg (Except.mapError fun _ => Fault.tooLarge) (Binary64.parse_of_not_hexadecimal decimal)⟩

/-- Scripts see why an operand does not convert. -/
theorem IsOperand.isConversion (operand : host.IsOperand object) {fault : Fault}
    (failed : (host.tree object).convert .number = .error fault) : Wrapped.isConversion fault = true := by
  cases operand with
  | wrapped wraps isAmount =>
      rw [wraps.tree, Tree.convert_wrapped, isAmount.convert] at failed
      cases failed
  | number x =>
      change Reading.ofNumber x = _ at failed
      unfold Reading.ofNumber at failed
      split at failed <;> cases failed
      rfl
  | @text text decimal =>
      have converts : host.convert (.string text) .number = .error fault := failed
      rw [convert_string_number, Value.ofText, Value.convert_numeral] at converts
      split at converts <;> cases converts
      rfl

theorem Extends.refl (host : Host) : host.Extends host :=
  ⟨rfl, fun _ _ found => found⟩

theorem Extends.trans (first : host.Extends between) (second : between.Extends after) : host.Extends after where
  rest := by
    rw [second.rest, first.rest]
  kept index userdata found := second.kept index userdata (first.kept index userdata found)

theorem extends_wrap (host : Host) (value : Value) : host.Extends (host.wrap value).2 where
  rest := rfl
  kept index userdata found := by
    obtain ⟨inside, -⟩ := Array.getElem?_eq_some_iff.mp found
    exact (Array.getElem?_push_lt inside).trans (Array.getElem?_eq_getElem inside ▸ found)

section Extends

variable (grows : host.Extends after)
include grows

theorem Extends.wraps {value : Value} (wraps : host.Wraps object value) : after.Wraps object value := by
  obtain ⟨ref, rfl, found⟩ := wraps
  exact ⟨ref, rfl, grows.kept _ _ found⟩

theorem Extends.handlesAll (handles : host.HandlesAll) : after.HandlesAll := by
  rw [grows.rest]
  exact handles

theorem Extends.operand (operand : host.IsOperand object) : after.IsOperand object := by
  cases operand with
  | wrapped wraps isAmount => exact .wrapped (grows.wraps wraps) isAmount
  | number x => exact .number x
  | text decimal => exact .text decimal

/-- An operand stays what it is. -/
theorem Extends.tree (operand : host.IsOperand object) : after.tree object = host.tree object := by
  cases operand with
  | wrapped wraps => rw [wraps.tree, (grows.wraps wraps).tree]
  | number x => rfl
  | text => rfl

end Extends

/-! ### Computations that follow an outcome -/

/-- A computation of a host follows an outcome: it gives a related result and adds userdata at most, or it
    raises an error with the message of the failure. -/
def Follows {α β : Type} (host : Host) (Relates : Host → α → β → Prop) (run : Machine α) : Outcome β → Prop
  | .ok result => ∃ found after, run host = .ok (found, after) ∧ host.Extends after ∧ Relates after found result
  | .error fault => run host = .error (.raised (.failed fault)) ∧ ∃ text, fault.message? = some text

/-- An operand that is what a tree says. -/
structure Stands (host : Host) (object : HostValue) (tree : Tree) : Prop where
  operand : host.IsOperand object
  tree : host.tree object = tree

namespace Stands

/-- An operand stands for the same in a host that has grown. -/
theorem grow {tree : Tree} (stands : host.Stands object tree) (grows : host.Extends after) :
    after.Stands object tree :=
  ⟨grows.operand stands.operand, (grows.tree stands.operand).trans stands.tree⟩

/-- An operand that stands for a wrapped value wraps it. -/
theorem wraps {value : Value} (stands : host.Stands object (.wrapped value)) :
    host.Wraps object value ∧ value.IsAmount := by
  obtain ⟨operand, isWrapped⟩ := stands
  cases operand with
  | wrapped wraps isAmount =>
      rw [wraps.tree] at isWrapped
      cases isWrapped
      exact ⟨wraps, isAmount⟩
  | number | text => cases isWrapped

end Stands

/-- Of two operands of which one stands for a wrapped value one is wrapped. -/
theorem wrappedAmong_of_stands {a b : HostValue} {left right : Tree} (first : host.Stands a left)
    (second : host.Stands b right)
    (wrapped : (∃ value, left = .wrapped value) ∨ ∃ value, right = .wrapped value) :
    host.WrappedAmong a b := by
  rcases wrapped with ⟨value, rfl⟩ | ⟨value, rfl⟩
  · exact .left first.wraps.1
  · cases first.operand with
    | wrapped wraps => exact .left wraps
    | number x => exact .right (.number x) second.wraps.1
    | text => exact .right (.string _) second.wraps.1

section Follows

variable {α β γ δ : Type} {Relates : Host → α → β → Prop} {Wanted : Host → γ → δ → Prop} {run : Machine α}

/-- A computation that starts like another one follows the same outcome. -/
theorem Follows.congr {other : Machine α} {outcome : Outcome β} (follows : host.Follows Relates other outcome)
    (same : run host = other host) : host.Follows Relates run outcome := by
  cases outcome with
  | ok result =>
      obtain ⟨found, after, ran, rest⟩ := follows
      exact ⟨found, after, same.trans ran, rest⟩
  | error fault => exact ⟨same.trans follows.1, follows.2⟩

/-- If the first step follows an outcome, and the next one follows what comes after it in all hosts that the
    first step may leave, then both together follow both together. -/
theorem Follows.bind {next : α → Machine γ} {outcome : Outcome β} {further : β → Outcome δ}
    (first : host.Follows Relates run outcome)
    (second : ∀ found result after, host.Extends after → Relates after found result → outcome = .ok result →
      after.Follows Wanted (next found) (further result)) :
    host.Follows Wanted (run >>= next) (outcome >>= further) := by
  cases outcome with
  | error fault => exact ⟨Machine.bind_of_error first.1, first.2⟩
  | ok result =>
      obtain ⟨found, between, ran, grows, related⟩ := first
      have follows := second found result between grows related rfl
      have same : (run >>= next) host = next found between := Machine.bind_of_ok ran
      change host.Follows Wanted (run >>= next) (further result)
      cases outcome : further result with
      | error fault =>
          rw [outcome] at follows
          exact ⟨same.trans follows.1, follows.2⟩
      | ok last =>
          rw [outcome] at follows
          obtain ⟨found, after, ranNext, growsNext, related⟩ := follows
          exact ⟨found, after, same.trans ranNext, grows.trans growsNext, related⟩

/-- A structural operation whose failures scripts see follows its own outcome. -/
theorem raising_follows {shown : Fault → Bool} {outcome : Outcome α}
    (located : ∀ {fault : Fault}, shown fault = true → ∃ text, fault.message? = some text)
    (seen : ∀ {fault : Fault}, outcome = .error fault → shown fault = true) :
    host.Follows (fun _ found result => found = result) (Wrapped.raising shown .failed outcome) outcome := by
  cases outcome with
  | ok result => exact ⟨result, host, rfl, .refl host, rfl⟩
  | error fault =>
      refine ⟨?_, located (seen rfl)⟩
      rw [Wrapped.raising, if_pos (seen rfl)]
      rfl

end Follows

theorem wrap_follows {value : Value} (isAmount : value.IsAmount) :
    host.Follows Stands (Machine.wrap value) (.ok (.wrapped value)) :=
  ⟨_, _, rfl, extends_wrap host value, .wrapped (wraps_wrap host value) isAmount, (wraps_wrap host value).tree⟩

/-- Converting an operand follows the conversion of what it is. -/
theorem operand_follows (operand : host.IsOperand object) :
    host.Follows (fun _ found result => found = result) (Wrapped.operand object .number)
      ((host.tree object).convert .number) := by
  have located {fault : Fault} (shown : Wrapped.isConversion fault = true) :
      ∃ text, fault.message? = some text := by
    cases fault <;> first | exact ⟨_, rfl⟩ | cases shown
  exact (raising_follows located operand.isConversion).congr rfl

/-- Wrapping the result of an operation on numbers follows the operation. -/
theorem result_follows {outcome : Outcome Value} (yields : Value.YieldsAmount outcome) :
    host.Follows Stands (Wrapped.result outcome >>= Machine.wrap)
      (outcome >>= fun value => .ok (.wrapped value)) := by
  have located {fault : Fault} (shown : Wrapped.isOperation fault = true) :
      ∃ text, fault.message? = some text := by
    cases fault <;> first | exact ⟨_, rfl⟩ | cases shown
  have seen {fault : Fault} (failed : outcome = .error fault) : Wrapped.isOperation fault = true := by
    rwa [failed] at yields
  refine (raising_follows located seen).bind fun value _ after _ same computed => ?_
  subst same
  rw [computed] at yields
  exact wrap_follows yields

/-! ### Operators -/

section Operators

variable (handles : host.HandlesAll) {a b : HostValue}
include handles

/-- An arithmetic operator converts its operands and applies the structural operation. -/
theorem arithmetic_follows (operator : Arithmetic) (left : host.IsOperand a) (right : host.IsOperand b)
    (among : host.WrappedAmong a b) :
    host.Follows Stands (arithmetic operator a b) ((host.tree a).convert .number >>= fun x =>
      (host.tree b).convert .number >>= fun y =>
        operator.onValues x y >>= fun value => .ok (.wrapped value)) := by
  obtain ⟨x, readsLeft⟩ := left.toNumber
  obtain ⟨y, readsRight⟩ := right.toNumber
  have handled : operator.event ∈ Event.handled := by cases operator <;> decide
  have same : arithmetic operator a b host = Wrapped.binary operator.onValues .number a b host := by
    rw [arithmetic_handled among (handles _ handled) readsLeft readsRight]
    cases operator <;> rfl
  refine Follows.congr ?_ same
  refine (operand_follows left).bind fun x _ between grows same _ => ?_
  subst same
  rw [← grows.tree right]
  refine (operand_follows (grows.operand right)).bind fun y _ after _ same _ => ?_
  subst same
  exact result_follows (operator.onValues_yieldsAmount x y)

/-- The unary minus of a wrapped number negates it. -/
theorem unaryMinus_follows {value : Value} (wraps : host.Wraps a value) (isAmount : value.IsAmount) :
    host.Follows Stands (unaryMinus a) ((host.tree a).convert .number >>= fun x =>
      x.negate >>= fun value => .ok (.wrapped value)) := by
  have same : unaryMinus a host = Wrapped.negation a host :=
    unaryMinus_handled (handles .unm (by decide)) wraps
  refine Follows.congr ?_ same
  refine (operand_follows (.wrapped wraps isAmount)).bind fun x result after _ same converted => ?_
  subst same
  rw [wraps.tree, Tree.convert_wrapped, isAmount.convert] at converted
  obtain rfl := Except.ok.inj converted
  obtain ⟨negated, computed, isAmountToo⟩ := isAmount.negate
  rw [computed]
  exact result_follows isAmountToo

end Operators

end Host

/-! ### Evaluation -/

namespace Expression

variable {host : Host}

/-- What an expression with a wrapped leaf denotes is a wrapped value. -/
theorem denote_wrapped {expression : Expression} (wrapped : expression.HasWrapped host) {tree : Tree}
    (denotes : expression.denote host = .ok tree) : ∃ value, tree = .wrapped value := by
  cases expression with
  | leaf object =>
      obtain ⟨value, unwraps⟩ := Option.isSome_iff_exists.mp wrapped
      cases denotes
      exact ⟨value, Host.tree_eq_wrapped.mpr unwraps⟩
  | binary operator left right =>
      obtain ⟨_, -, denotes⟩ := Outcome.bind_eq_ok.mp denotes
      obtain ⟨_, -, denotes⟩ := Outcome.bind_eq_ok.mp denotes
      obtain ⟨_, -, denotes⟩ := Outcome.bind_eq_ok.mp denotes
      obtain ⟨_, -, denotes⟩ := Outcome.bind_eq_ok.mp denotes
      obtain ⟨value, -, denotes⟩ := Outcome.bind_eq_ok.mp denotes
      exact ⟨value, (Except.ok.inj denotes).symm⟩
  | minus operand =>
      obtain ⟨_, -, denotes⟩ := Outcome.bind_eq_ok.mp denotes
      obtain ⟨_, -, denotes⟩ := Outcome.bind_eq_ok.mp denotes
      obtain ⟨value, -, denotes⟩ := Outcome.bind_eq_ok.mp denotes
      exact ⟨value, (Except.ok.inj denotes).symm⟩

/-- In every host that has grown from the one of its leaves, an expression follows what it denotes. -/
theorem evaluate_follows (handles : host.HandlesAll) {expression : Expression}
    (admissible : expression.Admissible host) {between : Host} (grows : host.Extends between) :
    between.Follows Host.Stands expression.evaluate (expression.denote host) := by
  induction admissible generalizing between with
  | leaf operand => exact ⟨_, between, rfl, .refl between, grows.operand operand, grows.tree operand⟩
  | @binary operator left right _ _ wrapped first second =>
      refine (first grows).bind fun a x afterFirst growsFirst standsFirst denotesFirst => ?_
      refine (second (grows.trans growsFirst)).bind fun b y after growsSecond standsSecond denotesSecond => ?_
      have stands := standsFirst.grow growsSecond
      have among := Host.wrappedAmong_of_stands stands standsSecond
        (wrapped.imp (denote_wrapped · denotesFirst) (denote_wrapped · denotesSecond))
      have applied := Host.arithmetic_follows (((grows.trans growsFirst).trans growsSecond).handlesAll handles)
        operator stands.operand standsSecond.operand among
      rw [stands.tree, standsSecond.tree] at applied
      exact applied
  | minus _ wrapped inner =>
      refine (inner grows).bind fun a tree after growsInner stands denotes => ?_
      obtain ⟨value, rfl⟩ := denote_wrapped wrapped denotes
      obtain ⟨wraps, isAmount⟩ := stands.wraps
      have applied := Host.unaryMinus_follows ((grows.trans growsInner).handlesAll handles) wraps isAmount
      rw [stands.tree] at applied
      exact applied

/-- Evaluating an expression with an operator of which every operator has a wrapped leaf below it gives a
    wrapped value, the one that the expression denotes. It raises an error exactly if that fails, with the
    message of the failure. -/
theorem evaluate_denotes (handles : host.HandlesAll) {expression : Expression}
    (admissible : expression.Admissible host) (operates : ∀ object, expression ≠ .leaf object) :
    (∀ tree, expression.denote host = .ok tree → ∃ value object after, tree = .wrapped value ∧
      expression.evaluate host = .ok (object, after) ∧ after.Wraps object value) ∧
    (∀ fault, expression.denote host = .error fault →
      ∃ error, expression.evaluate host = .error (.raised error) ∧ fault.message? = some error.message) ∧
    ((∃ error, expression.evaluate host = .error (.raised error)) ↔
      ∃ fault, expression.denote host = .error fault) := by
  have wrapped : expression.HasWrapped host := by
    cases admissible with
    | leaf => exact absurd rfl (operates _)
    | binary _ _ wrapped => exact wrapped
    | minus _ wrapped => exact wrapped
  have follows := evaluate_follows handles admissible (.refl host)
  cases denotes : expression.denote host with
  | ok tree =>
      rw [denotes] at follows
      obtain ⟨object, after, ran, -, stands⟩ := follows
      obtain ⟨value, rfl⟩ := denote_wrapped wrapped denotes
      refine ⟨?_, nofun, ?_⟩
      · rintro _ ⟨⟩
        exact ⟨value, object, after, rfl, ran, stands.wraps.1⟩
      · refine iff_of_false ?_ nofun
        rintro ⟨error, raised⟩
        cases ran.symm.trans raised
  | error fault =>
      rw [denotes] at follows
      obtain ⟨raised, text, message⟩ := follows
      have shown : fault.message? = some (HostError.failed fault).message := by
        change fault.message? = some (fault.message?.getD "")
        rw [message, Option.getD_some]
      refine ⟨nofun, ?_, iff_of_true ⟨_, raised⟩ ⟨fault, rfl⟩⟩
      rintro _ ⟨⟩
      exact ⟨_, raised, shown⟩

end Expression

/-- A host with the wrapped number two. -/
def Host.two : Host :=
  { Host.start {} with userdata := #[⟨.structural (.number (Decimal.ofInt 2)), some Host.wrappedMetatable⟩] }

namespace Expression

/-- The sum of the wrapped number and the text of three, negated. -/
def negatedSum : Expression :=
  .minus (.binary .add (.leaf (.userdata ⟨0⟩)) (.leaf (.string "3")))

theorem negatedSum_admissible : negatedSum.Admissible Host.two := by
  have amount : (Value.number (Decimal.ofInt 2)).IsAmount :=
    .known ⟨by decide +kernel, by decide +kernel, by decide +kernel⟩
  have decimal : ¬Binary64.HasHexadecimalPrefix "3" := by
    have unsigned : (Numeral.takeSign (Text.lower (Text.strip "3".toList))).2 = ['3'] := by decide +kernel
    rintro ⟨digits, hexadecimal⟩
    cases unsigned.symm.trans hexadecimal
  exact .minus (.binary (.leaf (.wrapped ⟨_, rfl, rfl⟩ amount)) (.leaf (.text decimal)) (.inl rfl)) (.inl rfl)

theorem negatedSum_denotes : negatedSum.denote Host.two = .ok (.wrapped (.number (Decimal.ofInt (-5)))) := by
  have three : Host.two.convert (.string "3") .number = .ok (.number (Decimal.ofInt 3)) :=
    Host.convert_numeral _ (by decide +kernel)
  have sum : Decimal.add (Decimal.ofInt 2) (Decimal.ofInt 3) = .ok (Decimal.ofInt 5) := by decide +kernel
  have opposite : (Decimal.ofInt 5).negate = .ok (Decimal.ofInt (-5)) := by decide +kernel
  have added : Value.add (.number (Decimal.ofInt 2)) (.number (Decimal.ofInt 3)) =
      .ok (.number (Decimal.ofInt 5)) := by
    change Except.map Value.number ((Decimal.add (Decimal.ofInt 2) (Decimal.ofInt 3)).mapError _) = _
    rw [sum]
    rfl
  have negated : (Value.number (Decimal.ofInt 5)).negate = .ok (.number (Decimal.ofInt (-5))) := by
    change Except.map Value.number ((Decimal.ofInt 5).negate.mapError _) = _
    rw [opposite]
    rfl
  have inner : (binary .add (leaf (.userdata ⟨0⟩)) (leaf (.string "3"))).denote Host.two =
      .ok (.wrapped (.number (Decimal.ofInt 5))) := by
    change (Host.two.convert (.string "3") .number >>= fun y =>
      Value.add (.number (Decimal.ofInt 2)) y >>= fun value => Except.ok (Tree.wrapped value)) = _
    rw [three]
    change (Value.add (.number (Decimal.ofInt 2)) (.number (Decimal.ofInt 3)) >>= _) = _
    rw [added]
    rfl
  rw [negatedSum, denote, inner]
  change ((Value.number (Decimal.ofInt 5)).negate >>= fun value => Except.ok (Tree.wrapped value)) = _
  rw [negated]
  rfl

/-- The sum is five, and its opposite is what the expression evaluates to. -/
theorem evaluate_denotes_negatedSum :
    Host.two.HandlesAll ∧ negatedSum.Admissible Host.two ∧ (∀ object, negatedSum ≠ .leaf object) ∧
      ∃ object after, negatedSum.evaluate Host.two = .ok (object, after) ∧
        after.Wraps object (.number (Decimal.ofInt (-5))) := by
  have handles : Host.two.HandlesAll := Host.start_handlesAll {}
  have operates (object : HostValue) : negatedSum ≠ .leaf object := by
    intro same
    cases same
  obtain ⟨evaluates, -, -⟩ := evaluate_denotes handles negatedSum_admissible operates
  obtain ⟨value, object, after, same, ran, wraps⟩ := evaluates _ negatedSum_denotes
  cases same
  exact ⟨handles, negatedSum_admissible, operates, object, after, ran, wraps⟩

end Expression

end Crosswalk
