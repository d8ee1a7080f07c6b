/-
Module: Crosswalk.Proofs.Text.Normalization
Purpose: Canonical composition yields normal forms: normalizing a normalized text changes nothing. The
  argument is that composition only regroups characters. What a composed text decomposes to is the
  ordered decomposition it was made from, so a second round starts from the same characters as the first.
Main exports: Text.IsNormal, Text.normalize_normalize, Text.isNormal_normalize,
  Text.isNormal_of_forall_lt
-/
import Crosswalk.Proofs.Text.Decomposition

namespace Crosswalk.Text

namespace Normal

/-! ### Canonical order

An element of a text may move to the right past a mark of a lower class. `place` moves an element as far
as it can go, so a text in which no element can move past its right neighbour is left as it is. -/

/-- Neighbours that canonical order leaves as they are. -/
def Settled (first second : Nat) : Prop :=
  combiningClass second = 0 ∨ combiningClass first ≤ combiningClass second

/-- A text in canonical order. -/
abbrev Ordered (text : List Nat) : Prop :=
  text.IsChain Settled

theorem place_cons_of_settled {code next : Nat} (settled : Settled code next) (rest : List Nat) :
    place code (next :: rest) = code :: next :: rest := by
  have stays : ¬ (combiningClass next ≠ 0 ∧ combiningClass next < combiningClass code) := by
    rcases settled with starter | le
    · exact fun moves => moves.1 starter
    · exact fun moves => Nat.not_lt.mpr le moves.2
  simp only [place, ne_eq, Bool.and_eq_true, decide_eq_true_eq, if_neg stays]

theorem place_cons_of_lt {code next : Nat} (mark : combiningClass next ≠ 0)
    (lower : combiningClass next < combiningClass code) (rest : List Nat) :
    place code (next :: rest) = next :: place code rest := by
  simp only [place, ne_eq, Bool.and_eq_true, decide_eq_true_eq, if_pos (And.intro mark lower)]

/-- A neighbour either is settled or can be passed. -/
theorem settled_or_lt (code next : Nat) :
    Settled code next ∨ (combiningClass next ≠ 0 ∧ combiningClass next < combiningClass code) := by
  unfold Settled
  omega

theorem place_perm (code : Nat) (text : List Nat) : (place code text).Perm (code :: text) := by
  induction text with
  | nil => exact List.Perm.refl _
  | cons next rest ih =>
      rcases settled_or_lt code next with settled | ⟨mark, lower⟩
      · rw [place_cons_of_settled settled]
      · rw [place_cons_of_lt mark lower]
        exact (ih.cons next).trans (List.Perm.swap code next rest)

theorem order_perm (text : List Nat) : (order text).Perm text := by
  induction text with
  | nil => exact List.Perm.refl _
  | cons code rest ih => exact (place_perm code _).trans (ih.cons code)

theorem place_ordered {code : Nat} {text : List Nat} (ordered : Ordered text) :
    Ordered (place code text) := by
  induction text with
  | nil => exact List.IsChain.singleton code
  | cons next rest ih =>
      rcases settled_or_lt code next with settled | ⟨mark, lower⟩
      · rw [place_cons_of_settled settled]
        exact .cons_cons settled ordered
      · rw [place_cons_of_lt mark lower]
        have placed := ih ordered.tail
        cases rest with
        | nil => exact .cons_cons (.inr (Nat.le_of_lt lower)) placed
        | cons second others =>
            rcases settled_or_lt code second with settled | ⟨mark', lower'⟩
            · rw [place_cons_of_settled settled] at placed ⊢
              exact .cons_cons (.inr (Nat.le_of_lt lower)) placed
            · rw [place_cons_of_lt mark' lower'] at placed ⊢
              exact .cons_cons (List.isChain_cons_cons.mp ordered).1 placed

theorem order_ordered (text : List Nat) : Ordered (order text) := by
  induction text with
  | nil => exact List.IsChain.nil
  | cons code rest ih => exact place_ordered ih

theorem order_eq_self {text : List Nat} (ordered : Ordered text) : order text = text := by
  induction text with
  | nil => rfl
  | cons code rest ih =>
      rw [order, ih ordered.tail]
      cases rest with
      | nil => rfl
      | cons next others =>
          exact place_cons_of_settled (List.isChain_cons_cons.mp ordered).1 others

/-- Texts of one order keep one order behind any beginning. -/
theorem order_append_congr {text other : List Nat} (beginning : List Nat)
    (same : order text = order other) : order (beginning ++ text) = order (beginning ++ other) := by
  induction beginning with
  | nil => exact same
  | cons code rest ih => rw [List.cons_append, List.cons_append, order, order, ih]

/-- A mark and an element of a greater class can be placed in either order. -/
theorem place_comm {code mark : Nat} (nonzero : combiningClass mark ≠ 0)
    (lower : combiningClass mark < combiningClass code) (text : List Nat) :
    place code (place mark text) = place mark (place code text) := by
  induction text with
  | nil =>
      have settled : Settled mark code := .inr (Nat.le_of_lt lower)
      rw [place, place, place_cons_of_lt nonzero lower, place_cons_of_settled settled, place]
  | cons next rest ih =>
      rcases settled_or_lt mark next with settled | ⟨nextMark, nextLower⟩
      · rw [place_cons_of_settled settled, place_cons_of_lt nonzero lower]
        rcases settled_or_lt code next with codeSettled | ⟨nextMark, codeLower⟩
        · rw [place_cons_of_settled codeSettled,
            place_cons_of_settled (.inr (Nat.le_of_lt lower))]
        · rw [place_cons_of_lt nextMark codeLower, place_cons_of_settled settled]
      · have codeLower := Nat.lt_trans nextLower lower
        rw [place_cons_of_lt nextMark nextLower, place_cons_of_lt nextMark codeLower,
          place_cons_of_lt nextMark codeLower, place_cons_of_lt nextMark nextLower, ih]

/-- An element in front of marks of lower classes stands as well behind them. -/
theorem order_cons_append {code : Nat} {marks : List Nat}
    (lower : ∀ mark ∈ marks, combiningClass mark ≠ 0 ∧ combiningClass mark < combiningClass code)
    (rest : List Nat) : order (code :: (marks ++ rest)) = order (marks ++ code :: rest) := by
  induction marks with
  | nil => rfl
  | cons mark others ih =>
      obtain ⟨nonzero, less⟩ := lower mark List.mem_cons_self
      have ihOthers := ih fun other member => lower other (List.mem_cons_of_mem _ member)
      calc order (code :: (mark :: others ++ rest))
          = place code (place mark (order (others ++ rest))) := rfl
        _ = place mark (place code (order (others ++ rest))) := place_comm nonzero less _
        _ = place mark (order (others ++ code :: rest)) := by rw [← ihOthers, order]
        _ = order (mark :: others ++ code :: rest) := rfl

/-! ### Composition -/

theorem decompose_append (text other : List Nat) :
    decompose (text ++ other) = decompose text ++ decompose other :=
  List.flatMap_append

theorem decompose_cons (code : Nat) (rest : List Nat) :
    decompose (code :: rest) = parts code ++ decompose rest :=
  List.flatMap_cons

/-- A text of parts decomposes to itself. -/
theorem decompose_eq_self {text : List Nat} (areParts : ∀ code ∈ text, IsPart code) :
    decompose text = text := by
  induction text with
  | nil => rfl
  | cons code rest ih =>
      rw [decompose_cons, (areParts code List.mem_cons_self).parts_eq,
        ih fun other member => areParts other (List.mem_cons_of_mem _ member)]
      rfl

/-- The marks that wait between a starter and the rest of an ordered text, the nearest to the rest
    first. -/
structure Waiting (marks rest : List Nat) : Prop where
  nonzero : ∀ mark ∈ marks, combiningClass mark ≠ 0
  descending : marks.Pairwise fun nearer farther => combiningClass farther ≤ combiningClass nearer
  ordered : Ordered (marks.take 1 ++ rest)

namespace Waiting

theorem none {rest : List Nat} (ordered : Ordered rest) : Waiting [] rest :=
  ⟨by simp, .nil, ordered⟩

theorem ordered_rest {marks rest : List Nat} (waiting : Waiting marks rest) : Ordered rest := by
  have ordered := waiting.ordered
  cases marks with
  | nil => exact ordered
  | cons nearest others => exact ordered.tail

/-- A mark that does not compose joins those that wait. -/
theorem push {marks rest : List Nat} {code : Nat} (waiting : Waiting marks (code :: rest))
    (mark : combiningClass code ≠ 0) : Waiting (code :: marks) rest := by
  refine ⟨?_, ?_, waiting.ordered_rest⟩
  · intro other member
    rcases List.mem_cons.mp member with rfl | waits
    · exact mark
    · exact waiting.nonzero other waits
  · refine List.pairwise_cons.mpr ⟨?_, waiting.descending⟩
    cases marks with
    | nil => simp
    | cons nearest others =>
        have settled : Settled nearest code := (List.isChain_cons_cons.mp waiting.ordered).1
        have nearestLe := settled.resolve_left mark
        intro other member
        rcases List.mem_cons.mp member with rfl | farther
        · exact nearestLe
        · exact Nat.le_trans ((List.pairwise_cons.mp waiting.descending).1 other farther) nearestLe

/-- A character that is not blocked has a greater class than all marks that wait. -/
theorem lower_of_free {marks rest : List Nat} {code : Nat} (waiting : Waiting marks rest)
    (free : ∀ nearest ∈ marks.head?, combiningClass nearest < combiningClass code) :
    ∀ mark ∈ marks, combiningClass mark ≠ 0 ∧ combiningClass mark < combiningClass code := by
  intro mark member
  refine ⟨waiting.nonzero mark member, ?_⟩
  cases marks with
  | nil => simp at member
  | cons nearest others =>
      have nearestLower := free nearest rfl
      rcases List.mem_cons.mp member with rfl | farther
      · exact nearestLower
      · exact Nat.lt_of_le_of_lt ((List.pairwise_cons.mp waiting.descending).1 mark farther)
          nearestLower

/-- When a character that is not blocked composes, the marks wait for what follows it. -/
theorem pop {marks rest : List Nat} {code : Nat} (waiting : Waiting marks (code :: rest))
    (free : ∀ nearest ∈ marks.head?, combiningClass nearest < combiningClass code) :
    Waiting marks rest := by
  refine ⟨waiting.nonzero, waiting.descending, ?_⟩
  have ordered : Ordered (code :: rest) := waiting.ordered_rest
  cases marks with
  | nil => exact ordered.tail
  | cons nearest others =>
      have nearestLower := free nearest rfl
      cases rest with
      | nil => exact List.IsChain.singleton nearest
      | cons next later =>
          obtain ⟨settled, orderedRest⟩ := List.isChain_cons_cons.mp ordered
          refine .cons_cons ?_ orderedRest
          unfold Settled at settled ⊢
          omega

end Waiting

/-- A character that is not blocked composes with the starter if there is a composite of the two. -/
theorem composeFrom_of_free {starter : Nat} {marks : List Nat} {code : Nat}
    (free : ∀ nearest ∈ marks.head?, combiningClass nearest < combiningClass code)
    (rest : List Nat) :
    composeFrom starter marks (code :: rest) =
      (composite? starter code).elim
        (if combiningClass code = 0 then starter :: marks.reverse ++ composeFrom code [] rest
          else composeFrom starter (code :: marks) rest)
        (composeFrom · marks rest) := by
  cases marks with
  | nil =>
      simp only [composeFrom]
      cases composite? starter code <;> rfl
  | cons nearest others =>
      have notBlocked : decide (combiningClass code ≤ combiningClass nearest) = false :=
        decide_eq_false (Nat.not_le.mpr (free nearest rfl))
      simp only [composeFrom, notBlocked]
      cases composite? starter code <;> rfl

/-- What composition does with the next character: it composes with the starter unless it is blocked, and
    otherwise is the next starter or joins the marks that wait. -/
theorem composeFrom_cons (starter : Nat) (marks : List Nat) (code : Nat) (rest : List Nat) :
    (∃ whole, composite? starter code = some whole ∧
      (∀ nearest ∈ marks.head?, combiningClass nearest < combiningClass code) ∧
      composeFrom starter marks (code :: rest) = composeFrom whole marks rest) ∨
    (combiningClass code = 0 ∧ composeFrom starter marks (code :: rest) =
      starter :: (marks.reverse ++ composeFrom code [] rest)) ∨
    (combiningClass code ≠ 0 ∧
      composeFrom starter marks (code :: rest) = composeFrom starter (code :: marks) rest) := by
  by_cases free : ∀ nearest ∈ marks.head?, combiningClass nearest < combiningClass code
  · rw [composeFrom_of_free free]
    cases composed : composite? starter code with
    | some whole => exact .inl ⟨whole, rfl, free, rfl⟩
    | none =>
        by_cases starts : combiningClass code = 0
        · exact .inr (.inl ⟨starts, by simp [starts]⟩)
        · exact .inr (.inr ⟨starts, by simp [starts]⟩)
  · cases marks with
    | nil => simp at free
    | cons nearest others =>
        have blocked : combiningClass code ≤ combiningClass nearest := by simpa using free
        by_cases starts : combiningClass code = 0
        · exact .inr (.inl ⟨starts, by simp [composeFrom, starts]⟩)
        · exact .inr (.inr ⟨starts, by simp [composeFrom, starts, blocked]⟩)

/-- Composition behind a starter keeps the characters: what the result decomposes to has the order of the
    starter's decomposition, the marks that wait, and the rest. -/
theorem order_decompose_composeFrom {starter : Nat} {marks rest : List Nat}
    (waiting : Waiting marks rest) (marksAreParts : ∀ code ∈ marks, IsPart code)
    (restAreParts : ∀ code ∈ rest, IsPart code) :
    order (decompose (composeFrom starter marks rest)) =
      order (parts starter ++ (marks.reverse ++ rest)) := by
  induction rest generalizing starter marks with
  | nil =>
      have reversed : ∀ code ∈ marks.reverse, IsPart code := fun code member =>
        marksAreParts code (List.mem_reverse.mp member)
      rw [composeFrom, decompose_cons, decompose_eq_self reversed, List.append_nil]
  | cons code rest ih =>
      have othersAreParts : ∀ other ∈ rest, IsPart other := fun other member =>
        restAreParts other (List.mem_cons_of_mem _ member)
      have codeIsPart := restAreParts code List.mem_cons_self
      rcases composeFrom_cons starter marks code rest with
        ⟨whole, composed, free, result⟩ | ⟨-, result⟩ | ⟨mark, result⟩
      · have wholeParts := (parts_composite composed).1
        have lower := waiting.lower_of_free free
        have moved : order (code :: (marks.reverse ++ rest)) = order (marks.reverse ++ code :: rest) :=
          order_cons_append (fun mark member => lower mark (List.mem_reverse.mp member)) rest
        rw [result, ih (waiting.pop free) marksAreParts othersAreParts, wholeParts,
          List.append_assoc]
        exact order_append_congr (parts starter) moved
      · have reversed : ∀ other ∈ marks.reverse, IsPart other := fun other member =>
          marksAreParts other (List.mem_reverse.mp member)
        have waitingNone : Waiting [] rest := .none waiting.ordered_rest.tail
        have continued : order (decompose (composeFrom code [] rest)) = order (parts code ++ rest) :=
          ih waitingNone (by simp) othersAreParts
        rw [codeIsPart.parts_eq] at continued
        rw [result, decompose_cons, decompose_append, decompose_eq_self reversed]
        exact order_append_congr _ (order_append_congr _ continued)
      · have joined : ∀ other ∈ code :: marks, IsPart other := fun other member =>
          (List.mem_cons.mp member).elim (· ▸ codeIsPart) (marksAreParts other)
        rw [result, ih (waiting.push mark) joined othersAreParts, List.reverse_cons,
          List.append_assoc]
        rfl

/-- Composition keeps the characters of an ordered text: the result decomposes to that text again. -/
theorem order_decompose_compose {text : List Nat} (ordered : Ordered text)
    (areParts : ∀ code ∈ text, IsPart code) : order (decompose (compose text)) = text := by
  have same : order (decompose (compose text)) = order text := by
    induction text with
    | nil => rfl
    | cons code rest ih =>
        have codeIsPart := areParts code List.mem_cons_self
        have othersAreParts : ∀ other ∈ rest, IsPart other := fun other member =>
          areParts other (List.mem_cons_of_mem _ member)
        unfold compose
        split
        next =>
            have waiting : Waiting [] rest := .none ordered.tail
            have composed : order (decompose (composeFrom code [] rest)) =
                order (parts code ++ rest) :=
              order_decompose_composeFrom waiting (by simp) othersAreParts
            rw [composed, codeIsPart.parts_eq]
            rfl
        next =>
            rw [decompose_cons, codeIsPart.parts_eq]
            exact order_append_congr [code] (ih ordered.tail othersAreParts)
  rw [same, order_eq_self ordered]

/-! ### Validity -/

theorem mem_composeFrom_valid {starter : Nat} {marks rest : List Nat}
    (starterValid : starter.isValidChar) (marksValid : ∀ code ∈ marks, code.isValidChar)
    (restValid : ∀ code ∈ rest, code.isValidChar) :
    ∀ code ∈ composeFrom starter marks rest, code.isValidChar := by
  induction rest generalizing starter marks with
  | nil =>
      intro code member
      rcases List.mem_cons.mp member with rfl | waits
      · exact starterValid
      · exact marksValid code (List.mem_reverse.mp waits)
  | cons next rest ih =>
      have nextValid := restValid next List.mem_cons_self
      have othersValid : ∀ code ∈ rest, code.isValidChar := fun code member =>
        restValid code (List.mem_cons_of_mem _ member)
      intro code member
      rcases composeFrom_cons starter marks next rest with
        ⟨whole, composed, -, result⟩ | ⟨-, result⟩ | ⟨-, result⟩
      · exact ih (parts_composite composed).2 marksValid othersValid code (result ▸ member)
      · rw [result, List.mem_cons, List.mem_append] at member
        rcases member with rfl | waits | continued
        · exact starterValid
        · exact marksValid code (List.mem_reverse.mp waits)
        · exact ih nextValid (by simp) othersValid code continued
      · have joined : ∀ other ∈ next :: marks, other.isValidChar := fun other waits =>
          (List.mem_cons.mp waits).elim (· ▸ nextValid) (marksValid other)
        exact ih starterValid joined othersValid code (result ▸ member)

theorem mem_compose_valid {text : List Nat} (valid : ∀ code ∈ text, code.isValidChar) :
    ∀ code ∈ compose text, code.isValidChar := by
  induction text with
  | nil => simp [compose]
  | cons next rest ih =>
      have nextValid := valid next List.mem_cons_self
      have othersValid : ∀ code ∈ rest, code.isValidChar := fun code member =>
        valid code (List.mem_cons_of_mem _ member)
      unfold compose
      split
      next => exact mem_composeFrom_valid nextValid (by simp) othersValid
      next =>
          intro code member
          rcases List.mem_cons.mp member with rfl | later
          · exact nextValid
          · exact ih othersValid code later

end Normal

/-! ### Normal forms -/

open Crosswalk.Text.Normal

/-- A text in its canonically composed form. -/
def IsNormal (text : String) : Prop :=
  normalize text = text

/-- The code points of a text. -/
def codes (text : String) : List Nat :=
  text.toList.map Char.toNat

theorem codes_valid (text : String) : ∀ code ∈ codes text, code.isValidChar := by
  intro code member
  obtain ⟨c, -, rfl⟩ := List.mem_map.mp member
  exact c.valid

theorem toNat_ofNat {code : Nat} (valid : code.isValidChar) : (Char.ofNat code).toNat = code := by
  rw [Char.ofNat, dif_pos valid]
  rfl

theorem codes_ofList_map_ofNat {points : List Nat} (valid : ∀ code ∈ points, code.isValidChar) :
    codes (String.ofList (points.map Char.ofNat)) = points := by
  rw [codes, String.toList_ofList, List.map_map]
  refine (List.map_congr_left fun code member => ?_).trans (List.map_id points)
  exact toNat_ofNat (valid code member)

/-- The ordered decomposition of a text consists of parts. -/
theorem order_decompose_isPart (text : String) :
    ∀ code ∈ order (decompose (codes text)), IsPart code := by
  intro code member
  obtain ⟨whole, inText, part⟩ := List.mem_flatMap.mp ((order_perm _).mem_iff.mp member)
  exact isPart_of_mem_parts (codes_valid text whole inText) part

/-- A text of characters below the first combining mark is normal. -/
theorem isNormal_of_forall_lt {text : String} (low : ∀ c ∈ text.toList, c.toNat < firstMark) :
    IsNormal text := by
  rw [IsNormal, normalize, if_pos]
  rw [List.all_eq_true]
  exact fun c member => decide_eq_true (low c member)

/-- The canonically composed form of a text that is not made of low characters. -/
theorem normalize_of_not_low {text : String} (high : ¬ ∀ c ∈ text.toList, c.toNat < firstMark) :
    normalize text =
      String.ofList ((compose (order (decompose (codes text)))).map Char.ofNat) := by
  rw [normalize, if_neg]
  · rfl
  · simpa using high

/-- Normalization keeps the ordered decomposition of a text. -/
theorem order_decompose_normalize (text : String) :
    order (decompose (codes (normalize text))) = order (decompose (codes text)) := by
  by_cases low : ∀ c ∈ text.toList, c.toNat < firstMark
  · have same : normalize text = text := isNormal_of_forall_lt low
    rw [same]
  · have areParts := order_decompose_isPart text
    have composedCodes : codes (normalize text) = compose (order (decompose (codes text))) := by
      rw [normalize_of_not_low low]
      exact codes_ofList_map_ofNat (mem_compose_valid fun code member => (areParts code member).2)
    rw [composedCodes]
    exact order_decompose_compose (order_ordered _) areParts

/-- Normalizing a normalized text changes nothing. -/
theorem normalize_normalize (text : String) : normalize (normalize text) = normalize text := by
  by_cases low : ∀ c ∈ text.toList, c.toNat < firstMark
  · have same : normalize text = text := isNormal_of_forall_lt low
    rw [same, same]
  · by_cases lowAgain : ∀ c ∈ (normalize text).toList, c.toNat < firstMark
    · exact isNormal_of_forall_lt lowAgain
    · rw [normalize_of_not_low lowAgain, order_decompose_normalize, normalize_of_not_low low]

/-- Normalization yields normal texts. -/
theorem isNormal_normalize (text : String) : IsNormal (normalize text) :=
  normalize_normalize text

example : IsNormal "é" := by
  unfold IsNormal
  decide +kernel

end Crosswalk.Text
