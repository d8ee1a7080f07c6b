/-
Module: Crosswalk.Proofs.Text.Decomposition
Purpose: What the character data say about decompositions and composites. The parts of a character do not
  decompose further, and a composite decomposes to the decomposition of its first half followed by its
  second half. Facts about the tables are evaluated, facts about Hangul syllables are arithmetic.
Main exports: Text.Normal.IsPart, Text.Normal.isPart_of_mem_parts, Text.Normal.parts_composite
-/
import Crosswalk.Text.Normal
import Crosswalk.Proofs.Entries
import Crosswalk.Proofs.SearchTree
import Mathlib.Tactic.MkIffOfInductiveProp

namespace Crosswalk.Text.Normal

/-! ### The character data

Facts about the tables are evaluated through search trees of the decompositions. -/

/-- The members of a run with their code points. -/
def runEntries (first : Nat) (members : List Nat) : List (Nat × Nat) :=
  (List.range' first members.length).zip members

theorem lookup_runEntries (first : Nat) (members : List Nat) (code : Nat) :
    (runEntries first members).lookup code =
      if first ≤ code then members[code - first]? else none := by
  induction members generalizing first with
  | nil => simp [runEntries]
  | cons member rest ih =>
      have restEq : (runEntries first (member :: rest)).lookup code =
          if code = first then some member else (runEntries (first + 1) rest).lookup code := by
        simp only [runEntries, List.length_cons, List.range'_succ, List.zip_cons_cons,
          List.lookup_cons]
        split <;> simp_all
      rw [restEq, ih]
      rcases Nat.lt_trichotomy code first with less | rfl | greater
      · rw [if_neg (Nat.ne_of_lt less), if_neg (by omega), if_neg (by omega)]
      · simp
      · obtain ⟨distance, rfl⟩ := Nat.exists_eq_add_of_lt greater
        have shift : first + distance + 1 - first = distance + 1 := by omega
        rw [if_neg (by omega), if_pos (by omega), if_pos (by omega), shift,
          List.getElem?_cons_succ]
        congr 1
        omega

/-- The runs of single characters, entry by entry. -/
def singletonTable : List (Nat × Nat) :=
  singletonRuns.flatMap fun run => runEntries run.1 run.2

theorem singleton?_eq_lookup (code : Nat) :
    singleton? code = (singletonTable.lookup code).map ([·]) := by
  unfold singleton? singletonTable
  induction singletonRuns with
  | nil => rfl
  | cons run rest ih =>
      rw [List.findSome?_cons, List.flatMap_cons, List.lookup_append, lookup_runEntries, ih]
      by_cases reached : run.1 ≤ code
      · cases found : run.2[code - run.1]? <;> simp [reached, found]
      · simp [reached]

/-- The decompositions as a search tree. -/
def decompositionTree : SearchTree (List Nat) :=
  (SearchTree.build 11 decompositions).1

/-- The decompositions to single characters as a search tree. -/
def singletonTree : SearchTree Nat :=
  (SearchTree.build 11 singletonTable).1

/-- Decomposition by way of the search trees. -/
def partsByTree (code : Nat) : List Nat :=
  match syllableParts? code with
  | some found => found
  | none =>
      match decompositionTree.find? code with
      | some found => found
      | none =>
          match singletonTree.find? code with
          | some found => [found]
          | none => [code]

theorem parts_eq_partsByTree (code : Nat) : parts code = partsByTree code := by
  have listed : decompositions.lookup code = decompositionTree.find? code :=
    (SearchTree.find?_build (by decide +kernel) (by decide +kernel) code).symm
  have single : singletonTable.lookup code = singletonTree.find? code :=
    (SearchTree.find?_build (by decide +kernel) (by decide +kernel) code).symm
  unfold parts partsByTree
  rw [listed, singleton?_eq_lookup, single]
  cases syllableParts? code with
  | some found => rfl
  | none =>
      cases decompositionTree.find? code with
      | some found => rfl
      | none => cases singletonTree.find? code <;> rfl

/-- A code point of a character that decomposes to itself. -/
def IsPart (code : Nat) : Prop :=
  partsByTree code = [code] ∧ code.isValidChar

instance (code : Nat) : Decidable (IsPart code) :=
  inferInstanceAs (Decidable (_ ∧ _))

theorem IsPart.parts_eq {code : Nat} (isPart : IsPart code) : parts code = [code] :=
  (parts_eq_partsByTree code).trans isPart.1

/-- What the tables and the blocks of Hangul letters hold does not decompose further, and a composite
    decomposes to the decomposition of its first half and its second half. -/
@[mk_iff]
structure DataFacts : Prop where
  decompositions : ∀ entry ∈ decompositions, ∀ code ∈ entry.2, IsPart code
  singletons : ∀ entry ∈ singletonTable, IsPart entry.2
  leading : ∀ i < leadingCount, IsPart (leadingBase + i)
  vowel : ∀ i < vowelCount, IsPart (vowelBase + i)
  trailing : ∀ i < trailingCount, IsPart (trailingBase + i)
  composites : ∀ entry ∈ composites,
    partsByTree entry.2.2 = partsByTree entry.1 ++ [entry.2.1] ∧ entry.2.2.isValidChar

/-- The facts hold, by one evaluation over all of the data. -/
theorem dataFacts : DataFacts :=
  dataFacts_iff.mpr (by decide +kernel)

/-! ### Hangul syllables -/

/-- The syllable with given numbers of its parts. -/
def syllable (leading vowel trailing : Nat) : Nat :=
  syllableBase + (leading * vowelCount + vowel) * trailingCount + trailing

theorem syllableParts?_syllable {l v t : Nat} (leading : l < leadingCount) (vowel : v < vowelCount)
    (trailing : t < trailingCount) :
    syllableParts? (syllable l v t) =
      some ([leadingBase + l, vowelBase + v] ++ if t = 0 then [] else [trailingBase + t]) := by
  simp only [leadingCount, vowelCount, trailingCount] at leading vowel trailing
  have index : syllable l v t - syllableBase = (l * 21 + v) * 28 + t := by
    simp only [syllable, syllableBase, vowelCount, trailingCount]
    omega
  have inBlock : syllableBase ≤ syllable l v t ∧
      syllable l v t < syllableBase + syllableCount := by
    simp only [syllable, syllableBase, syllableCount, leadingCount, vowelCount, trailingCount]
    omega
  have leadingEq : ((l * 21 + v) * 28 + t) / (21 * 28) = l := by omega
  have vowelEq : ((l * 21 + v) * 28 + t) % (21 * 28) / 28 = v := by omega
  have trailingEq : ((l * 21 + v) * 28 + t) % 28 = t := by omega
  simp only [syllableParts?, inBlock, decide_true, Bool.and_self, if_true, index, vowelCount,
    trailingCount, leadingEq, vowelEq, trailingEq]
  split <;> rfl

/-- Only syllables have parts. -/
theorem eq_syllable_of_syllableParts? {code : Nat} {found : List Nat}
    (parts : syllableParts? code = some found) :
    ∃ l < leadingCount, ∃ v < vowelCount, ∃ t < trailingCount, code = syllable l v t := by
  unfold syllableParts? at parts
  split at parts
  next inBlock =>
      rw [Bool.and_eq_true, decide_eq_true_eq, decide_eq_true_eq] at inBlock
      simp only [syllableBase, syllableCount, leadingCount, vowelCount, trailingCount] at inBlock
      refine ⟨(code - syllableBase) / 588, ?_, (code - syllableBase) % 588 / 28, ?_,
        (code - syllableBase) % 28, ?_, ?_⟩ <;>
        simp only [syllable, syllableBase, leadingCount, vowelCount, trailingCount] <;> omega
  next => simp at parts

theorem parts_syllable {l v t : Nat} (leading : l < leadingCount) (vowel : v < vowelCount)
    (trailing : t < trailingCount) :
    parts (syllable l v t) =
      [leadingBase + l, vowelBase + v] ++ if t = 0 then [] else [trailingBase + t] := by
  rw [parts, syllableParts?_syllable leading vowel trailing]

theorem syllable_valid {l v t : Nat} (leading : l < leadingCount) (vowel : v < vowelCount)
    (trailing : t < trailingCount) : (syllable l v t).isValidChar := by
  simp only [leadingCount, vowelCount, trailingCount] at leading vowel trailing
  refine .inl ?_
  simp only [syllable, syllableBase, vowelCount, trailingCount]
  omega

/-- The decomposition of a character: that of a syllable, one of the tables, or the character itself. -/
theorem parts_cases (whole : Nat) :
    (∃ l < leadingCount, ∃ v < vowelCount, ∃ t < trailingCount, parts whole =
      [leadingBase + l, vowelBase + v] ++ if t = 0 then [] else [trailingBase + t]) ∨
    (∃ entry ∈ decompositions, parts whole = entry.2) ∨
    (∃ entry ∈ singletonTable, parts whole = [entry.2]) ∨ parts whole = [whole] := by
  cases syllableEq : syllableParts? whole with
  | some found =>
      obtain ⟨l, leading, v, vowel, t, trailing, rfl⟩ := eq_syllable_of_syllableParts? syllableEq
      exact .inl ⟨l, leading, v, vowel, t, trailing, parts_syllable leading vowel trailing⟩
  | none =>
      cases listed : decompositions.lookup whole with
      | some found =>
          refine .inr (.inl ⟨_, mem_of_lookup listed, ?_⟩)
          simp only [parts, syllableEq, listed]
      | none =>
          cases single : singletonTable.lookup whole with
          | some found =>
              refine .inr (.inr (.inl ⟨_, mem_of_lookup single, ?_⟩))
              simp only [parts, syllableEq, listed, singleton?_eq_lookup, single, Option.map_some,
                Option.getD_some]
          | none =>
              refine .inr (.inr (.inr ?_))
              simp only [parts, syllableEq, listed, singleton?_eq_lookup, single, Option.map_none,
                Option.getD_none]

/-- What a valid code point decomposes to does not decompose further. -/
theorem isPart_of_mem_parts {whole code : Nat} (valid : whole.isValidChar)
    (member : code ∈ parts whole) : IsPart code := by
  rcases parts_cases whole with
    ⟨l, leading, v, vowel, t, trailing, same⟩ | ⟨entry, listed, same⟩ | ⟨entry, single, same⟩ | self
  · rw [same, List.mem_append] at member
    rcases member with consonantOrVowel | last
    · rcases List.mem_pair.mp consonantOrVowel with rfl | rfl
      · exact dataFacts.leading l leading
      · exact dataFacts.vowel v vowel
    · split at last
      · simp at last
      · exact List.mem_singleton.mp last ▸ dataFacts.trailing t trailing
  · exact dataFacts.decompositions entry listed code (same ▸ member)
  · rw [same, List.mem_singleton] at member
    exact member ▸ dataFacts.singletons entry single
  · rw [self, List.mem_singleton] at member
    subst member
    exact ⟨parts_eq_partsByTree code ▸ self, valid⟩

/-- A syllable is formed by a leading consonant and a vowel, or by a syllable without a trailing consonant
    and one. -/
theorem syllable?_eq_some {first second whole : Nat} (formed : syllable? first second = some whole) :
    ∃ l < leadingCount, ∃ v < vowelCount,
      (first = leadingBase + l ∧ second = vowelBase + v ∧ whole = syllable l v 0) ∨
      ∃ t < trailingCount, t ≠ 0 ∧ first = syllable l v 0 ∧ second = trailingBase + t ∧
        whole = syllable l v t := by
  unfold syllable? at formed
  split at formed
  next consonantAndVowel =>
      simp only [Bool.and_eq_true, decide_eq_true_eq] at consonantAndVowel
      obtain ⟨⟨⟨leadingAbove, leadingBelow⟩, vowelAbove⟩, vowelBelow⟩ := consonantAndVowel
      refine ⟨first - leadingBase, by omega, second - vowelBase, by omega,
        .inl ⟨by omega, by omega, ?_⟩⟩
      rw [← Option.some.inj formed, syllable, Nat.add_zero]
  next =>
      split at formed
      next syllableAndTrailing =>
          simp only [Bool.and_eq_true, decide_eq_true_eq] at syllableAndTrailing
          obtain ⟨⟨⟨⟨above, below⟩, noTrailing⟩, trailingAbove⟩, trailingBelow⟩ := syllableAndTrailing
          obtain rfl : first + (second - trailingBase) = whole := Option.some.inj formed
          simp only [syllableBase, syllableCount, leadingCount, vowelCount, trailingCount,
            trailingBase] at above below noTrailing trailingAbove trailingBelow
          refine ⟨(first - syllableBase) / 588, ?_, (first - syllableBase) % 588 / 28, ?_,
            .inr ⟨second - trailingBase, ?_, ?_, ?_, ?_, ?_⟩⟩ <;>
            simp only [syllable, syllableBase, leadingCount, vowelCount, trailingCount,
              trailingBase] <;> omega
      next => simp at formed

/-- A composite decomposes to the decomposition of its first half and its second half. -/
theorem parts_composite {first second whole : Nat}
    (composed : composite? first second = some whole) :
    parts whole = parts first ++ [second] ∧ whole.isValidChar := by
  unfold composite? at composed
  split at composed
  next found formed =>
      obtain rfl : found = whole := Option.some.inj composed
      obtain ⟨l, leading, v, vowel, ⟨rfl, rfl, rfl⟩ | ⟨t, trailing, nonzero, rfl, rfl, rfl⟩⟩ :=
        syllable?_eq_some formed
      · have single : parts (leadingBase + l) = [leadingBase + l] := (dataFacts.leading l leading).parts_eq
        refine ⟨?_, syllable_valid leading vowel (by decide)⟩
        rw [parts_syllable leading vowel (by decide), single]
        rfl
      · refine ⟨?_, syllable_valid leading vowel trailing⟩
        rw [parts_syllable leading vowel trailing, parts_syllable leading vowel (by decide),
          if_neg nonzero]
        rfl
  next =>
      obtain ⟨entry, member, entryEq⟩ := List.exists_of_findSome?_eq_some composed
      obtain ⟨a, b, c⟩ := entry
      simp only [Option.ite_none_right_eq_some, Option.some.injEq] at entryEq
      obtain ⟨⟨rfl, rfl⟩, rfl⟩ := entryEq
      have data := dataFacts.composites _ member
      rw [parts_eq_partsByTree, parts_eq_partsByTree]
      exact data

end Crosswalk.Text.Normal
