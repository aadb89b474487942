import CalcShell.Proofs.Expression.Imbalance

/-!
# The two halves of a split

An operator can be split at where as many parentheses have been closed as opened, apart
from the two ends of the text.  The search finds the last such place of the first
operator that has one, and finds nothing only where there is none.  Nothing is lost: the
halves and the operator between them make up the text, and if its parentheses match,
those of each half do.
-/

namespace CalcShell.Expression

/-- An operator stands at a place that is neither the first nor the last of the text, and up to
there as many parentheses have been closed as opened. -/
structure IsSplitPlace (text : List Char) (operator : Operator) (place : Nat) : Prop where
  here : text[place]? = some operator.symbol
  notFirst : 0 < place
  notLast : place < text.length - 1
  level : (text.take (place + 1)).count '(' = (text.take (place + 1)).count ')'

/-- The place is the last one of the operator, and the operators that are searched for earlier
have none. -/
structure IsFoundPlace (text : List Char) (operator : Operator) (place : Nat) : Prop where
  here : IsSplitPlace text operator place
  last : ∀ other, IsSplitPlace text operator other → other ≤ place
  first : ∀ earlier, searchRank earlier < searchRank operator →
    ∀ other, ¬ IsSplitPlace text earlier other

section Places

variable {text : List Char} {operator : Operator} {place : Nat}

theorem netDepth_eq_zero_iff : netDepth text = 0 ↔ text.count '(' = text.count ')' := by
  rw [netDepth_eq_count]
  omega

/-- Counting parentheses comes to the same as following the depth. -/
theorem isSplitPlace_iff_eligible :
    IsSplitPlace text operator place ↔ Eligible text operator.symbol place := by
  constructor
  · intro isPlace
    obtain ⟨inside, symbolHere⟩ := List.getElem?_eq_some_iff.mp isPlace.here
    have notFirst := isPlace.notFirst
    have notLast := isPlace.notLast
    have front : text.take (place + 1) = text.take place ++ [operator.symbol] := by
      rw [List.take_add_one, isPlace.here, Option.toList_some]
    refine ⟨text.take place, text.drop (place + 1), ?_, ?_, ?_, ?_, ?_⟩
    · rw [← symbolHere, List.getElem_cons_drop, List.take_append_drop]
    · exact List.length_take_of_le (Nat.le_of_lt inside)
    · apply List.ne_nil_of_length_pos
      rw [List.length_take]
      omega
    · apply List.ne_nil_of_length_pos
      rw [List.length_drop]
      omega
    · rw [← front, netDepth_eq_zero_iff]
      exact isPlace.level
  · rintro ⟨before, after, rfl, rfl, beforeNonempty, afterNonempty, level⟩
    have beforeLength := List.length_pos_of_ne_nil beforeNonempty
    have afterLength := List.length_pos_of_ne_nil afterNonempty
    have front : (before ++ operator.symbol :: after).take (before.length + 1) =
        before ++ [operator.symbol] := by
      rw [List.append_cons]
      exact List.take_left' List.length_append
    refine ⟨by simp, beforeLength, ?_, ?_⟩
    · rw [List.length_append, List.length_cons]
      omega
    · rw [front]
      exact netDepth_eq_zero_iff.mp level

theorem lastPlace?_eq_none_iff_not_isSplitPlace :
    lastPlace? text operator.symbol = none ↔ ∀ place, ¬ IsSplitPlace text operator place := by
  rw [lastPlace?_eq_none_iff]
  simp only [isSplitPlace_iff_eligible]

theorem isFoundPlace_iff :
    IsFoundPlace text operator place ↔
      lastPlace? text operator.symbol = some place ∧
        ∀ earlier, searchRank earlier < searchRank operator →
          lastPlace? text earlier.symbol = none := by
  simp only [lastPlace?_eq_some_iff, lastPlace?_eq_none_iff_not_isSplitPlace,
    ← isSplitPlace_iff_eligible]
  constructor
  · intro found
    exact ⟨⟨found.here, found.last⟩, found.first⟩
  · intro found
    exact ⟨found.1.1, found.1.2, found.2⟩

/-- A text is split at the place that is found, and what stands around it is kept. -/
theorem split?_eq_some_iff_isFoundPlace {left right : List Char} :
    split? text = some ⟨left, operator, right⟩ ↔
      text = left ++ operator.symbol :: right ∧ IsFoundPlace text operator left.length := by
  rw [isFoundPlace_iff]
  constructor
  · intro found
    obtain ⟨noneBefore, place, isLast, shape⟩ := split?_eq_some_iff.mp found
    have inside : place < text.length :=
      Nat.lt_of_succ_lt (eligible_iff_getElem?.mp (lastPlace?_eq_some_iff.mp isLast).1).2.2.2
    obtain rfl : left = text.take place := (congrArg Split.left shape).symm
    rw [List.length_take_of_le (Nat.le_of_lt inside)]
    exact ⟨(eq_of_split?_eq_some found).1, isLast, noneBefore⟩
  · rintro ⟨shape, isLast, noneBefore⟩
    refine split?_eq_some_iff.mpr ⟨noneBefore, left.length, isLast, ?_⟩
    rw [shape, splitAt_append]

end Places

/-- A text is split exactly where an operator that can be split at is the last of the first
kind, and not at all where there is none.  The halves are not empty, and their parentheses match
if those of the text do. -/
theorem split?_exact (text : List Char) :
    (split? text = none ↔ ∀ operator place, ¬ IsSplitPlace text operator place) ∧
    (∀ left operator right,
      split? text = some ⟨left, operator, right⟩ ↔
        text = left ++ operator.symbol :: right ∧ IsFoundPlace text operator left.length) ∧
    ∀ left operator right, split? text = some ⟨left, operator, right⟩ →
      left ≠ [] ∧ right ≠ [] ∧
        (¬ Imbalanced text → ¬ Imbalanced left ∧ ¬ Imbalanced right) := by
  refine ⟨?_, fun _ _ _ => split?_eq_some_iff_isFoundPlace, ?_⟩
  · rw [split?_eq_none_iff]
    simp only [lastPlace?_eq_none_iff_not_isSplitPlace]
  · intro left operator right found
    obtain ⟨_, leftNonempty, rightNonempty, _⟩ := eq_of_split?_eq_some found
    refine ⟨leftNonempty, rightNonempty, ?_⟩
    simp only [← isBalanced_iff_not_imbalanced]
    intro balanced
    exact isBalanced_sides balanced found

/-- Neither the sum in parentheses nor the sign at the start is split at, and of the two
quotients the last one is. -/
theorem split?_exact_of_quotients :
    split? "-8/(3+1)/2".toList = some ⟨"-8/(3+1)".toList, .dividedBy, "2".toList⟩ ∧
      IsFoundPlace "-8/(3+1)/2".toList .dividedBy 8 ∧
      ¬ Imbalanced "-8/(3+1)".toList ∧ ¬ Imbalanced "2".toList := by
  obtain ⟨_, exact, halves⟩ := split?_exact "-8/(3+1)/2".toList
  have found :
      split? "-8/(3+1)/2".toList = some ⟨"-8/(3+1)".toList, .dividedBy, "2".toList⟩ := by
    decide
  have balanced : ¬ Imbalanced "-8/(3+1)/2".toList :=
    (isBalanced_iff_not_imbalanced _).mp (by decide)
  exact ⟨found, ((exact _ _ _).mp found).2, (halves _ _ _ found).2.2 balanced⟩

end CalcShell.Expression
