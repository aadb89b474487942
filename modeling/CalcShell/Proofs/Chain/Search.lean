import CalcShell.Proofs.Chain.Tree
import CalcShell.Proofs.Expression.Places
import Mathlib.Data.Finset.Dedup
import Mathlib.Data.Finset.Max

/-!
# The order of the search

When a chain is split, one operator is searched for in the whole of it before the
next.  Every operator is then a level of its own, and a chain is taken apart at
the last occurrence of the operator that is searched for first.  Properties of
chains are proved along these steps.
-/

namespace CalcShell

open Expression

/-- Every operator is a level of its own, in the order of the search. -/
def searchLevels : List (List Operator) :=
  splitOrder.map fun operator => [operator]

namespace Chain

/-- Some operator of a chain is searched for before all others, and has a last occurrence. -/
theorem exists_searched (chain : Chain) (present : chain.operators ≠ []) :
    ∃ (operator : Operator) (left right : Chain) (leftGap rightGap : Gap),
      chain = joined left leftGap operator rightGap right ∧
        operator ∉ right.operators ∧
        ∀ other ∈ chain.operators, searchRank operator ≤ searchRank other := by
  have nonempty : chain.operators.toFinset.Nonempty := by
    rwa [List.toFinset_nonempty_iff]
  obtain ⟨operator, member, least⟩ :=
    Finset.exists_min_image chain.operators.toFinset searchRank nonempty
  obtain ⟨found, left, right, leftGap, rightGap, shape, isFound, absent⟩ :=
    exists_joined [operator] chain
      ⟨operator, List.mem_toFinset.mp member, List.mem_singleton_self operator⟩
  obtain rfl := List.mem_singleton.mp isFound
  refine ⟨found, left, right, leftGap, rightGap, shape, ?_, ?_⟩
  · intro inRight
    exact absent found inRight isFound
  · intro other otherMember
    exact least other (List.mem_toFinset.mpr otherMember)

/-- Induction along the search: single operands, and chains that are taken apart. -/
theorem inductionOnSearch {motive : Chain → Prop}
    (atom : ∀ leaf, motive (.single (.atom leaf)))
    (group : ∀ inner, motive inner → motive (.single (.group inner)))
    (joined : ∀ left leftGap operator rightGap right, operator ∉ operators right →
      (∀ other ∈ (joined left leftGap operator rightGap right).operators,
        searchRank operator ≤ searchRank other) →
      motive left → motive right → motive (joined left leftGap operator rightGap right))
    (chain : Chain) : motive chain := by
  induction size : sizeOf chain using Nat.strong_induction_on generalizing chain with
  | _ size inductionHypothesis =>
      subst size
      match chain with
      | .single (.atom leaf) => exact atom leaf
      | .single (.group inner) =>
          apply group
          apply inductionHypothesis (sizeOf inner) _ inner rfl
          simp only [single.sizeOf_spec, Operand.group.sizeOf_spec]
          omega
      | .link before beforeGap last lastGap operand =>
          obtain ⟨operator, left, right, leftGap, rightGap, shape, absent, least⟩ :=
            exists_searched (.link before beforeGap last lastGap operand) (by simp [operators])
          rw [shape] at least inductionHypothesis ⊢
          apply joined left leftGap operator rightGap right absent least
          · exact inductionHypothesis (sizeOf left) (sizeOf_left_lt ..) left rfl
          · exact inductionHypothesis (sizeOf right) (sizeOf_right_lt ..) right rfl

section Joined

variable {left right : Chain} {leftGap rightGap : Gap} {operator : Operator}

theorem tree_searchLevels_joined (absent : operator ∉ right.operators)
    (least : ∀ other ∈ (joined left leftGap operator rightGap right).operators,
      searchRank operator ≤ searchRank other) :
    (joined left leftGap operator rightGap right).tree searchLevels =
      .apply operator (left.tree searchLevels) (right.tree searchLevels) := by
  obtain ⟨front, rest, order⟩ := List.append_of_mem (mem_splitOrder operator)
  have levels : searchLevels =
      front.map (fun earlier => [earlier]) ++ [operator] ::
        rest.map (fun later => [later]) := by
    simp [searchLevels, order]
  rw [levels]
  apply tree_joined
  · intro level inFront other member inLevel
    obtain ⟨earlier, earlierMember, rfl⟩ := List.mem_map.mp inFront
    rw [List.mem_singleton.mp inLevel] at member
    exact absurd ((mem_front_splitOrder_iff order earlier).mp earlierMember)
      (Nat.not_lt_of_le (least earlier member))
  · exact List.mem_singleton_self operator
  · intro other member inLevel
    rw [List.mem_singleton.mp inLevel] at member
    exact absent member

end Joined

end Chain

end CalcShell
