import CalcShell.Proofs.Expression.Calls

/-!
# The pairs around a text

A pair of parentheses around the whole of a text is taken off as long as what stands between
the two is balanced, so that they match.  What is left has no such pair, and no other number
of layers could have been taken off: it is the greatest one that leaves a balanced text.  An
unbalanced text has no pair to lose.
-/

namespace CalcShell.Expression

variable {text : List Char}

theorem length_inLayers (layers : Nat) (text : List Char) :
    (inLayers layers text).length = text.length + 2 * layers := by
  induction layers with
  | zero => rfl
  | succ layers inductionHypothesis =>
      rw [inLayers, List.length_cons, List.length_append, inductionHypothesis,
        List.length_singleton]
      omega

/-- What is taken off a text are layers, and around a balanced rest if there are any. -/
theorem exists_inLayers_stripParens (text : List Char) :
    ∃ layers, text = inLayers layers (stripParens text) ∧
      (layers ≠ 0 → isBalanced (stripParens text) = true) := by
  induction text using stripParens.induct with
  | case1 text inner found inductionHypothesis =>
      obtain ⟨layers, shape, _⟩ := inductionHypothesis
      obtain ⟨enclosed, balanced⟩ := innerText?_eq_some_iff.mp found
      rw [stripParens_of_innerText?_eq_some found]
      refine ⟨layers + 1, ?_, fun _ => isBalanced_stripParens balanced⟩
      rw [inLayers, ← shape]
      exact enclosed
  | case2 text missing =>
      rw [stripParens_of_innerText?_eq_none missing]
      exact ⟨0, rfl, fun layered => absurd rfl layered⟩

theorem innerText?_stripParens (text : List Char) : innerText? (stripParens text) = none := by
  induction text using stripParens.induct with
  | case1 text inner found inductionHypothesis =>
      rwa [stripParens_of_innerText?_eq_some found]
  | case2 text missing => rwa [stripParens_of_innerText?_eq_none missing]

theorem isBalanced_of_stripParens (balanced : isBalanced (stripParens text) = true) :
    isBalanced text = true := by
  obtain ⟨layers, shape, _⟩ := exists_inLayers_stripParens text
  rw [shape]
  exact isBalanced_inLayers balanced layers

theorem stripParens_of_not_isBalanced (unbalanced : isBalanced text ≠ true) :
    stripParens text = text := by
  obtain ⟨layers, shape, balancedInside⟩ := exists_inLayers_stripParens text
  have noLayer : layers = 0 := by
    by_contra layered
    exact unbalanced (isBalanced_of_stripParens (balancedInside layered))
  rw [noLayer] at shape
  exact shape.symm

/-- No more layers stand around a balanced text than are taken off. -/
theorem le_of_inLayers {layers others : Nat} {inner : List Char}
    (shape : text = inLayers layers (stripParens text)) (otherShape : text = inLayers others inner)
    (balanced : isBalanced inner = true) : others ≤ layers := by
  have sameRest : stripParens text = stripParens inner := by
    rw [otherShape, stripParens_inLayers balanced]
  obtain ⟨further, innerShape, _⟩ := exists_inLayers_stripParens inner
  have wholeLength := congrArg List.length shape
  have otherLength := congrArg List.length otherShape
  have innerLength := congrArg List.length innerShape
  rw [length_inLayers] at wholeLength otherLength innerLength
  rw [sameRest] at wholeLength
  omega

/-- The layers that are taken off a text are the most that leave a balanced text between them.
The rest is not a balanced text between two parentheses and loses nothing more.  It is balanced
exactly if the text is, and an unbalanced text is left as it is. -/
theorem stripParens_exact (text : List Char) :
    let rest := stripParens text
    (∃ layers, text = List.replicate layers '(' ++ rest ++ List.replicate layers ')' ∧
      ∀ others inner,
        text = List.replicate others '(' ++ inner ++ List.replicate others ')' →
        ¬ Imbalanced inner → others ≤ layers) ∧
    (∀ inner, rest = '(' :: (inner ++ [')']) → Imbalanced inner) ∧
    (Imbalanced rest ↔ Imbalanced text) ∧
    (Imbalanced text → rest = text) ∧
    stripParens rest = rest := by
  intro rest
  have noPair : innerText? rest = none := innerText?_stripParens text
  have sameBalance : isBalanced rest = true ↔ isBalanced text = true :=
    ⟨isBalanced_of_stripParens, isBalanced_stripParens⟩
  simp only [isBalanced_iff_not_imbalanced] at sameBalance
  refine ⟨?_, ?_, not_iff_not.mp sameBalance, ?_, stripParens_of_innerText?_eq_none noPair⟩
  · obtain ⟨layers, shape, _⟩ := exists_inLayers_stripParens text
    refine ⟨layers, shape.trans (inLayers_eq_replicate layers rest), ?_⟩
    intro others inner otherShape balanced
    rw [← inLayers_eq_replicate] at otherShape
    exact le_of_inLayers shape otherShape ((isBalanced_iff_not_imbalanced inner).mpr balanced)
  · intro inner enclosed
    by_contra balanced
    have pair : innerText? rest = some inner :=
      innerText?_eq_some_iff.mpr ⟨enclosed, (isBalanced_iff_not_imbalanced inner).mpr balanced⟩
    rw [noPair] at pair
    cases pair
  · intro imbalanced
    apply stripParens_of_not_isBalanced
    rw [ne_eq, isBalanced_iff_not_imbalanced, not_not]
    exact imbalanced

/-- The first and the last parenthesis of a sum of two groups are no pair. -/
example : stripParens "((a)+(b))".toList = "(a)+(b)".toList := by
  decide +kernel

end CalcShell.Expression
