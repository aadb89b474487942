import CalcShell.Proofs.Expression.Depth

/-!
# Layers of parentheses

Taking the layers of parentheses off a text stops at the first text that is not a
balanced one between two parentheses.  A text in which a symbol stands outside
all parentheses has no such layer.
-/

namespace CalcShell.Expression

theorem innerText?_eq_some_iff {text inner : List Char} :
    innerText? text = some inner ↔
      text = '(' :: (inner ++ [')']) ∧ isBalanced inner = true := by
  constructor
  · intro found
    unfold innerText? at found
    split at found
    · next rest =>
        split at found
        · next closed =>
            cases found
            obtain ⟨front, shape⟩ := List.getLast?_eq_some_iff.mp closed.1
            refine ⟨?_, closed.2⟩
            rw [shape, List.dropLast_concat]
        · cases found
    · cases found
  · rintro ⟨rfl, balanced⟩
    simp [innerText?, balanced]

theorem stripParens_of_innerText?_eq_some {text inner : List Char}
    (found : innerText? text = some inner) : stripParens text = stripParens inner := by
  rw [stripParens]
  split
  · next other otherFound =>
      rw [found] at otherFound
      rw [Option.some.inj otherFound]
  · next missing =>
      rw [found] at missing
      cases missing

theorem stripParens_of_innerText?_eq_none {text : List Char}
    (missing : innerText? text = none) : stripParens text = text := by
  rw [stripParens]
  split
  · next inner found =>
      rw [missing] at found
      cases found
  · rfl

/-- A balanced text loses the parentheses that are put around it. -/
theorem stripParens_enclosed {inner : List Char} (balanced : isBalanced inner = true) :
    stripParens ('(' :: (inner ++ [')'])) = stripParens inner :=
  stripParens_of_innerText?_eq_some (innerText?_eq_some_iff.mpr ⟨rfl, balanced⟩)

theorem isBalanced_stripParens {text : List Char} (balanced : isBalanced text = true) :
    isBalanced (stripParens text) = true := by
  induction text using stripParens.induct with
  | case1 text inner found inductionHypothesis =>
      rw [stripParens_of_innerText?_eq_some found]
      exact inductionHypothesis (innerText?_eq_some_iff.mp found).2
  | case2 text missing =>
      rwa [stripParens_of_innerText?_eq_none missing]

theorem stripParens_of_head_ne {text : List Char}
    (notOpening : text.head? ≠ some '(') : stripParens text = text := by
  apply stripParens_of_innerText?_eq_none
  rw [Option.eq_none_iff_forall_ne_some]
  intro inner found
  obtain ⟨rfl, _⟩ := innerText?_eq_some_iff.mp found
  exact notOpening rfl

theorem stripParens_of_last_ne {text : List Char}
    (notClosing : text.getLast? ≠ some ')') : stripParens text = text := by
  apply stripParens_of_innerText?_eq_none
  rw [Option.eq_none_iff_forall_ne_some]
  intro inner found
  obtain ⟨rfl, _⟩ := innerText?_eq_some_iff.mp found
  apply notClosing
  rw [← List.cons_append, List.getLast?_concat]

/-- A symbol outside all parentheses keeps a text from being one group. -/
theorem stripParens_of_not_hidden {text : List Char} {symbol : Char}
    (notOpening : symbol ≠ '(') (visible : ¬ Hidden symbol text) :
    stripParens text = text := by
  apply stripParens_of_innerText?_eq_none
  rw [Option.eq_none_iff_forall_ne_some]
  intro inner found
  obtain ⟨rfl, balanced⟩ := innerText?_eq_some_iff.mp found
  exact visible (Hidden.enclosed balanced notOpening)

end CalcShell.Expression
