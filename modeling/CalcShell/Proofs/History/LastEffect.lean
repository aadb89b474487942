import Mathlib.Data.List.Induction

/-!
# The last effect of a row of steps

A step may bind a key, take it away or leave it alone.  Where every step does to a state
what its effect says, a key is bound in the end to what the last step did that did not
leave it alone.
-/

namespace CalcShell

variable {step given state : Type} {effect : step → Option (Option given)} {steps : List step}

/-- What the last of some steps that has an effect leaves behind: something that is given, or
nothing.  Nothing is there before the first. -/
def lastEffect (effect : step → Option (Option given)) (steps : List step) : Option given :=
  (steps.reverse.findSome? effect).join

theorem lastEffect_concat (effect : step → Option (Option given)) (steps : List step)
    (last : step) :
    lastEffect effect (steps ++ [last]) = (effect last).getD (lastEffect effect steps) := by
  rw [lastEffect, List.reverse_concat, List.findSome?_cons, lastEffect]
  cases effect last <;> rfl

/-- What is given in the end has been given by one of the steps, and none behind it has an
effect. -/
theorem exists_of_lastEffect {found : given} (isLast : lastEffect effect steps = some found) :
    ∃ earlier taken later, steps = earlier ++ taken :: later ∧
      effect taken = some (some found) ∧ ∀ other ∈ later, effect other = none := by
  induction steps using List.reverseRecOn with
  | nil => cases isLast
  | append_singleton earlier last inductionHypothesis =>
      rw [lastEffect_concat] at isLast
      cases given : effect last with
      | some result =>
          rw [given, Option.getD_some] at isLast
          exact ⟨earlier, last, [], rfl, isLast ▸ given, nofun⟩
      | none =>
          rw [given, Option.getD_none] at isLast
          obtain ⟨before, taken, later, shape, gives, noneLater⟩ := inductionHypothesis isLast
          refine ⟨before, taken, later ++ [last], ?_, gives, ?_⟩
          · rw [shape, List.append_assoc, List.cons_append]
          · intro other member
            rcases List.mem_append.mp member with isLater | isLast
            · exact noneLater other isLater
            · rwa [List.mem_singleton.mp isLast]

/-- A view of a state that follows the effect of each step follows the last effect of all. -/
theorem view_foldl_eq_lastEffect (view : state → Option given) (next : state → step → state)
    (follows : ∀ current taken, view (next current taken) = (effect taken).getD (view current))
    {start : state} (nothing : view start = none) (steps : List step) :
    view (steps.foldl next start) = lastEffect effect steps := by
  induction steps using List.reverseRecOn with
  | nil => exact nothing
  | append_singleton earlier last inductionHypothesis =>
      rw [List.foldl_append, lastEffect_concat, ← inductionHypothesis]
      exact follows _ last

end CalcShell
