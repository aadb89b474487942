import CalcShell.Expression.Parens
import Mathlib.Data.List.Basic

/-!
# Depth in a text

A text changes the depth by a fixed amount, its net depth, whatever the depth
before it.  In a balanced text the net depth is zero and no front part has a
negative one.  A symbol is hidden in a text when it occurs only between
parentheses.
-/

namespace CalcShell.Expression

/-- The depth behind a text that begins at depth zero. -/
def netDepth : List Char → Int
  | [] => 0
  | char :: rest => depthAfter 0 char + netDepth rest

theorem depthAfter_eq_add (depth : Int) (char : Char) :
    depthAfter depth char = depth + depthAfter 0 char := by
  unfold depthAfter
  split
  · omega
  · split <;> omega

@[simp]
theorem netDepth_append (left right : List Char) :
    netDepth (left ++ right) = netDepth left + netDepth right := by
  induction left with
  | nil => simp [netDepth]
  | cons char rest inductionHypothesis =>
      simp only [List.cons_append, netDepth, inductionHypothesis]
      omega

theorem netDepth_singleton_of_ne {symbol : Char}
    (notOpening : symbol ≠ '(') (notClosing : symbol ≠ ')') :
    netDepth [symbol] = 0 := by
  simp [netDepth, depthAfter, notOpening, notClosing]

/-- The depth at a place is the net depth of the text up to it, that character included. -/
theorem getElem?_depthsFrom (depth : Int) (before after : List Char) (char : Char) :
    (depthsFrom depth (before ++ char :: after))[before.length]? =
      some (depth + netDepth (before ++ [char])) := by
  induction before generalizing depth with
  | nil =>
      simp [depthsFrom, netDepth, depthAfter_eq_add depth char]
  | cons first rest inductionHypothesis =>
      simp only [List.cons_append, depthsFrom, List.length_cons,
        List.getElem?_cons_succ, inductionHypothesis, netDepth]
      rw [depthAfter_eq_add depth first, Int.add_assoc]

/-! ## Balanced texts -/

theorem closesFrom_cons (opened : Nat) (char : Char) (rest : List Char) :
    closesFrom opened (char :: rest) =
      if char = '(' then closesFrom (opened + 1) rest
      else if char = ')' then
        match opened with
        | 0 => false
        | below + 1 => closesFrom below rest
      else closesFrom opened rest :=
  rfl

/-- A text that closes what is open before it can be followed by any text. -/
theorem closesFrom_append {opened : Nat} {left : List Char}
    (closes : closesFrom opened left = true) (below : Nat) (right : List Char) :
    closesFrom (opened + below) (left ++ right) = closesFrom below right := by
  induction left generalizing opened with
  | nil =>
      have atGround : opened = 0 := by
        simpa [closesFrom] using closes
      subst atGround
      simp
  | cons char rest inductionHypothesis =>
      rw [closesFrom_cons] at closes
      rw [List.cons_append, closesFrom_cons]
      by_cases opening : char = '('
      · rw [if_pos opening] at closes ⊢
        rw [← inductionHypothesis closes, Nat.add_right_comm]
      · rw [if_neg opening] at closes ⊢
        by_cases closing : char = ')'
        · rw [if_pos closing] at closes ⊢
          cases opened with
          | zero => exact absurd closes (by simp)
          | succ inner =>
              rw [Nat.add_right_comm]
              exact inductionHypothesis closes
        · rw [if_neg closing] at closes ⊢
          exact inductionHypothesis closes

/-- A balanced text inside another one makes no difference to it. -/
theorem closesFrom_around (opened : Nat) (before after : List Char) {text : List Char}
    (balanced : isBalanced text = true) :
    closesFrom opened (before ++ (text ++ after)) = closesFrom opened (before ++ after) := by
  induction before generalizing opened with
  | nil =>
      have skipped := closesFrom_append balanced opened after
      rwa [Nat.zero_add] at skipped
  | cons char rest inductionHypothesis =>
      simp only [List.cons_append, closesFrom_cons]
      split
      · exact inductionHypothesis (opened + 1)
      · split
        · cases opened with
          | zero => rfl
          | succ below => exact inductionHypothesis below
        · exact inductionHypothesis opened

theorem isBalanced_append {left right : List Char} (balanced : isBalanced left = true) :
    isBalanced (left ++ right) = isBalanced right := by
  simpa [isBalanced] using closesFrom_append balanced 0 right

theorem isBalanced_of_no_parens {text : List Char}
    (noOpening : '(' ∉ text) (noClosing : ')' ∉ text) : isBalanced text = true := by
  unfold isBalanced
  induction text with
  | nil => rfl
  | cons char rest inductionHypothesis =>
      simp only [List.mem_cons, not_or] at noOpening noClosing
      rw [closesFrom_cons, if_neg (Ne.symm noOpening.1), if_neg (Ne.symm noClosing.1)]
      exact inductionHypothesis noOpening.2 noClosing.2

theorem isBalanced_enclosed {inner : List Char} (balanced : isBalanced inner = true) :
    isBalanced ('(' :: (inner ++ [')'])) = true := by
  have closes := closesFrom_append balanced 1 [')']
  simpa [isBalanced, closesFrom] using closes

/-- A text closes what is open before it when it brings the depth down to zero and none of
its front parts goes further down. -/
theorem closesFrom_eq_true_iff (opened : Nat) (text : List Char) :
    closesFrom opened text = true ↔
      (opened : Int) + netDepth text = 0 ∧
        ∀ before after, text = before ++ after → 0 ≤ opened + netDepth before := by
  induction text generalizing opened with
  | nil =>
      constructor
      · intro closes
        have atGround : opened = 0 := by
          simpa [closesFrom] using closes
        subst atGround
        refine ⟨by simp [netDepth], ?_⟩
        intro before after split
        obtain ⟨rfl, rfl⟩ := List.nil_eq_append_iff.mp split
        simp [netDepth]
      · rintro ⟨level, _⟩
        have atGround : opened = 0 := by
          simpa [netDepth] using level
        simp [closesFrom, atGround]
  | cons char rest inductionHypothesis =>
      -- A step changes the depth by one at most, and only the closing one can fail.
      have step : ∀ next : Nat, (next : Int) = opened + depthAfter 0 char →
          (closesFrom next rest = true ↔
            (opened : Int) + netDepth (char :: rest) = 0 ∧
              ∀ before after, char :: rest = before ++ after →
                0 ≤ opened + netDepth before) := by
        intro next nextDepth
        rw [inductionHypothesis next, nextDepth, netDepth, Int.add_assoc]
        refine and_congr_right fun _ => ?_
        constructor
        · intro above before after split
          rcases List.cons_eq_append_iff.mp split with ⟨rfl, _⟩ | ⟨front, rfl, restSplit⟩
          · simp [netDepth]
          · have aboveFront := above front after restSplit
            rw [netDepth]
            omega
        · intro above before after restSplit
          have aboveFront := above (char :: before) after (by simp [restSplit])
          rw [netDepth] at aboveFront
          omega
      rw [closesFrom_cons]
      by_cases opening : char = '('
      · rw [if_pos opening]
        exact step (opened + 1) (by simp [depthAfter, opening])
      · rw [if_neg opening]
        by_cases closing : char = ')'
        · rw [if_pos closing]
          cases opened with
          | zero =>
              refine iff_of_false (by simp) ?_
              rintro ⟨_, above⟩
              have aboveFirst := above [char] rest rfl
              simp [netDepth, depthAfter, closing] at aboveFirst
          | succ below =>
              have lowered : (below : Int) = ((below + 1 : Nat) : Int) + depthAfter 0 char := by
                rw [depthAfter, if_neg opening, if_pos closing]
                omega
              exact step below lowered
        · rw [if_neg closing]
          exact step opened (by simp [depthAfter, opening, closing])

theorem isBalanced_eq_true_iff (text : List Char) :
    isBalanced text = true ↔
      netDepth text = 0 ∧
        ∀ before after, text = before ++ after → 0 ≤ netDepth before := by
  simpa [isBalanced] using closesFrom_eq_true_iff 0 text

theorem netDepth_of_isBalanced {text : List Char} (balanced : isBalanced text = true) :
    netDepth text = 0 :=
  ((isBalanced_eq_true_iff text).mp balanced).1

theorem netDepth_nonneg_of_isBalanced {before after : List Char}
    (balanced : isBalanced (before ++ after) = true) : 0 ≤ netDepth before :=
  ((isBalanced_eq_true_iff _).mp balanced).2 before after rfl

/-! ## Hidden symbols -/

/-- A symbol occurs in a text only between parentheses. -/
def Hidden (symbol : Char) (text : List Char) : Prop :=
  ∀ before after, text = before ++ symbol :: after → netDepth before ≠ 0

namespace Hidden

variable {symbol : Char} {left right text : List Char}

theorem of_not_mem (absent : symbol ∉ text) : Hidden symbol text := by
  intro before after split
  exact absurd (by simp [split]) absent

/-- What follows a text of net depth zero is seen at the same depths as by itself. -/
theorem append (leftHidden : Hidden symbol left) (level : netDepth left = 0)
    (rightHidden : Hidden symbol right) : Hidden symbol (left ++ right) := by
  intro before after split
  rcases List.append_eq_append_iff.mp split with
    ⟨middle, rfl, rightSplit⟩ | ⟨middle, leftSplit, restSplit⟩
  · rw [netDepth_append, level, Int.zero_add]
    exact rightHidden middle after rightSplit
  · cases middle with
    | nil =>
        have sameFront : before = left := by simpa using leftSplit.symm
        have rightSplit : right = symbol :: after := by simpa using restSplit.symm
        exact absurd rfl (rightHidden [] after rightSplit)
    | cons first rest =>
        obtain ⟨rfl, _⟩ := List.cons.inj restSplit
        exact leftHidden before rest leftSplit

/-- Nothing but the parentheses themselves is seen of a balanced text between two of them. -/
theorem enclosed {inner : List Char} (balanced : isBalanced inner = true)
    (notOpening : symbol ≠ '(') : Hidden symbol ('(' :: (inner ++ [')'])) := by
  intro before after split
  rcases List.cons_eq_append_iff.mp split with ⟨_, bad⟩ | ⟨front, rfl, innerSplit⟩
  · exact absurd (List.cons.inj bad).1 notOpening
  · have frontOfInner : ∃ rest, inner = front ++ rest := by
      rcases List.append_eq_append_iff.mp innerSplit with
        ⟨middle, rfl, closingSplit⟩ | ⟨middle, innerEq, _⟩
      · cases middle with
        | nil => exact ⟨[], by simp⟩
        | cons first rest =>
            simp at closingSplit
      · exact ⟨middle, innerEq⟩
    obtain ⟨rest, rfl⟩ := frontOfInner
    have above := netDepth_nonneg_of_isBalanced balanced
    simp only [netDepth, depthAfter, if_true]
    omega

end Hidden

end CalcShell.Expression
