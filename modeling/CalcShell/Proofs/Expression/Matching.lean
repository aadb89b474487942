import CalcShell.Proofs.Expression.Depth

/-!
# Matched parentheses

A text is balanced exactly when its parentheses can be matched: it is empty, or begins with
another character or with a matched text between two parentheses, and a matched text follows.
The check only counts how many parentheses are open.  What it accepts while some are open is a
matched text, and for each open parenthesis the one that closes it and a matched text behind.
In this form the count can be followed one character at a time.
-/

namespace CalcShell.Expression

/-- The texts in which each parenthesis belongs to another one. -/
inductive Matched : List Char → Prop
  | empty : Matched []
  | plain {char : Char} {rest : List Char} (notOpening : char ≠ '(') (notClosing : char ≠ ')')
      (behind : Matched rest) : Matched (char :: rest)
  | group {inner rest : List Char} (inside : Matched inner) (behind : Matched rest) :
      Matched ('(' :: (inner ++ ')' :: rest))

/-- The texts that close a number of open parentheses and are matched between any two of
these ends. -/
inductive Closes : Nat → List Char → Prop
  | level {text : List Char} (matched : Matched text) : Closes 0 text
  | deeper {opened : Nat} {inner rest : List Char} (inside : Matched inner)
      (behind : Closes opened rest) : Closes (opened + 1) (inner ++ ')' :: rest)

section Counting

variable (opened : Nat) (rest : List Char)

theorem closesFrom_opening : closesFrom opened ('(' :: rest) = closesFrom (opened + 1) rest :=
  rfl

theorem closesFrom_closing_zero : closesFrom 0 (')' :: rest) = false :=
  rfl

theorem closesFrom_closing_succ :
    closesFrom (opened + 1) (')' :: rest) = closesFrom opened rest :=
  rfl

theorem closesFrom_plain {char : Char} (notOpening : char ≠ '(') (notClosing : char ≠ ')') :
    closesFrom opened (char :: rest) = closesFrom opened rest := by
  rw [closesFrom_cons, if_neg notOpening, if_neg notClosing]

end Counting

/-! ## From the count to the pairs -/

namespace Closes

variable {opened : Nat} {char : Char} {inner rest : List Char}

theorem plain (notOpening : char ≠ '(') (notClosing : char ≠ ')') (closes : Closes opened rest) :
    Closes opened (char :: rest) := by
  cases closes with
  | level matched => exact level (.plain notOpening notClosing matched)
  | deeper inside behind => exact deeper (.plain notOpening notClosing inside) behind

theorem group (inside : Matched inner) (closes : Closes opened rest) :
    Closes opened ('(' :: (inner ++ ')' :: rest)) := by
  cases closes with
  | level matched => exact level (.group inside matched)
  | deeper next behind =>
      have joined := deeper (.group inside next) behind
      rwa [List.cons_append, List.append_assoc, List.cons_append] at joined

/-- The first of the ends belongs to the parenthesis that is opened here. -/
theorem opening (closes : Closes (opened + 1) rest) : Closes opened ('(' :: rest) := by
  cases closes with
  | deeper inside behind => exact group inside behind

theorem closing (closes : Closes opened rest) : Closes (opened + 1) (')' :: rest) :=
  deeper .empty closes

end Closes

theorem closes_of_closesFrom {opened : Nat} {text : List Char}
    (accepted : closesFrom opened text = true) : Closes opened text := by
  induction text generalizing opened with
  | nil =>
      obtain rfl : opened = 0 := by
        simpa [closesFrom] using accepted
      exact .level .empty
  | cons char rest inductionHypothesis =>
      by_cases opening : char = '('
      · subst opening
        rw [closesFrom_opening] at accepted
        exact (inductionHypothesis accepted).opening
      · by_cases closing : char = ')'
        · subst closing
          cases opened with
          | zero => cases accepted
          | succ below =>
              rw [closesFrom_closing_succ] at accepted
              exact (inductionHypothesis accepted).closing
        · rw [closesFrom_plain opened rest opening closing] at accepted
          exact (inductionHypothesis accepted).plain opening closing

theorem matched_of_isBalanced {text : List Char} (balanced : isBalanced text = true) :
    Matched text := by
  have closes : Closes 0 text := closes_of_closesFrom balanced
  cases closes with
  | level matched => exact matched

/-! ## From the pairs to the count -/

theorem isBalanced_of_matched {text : List Char} (matched : Matched text) :
    isBalanced text = true := by
  induction matched with
  | empty => rfl
  | plain notOpening notClosing behind balancedBehind =>
      rw [isBalanced, closesFrom_plain 0 _ notOpening notClosing]
      exact balancedBehind
  | group inside behind balancedInside balancedBehind =>
      rw [List.append_cons, ← List.cons_append, isBalanced_append]
      · exact balancedBehind
      · exact isBalanced_enclosed balancedInside

instance (text : List Char) : Decidable (Matched text) :=
  decidable_of_iff (isBalanced text = true) ⟨matched_of_isBalanced, isBalanced_of_matched⟩

/-! ## The walk along the text -/

/-- The count accepts a text when the depth never drops below zero along it and ends there. -/
theorem closesFrom_eq_true_iff_depthsFrom (opened : Nat) (text : List Char) :
    closesFrom opened text = true ↔
      (∀ depth ∈ depthsFrom opened text, 0 ≤ depth) ∧
        (depthsFrom opened text).getLastD opened = 0 := by
  induction text generalizing opened with
  | nil => simp [closesFrom, depthsFrom]
  | cons char rest inductionHypothesis =>
      -- A depth that is not negative is again a number of open parentheses.
      have step (next : Nat) (nextDepth : depthAfter opened char = next) :
          closesFrom next rest = true ↔
            (∀ depth ∈ depthsFrom opened (char :: rest), 0 ≤ depth) ∧
              (depthsFrom opened (char :: rest)).getLastD opened = 0 := by
        rw [depthsFrom, nextDepth, List.forall_mem_cons, List.getLastD_cons,
          and_iff_right (Int.natCast_nonneg next)]
        exact inductionHypothesis next
      by_cases opening : char = '('
      · subst opening
        exact step (opened + 1) rfl
      · by_cases closing : char = ')'
        · subst closing
          cases opened with
          | zero =>
              rw [closesFrom_closing_zero]
              refine iff_of_false Bool.false_ne_true ?_
              rintro ⟨above, _⟩
              have aboveFirst : (0 : Int) ≤ -1 := above (-1) List.mem_cons_self
              omega
          | succ below =>
              refine step below ?_
              simp [depthAfter]
        · rw [closesFrom_plain opened rest opening closing]
          refine step opened ?_
          rw [depthAfter, if_neg opening, if_neg closing]

/-- The texts that are found balanced, by a walk on which the depth never drops below zero and
ends there, are those whose parentheses can be matched. -/
theorem isBalanced_exact (text : List Char) :
    (isBalanced text = true ↔ Matched text) ∧
    (isBalanced text = true ↔
      (∀ depth ∈ depths text, 0 ≤ depth) ∧ (depths text).getLastD 0 = 0) := by
  have matched : isBalanced text = true ↔ Matched text :=
    ⟨matched_of_isBalanced, isBalanced_of_matched⟩
  exact ⟨matched, closesFrom_eq_true_iff_depthsFrom 0 text⟩

/-- The second text opens as many parentheses as it closes, but the first one that it closes has
not been opened. -/
example : Matched "f((a)+(b))".toList ∧ ¬ Matched "a)+(b".toList := by
  decide +kernel

end CalcShell.Expression
