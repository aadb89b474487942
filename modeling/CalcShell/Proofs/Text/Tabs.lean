import CalcShell.Proofs.Text.Trim
import CalcShell.Text.Tabs

/-!
# Texts whose tabs are expanded

Expanding the tabs leaves none of them.  A text without white space at its ends begins
and ends with the same characters as before, so that it still has none there.
-/

namespace CalcShell.Text

variable {front rest : List Char} {first last : Char}

theorem tab_not_mem_expandTabsFrom (column : Nat) (text : List Char) :
    '\t' ∉ expandTabsFrom column text := by
  induction text generalizing column with
  | nil => exact List.not_mem_nil
  | cons first rest inductionHypothesis =>
      rw [expandTabsFrom]
      split
      · intro member
        rcases List.mem_append.mp member with inGap | later
        · cases List.eq_of_mem_replicate inGap
        · exact inductionHypothesis _ later
      · next notTab =>
          split <;> exact List.not_mem_cons_of_ne_of_not_mem (Ne.symm notTab)
            (inductionHypothesis _)

theorem tab_not_mem_expandTabs (text : List Char) : '\t' ∉ expandTabs text :=
  tab_not_mem_expandTabsFrom 0 text

theorem exists_expandTabsFrom_cons (column : Nat) (notTab : first ≠ '\t') :
    ∃ expanded, expandTabsFrom column (first :: rest) = first :: expanded := by
  rw [expandTabsFrom, if_neg notTab]
  split <;> exact ⟨_, rfl⟩

theorem exists_expandTabsFrom_concat (column : Nat) (front : List Char) (notTab : last ≠ '\t') :
    ∃ expanded, expandTabsFrom column (front ++ [last]) = expanded ++ [last] := by
  induction front generalizing column with
  | nil =>
      refine ⟨[], ?_⟩
      rw [List.nil_append, expandTabsFrom, if_neg notTab]
      split <;> rfl
  | cons first rest inductionHypothesis =>
      rw [List.cons_append, expandTabsFrom]
      split
      · dsimp only
        obtain ⟨expanded, shape⟩ := inductionHypothesis (column + (tabWidth - column % tabWidth))
        exact ⟨_ ++ expanded, by rw [shape, List.append_assoc]⟩
      · split
        · obtain ⟨expanded, shape⟩ := inductionHypothesis 0
          exact ⟨first :: expanded, by rw [shape, List.cons_append]⟩
        · obtain ⟨expanded, shape⟩ := inductionHypothesis (column + 1)
          exact ⟨first :: expanded, by rw [shape, List.cons_append]⟩

theorem ne_tab_of_solid {char : Char} (solid : isBlank char = false) : char ≠ '\t' := by
  rintro rfl
  cases solid

theorem Tight.expandTabs {text : List Char} (tight : Tight text) : Tight (expandTabs text) := by
  obtain ⟨nonempty, firstSolid, lastSolid⟩ := tight
  obtain ⟨before, last, shape⟩ := (List.eq_nil_or_concat' text).resolve_left nonempty
  have lastNotBlank : isBlank last = false := lastSolid last (by rw [shape]; simp)
  obtain ⟨back, endsSame⟩ :=
    exists_expandTabsFrom_concat 0 before (ne_tab_of_solid lastNotBlank)
  rw [← shape] at endsSame
  cases text with
  | nil => exact absurd rfl nonempty
  | cons first rest =>
      have firstNotBlank : isBlank first = false := firstSolid first rfl
      obtain ⟨front, beginsSame⟩ :=
        exists_expandTabsFrom_cons 0 (ne_tab_of_solid firstNotBlank)
      refine ⟨?_, ?_, ?_⟩
      · rw [Text.expandTabs, beginsSame]
        exact List.cons_ne_nil _ _
      · rw [Text.expandTabs, beginsSame]
        simpa using firstNotBlank
      · rw [Text.expandTabs, endsSame]
        simpa using lastNotBlank

end CalcShell.Text
