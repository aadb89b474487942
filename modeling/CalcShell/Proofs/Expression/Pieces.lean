import CalcShell.Proofs.Expression.Layers
import CalcShell.Proofs.Expression.Naming

/-!
# Pieces of a text

Whatever a text is trimmed to, stripped to or split into stands in one piece in the
text.  Of the characters that are neither white space nor parentheses, trimming and
stripping keep every one.
-/

namespace CalcShell.Expression

open Text

theorem trim_isInfix (text : List Char) : trim text <:+: text := by
  obtain ⟨before, after, shape, _⟩ := exists_around_trimOf isBlank text
  exact ⟨before, after, by rw [List.append_assoc]; exact shape.symm⟩

theorem stripParens_isInfix (text : List Char) : stripParens text <:+: text := by
  induction text using stripParens.induct with
  | case1 text inner found inductionHypothesis =>
      have enclosed : inner <:+: text := by
        rw [(innerText?_eq_some_iff.mp found).1]
        exact ⟨['('], [')'], rfl⟩
      rw [stripParens_of_innerText?_eq_some found]
      exact inductionHypothesis.trans enclosed
  | case2 text missing =>
      have same := stripParens_of_innerText?_eq_none missing
      exact ⟨[], [], by rw [same, List.nil_append, List.append_nil]⟩

theorem split?_isInfix {text : List Char} {split : Split} (found : split? text = some split) :
    split.left <:+: text ∧ split.right <:+: text := by
  have shape := (eq_of_split?_eq_some found).1
  constructor
  · exact ⟨[], split.operator.symbol :: split.right, shape.symm⟩
  · exact ⟨split.left ++ [split.operator.symbol], [], by simp [shape]⟩

/-! ## The core of a text -/

/-- What is left of a text without white space at its ends and the layers of parentheses
around the rest. -/
def coreOf (text : List Char) : List Char :=
  stripParens (trim text)

theorem coreOf_isInfix (text : List Char) : coreOf text <:+: text :=
  (stripParens_isInfix _).trans (trim_isInfix text)

/-- A class of characters to which white space and parentheses do not belong. -/
structure IsInner (keep : Char → Bool) : Prop where
  blank : ∀ char, isBlank char = true → keep char = false
  opening : keep '(' = false
  closing : keep ')' = false

section Inner

variable {keep : Char → Bool}

theorem IsInner.filter_trim (inner : IsInner keep) (text : List Char) :
    (trim text).filter keep = text.filter keep := by
  obtain ⟨before, after, shape, blankBefore, blankAfter⟩ := exists_around_trimOf isBlank text
  have nothing : ∀ gap : List Char, (∀ char ∈ gap, isBlank char = true) →
      gap.filter keep = [] := by
    intro gap blank
    rw [List.filter_eq_nil_iff]
    intro char member
    simp [inner.blank char (blank char member)]
  have filtered := congrArg (List.filter keep) shape
  rw [List.filter_append, List.filter_append, nothing before blankBefore,
    nothing after blankAfter, List.nil_append, List.append_nil] at filtered
  exact filtered.symm

theorem IsInner.filter_stripParens (inner : IsInner keep) (text : List Char) :
    (stripParens text).filter keep = text.filter keep := by
  induction text using stripParens.induct with
  | case1 text enclosed found inductionHypothesis =>
      rw [stripParens_of_innerText?_eq_some found, inductionHypothesis,
        (innerText?_eq_some_iff.mp found).1]
      simp [inner.opening, inner.closing]
  | case2 text missing => rw [stripParens_of_innerText?_eq_none missing]

theorem IsInner.filter_coreOf (inner : IsInner keep) (text : List Char) :
    (coreOf text).filter keep = text.filter keep := by
  rw [coreOf, inner.filter_stripParens, inner.filter_trim]

theorem IsInner.countP_coreOf (inner : IsInner keep) (text : List Char) :
    (coreOf text).countP keep = text.countP keep := by
  rw [List.countP_eq_length_filter, List.countP_eq_length_filter, inner.filter_coreOf]

theorem mem_iff_of_filter_eq {left right : List Char} {char : Char}
    (same : left.filter keep = right.filter keep) (kept : keep char = true) :
    char ∈ left ↔ char ∈ right := by
  have filtered : char ∈ left.filter keep ↔ char ∈ right.filter keep := by rw [same]
  simpa [List.mem_filter, kept] using filtered

theorem IsInner.mem_trim_iff (inner : IsInner keep) (text : List Char) {char : Char}
    (kept : keep char = true) : char ∈ trim text ↔ char ∈ text :=
  mem_iff_of_filter_eq (inner.filter_trim text) kept

theorem IsInner.mem_coreOf_iff (inner : IsInner keep) (text : List Char) {char : Char}
    (kept : keep char = true) : char ∈ coreOf text ↔ char ∈ text :=
  mem_iff_of_filter_eq (inner.filter_coreOf text) kept

end Inner

theorem isInner_point : IsInner (· == '.') where
  blank := fun char blank => beq_eq_false_iff_ne.mpr (ne_of_isBlank blank (by decide) (by decide))
  opening := rfl
  closing := rfl

def isOperatorChar (char : Char) : Bool :=
  char == '+' || char == '-' || char == '*' || char == '/'

theorem isOperatorChar_symbol (operator : Operator) : isOperatorChar operator.symbol = true := by
  cases operator <;> rfl

theorem isInner_isOperatorChar : IsInner isOperatorChar where
  blank := by
    intro char blank
    have other : ∀ symbol : Char, 32 < symbol.toNat → symbol.toNat < 133 → char ≠ symbol :=
      fun _ low high => ne_of_isBlank blank low high
    simp [isOperatorChar, other '+' (by decide) (by decide), other '-' (by decide) (by decide),
      other '*' (by decide) (by decide), other '/' (by decide) (by decide)]
  opening := rfl
  closing := rfl

end CalcShell.Expression
