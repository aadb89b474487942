import CalcShell.Proofs.Expression.Padding
import CalcShell.Proofs.Expression.Reading

/-!
# Overlong numbers

A number with more digits than are read is a failure where it stands at the start of
a text without a point.  Such a text has no value, and neither has one with a point
further behind: whatever operator the text is split at, its left side begins with
the same digits.
-/

namespace CalcShell.Expression

open Number Text

/-- A text that begins with more digits than are read, and no point behind them. -/
structure OverlongText where
  sign : Sign
  digits : List Char
  rest : List Char
  decimal : ∀ digit ∈ digits, digit.isDigit = true
  long : digitLimit < digits.length
  stop : ∀ char ∈ rest.head?, char.isDigit = false ∧ char ≠ '.'

namespace OverlongText

variable (overlong : OverlongText)

def numeral : List Char :=
  overlong.sign.text ++ overlong.digits

def text : List Char :=
  overlong.numeral ++ overlong.rest

/-- The text with something else behind its digits. -/
def followedBy (rest : List Char)
    (stop : ∀ char ∈ rest.head?, char.isDigit = false ∧ char ≠ '.') : OverlongText :=
  { overlong with rest := rest, stop := stop }

theorem stop_of_append {front back : List Char} (shape : overlong.rest = front ++ back) :
    ∀ char ∈ front.head?, char.isDigit = false ∧ char ≠ '.' := by
  intro char isHead
  apply overlong.stop char
  rw [shape]
  exact List.mem_head?_append_of_mem_head? isHead

theorem digits_nonempty : overlong.digits ≠ [] := by
  intro empty
  have long := overlong.long
  rw [empty] at long
  exact absurd long (Nat.not_lt_zero _)

theorem mem_numeral {char : Char} (member : char ∈ overlong.numeral) :
    char.isDigit = true ∨ char = '+' ∨ char = '-' := by
  rcases List.mem_append.mp member with inSign | inDigits
  · exact Or.inr (Sign.mem_text inSign)
  · exact Or.inl (overlong.decimal char inDigits)

theorem tight_numeral : Tight overlong.numeral :=
  IntegerSpelling.tight_text
    ⟨overlong.sign, overlong.digits, overlong.digits_nonempty, overlong.decimal⟩

theorem head_text : ∀ char ∈ overlong.text.head?,
    char.isDigit = true ∨ char = '+' ∨ char = '-' := by
  intro char isHead
  rw [text, List.head?_append_of_ne_nil _ overlong.tight_numeral.nonempty] at isHead
  exact overlong.mem_numeral (List.mem_of_mem_head? isHead)

theorem isName_text : isName overlong.text = false := by
  apply isName_of_head
  intro char isHead
  rcases overlong.head_text char isHead with digit | rfl | rfl
  · exact ⟨isNameStart_of_isDigit digit, not_spacing_of_isDigit digit⟩
  · decide
  · decide

theorem stripParens_text : stripParens overlong.text = overlong.text := by
  apply stripParens_of_head_ne
  intro isHead
  have opening := overlong.head_text '(' isHead
  revert opening
  decide

/-- No point stands where it would make the digits part of a decimal number, and without
one there are too many of them. -/
theorem literal?_ne_some (value : Value) : literal? overlong.text ≠ .ok (some value) := by
  have headSolid : ∀ char ∈ overlong.text.head?, isSpacing char = false := by
    intro char isHead
    rcases overlong.head_text char isHead with digit | rfl | rfl
    · exact not_spacing_of_isDigit digit
    · decide
    · decide
  have nothingDropped : overlong.text.dropWhile isSpacing = overlong.text :=
    dropWhile_eq_self_of_head headSolid
  have shape : overlong.text =
      overlong.sign.text ++ (overlong.digits ++ overlong.rest) :=
    List.append_assoc ..
  have signTaken := takeSign_append overlong.sign
    (unsigned_of_digits overlong.digits_nonempty overlong.decimal overlong.rest)
  have digitsTaken := takeDigits_append overlong.decimal fun char isHead =>
    (overlong.stop char isHead).1
  have noPoint := fun char isHead => (overlong.stop char isHead).2
  rw [literal?]
  split
  · have scanned : ∀ numeral following, Numeral.scan overlong.text = some (numeral, following) →
        numeral.fraction? = none := by
      intro numeral following scanned
      rw [shape, Numeral.scan] at scanned
      simp only [signTaken, digitsTaken, overlong.digits_nonempty, if_false] at scanned
      split at scanned
      · next afterPoint restShape =>
          exact absurd rfl (noPoint '.' (by simp [restShape]))
      · obtain ⟨rfl, _⟩ := Prod.mk.inj (Option.some.inj scanned)
        rfl
    rw [decimalLiteral?, nothingDropped]
    split
    · next numeral following found =>
        simp [scanned numeral following found]
    · simp
  · rw [integerLiteral?, nothingDropped, shape]
    simp only [signTaken, digitsTaken]
    rw [if_pos overlong.long]
    simp

/-- The left side of a split begins with all the digits, unless the sign is split at. -/
theorem exists_left {before : List Char} {split : Split}
    (blank : ∀ char ∈ before, isBlank char = true)
    (found : split? (before ++ overlong.text) = some split) :
    split.left = before ∨ ∃ front : OverlongText, split.left = before ++ front.text := by
  obtain ⟨shape, _, _, _⟩ := eq_of_split?_eq_some found
  have notBlank : split.operator.symbol ∉ before := by
    intro member
    have symbolBlank := blank _ member
    rw [isBlank_symbol] at symbolBlank
    cases symbolBlank
  obtain ⟨left, leftShape, inside⟩ := exists_behind_of_not_mem notBlank shape
  rw [leftShape]
  by_cases nothing : left = []
  · left
    rw [nothing, List.append_nil]
  · right
    rcases List.append_eq_append_iff.mp inside with
      ⟨middle, rfl, behind⟩ | ⟨middle, numeralShape, behind⟩
    · exact ⟨overlong.followedBy middle (overlong.stop_of_append behind), rfl⟩
    · cases middle with
      | nil =>
          refine ⟨overlong.followedBy [] (overlong.stop_of_append (List.nil_append _).symm), ?_⟩
          rw [List.append_nil] at numeralShape
          rw [← numeralShape]
          exact congrArg (before ++ ·) (List.append_nil _).symm
      | cons first rest =>
          rw [List.cons_append, List.cons.injEq] at behind
          obtain ⟨rfl, _⟩ := behind
          -- The only operator in the number is its sign, with nothing in front of it.
          have absent := symbol_not_mem_of_isDigit split.operator overlong.decimal
          obtain ⟨_, signShape, _⟩ := exists_before_of_not_mem absent numeralShape
          exact absurd (Sign.eq_nil_of_text_eq signShape).1 nothing

theorem exists_trim_text {before : List Char} (blank : ∀ char ∈ before, isBlank char = true) :
    ∃ core : OverlongText, trim (before ++ overlong.text) = core.text := by
  obtain ⟨dropped, restShape⟩ := exists_dropEndWhile_append isBlank overlong.rest
  have around : trim (before ++ (overlong.numeral ++ overlong.rest)) =
      before.dropWhile isBlank ++ (overlong.numeral ++ dropEndWhile isBlank overlong.rest) :=
    trim_around overlong.tight_numeral
  rw [List.dropWhile_eq_nil_iff.mpr blank, List.nil_append] at around
  exact ⟨overlong.followedBy _ (overlong.stop_of_append restShape), around⟩

theorem outcome_ne_ok (environment : Environment) (limit : Nat) (before : List Char)
    (blank : ∀ char ∈ before, isBlank char = true) (overlong : OverlongText) (value : Value) :
    ((ofText limit (before ++ overlong.text)).run environment).outcome ≠ .ok value := by
  induction limit generalizing before overlong value with
  | zero =>
      rw [ofText, outcome_run_refused]
      intro evaluated
      cases evaluated
  | succ depth inductionHypothesis =>
      obtain ⟨core, trimmed⟩ := overlong.exists_trim_text blank
      have nonempty : trim (before ++ overlong.text) ≠ [] := by
        rw [trimmed]
        simp [text, core.tight_numeral.nonempty]
      cases balanced : isBalanced (trim (before ++ overlong.text)) with
      | false =>
          rw [ofText_of_unbalanced depth nonempty balanced, outcome_run_refused]
          intro evaluated
          cases evaluated
      | true =>
          rw [ofText_succ depth nonempty balanced, trimmed, core.stripParens_text]
          intro evaluated
          rcases (outcome_run_ofCore_eq_ok_iff environment).mp evaluated with
            read | ⟨_, name, _⟩ | ⟨_, _, split, leftValue, _, found, leftOutcome, _, _⟩
          · exact core.literal?_ne_some value read
          · rw [core.isName_text] at name
            cases name
          · have leftNonempty := (eq_of_split?_eq_some found).2.1
            have noBlank : ∀ char ∈ ([] : List Char), isBlank char = true := by simp
            rcases core.exists_left noBlank found with nothing | ⟨front, leftShape⟩
            · exact leftNonempty nothing
            · rw [leftShape] at leftOutcome
              exact inductionHypothesis [] noBlank front leftValue leftOutcome

theorem outcome_left_ne_ok (environment : Environment) (depth : Nat) {before : List Char}
    {split : Split} (blank : ∀ char ∈ before, isBlank char = true)
    (found : split? (before ++ overlong.text) = some split) (value : Value) :
    ((ofText depth split.left).run environment).outcome ≠ .ok value := by
  rcases overlong.exists_left blank found with nothing | ⟨front, leftShape⟩
  · rw [nothing]
    exact outcome_ne_ok_of_blank (trim_eq_nil_of_blank blank) depth value
  · rw [leftShape]
    exact outcome_ne_ok environment depth before blank front value

end OverlongText

/-- Where the digits at the start of a text are too many to be read, they are all that
counts of it. -/
theorem exists_of_literal?_eq_error {text : List Char} {fault : Fault}
    (read : literal? text = .error fault) :
    '.' ∉ text ∧ ∃ (before : List Char) (sign : Sign) (digits rest : List Char),
      text = before ++ (sign.text ++ (digits ++ rest)) ∧
      (∀ char ∈ before, isSpacing char = true) ∧
      (∀ digit ∈ digits, digit.isDigit = true) ∧ digitLimit < digits.length ∧
      ∀ char ∈ rest.head?, char.isDigit = false := by
  rw [literal?] at read
  split at read
  · cases read
  · next noPoint =>
      refine ⟨noPoint, ?_⟩
      obtain ⟨before, spacing, shape⟩ := exists_spacing_prefix text
      unfold integerLiteral? at read
      split at read
      next negative unsigned signTaken =>
      split at read
      next digits rest digitsTaken =>
      obtain ⟨sign, signed, rfl⟩ := takeSign_sound signTaken
      obtain ⟨rfl, decimal, stop⟩ := takeDigits_sound digitsTaken
      split at read
      · next long =>
          exact ⟨before, sign, digits, rest, by rw [← signed, ← shape], spacing, decimal, long,
            stop⟩
      · split at read
        · cases read
        · dsimp only at read
          split at read <;> cases read

end CalcShell.Expression
