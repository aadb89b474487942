import CalcShell.Proofs.Expression.IntegerText
import CalcShell.Proofs.Expression.Sequence

/-!
# What is accepted

Only texts of the language have a value.  Those outside it, on which evaluation ends
with an error, include all in which an operand is missing, a sign stands before
anything but a number, two operands stand side by side, a character is neither ASCII
nor white space, or a lone integer does not fit its width.
-/

namespace CalcShell.Expression

open Number Text

/-- A text behind which an operand is missing: there is none in it, or it ends with an operator
or an opening parenthesis. -/
inductive AwaitsOperand : List Char → Prop
  | start {gap : List Char} (blank : ∀ char ∈ gap, isBlank char = true) : AwaitsOperand gap
  | behindOperator (front : List Char) (operator : Operator) {gap : List Char}
      (blank : ∀ char ∈ gap, isBlank char = true) :
      AwaitsOperand (front ++ operator.symbol :: gap)
  | behindOpening (front : List Char) {gap : List Char}
      (blank : ∀ char ∈ gap, isBlank char = true) : AwaitsOperand (front ++ '(' :: gap)

/-- Texts outside the language. -/
inductive Faulty : List Char → Prop
  /-- An operator at the end, or nothing at all. -/
  | missing {text : List Char} (awaits : AwaitsOperand text) : Faulty text
  /-- A group with nothing in it, or an operator with nothing on one of its sides. -/
  | misplaced {before : List Char} (awaits : AwaitsOperand before) {char : Char}
      (noOperand : char = ')' ∨ char = '*' ∨ char = '/') (rest : List Char) :
      Faulty (before ++ char :: rest)
  /-- A sign before a name, a group or white space. -/
  | signed {before : List Char} (awaits : AwaitsOperand before) {sign : Char}
      (isSign : sign = '+' ∨ sign = '-') {rest : List Char}
      (noNumber : ∀ char ∈ rest.head?, char.isDigit = false ∧ char ≠ '.') :
      Faulty (before ++ sign :: rest)
  /-- An operand directly behind another one. -/
  | adjacent (front : List Char) {last first : Char} {gap : List Char} (rest : List Char)
      (ends : isNameRest last = true ∨ last = '.' ∨ last = ')')
      (blank : ∀ char ∈ gap, isBlank char = true)
      (begins : isNameRest first = true ∨ first = '.' ∨ first = '(')
      (apart : gap = [] → last = ')' ∨ first = '(') :
      Faulty (front ++ last :: (gap ++ first :: rest))
  | notAscii (front : List Char) {char : Char} (rest : List Char) (high : 127 < char.toNat)
      (solid : isBlank char = false) : Faulty (front ++ char :: rest)
  /-- An integer that does not fit its width. -/
  | outOfRange {before after : List Char} (spelling : IntegerSpelling)
      (blankBefore : ∀ char ∈ before, isBlank char = true)
      (blankAfter : ∀ char ∈ after, isBlank char = true)
      (exceeds : ¬ InRange integerWidth spelling.value) :
      Faulty (before ++ (spelling.text ++ after))

/-! ## Missing operands -/

section Missing

open Expected

variable {text gap : List Char} {expected later last : Expected} {charClass : CharClass}

theorem isOpen_of_next (binding : charClass = .sign ∨ charClass = .factor ∨ charClass = .opening)
    (step : expected.next charClass = some later) : later.IsOpen := by
  rcases binding with rfl | rfl | rfl <;> cases expected <;> cases step <;>
    first | exact Or.inl rfl | exact Or.inr rfl

theorem token_of_next (plain : charClass = .numeral ∨ charClass = .letter)
    (step : expected.next charClass = some later) : later = .token := by
  rcases plain with rfl | rfl <;> cases expected <;> cases step <;> rfl

theorem isOpen_after_blank (isOpen : expected.IsOpen) (blank : ∀ char ∈ gap, isBlank char = true)
    (read : expected.after gap = some last) : last.IsOpen := by
  rcases isOpen with rfl | rfl
  · rw [after_blank_of_stays rfl blank] at read
    exact Or.inl (Option.some.inj read).symm
  · cases gap with
    | nil => exact Or.inr (Option.some.inj read).symm
    | cons first rest =>
        obtain ⟨later, step, _⟩ := exists_of_after_cons read
        rw [CharClass.of_isBlank (blank first List.mem_cons_self)] at step
        cases step

theorem AwaitsOperand.isOpen (awaits : AwaitsOperand text)
    (read : operand.after text = some last) : last.IsOpen := by
  cases awaits with
  | start blank => exact isOpen_after_blank (Or.inl rfl) blank read
  | behindOperator front operator blank =>
      obtain ⟨middle, _, behind⟩ := exists_of_after_append read
      obtain ⟨later, step, gapRead⟩ := exists_of_after_cons behind
      have binding : CharClass.of operator.symbol = .sign ∨
          CharClass.of operator.symbol = .factor ∨ CharClass.of operator.symbol = .opening :=
        (CharClass.of_symbol operator).imp_right Or.inl
      exact isOpen_after_blank (isOpen_of_next binding step) blank gapRead
  | behindOpening front blank =>
      obtain ⟨middle, _, behind⟩ := exists_of_after_append read
      obtain ⟨later, step, gapRead⟩ := exists_of_after_cons behind
      exact isOpen_after_blank (isOpen_of_next (Or.inr (Or.inr rfl)) step) blank gapRead

theorem isOpen_of_noNumber {rest : List Char}
    (noNumber : ∀ char ∈ rest.head?, char.isDigit = false ∧ char ≠ '.')
    (read : number.after rest = some last) : last.IsOpen := by
  cases rest with
  | nil => exact Or.inr (Option.some.inj read).symm
  | cons first more =>
      obtain ⟨later, step, _⟩ := exists_of_after_cons read
      have numeral : CharClass.of first = .numeral := by
        cases charClass : CharClass.of first <;> rw [charClass] at step <;>
          first | rfl | cases step
      obtain ⟨noDigit, noPoint⟩ := noNumber first (by simp)
      rcases CharClass.eq_of_numeral numeral with digit | isPoint
      · rw [noDigit] at digit
        cases digit
      · exact absurd isPoint noPoint

theorem Grammatical.not_awaitsOperand (grammatical : Grammatical text) :
    ¬ AwaitsOperand text := by
  intro awaits
  obtain ⟨last, read, complete⟩ := grammatical.exists_after
  exact (awaits.isOpen read).not_isComplete complete

end Missing

/-! ## Complete operands -/

section Complete

open Expected

variable {gap : List Char} {last first : Char} {expected later joint : Expected}

/-- Behind the last character of an operand it is complete, and goes on only directly behind it
if that is no parenthesis. -/
theorem complete_behind_operand (ends : isNameRest last = true ∨ last = '.' ∨ last = ')')
    (blank : ∀ char ∈ gap, isBlank char = true)
    (step : expected.next (CharClass.of last) = some later)
    (gapRead : later.after gap = some joint) :
    joint.IsComplete ∧ (joint = .token → gap = [] ∧ last ≠ ')') := by
  have plainEnd : (isNameRest last = true ∨ last = '.') → last ≠ ')' →
      joint.IsComplete ∧ (joint = .token → gap = [] ∧ last ≠ ')') := by
    intro plain notClosing
    obtain rfl := token_of_next (CharClass.of_plain plain) step
    rw [token_after_blank blank] at gapRead
    obtain rfl := Option.some.inj gapRead
    split
    · next noGap => exact ⟨Or.inl rfl, fun _ => ⟨noGap, notClosing⟩⟩
    · exact ⟨Or.inr rfl, nofun⟩
  rcases ends with inName | rfl | rfl
  · apply plainEnd (Or.inl inName)
    rintro rfl
    exact absurd inName (by decide)
  · exact plainEnd (Or.inr rfl) (by decide)
  · obtain rfl : later = .operator := by
      cases expected <;> cases step <;> rfl
    rw [after_blank_of_stays rfl blank] at gapRead
    obtain rfl := Option.some.inj gapRead
    exact ⟨Or.inr rfl, nofun⟩

theorem next_eq_none_of_complete (complete : expected.IsComplete)
    (begins : isNameRest first = true ∨ first = '.' ∨ first = '(')
    (apart : expected = .token → first = '(') : expected.next (CharClass.of first) = none := by
  rcases complete with rfl | rfl
  · rw [apart rfl]
    rfl
  · rcases begins with inName | rfl | rfl
    · rcases CharClass.of_isNameRest inName with isNumeral | isLetter
      · rw [isNumeral]
        rfl
      · rw [isLetter]
        rfl
    · rfl
    · rfl

end Complete

/-! ## Lone integers -/

theorem symbol_not_mem_of_blank {gap : List Char} (operator : Operator)
    (blank : ∀ char ∈ gap, isBlank char = true) : operator.symbol ∉ gap := by
  intro member
  have symbolBlank := blank _ member
  rw [isBlank_symbol] at symbolBlank
  cases symbolBlank

/-- Where nothing but an integer is written between white space, it fits its width. -/
theorem Grammatical.inRange_of_trim_eq {text : List Char} (grammatical : Grammatical text)
    {spelling : IntegerSpelling} (lone : trim text = spelling.text) :
    InRange integerWidth spelling.value := by
  induction grammatical with
  | @padded before text after blankBefore blankAfter inner inRange =>
      rw [← List.append_assoc, trim_pad blankBefore blankAfter] at lone
      exact inRange lone
  | @group text inner _ =>
      rw [(Tight.enclosed (by decide) (by decide) text).trim_eq] at lone
      exact absurd (lone ▸ List.mem_cons_self) spelling.paren_not_mem.1
  | integer other inRange =>
      rw [other.tight_text.trim_eq] at lone
      rwa [← IntegerSpelling.value_eq_of_text_eq lone]
  | decimal other =>
      have tight := tight_of_spelled (Spelled.decimal other)
      rw [tight.trim_eq] at lone
      exact absurd (lone ▸ other.point_mem) spelling.point_not_mem
  | name other =>
      rw [other.tight_text.trim_eq] at lone
      have member : other.first ∈ spelling.text := lone ▸ List.mem_cons_self
      have noLetter := isNameStart_of_mem_signed spelling.decimal other.first member
      rw [other.begins] at noLetter
      cases noLetter
  | @operation operator left right leftOperand rightOperand _ _ =>
      obtain ⟨before, after, shape, blankBefore, blankAfter⟩ :=
        exists_around_trimOf isBlank (left ++ operator.symbol :: right)
      rw [show trimOf isBlank _ = spelling.text from lone] at shape
      obtain ⟨middle, leftShape, inside⟩ :=
        exists_behind_of_not_mem (symbol_not_mem_of_blank operator blankBefore) shape.symm
      obtain ⟨_, integerShape, _⟩ :=
        exists_before_of_not_mem (symbol_not_mem_of_blank operator blankAfter) inside
      rw [leftShape, IntegerSpelling.eq_nil_of_symbol integerShape, List.append_nil]
        at leftOperand
      exact absurd (AwaitsOperand.start blankBefore) leftOperand.not_awaitsOperand

/-! ## Texts outside the language -/

open Expected in
theorem Faulty.not_grammatical {text : List Char} (faulty : Faulty text) :
    ¬ Grammatical text := by
  intro grammatical
  obtain ⟨last, read, complete⟩ := grammatical.exists_after
  cases faulty with
  | missing awaits => exact grammatical.not_awaitsOperand awaits
  | misplaced awaits noOperand rest =>
      obtain ⟨middle, front, behind⟩ := exists_of_after_append read
      obtain ⟨later, step, _⟩ := exists_of_after_cons behind
      rcases awaits.isOpen front with rfl | rfl <;> rcases noOperand with rfl | rfl | rfl <;>
        cases step
  | signed awaits isSign noNumber =>
      obtain ⟨middle, front, behind⟩ := exists_of_after_append read
      obtain ⟨later, step, restRead⟩ := exists_of_after_cons behind
      obtain rfl : later = .number := by
        rcases awaits.isOpen front with rfl | rfl <;> rcases isSign with rfl | rfl <;>
          cases step <;> rfl
      exact (isOpen_of_noNumber noNumber restRead).not_isComplete complete
  | @adjacent front ending first gap rest ends blank begins apart =>
      obtain ⟨middle, frontRead, behind⟩ := exists_of_after_append read
      obtain ⟨later, step, behindLast⟩ := exists_of_after_cons behind
      obtain ⟨joint, gapRead, behindGap⟩ := exists_of_after_append behindLast
      obtain ⟨next, firstStep, _⟩ := exists_of_after_cons behindGap
      obtain ⟨operandComplete, sameToken⟩ := complete_behind_operand ends blank step gapRead
      have refused : joint.next (CharClass.of first) = none := by
        apply next_eq_none_of_complete operandComplete begins
        intro isToken
        obtain ⟨noGap, notClosing⟩ := sameToken isToken
        exact (apart noGap).resolve_left notClosing
      rw [refused] at firstStep
      cases firstStep
  | notAscii front rest high solid =>
      obtain ⟨middle, _, behind⟩ := exists_of_after_append read
      obtain ⟨later, step, _⟩ := exists_of_after_cons behind
      rw [CharClass.of_high high solid] at step
      cases middle <;> cases step
  | outOfRange spelling blankBefore blankAfter exceeds =>
      apply exceeds
      apply grammatical.inRange_of_trim_eq
      rw [← List.append_assoc, trim_pad blankBefore blankAfter, spelling.tight_text.trim_eq]

/-- A text with a value belongs to the language, and on every other one, the faulty ones among
them, evaluation ends with an error. -/
theorem grammatical_of_evaluateWithin (limit : Nat) (environment : Environment) (text : String) :
    ((∃ value, (evaluateWithin limit environment text).outcome = .ok value) →
      Grammatical text.toList) ∧
    (¬ Grammatical text.toList →
      ∃ error, (evaluateWithin limit environment text).outcome = .error error) ∧
    (Faulty text.toList → ¬ Grammatical text.toList) := by
  have accepted : ∀ value, (evaluateWithin limit environment text).outcome = .ok value →
      Grammatical text.toList := by
    intro value evaluated
    rw [outcome_evaluateWithin] at evaluated
    exact Grammatical.of_outcome limit evaluated
  refine ⟨fun ⟨value, evaluated⟩ => accepted value evaluated, ?_, Faulty.not_grammatical⟩
  intro outside
  cases outcome : (evaluateWithin limit environment text).outcome with
  | ok value => exact absurd (accepted value outcome) outside
  | error error => exact ⟨error, rfl⟩

end CalcShell.Expression
