import CalcShell.Proofs.Expression.Grammar

/-!
# What may follow what

Read from left to right, a text of the language is a sequence of operands with
operators between them, whatever the parentheses in it enclose.  At each place it is
settled by the text in front of it what may come next, and behind the whole text an
operand is complete.
-/

namespace CalcShell.Expression

open Number Text

/-- What a character can be in an expression. -/
inductive CharClass where
  | blank
  | opening
  | closing
  | sign
  | factor
  | numeral
  | letter
  | foreign
  deriving DecidableEq, Repr

namespace CharClass

def of (char : Char) : CharClass :=
  if isBlank char then .blank
  else if char = '(' then .opening
  else if char = ')' then .closing
  else if char = '+' ∨ char = '-' then .sign
  else if char = '*' ∨ char = '/' then .factor
  else if char.isDigit ∨ char = '.' then .numeral
  else if isNameRest char then .letter
  else .foreign

variable {char : Char}

theorem of_isBlank (blank : isBlank char = true) : of char = .blank :=
  if_pos blank

theorem of_symbol (operator : Operator) :
    of operator.symbol = .sign ∨ of operator.symbol = .factor := by
  cases operator <;> decide

/-- A character of names is none of those with a meaning of their own. -/
theorem of_isNameRest_eq (inName : isNameRest char = true) :
    of char = if char.isDigit then .numeral else .letter := by
  have solid := isBlank_of_isNameRest inName
  have ne : ∀ other : Char, isNameRest other = false → char ≠ other := by
    rintro other notInName rfl
    rw [inName] at notInName
    cases notInName
  simp [of, solid, inName, ne '(' (by decide), ne ')' (by decide), ne '+' (by decide),
    ne '-' (by decide), ne '*' (by decide), ne '/' (by decide), ne '.' (by decide)]

theorem of_isDigit (digit : char.isDigit = true) : of char = .numeral := by
  rw [of_isNameRest_eq (isNameRest_of_isDigit digit), if_pos digit]

theorem of_isNameStart (letter : isNameStart char = true) : of char = .letter := by
  have noDigit : char.isDigit = false := by
    by_contra digit
    rw [isNameStart_of_isDigit (Bool.of_not_eq_false digit)] at letter
    cases letter
  rw [of_isNameRest_eq (isNameRest_of_isNameStart letter), noDigit]
  rfl

theorem of_isNameRest (inName : isNameRest char = true) :
    of char = .numeral ∨ of char = .letter := by
  rw [of_isNameRest_eq inName]
  split
  · exact Or.inl rfl
  · exact Or.inr rfl

theorem of_plain (plain : isNameRest char = true ∨ char = '.') :
    of char = .numeral ∨ of char = .letter := by
  rcases plain with inName | rfl
  · exact of_isNameRest inName
  · exact Or.inl rfl

theorem eq_of_numeral (numeral : of char = .numeral) : char.isDigit = true ∨ char = '.' := by
  by_contra other
  simp only [of, other, if_false] at numeral
  split_ifs at numeral

/-- Outside ASCII only white space has a place in an expression. -/
theorem of_high (high : 127 < char.toNat) (solid : isBlank char = false) :
    of char = .foreign := by
  have ne : ∀ other : Char, other.toNat ≤ 127 → char ≠ other := by
    rintro other low rfl
    omega
  have notInName : isNameRest char = false := by
    by_contra inName
    have code := toNat_of_isNameRest (Bool.of_not_eq_false inName)
    omega
  have noDigit : char.isDigit = false := by
    by_contra digit
    rw [isNameRest_of_isDigit (Bool.of_not_eq_false digit)] at notInName
    cases notInName
  simp [of, solid, notInName, noDigit, ne '(' (by decide), ne ')' (by decide),
    ne '+' (by decide), ne '-' (by decide), ne '*' (by decide), ne '/' (by decide),
    ne '.' (by decide)]

end CharClass

/-- What has to come next. -/
inductive Expected where
  | operand
  /-- The number that a sign belongs to. -/
  | number
  /-- What goes on with a name or a number, or follows it. -/
  | token
  | operator
  deriving DecidableEq, Repr

namespace Expected

def next : Expected → CharClass → Option Expected
  | .operand, .blank | .operand, .opening => some .operand
  | .operand, .sign => some .number
  | .operand, .numeral | .operand, .letter | .number, .numeral => some .token
  | .token, .numeral | .token, .letter => some .token
  | .token, .blank | .token, .closing | .operator, .blank | .operator, .closing =>
    some .operator
  | .token, .sign | .token, .factor | .operator, .sign | .operator, .factor => some .operand
  | _, _ => none

/-- What has to come behind a text, unless something in it comes unexpected. -/
def after (expected : Expected) : List Char → Option Expected
  | [] => some expected
  | char :: rest => (expected.next (CharClass.of char)).bind fun later => later.after rest

/-- Whether an operand is complete. -/
def IsComplete (expected : Expected) : Prop :=
  expected = .token ∨ expected = .operator

/-- Whether an operand is missing. -/
def IsOpen (expected : Expected) : Prop :=
  expected = .operand ∨ expected = .number

theorem IsOpen.not_isComplete {expected : Expected} (isOpen : expected.IsOpen) :
    ¬ expected.IsComplete := by
  rcases isOpen with rfl | rfl <;> simp [IsComplete]

variable {expected last : Expected} {text front rest : List Char} {char : Char}

theorem after_append (expected : Expected) (front rest : List Char) :
    expected.after (front ++ rest) =
      (expected.after front).bind fun later => later.after rest := by
  induction front generalizing expected with
  | nil => rfl
  | cons first more inductionHypothesis =>
      rw [List.cons_append, after, after]
      cases expected.next (CharClass.of first) with
      | none => rfl
      | some later => exact inductionHypothesis later

theorem after_append_of_some {middle : Expected} (read : expected.after front = some middle) :
    expected.after (front ++ rest) = middle.after rest := by
  rw [after_append, read, Option.bind_some]

theorem after_cons_of_next {later : Expected}
    (step : expected.next (CharClass.of char) = some later) :
    expected.after (char :: rest) = later.after rest := by
  rw [after, step, Option.bind_some]

theorem exists_of_after_append (read : expected.after (front ++ rest) = some last) :
    ∃ middle, expected.after front = some middle ∧ middle.after rest = some last := by
  rw [after_append] at read
  exact Option.bind_eq_some_iff.mp read

theorem exists_of_after_cons (read : expected.after (char :: rest) = some last) :
    ∃ later, expected.next (CharClass.of char) = some later ∧ later.after rest = some last := by
  rw [after] at read
  exact Option.bind_eq_some_iff.mp read

/-! ## Blank and plain text -/

theorem after_eq_self_of_stays
    (stays : ∀ char ∈ text, expected.next (CharClass.of char) = some expected) :
    expected.after text = some expected := by
  induction text with
  | nil => rfl
  | cons first rest inductionHypothesis =>
      rw [after_cons_of_next (stays first List.mem_cons_self)]
      exact inductionHypothesis fun char member => stays char (List.mem_cons_of_mem _ member)

/-- White space keeps what does not change at a blank. -/
theorem after_blank_of_stays (stays : expected.next .blank = some expected)
    (blank : ∀ char ∈ text, isBlank char = true) : expected.after text = some expected := by
  apply after_eq_self_of_stays
  intro char member
  rwa [CharClass.of_isBlank (blank char member)]

theorem token_after_blank (blank : ∀ char ∈ text, isBlank char = true) :
    token.after text = some (if text = [] then .token else .operator) := by
  cases text with
  | nil => rfl
  | cons first rest =>
      have step : token.next (CharClass.of first) = some .operator := by
        rw [CharClass.of_isBlank (blank first List.mem_cons_self)]
        rfl
      rw [after_cons_of_next step, if_neg (by simp)]
      exact after_blank_of_stays rfl fun char member => blank char (List.mem_cons_of_mem _ member)

theorem IsComplete.exists_after_blank (complete : expected.IsComplete)
    (blank : ∀ char ∈ text, isBlank char = true) :
    ∃ last, expected.after text = some last ∧ last.IsComplete := by
  rcases complete with rfl | rfl
  · rw [token_after_blank blank]
    refine ⟨_, rfl, ?_⟩
    split
    · exact Or.inl rfl
    · exact Or.inr rfl
  · exact ⟨.operator, after_blank_of_stays rfl blank, Or.inr rfl⟩

theorem token_after_plain
    (plain : ∀ char ∈ text, isNameRest char = true ∨ char = '.') :
    token.after text = some .token := by
  apply after_eq_self_of_stays
  intro char member
  rcases CharClass.of_plain (plain char member) with isNumeral | isLetter
  · rw [isNumeral]
    rfl
  · rw [isLetter]
    rfl

theorem token_after_digits (decimal : ∀ digit ∈ text, digit.isDigit = true) :
    token.after text = some .token :=
  token_after_plain fun char member => Or.inl (isNameRest_of_isDigit (decimal char member))

/-- With or without a sign in front of it, a number begins with a digit or a point. -/
theorem operand_after_signed (sign : Sign) (numeral : CharClass.of char = .numeral) :
    operand.after (sign.text ++ char :: rest) = token.after rest := by
  have direct : operand.after (char :: rest) = token.after rest :=
    after_cons_of_next (by rw [numeral]; rfl)
  have behindSign : number.after (char :: rest) = token.after rest :=
    after_cons_of_next (by rw [numeral]; rfl)
  cases sign with
  | none => exact direct
  | plus => exact (after_cons_of_next rfl).trans behindSign
  | minus => exact (after_cons_of_next rfl).trans behindSign

theorem operand_after_integer (spelling : IntegerSpelling) :
    operand.after spelling.text = some .token := by
  have decimal := spelling.decimal
  rw [IntegerSpelling.text]
  cases shape : spelling.digits with
  | nil => exact absurd shape spelling.nonempty
  | cons first rest =>
      rw [shape] at decimal
      rw [operand_after_signed spelling.sign
        (CharClass.of_isDigit (decimal first List.mem_cons_self))]
      exact token_after_digits fun digit member => decimal digit (List.mem_cons_of_mem _ member)

/-- The sign of an exponent looks like an operator. -/
theorem token_after_exponent (spelling : ExponentSpelling) :
    token.after spelling.text = some .token := by
  have digitsRead := token_after_digits spelling.decimal
  have signedRead : operand.after spelling.digits = some .token :=
    operand_after_integer ⟨.none, spelling.digits, spelling.nonempty, spelling.decimal⟩
  have marked : token.next (CharClass.of spelling.mark) = some .token := by
    rw [CharClass.of_isNameStart spelling.isNameStart_mark]
    rfl
  rw [ExponentSpelling.text, after_cons_of_next marked]
  cases spelling.sign with
  | none => exact digitsRead
  | plus => exact (after_cons_of_next rfl).trans signedRead
  | minus => exact (after_cons_of_next rfl).trans signedRead

theorem operand_after_decimal (spelling : DecimalSpelling) :
    operand.after spelling.text = some .token := by
  have exponentRead : token.after spelling.exponentText = some .token := by
    rw [DecimalSpelling.exponentText]
    cases spelling.exponent? with
    | none => rfl
    | some exponent => exact token_after_exponent exponent
  have fractionRead : token.after (spelling.fraction ++ spelling.exponentText) = some .token := by
    rw [after_append_of_some (token_after_digits spelling.fractionDecimal), exponentRead]
  have wholeDecimal := spelling.wholeDecimal
  rw [DecimalSpelling.text]
  cases shape : spelling.whole with
  | nil => rw [List.nil_append, operand_after_signed spelling.sign rfl, fractionRead]
  | cons first rest =>
      rw [shape] at wholeDecimal
      have restRead : token.after rest = some .token :=
        token_after_digits fun digit member => wholeDecimal digit (List.mem_cons_of_mem _ member)
      rw [List.cons_append, operand_after_signed spelling.sign
        (CharClass.of_isDigit (wholeDecimal first List.mem_cons_self)),
        after_append_of_some restRead]
      exact (after_cons_of_next rfl).trans fractionRead

theorem operand_after_name (spelling : NameSpelling) :
    operand.after spelling.text = some .token := by
  have begun : operand.next (CharClass.of spelling.first) = some .token := by
    rw [CharClass.of_isNameStart spelling.begins]
    rfl
  rw [NameSpelling.text, after_cons_of_next begun]
  exact token_after_plain fun char member => Or.inl (spelling.continues char member)

end Expected

open Expected in
/-- Nothing in a text of the language comes unexpected, and it ends with a complete operand. -/
theorem Grammatical.exists_after {text : List Char} (grammatical : Grammatical text) :
    ∃ last, operand.after text = some last ∧ last.IsComplete := by
  induction grammatical with
  | padded blankBefore blankAfter inner innerRead =>
      obtain ⟨middle, read, complete⟩ := innerRead
      rw [after_append_of_some (after_blank_of_stays rfl blankBefore), after_append_of_some read]
      exact complete.exists_after_blank blankAfter
  | @group text inner innerRead =>
      obtain ⟨middle, read, complete⟩ := innerRead
      have opened : operand.after ('(' :: (text ++ [')'])) = operand.after (text ++ [')']) :=
        after_cons_of_next rfl
      rw [opened, after_append_of_some read]
      rcases complete with rfl | rfl
      · exact ⟨.operator, rfl, Or.inr rfl⟩
      · exact ⟨.operator, rfl, Or.inr rfl⟩
  | integer spelling inRange => exact ⟨.token, operand_after_integer spelling, Or.inl rfl⟩
  | decimal spelling => exact ⟨.token, operand_after_decimal spelling, Or.inl rfl⟩
  | name spelling => exact ⟨.token, operand_after_name spelling, Or.inl rfl⟩
  | operation operator leftOperand rightOperand leftRead rightRead =>
      obtain ⟨middle, read, complete⟩ := leftRead
      have joined : middle.next (CharClass.of operator.symbol) = some .operand := by
        rcases complete with rfl | rfl <;>
          rcases CharClass.of_symbol operator with symbol | symbol <;> rw [symbol] <;> rfl
      rw [after_append_of_some read, after_cons_of_next joined]
      exact rightRead

end CalcShell.Expression
