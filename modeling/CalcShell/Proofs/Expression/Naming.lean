import CalcShell.Proofs.Expression.Places
import CalcShell.Proofs.Expression.Spelling

/-!
# Names, and what is no literal

A name is a letter with letters, digits and underscores behind it.  A text is
recognised as a name exactly when one is spelled in it between spacing.  No name
and no text that begins with a parenthesis is a literal, and neither is a literal
with an operator behind it.
-/

namespace CalcShell.Expression

open Number Text

/-! ## Classes of characters -/

theorem toNat_of_isDigit {char : Char} (digit : char.isDigit = true) :
    48 ≤ char.toNat ∧ char.toNat ≤ 57 := by
  simpa [Char.isDigit, UInt32.le_iff_toNat_le] using digit

theorem toNat_of_isAlpha {char : Char} (letter : char.isAlpha = true) :
    (65 ≤ char.toNat ∧ char.toNat ≤ 90) ∨ (97 ≤ char.toNat ∧ char.toNat ≤ 122) := by
  have cased : (decide ('A'.val ≤ char.val ∧ char.val ≤ 'Z'.val) ||
      (decide ('a'.val ≤ char.val) && decide (char.val ≤ 'z'.val))) = true := letter
  simpa [UInt32.le_iff_toNat_le] using cased

theorem toNat_of_isNameRest {char : Char} (inName : isNameRest char = true) :
    48 ≤ char.toNat ∧ char.toNat ≤ 122 := by
  simp only [isNameRest, Char.isAlphanum, Bool.or_eq_true, beq_iff_eq] at inName
  rcases inName with (letter | digit) | rfl
  · have := toNat_of_isAlpha letter
    omega
  · have := toNat_of_isDigit digit
    omega
  · decide

theorem toNat_of_isBlank {char : Char} (blank : isBlank char = true) :
    char.toNat ≤ 32 ∨ 133 ≤ char.toNat := by
  simp only [isBlank, Bool.or_eq_true, Bool.and_eq_true, decide_eq_true_eq, beq_iff_eq] at blank
  omega

theorem isNameRest_of_isNameStart {char : Char} (letter : isNameStart char = true) :
    isNameRest char = true := by
  have alpha : char.isAlpha = true := letter
  simp [isNameRest, Char.isAlphanum, alpha]

theorem isBlank_of_isNameRest {char : Char} (inName : isNameRest char = true) :
    isBlank char = false := by
  by_contra blank
  have nameCode := toNat_of_isNameRest inName
  have blankCode := toNat_of_isBlank (Bool.of_not_eq_false blank)
  omega

theorem isSpacing_of_isNameRest {char : Char} (inName : isNameRest char = true) :
    isSpacing char = false := by
  by_contra spacing
  have blank := isBlank_of_isSpacing (Bool.of_not_eq_false spacing)
  rw [isBlank_of_isNameRest inName] at blank
  cases blank

theorem isNameRest_of_isBlank {char : Char} (blank : isBlank char = true) :
    isNameRest char = false := by
  by_contra inName
  rw [isBlank_of_isNameRest (Bool.of_not_eq_false inName)] at blank
  cases blank

/-- A character of small code that is none of white space. -/
theorem ne_of_isBlank {char other : Char} (blank : isBlank char = true)
    (low : 32 < other.toNat) (high : other.toNat < 133) : char ≠ other := by
  rintro rfl
  have code := toNat_of_isBlank blank
  omega

theorem isBalanced_of_blank {text : List Char} (blank : ∀ char ∈ text, isBlank char = true) :
    isBalanced text = true := by
  have noParen : ∀ paren : Char, 32 < paren.toNat → paren.toNat < 133 → paren ∉ text := by
    intro paren low high member
    exact ne_of_isBlank (blank paren member) low high rfl
  exact isBalanced_of_no_parens (noParen '(' (by decide) (by decide))
    (noParen ')' (by decide) (by decide))

theorem isBalanced_singleton_symbol (operator : Operator) :
    isBalanced [operator.symbol] = true := by
  cases operator <;> decide

theorem isBlank_symbol (operator : Operator) : isBlank operator.symbol = false := by
  cases operator <;> decide

theorem isSpacing_symbol (operator : Operator) : isSpacing operator.symbol = false := by
  cases operator <;> decide

theorem isNameRest_symbol (operator : Operator) : isNameRest operator.symbol = false := by
  cases operator <;> decide

theorem isDigit_symbol (operator : Operator) : operator.symbol.isDigit = false := by
  cases operator <;> decide

theorem symbol_not_mem_of_isDigit (operator : Operator) {digits : List Char}
    (decimal : ∀ digit ∈ digits, digit.isDigit = true) : operator.symbol ∉ digits := by
  intro member
  have notDigit := isDigit_symbol operator
  rw [decimal _ member] at notDigit
  cases notDigit

theorem symbol_ne_point (operator : Operator) : operator.symbol ≠ '.' := by
  cases operator <;> decide

/-! ## Names -/

structure NameSpelling where
  first : Char
  rest : List Char
  begins : isNameStart first = true
  continues : ∀ char ∈ rest, isNameRest char = true

namespace NameSpelling

def text (spelling : NameSpelling) : List Char :=
  spelling.first :: spelling.rest

theorem isNameRest_of_mem (spelling : NameSpelling) {char : Char}
    (member : char ∈ spelling.text) : isNameRest char = true := by
  rcases List.mem_cons.mp member with rfl | inRest
  · exact isNameRest_of_isNameStart spelling.begins
  · exact spelling.continues char inRest

theorem tight_text (spelling : NameSpelling) : Tight spelling.text :=
  tight_of_not_blank nofun fun _ member =>
    isBlank_of_isNameRest (spelling.isNameRest_of_mem member)

theorem scanName_append (spelling : NameSpelling) {after : List Char} (stops : Stops after) :
    scanName (spelling.text ++ after) = some (spelling.text, after) := by
  rw [text, List.cons_append, scanName, if_pos spelling.begins,
    takeWhile_append_of_stop spelling.continues stops,
    dropWhile_append_of_stop spelling.continues stops]

/-- A name is recognised as far as it is spelled, and only spacing may follow. -/
theorem isName_append (spelling : NameSpelling) {before after : List Char}
    (spacing : ∀ char ∈ before, isSpacing char = true) (stops : Stops after) :
    isName (before ++ (spelling.text ++ after)) = after.all isSpacing := by
  have firstSolid : isSpacing spelling.first = false :=
    isSpacing_of_isNameRest (spelling.isNameRest_of_mem (by simp [text]))
  have spacingDropped :
      (before ++ (spelling.text ++ after)).dropWhile isSpacing = spelling.text ++ after :=
    dropWhile_append_of_stop spacing (by simpa [text] using firstSolid)
  rw [isName, spacingDropped, spelling.scanName_append stops]

end NameSpelling

theorem exists_spelling_of_scanName {text name rest : List Char}
    (scanned : scanName text = some (name, rest)) :
    ∃ spelling : NameSpelling, name = spelling.text ∧ text = spelling.text ++ rest := by
  unfold scanName at scanned
  split at scanned
  · cases scanned
  · next first following =>
      split at scanned
      · next begins =>
          cases scanned
          refine ⟨⟨first, following.takeWhile isNameRest, begins,
            fun _ member => List.mem_takeWhile_imp member⟩, rfl, ?_⟩
          rw [NameSpelling.text, List.cons_append, List.takeWhile_append_dropWhile]
      · cases scanned

/-- A text is a name exactly when one is spelled in it between spacing. -/
theorem isName_eq_true_iff {text : List Char} :
    isName text = true ↔
      ∃ (before : List Char) (spelling : NameSpelling) (after : List Char),
        text = before ++ (spelling.text ++ after) ∧
        (∀ char ∈ before, isSpacing char = true) ∧
        (∀ char ∈ after, isSpacing char = true) := by
  constructor
  · intro recognised
    obtain ⟨before, spacingBefore, shape⟩ := exists_spacing_prefix text
    unfold isName at recognised
    split at recognised
    · next name rest scanned =>
        obtain ⟨spelling, _, dropped⟩ := exists_spelling_of_scanName scanned
        exact ⟨before, spelling, rest, by rw [← dropped, ← shape], spacingBefore,
          by simpa using recognised⟩
    · cases recognised
  · rintro ⟨before, spelling, after, rfl, spacingBefore, spacingAfter⟩
    rw [spelling.isName_append spacingBefore (stops_of_spacing spacingAfter)]
    simpa using spacingAfter

theorem mem_of_isName {text : List Char} (name : isName text = true) {char : Char}
    (member : char ∈ text) : isNameRest char = true ∨ isSpacing char = true := by
  obtain ⟨before, spelling, after, rfl, spacingBefore, spacingAfter⟩ :=
    isName_eq_true_iff.mp name
  rcases List.mem_append.mp member with inBefore | behind
  · exact Or.inr (spacingBefore char inBefore)
  · rcases List.mem_append.mp behind with inName | inAfter
    · exact Or.inl (spelling.isNameRest_of_mem inName)
    · exact Or.inr (spacingAfter char inAfter)

theorem symbol_not_mem_of_isName {text : List Char} (name : isName text = true)
    (operator : Operator) : operator.symbol ∉ text := by
  intro member
  rcases mem_of_isName name member with inName | spacing
  · rw [isNameRest_symbol] at inName
    cases inName
  · rw [isSpacing_symbol] at spacing
    cases spacing

theorem split?_of_isName {text : List Char} (name : isName text = true) :
    split? text = none := by
  rw [split?_eq_none_iff]
  intro operator
  exact lastPlace?_eq_none_of_hidden (Hidden.of_not_mem (symbol_not_mem_of_isName name operator))

theorem isName_of_head {text : List Char}
    (plain : ∀ char ∈ text.head?, isNameStart char = false ∧ isSpacing char = false) :
    isName text = false := by
  have nothingDropped : text.dropWhile isSpacing = text :=
    dropWhile_eq_self_of_head fun char isHead => (plain char isHead).2
  rw [isName, nothingDropped]
  cases text with
  | nil => rfl
  | cons first rest =>
      simp [scanName, (plain first (by simp)).1]

/-! ## What is no literal -/

/-- A character with which a literal can begin. -/
def beginsNumeral (char : Char) : Bool :=
  char.isDigit || char == '.' || char == '+' || char == '-'

theorem beginsNumeral_of_isNameStart {char : Char} (letter : isNameStart char = true) :
    beginsNumeral char = false := by
  have code := toNat_of_isAlpha letter
  have noDigit : char.isDigit = false := by
    by_contra digit
    have digitCode := toNat_of_isDigit (Bool.of_not_eq_false digit)
    omega
  have noOther : ∀ other : Char, other.toNat < 65 → char ≠ other := by
    rintro other low rfl
    omega
  simp [beginsNumeral, noDigit, noOther '.' (by decide), noOther '+' (by decide),
    noOther '-' (by decide)]

theorem literal?_of_head {text : List Char}
    (plain : ∀ char ∈ text.head?, beginsNumeral char = false ∧ isSpacing char = false) :
    literal? text = .ok none := by
  have nothingDropped : text.dropWhile isSpacing = text :=
    dropWhile_eq_self_of_head fun char isHead => (plain char isHead).2
  have unfolded : ∀ char ∈ text.head?,
      char.isDigit = false ∧ char ≠ '.' ∧ char ≠ '+' ∧ char ≠ '-' := by
    intro char isHead
    have noNumeral := (plain char isHead).1
    simpa [beginsNumeral, and_assoc] using noNumeral
  have signTaken := takeSign_of_head fun char isHead => (unfolded char isHead).2.2
  have noDigits : ∀ digit ∈ ([] : List Char), digit.isDigit = true := by simp
  have digitsTaken : takeDigits text = ([], text) :=
    takeDigits_append noDigits fun char isHead => (unfolded char isHead).1
  rw [literal?]
  split
  · rw [decimalLiteral?, nothingDropped, Numeral.scan]
    simp only [signTaken, digitsTaken]
    cases text with
    | nil => rfl
    | cons first rest =>
        have noPoint := (unfolded first (by simp)).2.1
        simp [noPoint]
  · rw [integerLiteral?, nothingDropped]
    simp [signTaken, digitsTaken]

theorem NameSpelling.literal?_append (spelling : NameSpelling) (more : List Char) :
    literal? (spelling.text ++ more) = .ok none := by
  apply literal?_of_head
  intro char isHead
  have isFirst : spelling.first = char := by simpa [NameSpelling.text] using isHead
  rw [← isFirst]
  exact ⟨beginsNumeral_of_isNameStart spelling.begins,
    isSpacing_of_isNameRest (isNameRest_of_isNameStart spelling.begins)⟩

theorem NameSpelling.literal?_text (spelling : NameSpelling) :
    literal? spelling.text = .ok none := by
  simpa using spelling.literal?_append []

theorem NameSpelling.isName_text (spelling : NameSpelling) : isName spelling.text = true := by
  simpa using spelling.isName_append spacing_nil stops_nil

theorem literal?_of_opening (rest : List Char) : literal? ('(' :: rest) = .ok none :=
  literal?_of_head (by simp; decide)

theorem isName_of_opening (rest : List Char) : isName ('(' :: rest) = false :=
  isName_of_head (by simp; decide)

theorem isNameStart_of_isDigit {char : Char} (digit : char.isDigit = true) :
    isNameStart char = false := by
  by_contra letter
  have letterCode := toNat_of_isAlpha (Bool.of_not_eq_false letter)
  have digitCode := toNat_of_isDigit digit
  omega

/-! ## Characters of a spelling -/

theorem IntegerSpelling.mem_text (spelling : IntegerSpelling) {char : Char}
    (member : char ∈ spelling.text) :
    isNameRest char = true ∨ char ∈ spelling.sign.text := by
  rcases List.mem_append.mp member with inSign | inDigits
  · exact Or.inr inSign
  · exact Or.inl (isNameRest_of_isDigit (spelling.decimal char inDigits))

theorem ExponentSpelling.isNameStart_mark (spelling : ExponentSpelling) :
    isNameStart spelling.mark = true := by
  rcases spelling.marked with mark | mark <;> rw [mark] <;> decide

theorem ExponentSpelling.mem_text (spelling : ExponentSpelling) {char : Char}
    (member : char ∈ spelling.text) :
    isNameRest char = true ∨ char ∈ spelling.sign.text := by
  rcases List.mem_cons.mp member with rfl | behindMark
  · exact Or.inl (isNameRest_of_isNameStart spelling.isNameStart_mark)
  · rcases List.mem_append.mp behindMark with inSign | inDigits
    · exact Or.inr inSign
    · exact Or.inl (isNameRest_of_isDigit (spelling.decimal char inDigits))

theorem DecimalSpelling.mem_text (spelling : DecimalSpelling) {char : Char}
    (member : char ∈ spelling.text) :
    isNameRest char = true ∨ char = '.' ∨ char ∈ spelling.sign.text ∨
      ∃ exponent ∈ spelling.exponent?, char ∈ exponent.sign.text := by
  simp only [text, List.mem_append, List.mem_cons] at member
  rcases member with inSign | inWhole | isPoint | inFraction | inExponent
  · exact Or.inr (Or.inr (Or.inl inSign))
  · exact Or.inl (isNameRest_of_isDigit (spelling.wholeDecimal char inWhole))
  · exact Or.inr (Or.inl isPoint)
  · exact Or.inl (isNameRest_of_isDigit (spelling.fractionDecimal char inFraction))
  · rw [exponentText] at inExponent
    cases present : spelling.exponent? with
    | none => simp [present] at inExponent
    | some exponent =>
        rw [present] at inExponent
        rcases exponent.mem_text inExponent with inName | inSign
        · exact Or.inl inName
        · exact Or.inr (Or.inr (Or.inr ⟨exponent, rfl, inSign⟩))

theorem Sign.mem_text {sign : Sign} {char : Char} (member : char ∈ sign.text) :
    char = '+' ∨ char = '-' := by
  cases sign <;> simp_all [Sign.text]

theorem IntegerSpelling.tight_text (spelling : IntegerSpelling) : Tight spelling.text := by
  apply tight_of_not_blank
  · simp [text, spelling.nonempty]
  · intro char member
    rcases spelling.mem_text member with inName | inSign
    · exact isBlank_of_isNameRest inName
    · rcases Sign.mem_text inSign with rfl | rfl <;> decide

/-- A sign is one character, so that nothing stands beside it. -/
theorem Sign.eq_nil_of_text_eq {sign : Sign} {front rest : List Char} {char : Char}
    (shape : sign.text = front ++ char :: rest) : front = [] ∧ rest = [] := by
  have whole := congrArg List.length shape
  have short : sign.text.length ≤ 1 := by
    cases sign <;> decide
  rw [List.length_append, List.length_cons] at whole
  constructor <;> apply List.eq_nil_of_length_eq_zero <;> omega

/-- A literal consists of digits, marks of an exponent, points and signs. -/
theorem mem_of_spelled {body : List Char} {value : Value} (spelled : Spelled body value)
    {char : Char} (member : char ∈ body) :
    isNameRest char = true ∨ char = '.' ∨ char = '+' ∨ char = '-' := by
  cases spelled with
  | integer spelling short inRange =>
      rcases spelling.mem_text member with inName | inSign
      · exact Or.inl inName
      · exact Or.inr (Or.inr (Sign.mem_text inSign))
  | decimal spelling =>
      rcases spelling.mem_text member with inName | isPoint | inSign | ⟨_, _, inSign⟩
      · exact Or.inl inName
      · exact Or.inr (Or.inl isPoint)
      · exact Or.inr (Or.inr (Sign.mem_text inSign))
      · exact Or.inr (Or.inr (Sign.mem_text inSign))

theorem mem_of_literal? {text : List Char} {value : Value}
    (read : literal? text = .ok (some value)) {char : Char} (member : char ∈ text) :
    isNameRest char = true ∨ char = '.' ∨ char = '+' ∨ char = '-' ∨ isSpacing char = true := by
  obtain ⟨before, body, after, rfl, spacingBefore, spacingAfter, spelled⟩ :=
    literal?_eq_ok_some_iff.mp read
  rcases List.mem_append.mp member with inBefore | inRest
  · simp [spacingBefore char inBefore]
  · rcases List.mem_append.mp inRest with inBody | inAfter
    · rcases mem_of_spelled spelled inBody with inName | isPoint | isPlus | isMinus
      · exact Or.inl inName
      · exact Or.inr (Or.inl isPoint)
      · exact Or.inr (Or.inr (Or.inl isPlus))
      · exact Or.inr (Or.inr (Or.inr (Or.inl isMinus)))
    · simp [spacingAfter char inAfter]

theorem not_mem_of_literal? {text : List Char} {value : Value}
    (read : literal? text = .ok (some value)) : '(' ∉ text ∧ ')' ∉ text := by
  constructor <;>
  · intro member
    have impossible := mem_of_literal? read member
    revert impossible
    decide

end CalcShell.Expression
