import CalcShell.Expression.Literal
import CalcShell.Proofs.Text.Trim

/-!
# How literals are spelled

An integer literal is spelled as a row of digits, a decimal one as digits around
a point with or without an exponent; both may have a sign.  Reading a literal
accepts exactly these spellings with spacing around them, and gives the value
that the spelling has.
-/

namespace CalcShell.Expression

open Number Text

inductive Sign where
  | none
  | plus
  | minus
  deriving DecidableEq, Repr

namespace Sign

def text : Sign → List Char
  | .none => []
  | .plus => ['+']
  | .minus => ['-']

def isMinus : Sign → Bool
  | .minus => true
  | _ => false

end Sign

structure ExponentSpelling where
  mark : Char
  sign : Sign
  digits : List Char
  marked : mark = 'e' ∨ mark = 'E'
  nonempty : digits ≠ []
  decimal : ∀ digit ∈ digits, digit.isDigit = true

namespace ExponentSpelling

def text (spelling : ExponentSpelling) : List Char :=
  spelling.mark :: (spelling.sign.text ++ spelling.digits)

def value (spelling : ExponentSpelling) : Int :=
  signedInt spelling.sign.isMinus (digitsValue spelling.digits)

end ExponentSpelling

structure IntegerSpelling where
  sign : Sign
  digits : List Char
  nonempty : digits ≠ []
  decimal : ∀ digit ∈ digits, digit.isDigit = true

namespace IntegerSpelling

def text (spelling : IntegerSpelling) : List Char :=
  spelling.sign.text ++ spelling.digits

def value (spelling : IntegerSpelling) : Int :=
  signedInt spelling.sign.isMinus (digitsValue spelling.digits)

end IntegerSpelling

/-- A decimal number as it is spelled: it has a point, and a digit before or behind it. -/
structure DecimalSpelling where
  sign : Sign
  whole : List Char
  fraction : List Char
  exponent? : Option ExponentSpelling
  nonempty : ¬ (whole = [] ∧ fraction = [])
  wholeDecimal : ∀ digit ∈ whole, digit.isDigit = true
  fractionDecimal : ∀ digit ∈ fraction, digit.isDigit = true

namespace DecimalSpelling

def exponentText (spelling : DecimalSpelling) : List Char :=
  (spelling.exponent?.map ExponentSpelling.text).getD []

def text (spelling : DecimalSpelling) : List Char :=
  spelling.sign.text ++
    (spelling.whole ++ '.' :: (spelling.fraction ++ spelling.exponentText))

def numeral (spelling : DecimalSpelling) : Numeral :=
  ⟨spelling.sign.isMinus, spelling.whole, some spelling.fraction,
    (spelling.exponent?.map ExponentSpelling.value).getD 0⟩

end DecimalSpelling

/-! ## Scanning -/

theorem isNameRest_of_isDigit {char : Char} (digit : char.isDigit = true) :
    isNameRest char = true := by
  simp [isNameRest, Char.isAlphanum, digit]

/-- A character behind a name or a number that cannot belong to it. -/
def Stops (rest : List Char) : Prop :=
  ∀ char ∈ rest.head?, isNameRest char = false

theorem Stops.isDigit {rest : List Char} (stops : Stops rest) :
    ∀ char ∈ rest.head?, char.isDigit = false := by
  intro char isHead
  by_contra digit
  have inName := isNameRest_of_isDigit (Bool.of_not_eq_false digit)
  rw [stops char isHead] at inName
  cases inName

theorem Stops.mark {rest : List Char} (stops : Stops rest) :
    ∀ char ∈ rest.head?, ¬ (char = 'e' ∨ char = 'E') := by
  rintro char isHead (rfl | rfl)
  · exact absurd (stops _ isHead) (by decide)
  · exact absurd (stops _ isHead) (by decide)

theorem takeDigits_append {digits rest : List Char}
    (decimal : ∀ digit ∈ digits, digit.isDigit = true)
    (stop : ∀ char ∈ rest.head?, char.isDigit = false) :
    takeDigits (digits ++ rest) = (digits, rest) := by
  rw [takeDigits, takeWhile_append_of_stop decimal stop, dropWhile_append_of_stop decimal stop]

theorem takeDigits_sound {text digits rest : List Char}
    (taken : takeDigits text = (digits, rest)) :
    text = digits ++ rest ∧ (∀ digit ∈ digits, digit.isDigit = true) ∧
      ∀ char ∈ rest.head?, char.isDigit = false := by
  obtain ⟨rfl, rfl⟩ := Prod.mk.inj taken
  refine ⟨List.takeWhile_append_dropWhile.symm, ?_, ?_⟩
  · intro digit member
    exact List.mem_takeWhile_imp member
  · intro char isHead
    have stopped := List.head?_dropWhile_not Char.isDigit text
    rw [Option.mem_def.mp isHead] at stopped
    simpa using stopped

theorem takeSign_of_head {text : List Char}
    (unsigned : ∀ char ∈ text.head?, char ≠ '+' ∧ char ≠ '-') :
    takeSign text = (false, text) := by
  unfold takeSign
  split
  · exact absurd rfl (unsigned '+' (by simp)).1
  · exact absurd rfl (unsigned '-' (by simp)).2
  · rfl

theorem takeSign_append (sign : Sign) {rest : List Char}
    (unsigned : ∀ char ∈ rest.head?, char ≠ '+' ∧ char ≠ '-') :
    takeSign (sign.text ++ rest) = (sign.isMinus, rest) := by
  cases sign with
  | none => exact takeSign_of_head unsigned
  | plus => rfl
  | minus => rfl

theorem takeSign_sound {text rest : List Char} {negative : Bool}
    (taken : takeSign text = (negative, rest)) :
    ∃ sign : Sign, text = sign.text ++ rest ∧ sign.isMinus = negative := by
  unfold takeSign at taken
  split at taken
  · cases taken
    exact ⟨.plus, rfl, rfl⟩
  · cases taken
    exact ⟨.minus, rfl, rfl⟩
  · cases taken
    exact ⟨.none, rfl, rfl⟩

theorem unsigned_of_digits {digits : List Char} (nonempty : digits ≠ [])
    (decimal : ∀ digit ∈ digits, digit.isDigit = true) (rest : List Char) :
    ∀ char ∈ (digits ++ rest).head?, char ≠ '+' ∧ char ≠ '-' := by
  intro char isHead
  rw [List.head?_append_of_ne_nil _ nonempty] at isHead
  have digit := decimal char (List.mem_of_mem_head? isHead)
  constructor <;> rintro rfl <;> exact absurd digit (by decide)

theorem takeExponent_of_head {text : List Char}
    (unmarked : ∀ char ∈ text.head?, ¬ (char = 'e' ∨ char = 'E')) :
    takeExponent text = (0, text) := by
  cases text with
  | nil => rfl
  | cons mark signed =>
      have notMark := unmarked mark (by simp)
      simp [takeExponent, notMark]

theorem takeExponent_append (spelling : ExponentSpelling) {rest : List Char}
    (stop : ∀ char ∈ rest.head?, char.isDigit = false) :
    takeExponent (spelling.text ++ rest) = (spelling.value, rest) := by
  have signTaken := takeSign_append spelling.sign
    (unsigned_of_digits spelling.nonempty spelling.decimal rest)
  have digitsTaken := takeDigits_append spelling.decimal stop
  simp [takeExponent, ExponentSpelling.text, ExponentSpelling.value, List.append_assoc,
    signTaken, digitsTaken, spelling.marked, spelling.nonempty]

theorem takeExponent_sound {text rest : List Char} {exponent : Int}
    (taken : takeExponent text = (exponent, rest)) :
    (text = rest ∧ exponent = 0) ∨
      ∃ spelling : ExponentSpelling, text = spelling.text ++ rest ∧
        spelling.value = exponent := by
  unfold takeExponent at taken
  split at taken
  · next mark signed =>
      split at taken
      next negative unsigned signTaken =>
      split at taken
      next digits following digitsTaken =>
      split at taken
      · next present =>
          cases taken
          obtain ⟨sign, rfl, rfl⟩ := takeSign_sound signTaken
          obtain ⟨rfl, decimal, _⟩ := takeDigits_sound digitsTaken
          refine Or.inr ⟨⟨mark, sign, digits, present.1, present.2, decimal⟩, ?_, rfl⟩
          simp [ExponentSpelling.text]
      · cases taken
        exact Or.inl ⟨rfl, rfl⟩
  · cases taken
    exact Or.inl ⟨rfl, rfl⟩

namespace DecimalSpelling

variable (spelling : DecimalSpelling) {rest : List Char}

theorem text_append : spelling.text ++ rest =
    spelling.sign.text ++
      (spelling.whole ++ '.' :: (spelling.fraction ++ (spelling.exponentText ++ rest))) := by
  simp [text]

theorem unsigned (following : List Char) :
    ∀ char ∈ (spelling.whole ++ '.' :: following).head?, char ≠ '+' ∧ char ≠ '-' := by
  by_cases noWhole : spelling.whole = []
  · simp [noWhole]
  · exact unsigned_of_digits noWhole spelling.wholeDecimal _

theorem stop_exponentText (stops : Stops rest) :
    ∀ char ∈ (spelling.exponentText ++ rest).head?, char.isDigit = false := by
  rw [exponentText]
  cases spelling.exponent? with
  | none => exact stops.isDigit
  | some exponent =>
      have marked := exponent.marked
      simp only [Option.map_some, Option.getD_some, ExponentSpelling.text, List.cons_append,
        List.head?_cons, Option.mem_some_iff, forall_eq']
      rcases marked with mark | mark <;> rw [mark] <;> decide

theorem takeExponent_exponentText (stops : Stops rest) :
    takeExponent (spelling.exponentText ++ rest) = (spelling.numeral.exponent, rest) := by
  rw [exponentText, numeral]
  cases spelling.exponent? with
  | none => exact takeExponent_of_head stops.mark
  | some exponent => exact takeExponent_append exponent stops.isDigit

/-- A decimal number is scanned as far as it is spelled. -/
theorem scan_append (stops : Stops rest) :
    Numeral.scan (spelling.text ++ rest) = some (spelling.numeral, rest) := by
  have signTaken := takeSign_append spelling.sign
    (spelling.unsigned (spelling.fraction ++ (spelling.exponentText ++ rest)))
  have pointStops : ∀ char ∈
      ('.' :: (spelling.fraction ++ (spelling.exponentText ++ rest))).head?,
      char.isDigit = false := by
    simp
  have wholeTaken := takeDigits_append spelling.wholeDecimal pointStops
  have fractionTaken :=
    takeDigits_append spelling.fractionDecimal (spelling.stop_exponentText stops)
  have exponentTaken := spelling.takeExponent_exponentText stops
  rw [text_append, Numeral.scan]
  simp only [signTaken, wholeTaken, fractionTaken, spelling.nonempty, if_false, exponentTaken]
  rfl

end DecimalSpelling

/-- A numeral without a point is scanned as one without a fraction. -/
theorem scan_digits_append {digits rest : List Char} (nonempty : digits ≠ [])
    (decimal : ∀ digit ∈ digits, digit.isDigit = true) (stops : Stops rest)
    (noPoint : ∀ char ∈ rest.head?, char ≠ '.') :
    Numeral.scan (digits ++ rest) = some (⟨false, digits, none, 0⟩, rest) := by
  have signTaken := takeSign_of_head (unsigned_of_digits nonempty decimal rest)
  have digitsTaken := takeDigits_append decimal stops.isDigit
  have exponentTaken := takeExponent_of_head stops.mark
  rw [Numeral.scan]
  simp only [signTaken, digitsTaken]
  split
  · exact absurd rfl (noPoint '.' (by simp))
  · simp [nonempty, exponentTaken]

/-- A numeral with a point was spelled as a decimal number. -/
theorem scan_sound {text rest : List Char} {numeral : Numeral}
    (scanned : Numeral.scan text = some (numeral, rest))
    (point : numeral.fraction?.isSome = true) :
    ∃ spelling : DecimalSpelling, text = spelling.text ++ rest ∧
      spelling.numeral = numeral := by
  unfold Numeral.scan at scanned
  split at scanned
  next negative unsigned signTaken =>
  split at scanned
  next whole afterWhole wholeTaken =>
  obtain ⟨sign, rfl, rfl⟩ := takeSign_sound signTaken
  obtain ⟨rfl, wholeDecimal, _⟩ := takeDigits_sound wholeTaken
  split at scanned
  · next afterPoint =>
      split at scanned
      next fraction afterFraction fractionTaken =>
      obtain ⟨rfl, fractionDecimal, _⟩ := takeDigits_sound fractionTaken
      split at scanned
      · cases scanned
      · next nonempty =>
          split at scanned
          next exponent following exponentTaken =>
          cases scanned
          rcases takeExponent_sound exponentTaken with
            ⟨rfl, rfl⟩ | ⟨exponentSpelling, rfl, rfl⟩
          · refine ⟨⟨sign, whole, fraction, none, nonempty, wholeDecimal, fractionDecimal⟩,
              ?_, rfl⟩
            simp [DecimalSpelling.text, DecimalSpelling.exponentText]
          · refine ⟨⟨sign, whole, fraction, some exponentSpelling, nonempty, wholeDecimal,
              fractionDecimal⟩, ?_, rfl⟩
            simp [DecimalSpelling.text, DecimalSpelling.exponentText]
  · split at scanned
    · cases scanned
    · split at scanned
      cases scanned
      cases point

/-! ## Literals -/

theorem not_spacing_of_isDigit {char : Char} (digit : char.isDigit = true) :
    isSpacing char = false := by
  by_contra spacing
  simp only [isSpacing, Bool.not_eq_false, Bool.or_eq_true, beq_iff_eq] at spacing
  rcases spacing with ((rfl | rfl) | rfl) | rfl <;> exact absurd digit (by decide)

theorem stops_of_spacing {text : List Char}
    (spacing : ∀ char ∈ text, isSpacing char = true) : Stops text := by
  intro char isHead
  have charSpacing := spacing char (List.mem_of_mem_head? isHead)
  simp only [isSpacing, Bool.or_eq_true, beq_iff_eq] at charSpacing
  rcases charSpacing with ((rfl | rfl) | rfl) | rfl <;> decide

theorem point_not_mem_of_spacing {text : List Char}
    (spacing : ∀ char ∈ text, isSpacing char = true) : '.' ∉ text := by
  intro member
  exact absurd (spacing '.' member) (by decide)

theorem spacing_nil : ∀ char ∈ ([] : List Char), isSpacing char = true := by
  simp

theorem stops_nil : Stops [] := by
  simp [Stops]

namespace IntegerSpelling

variable (spelling : IntegerSpelling) {before after : List Char}

theorem point_not_mem : '.' ∉ spelling.text := by
  intro member
  rcases List.mem_append.mp member with inSign | inDigits
  · cases sign : spelling.sign <;> simp [sign, Sign.text] at inSign
  · exact absurd (spelling.decimal '.' inDigits) (by decide)

theorem head_not_spacing :
    ∀ char ∈ (spelling.text ++ after).head?, isSpacing char = false := by
  intro char isHead
  rw [text, List.append_assoc] at isHead
  cases sign : spelling.sign with
  | none =>
      rw [sign, Sign.text, List.nil_append,
        List.head?_append_of_ne_nil _ spelling.nonempty] at isHead
      exact not_spacing_of_isDigit (spelling.decimal char (List.mem_of_mem_head? isHead))
  | plus =>
      have isPlus : char = '+' := by simpa [sign, Sign.text, eq_comm] using isHead
      rw [isPlus]
      decide
  | minus =>
      have isMinus : char = '-' := by simpa [sign, Sign.text, eq_comm] using isHead
      rw [isMinus]
      decide

/-- The digits of an integer are read as far as they are spelled, whatever follows. -/
theorem integerLiteral?_append (spacing : ∀ char ∈ before, isSpacing char = true)
    (stop : ∀ char ∈ after.head?, char.isDigit = false)
    (short : spelling.digits.length ≤ digitLimit) :
    integerLiteral? (before ++ (spelling.text ++ after)) =
      if after.all isSpacing ∧ InRange integerWidth spelling.value then
        .ok (some (Value.integer spelling.value))
      else .ok none := by
  have signTaken := takeSign_append spelling.sign
    (unsigned_of_digits spelling.nonempty spelling.decimal after)
  have digitsTaken := takeDigits_append spelling.decimal stop
  have spacingDropped :
      (before ++ (spelling.text ++ after)).dropWhile isSpacing = spelling.text ++ after :=
    dropWhile_append_of_stop spacing spelling.head_not_spacing
  rw [integerLiteral?, spacingDropped, text, List.append_assoc]
  simp only [signTaken, digitsTaken]
  rw [if_neg (Nat.not_lt.mpr short), if_neg spelling.nonempty]
  rfl

end IntegerSpelling

namespace DecimalSpelling

variable (spelling : DecimalSpelling) {before after : List Char}

theorem point_mem : '.' ∈ spelling.text := by
  simp [text]

theorem head_not_spacing :
    ∀ char ∈ (spelling.text ++ after).head?, isSpacing char = false := by
  intro char isHead
  rw [text_append] at isHead
  cases sign : spelling.sign with
  | none =>
      by_cases noWhole : spelling.whole = []
      · have isPoint : char = '.' := by simpa [sign, Sign.text, noWhole, eq_comm] using isHead
        rw [isPoint]
        decide
      · rw [sign, Sign.text, List.nil_append, List.head?_append_of_ne_nil _ noWhole] at isHead
        exact not_spacing_of_isDigit (spelling.wholeDecimal char (List.mem_of_mem_head? isHead))
  | plus =>
      have isPlus : char = '+' := by simpa [sign, Sign.text, eq_comm] using isHead
      rw [isPlus]
      decide
  | minus =>
      have isMinus : char = '-' := by simpa [sign, Sign.text, eq_comm] using isHead
      rw [isMinus]
      decide

/-- A decimal number is read as far as it is spelled, and only spacing may follow. -/
theorem decimalLiteral?_append (spacing : ∀ char ∈ before, isSpacing char = true)
    (stops : Stops after) :
    decimalLiteral? (before ++ (spelling.text ++ after)) =
      if after.all isSpacing then some (Value.double spelling.numeral.toDouble) else none := by
  have spacingDropped :
      (before ++ (spelling.text ++ after)).dropWhile isSpacing = spelling.text ++ after :=
    dropWhile_append_of_stop spacing spelling.head_not_spacing
  rw [decimalLiteral?, spacingDropped, spelling.scan_append stops]
  simp [numeral]

end DecimalSpelling

/-- An integer spelled between spacing is a literal. -/
theorem literal?_integer (spelling : IntegerSpelling) {before after : List Char}
    (spacingBefore : ∀ char ∈ before, isSpacing char = true)
    (spacingAfter : ∀ char ∈ after, isSpacing char = true)
    (short : spelling.digits.length ≤ digitLimit)
    (inRange : InRange integerWidth spelling.value) :
    literal? (before ++ (spelling.text ++ after)) =
      .ok (some (Value.integer spelling.value)) := by
  have noPoint : '.' ∉ before ++ (spelling.text ++ after) := by
    simp only [List.mem_append, not_or]
    exact ⟨point_not_mem_of_spacing spacingBefore, spelling.point_not_mem,
      point_not_mem_of_spacing spacingAfter⟩
  have allSpacing : after.all isSpacing = true := by
    simpa using spacingAfter
  rw [literal?, if_neg noPoint, spelling.integerLiteral?_append spacingBefore
    (stops_of_spacing spacingAfter).isDigit short, if_pos ⟨allSpacing, inRange⟩]

/-- A decimal number spelled between spacing is a literal. -/
theorem literal?_decimal (spelling : DecimalSpelling) {before after : List Char}
    (spacingBefore : ∀ char ∈ before, isSpacing char = true)
    (spacingAfter : ∀ char ∈ after, isSpacing char = true) :
    literal? (before ++ (spelling.text ++ after)) =
      .ok (some (Value.double spelling.numeral.toDouble)) := by
  have point : '.' ∈ before ++ (spelling.text ++ after) := by
    simp [spelling.point_mem]
  have allSpacing : after.all isSpacing = true := by
    simpa using spacingAfter
  rw [literal?, if_pos point, spelling.decimalLiteral?_append spacingBefore
    (stops_of_spacing spacingAfter), if_pos allSpacing]

/-- The text between spacing that a literal was read from. -/
inductive Spelled : List Char → Value → Prop
  | integer (spelling : IntegerSpelling)
      (short : spelling.digits.length ≤ digitLimit)
      (inRange : InRange integerWidth spelling.value) :
      Spelled spelling.text (Value.integer spelling.value)
  | decimal (spelling : DecimalSpelling) :
      Spelled spelling.text (Value.double spelling.numeral.toDouble)

theorem exists_spacing_prefix (text : List Char) :
    ∃ before, (∀ char ∈ before, isSpacing char = true) ∧
      text = before ++ text.dropWhile isSpacing :=
  ⟨text.takeWhile isSpacing, fun _ member => List.mem_takeWhile_imp member,
    List.takeWhile_append_dropWhile.symm⟩

theorem spelled_of_integerLiteral? {text : List Char} {value : Value}
    (read : integerLiteral? text = .ok (some value)) :
    ∃ before body after, text = before ++ (body ++ after) ∧
      (∀ char ∈ before, isSpacing char = true) ∧
      (∀ char ∈ after, isSpacing char = true) ∧ Spelled body value := by
  obtain ⟨before, spacingBefore, shape⟩ := exists_spacing_prefix text
  unfold integerLiteral? at read
  split at read
  next negative unsigned signTaken =>
  split at read
  next digits rest digitsTaken =>
  obtain ⟨sign, signed, rfl⟩ := takeSign_sound signTaken
  obtain ⟨rfl, decimal, _⟩ := takeDigits_sound digitsTaken
  split at read
  · cases read
  · next short =>
      split at read
      · cases read
      · next nonempty =>
          dsimp only at read
          split at read
          · next accepted =>
              cases read
              refine ⟨before, sign.text ++ digits, rest, ?_, spacingBefore,
                by simpa using accepted.1, ?_⟩
              · rw [List.append_assoc, ← signed, ← shape]
              · exact Spelled.integer ⟨sign, digits, nonempty, decimal⟩
                  (Nat.not_lt.mp short) accepted.2
          · cases read

theorem spelled_of_decimalLiteral? {text : List Char} {value : Value}
    (read : decimalLiteral? text = some value) :
    ∃ before body after, text = before ++ (body ++ after) ∧
      (∀ char ∈ before, isSpacing char = true) ∧
      (∀ char ∈ after, isSpacing char = true) ∧ Spelled body value := by
  obtain ⟨before, spacingBefore, shape⟩ := exists_spacing_prefix text
  unfold decimalLiteral? at read
  split at read
  · next numeral rest scanned =>
      split at read
      · next accepted =>
          cases read
          rw [Bool.and_eq_true] at accepted
          obtain ⟨spelling, spelled, rfl⟩ := scan_sound scanned accepted.1
          refine ⟨before, spelling.text, rest, ?_, spacingBefore, by simpa using accepted.2,
            Spelled.decimal spelling⟩
          rw [← spelled, ← shape]
      · cases read
  · cases read

/-- A text is a literal exactly when one is spelled in it between spacing. -/
theorem literal?_eq_ok_some_iff {text : List Char} {value : Value} :
    literal? text = .ok (some value) ↔
      ∃ before body after, text = before ++ (body ++ after) ∧
        (∀ char ∈ before, isSpacing char = true) ∧
        (∀ char ∈ after, isSpacing char = true) ∧ Spelled body value := by
  constructor
  · intro read
    rw [literal?] at read
    split at read
    · exact spelled_of_decimalLiteral? (Except.ok.inj read)
    · exact spelled_of_integerLiteral? read
  · rintro ⟨before, body, after, rfl, spacingBefore, spacingAfter, spelled⟩
    cases spelled with
    | integer spelling short inRange =>
        exact literal?_integer spelling spacingBefore spacingAfter short inRange
    | decimal spelling =>
        exact literal?_decimal spelling spacingBefore spacingAfter

end CalcShell.Expression
