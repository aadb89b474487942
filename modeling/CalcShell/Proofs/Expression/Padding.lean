import CalcShell.Proofs.Expression.Naming
import CalcShell.Proofs.Expression.Places

/-!
# Recognition between spaces

Spacing around a tight text is skipped where a literal or a name is recognised, so
that the padded text is one exactly if the text is.  The places to split at move
with the text, and an operator at its start becomes one more of them.
-/

namespace CalcShell.Expression

open Number Text

/-! ## Literals and names -/

theorem head_append_of_tight {text : List Char} (tight : Tight text) (after : List Char) :
    ∀ char ∈ (text ++ after).head?, isSpacing char = false := by
  intro char isHead
  rw [List.head?_append_of_ne_nil _ tight.nonempty] at isHead
  by_contra spacing
  have blank := isBlank_of_isSpacing (Bool.of_not_eq_false spacing)
  rw [tight.first char isHead] at blank
  cases blank

theorem takeSign_append_right {text : List Char} (nonempty : text ≠ []) (after : List Char) :
    takeSign (text ++ after) = ((takeSign text).1, (takeSign text).2 ++ after) := by
  cases text with
  | nil => exact absurd rfl nonempty
  | cons first rest =>
      by_cases isPlus : first = '+'
      · subst isPlus
        rfl
      · by_cases isMinus : first = '-'
        · subst isMinus
          rfl
        · have plain : takeSign (first :: rest) = (false, first :: rest) :=
            takeSign_of_head (by simp [isPlus, isMinus])
          have plainAppend : takeSign (first :: (rest ++ after)) =
              (false, first :: (rest ++ after)) :=
            takeSign_of_head (by simp [isPlus, isMinus])
          rw [List.cons_append, plainAppend, plain]
          rfl

section Padded

variable {text before after : List Char}

theorem dropWhile_isSpacing_pad (tight : Tight text)
    (spacingBefore : ∀ char ∈ before, isSpacing char = true) :
    (before ++ (text ++ after)).dropWhile isSpacing = text ++ after :=
  dropWhile_append_of_stop spacingBefore (head_append_of_tight tight after)

theorem dropWhile_isSpacing_of_tight (tight : Tight text) :
    text.dropWhile isSpacing = text := by
  have head := head_append_of_tight tight []
  rw [List.append_nil] at head
  exact dropWhile_eq_self_of_head head

theorem all_isSpacing_append (rest : List Char)
    (spacingAfter : ∀ char ∈ after, isSpacing char = true) :
    (rest ++ after).all isSpacing = rest.all isSpacing := by
  rw [List.all_append, List.all_eq_true.mpr spacingAfter, Bool.and_true]

theorem integerLiteral?_pad (tight : Tight text)
    (spacingBefore : ∀ char ∈ before, isSpacing char = true)
    (spacingAfter : ∀ char ∈ after, isSpacing char = true) :
    integerLiteral? (before ++ (text ++ after)) = integerLiteral? text := by
  have stop := (stops_of_spacing spacingAfter).isDigit
  rw [integerLiteral?, integerLiteral?, dropWhile_isSpacing_pad tight spacingBefore,
    dropWhile_isSpacing_of_tight tight, takeSign_append_right tight.nonempty]
  simp only [takeDigits, takeWhile_append_right stop, dropWhile_append_right stop,
    all_isSpacing_append _ spacingAfter]
  rfl

theorem tight_of_spelled {body : List Char} {value : Value} (spelled : Spelled body value) :
    Tight body := by
  have notBlank : ∀ char ∈ body, isBlank char = false := by
    intro char member
    rcases mem_of_spelled spelled member with inName | rfl | rfl | rfl
    · exact isBlank_of_isNameRest inName
    all_goals decide
  apply tight_of_not_blank _ notBlank
  cases spelled with
  | integer spelling => simp [IntegerSpelling.text, spelling.nonempty]
  | decimal spelling => exact List.ne_nil_of_mem spelling.point_mem

theorem trim_pad_of_spacing (tight : Tight text)
    (spacingBefore : ∀ char ∈ before, isSpacing char = true)
    (spacingAfter : ∀ char ∈ after, isSpacing char = true) :
    trim (before ++ (text ++ after)) = text := by
  have padded : trim (before ++ text ++ after) = trim text :=
    trim_pad (blank_of_spacing spacingBefore) (blank_of_spacing spacingAfter)
  rwa [List.append_assoc, tight.trim_eq] at padded

/-- A tight text between spacing is a literal if it is spelled like one. -/
theorem literal?_pad_eq_some_iff {value : Value} (tight : Tight text)
    (spacingBefore : ∀ char ∈ before, isSpacing char = true)
    (spacingAfter : ∀ char ∈ after, isSpacing char = true) :
    literal? (before ++ (text ++ after)) = .ok (some value) ↔ Spelled text value := by
  rw [literal?_eq_ok_some_iff]
  constructor
  · rintro ⟨otherBefore, body, otherAfter, shape, otherSpacing, otherSpacingAfter, spelled⟩
    have same : text = body := by
      rw [← trim_pad_of_spacing tight spacingBefore spacingAfter, shape,
        trim_pad_of_spacing (tight_of_spelled spelled) otherSpacing otherSpacingAfter]
    rwa [same]
  · intro spelled
    exact ⟨before, text, after, rfl, spacingBefore, spacingAfter, spelled⟩

theorem literal?_eq_ok_some_iff_of_tight {value : Value} (tight : Tight text) :
    literal? text = .ok (some value) ↔ Spelled text value := by
  simpa using literal?_pad_eq_some_iff tight spacing_nil spacing_nil

theorem literal?_pad (tight : Tight text)
    (spacingBefore : ∀ char ∈ before, isSpacing char = true)
    (spacingAfter : ∀ char ∈ after, isSpacing char = true) :
    literal? (before ++ (text ++ after)) = literal? text := by
  have pointBefore := point_not_mem_of_spacing spacingBefore
  have pointAfter := point_not_mem_of_spacing spacingAfter
  by_cases point : '.' ∈ text
  · have pointPadded : '.' ∈ before ++ (text ++ after) := by
      simp [point]
    have same : decimalLiteral? (before ++ (text ++ after)) = decimalLiteral? text := by
      apply Option.ext
      intro value
      have padded : decimalLiteral? (before ++ (text ++ after)) = some value ↔
          literal? (before ++ (text ++ after)) = .ok (some value) := by
        rw [literal?, if_pos pointPadded, Except.ok.injEq]
      have alone : decimalLiteral? text = some value ↔
          literal? text = .ok (some value) := by
        rw [literal?, if_pos point, Except.ok.injEq]
      rw [padded, alone, literal?_pad_eq_some_iff tight spacingBefore spacingAfter,
        literal?_eq_ok_some_iff_of_tight tight]
    rw [literal?, literal?, if_pos pointPadded, if_pos point, same]
  · have pointPadded : '.' ∉ before ++ (text ++ after) := by
      simp [point, pointBefore, pointAfter]
    rw [literal?, literal?, if_neg pointPadded, if_neg point,
      integerLiteral?_pad tight spacingBefore spacingAfter]

theorem isName_pad (tight : Tight text)
    (spacingBefore : ∀ char ∈ before, isSpacing char = true)
    (spacingAfter : ∀ char ∈ after, isSpacing char = true) :
    isName (before ++ (text ++ after)) = isName text := by
  have stop : ∀ char ∈ after.head?, isNameRest char = false := stops_of_spacing spacingAfter
  rw [isName, isName, dropWhile_isSpacing_pad tight spacingBefore,
    dropWhile_isSpacing_of_tight tight]
  cases text with
  | nil => exact absurd rfl tight.nonempty
  | cons first rest =>
      simp only [List.cons_append, scanName]
      by_cases start : isNameStart first = true
      · simp only [if_pos start, dropWhile_append_right stop,
          all_isSpacing_append _ spacingAfter]
      · simp only [if_neg start]

end Padded

/-! ## Places to split at -/

theorem exists_behind_of_not_mem {symbol : Char} {before rest left right : List Char}
    (absent : symbol ∉ before) (split : before ++ rest = left ++ symbol :: right) :
    ∃ middle, left = before ++ middle ∧ rest = middle ++ symbol :: right := by
  rcases List.append_eq_append_iff.mp split with ⟨middle, shape, found⟩ | ⟨middle, shape, found⟩
  · exact ⟨middle, shape, found⟩
  · cases middle with
    | nil => exact ⟨[], by simpa using shape.symm, by simpa using found.symm⟩
    | cons first more =>
        obtain ⟨rfl, _⟩ := List.cons.inj found
        exact absurd (by simp [shape]) absent

theorem exists_before_of_not_mem {symbol : Char} {text after left right : List Char}
    (absent : symbol ∉ after) (split : text ++ after = left ++ symbol :: right) :
    ∃ middle, text = left ++ symbol :: middle ∧ right = middle ++ after := by
  rcases List.append_eq_append_iff.mp split with ⟨middle, _, found⟩ | ⟨middle, shape, found⟩
  · exact absurd (by simp [found]) absent
  · cases middle with
    | nil =>
        have behind : symbol :: right = after := found
        exact absurd (by simp [← behind]) absent
    | cons first more =>
        obtain ⟨rfl, behind⟩ := List.cons.inj found
        exact ⟨more, shape, behind⟩

/-- White space, as far as operators and parentheses are concerned. -/
structure Clear (text : List Char) : Prop where
  level : netDepth text = 0
  absent : ∀ operator : Operator, operator.symbol ∉ text

section Places

variable {text before after : List Char} {operator : Operator} {place : Nat}

/-- Between spaces the operator at the start of a text is a place to split at, too. -/
theorem eligible_pad_iff (clearBefore : Clear before) (clearAfter : Clear after)
    (notLast : text.getLast? ≠ some operator.symbol) :
    Eligible (before ++ (text ++ after)) operator.symbol place ↔
      ∃ inner, place = before.length + inner ∧
        (Eligible text operator.symbol inner ∨
          (inner = 0 ∧ before ≠ [] ∧ text.head? = some operator.symbol)) := by
  simp only [eligible_symbol_iff]
  constructor
  · rintro ⟨left, right, split, rfl, leftNonempty, _, level⟩
    obtain ⟨middle, rfl, inside⟩ := exists_behind_of_not_mem (clearBefore.absent operator) split
    obtain ⟨rest, rfl, rfl⟩ := exists_before_of_not_mem (clearAfter.absent operator) inside
    refine ⟨middle.length, List.length_append, ?_⟩
    have restNonempty : rest ≠ [] := by
      rintro rfl
      exact notLast (by simp)
    rw [netDepth_append, clearBefore.level, Int.zero_add] at level
    by_cases atStart : middle = []
    · subst atStart
      exact Or.inr ⟨rfl, by simpa using leftNonempty, rfl⟩
    · exact Or.inl ⟨middle, rest, rfl, rfl, atStart, restNonempty, level⟩
  · rintro ⟨inner, rfl, ⟨left, right, rfl, rfl, leftNonempty, rightNonempty, level⟩ |
      ⟨rfl, beforeNonempty, isHead⟩⟩
    · refine ⟨before ++ left, right ++ after, by simp, List.length_append, by simp [leftNonempty],
        by simp [rightNonempty], ?_⟩
      rw [netDepth_append, clearBefore.level, level, Int.add_zero]
    · obtain ⟨rest, rfl⟩ := List.head?_eq_some_iff.mp isHead
      have restNonempty : rest ≠ [] := by
        rintro rfl
        exact notLast rfl
      exact ⟨before, rest ++ after, by simp, by simp, beforeNonempty, by simp [restNonempty],
        clearBefore.level⟩

theorem lastPlace?_pad_of_some (clearBefore : Clear before) (clearAfter : Clear after)
    (notLast : text.getLast? ≠ some operator.symbol)
    (found : lastPlace? text operator.symbol = some place) :
    lastPlace? (before ++ (text ++ after)) operator.symbol = some (before.length + place) := by
  obtain ⟨eligible, greatest⟩ := lastPlace?_eq_some_iff.mp found
  rw [lastPlace?_eq_some_iff]
  refine ⟨(eligible_pad_iff clearBefore clearAfter notLast).mpr
    ⟨place, rfl, Or.inl eligible⟩, ?_⟩
  intro other otherEligible
  obtain ⟨inner, rfl, innerEligible | ⟨rfl, _, _⟩⟩ :=
    (eligible_pad_iff clearBefore clearAfter notLast).mp otherEligible
  · have innerLe := greatest inner innerEligible
    omega
  · omega

theorem lastPlace?_pad_of_head (clearBefore : Clear before) (clearAfter : Clear after)
    (notLast : text.getLast? ≠ some operator.symbol)
    (missing : lastPlace? text operator.symbol = none) (padded : before ≠ [])
    (isHead : text.head? = some operator.symbol) :
    lastPlace? (before ++ (text ++ after)) operator.symbol = some before.length := by
  rw [lastPlace?_eq_none_iff] at missing
  rw [lastPlace?_eq_some_iff]
  refine ⟨(eligible_pad_iff clearBefore clearAfter notLast).mpr
    ⟨0, rfl, Or.inr ⟨rfl, padded, isHead⟩⟩, ?_⟩
  intro other otherEligible
  obtain ⟨inner, rfl, innerEligible | ⟨rfl, _, _⟩⟩ :=
    (eligible_pad_iff clearBefore clearAfter notLast).mp otherEligible
  · exact absurd innerEligible (missing inner)
  · exact Nat.le_refl _

theorem lastPlace?_pad_of_none (clearBefore : Clear before) (clearAfter : Clear after)
    (notLast : text.getLast? ≠ some operator.symbol)
    (missing : lastPlace? text operator.symbol = none)
    (notHead : before ≠ [] → text.head? ≠ some operator.symbol) :
    lastPlace? (before ++ (text ++ after)) operator.symbol = none := by
  rw [lastPlace?_eq_none_iff] at missing ⊢
  intro other otherEligible
  obtain ⟨inner, _, innerEligible | ⟨_, padded, isHead⟩⟩ :=
    (eligible_pad_iff clearBefore clearAfter notLast).mp otherEligible
  · exact missing inner innerEligible
  · exact notHead padded isHead

/-- A padded text is split where the text is, if no operator at its start comes before. -/
theorem split?_pad {split : Split} (clearBefore : Clear before) (clearAfter : Clear after)
    (notLast : ∀ operator : Operator, text.getLast? ≠ some operator.symbol)
    (found : split? text = some split)
    (headLater : before ≠ [] → ∀ operator : Operator, text.head? = some operator.symbol →
      searchRank split.operator ≤ searchRank operator) :
    split? (before ++ (text ++ after)) =
      some ⟨before ++ split.left, split.operator, split.right ++ after⟩ := by
  obtain ⟨left, operator, right⟩ := split
  obtain ⟨noneBefore, place, isLast, shape⟩ := split?_eq_some_iff.mp found
  obtain ⟨rfl, _, rfl⟩ := Split.mk.inj shape
  have inside : place + 1 < text.length :=
    (eligible_iff_getElem?.mp (lastPlace?_eq_some_iff.mp isLast).1).2.2.2
  rw [split?_eq_some_iff]
  refine ⟨?_, before.length + place,
    lastPlace?_pad_of_some clearBefore clearAfter (notLast _) isLast, ?_⟩
  · intro earlier lower
    apply lastPlace?_pad_of_none clearBefore clearAfter (notLast earlier)
      (noneBefore earlier lower)
    intro padded isHead
    exact absurd lower (Nat.not_lt_of_le (headLater padded earlier isHead))
  · have short : place - text.length = 0 := by omega
    have shortBehind : place + 1 - text.length = 0 := by omega
    simp only [splitAt, List.take_append, List.drop_append, Nat.add_sub_cancel_left,
      Nat.add_assoc, short, shortBehind, List.take_zero, List.drop_zero, List.append_nil,
      List.take_of_length_le (Nat.le_add_right before.length place),
      List.drop_eq_nil_of_le (Nat.le_add_right before.length (place + 1)), List.nil_append]

/-- Spaces in front of an operator that is searched for first make it the one to split at. -/
theorem split?_pad_of_head (clearBefore : Clear before) (clearAfter : Clear after)
    (notLast : ∀ operator : Operator, text.getLast? ≠ some operator.symbol)
    (padded : before ≠ []) (isHead : text.head? = some operator.symbol)
    (missing : ∀ other : Operator, searchRank other ≤ searchRank operator →
      lastPlace? text other.symbol = none) :
    ∃ right, split? (before ++ (text ++ after)) = some ⟨before, operator, right⟩ := by
  refine ⟨(before ++ (text ++ after)).drop (before.length + 1), split?_eq_some_iff.mpr
    ⟨?_, before.length, ?_, ?_⟩⟩
  · intro earlier lower
    apply lastPlace?_pad_of_none clearBefore clearAfter (notLast earlier)
      (missing earlier (Nat.le_of_lt lower))
    intro _ isEarlierHead
    have same : operator.symbol = earlier.symbol :=
      Option.some.inj (isHead.symm.trans isEarlierHead)
    rw [symbol_injective same] at lower
    exact Nat.lt_irrefl _ lower
  · exact lastPlace?_pad_of_head clearBefore clearAfter (notLast operator)
      (missing operator (Nat.le_refl _)) padded isHead
  · simp [splitAt]

/-- A text between two parentheses that match has no place to split at, whatever the spaces
around it. -/
theorem split?_pad_of_enclosed {inner : List Char} (clearBefore : Clear before)
    (clearAfter : Clear after) (balanced : isBalanced inner = true) :
    split? (before ++ ('(' :: (inner ++ [')']) ++ after)) = none := by
  rw [split?_eq_none_iff]
  intro operator
  have enclosedHidden : Hidden operator.symbol ('(' :: (inner ++ [')'])) :=
    Hidden.enclosed balanced (symbol_ne_opening operator)
  have enclosedLevel := netDepth_of_isBalanced (isBalanced_enclosed balanced)
  apply lastPlace?_eq_none_of_hidden
  exact (Hidden.of_not_mem (clearBefore.absent operator)).append clearBefore.level <|
    enclosedHidden.append enclosedLevel (Hidden.of_not_mem (clearAfter.absent operator))

end Places

end CalcShell.Expression
