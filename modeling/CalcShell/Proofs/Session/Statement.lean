import CalcShell.Proofs.Expression.Padding
import CalcShell.Proofs.Text.Tabs
import CalcShell.Statement

/-!
# Exactly the assignments

A line is read as an assignment exactly when its text, with the tabs expanded, is spelled
as one: a name, an equals sign, and something on the same line to the right of it.  The
name and the right-hand side are then those of the spelling.
-/

namespace CalcShell

open Expression Text

/-- The characters that may stand beside the sign of an assignment without tabs. -/
def IsGapChar (char : Char) : Prop :=
  char = ' ' ∨ char = '\n' ∨ char = '\r'

/-- An assignment without tabs, as it is spelled. -/
structure AssignmentSpelling where
  name : NameSpelling
  beforeSign : List Char
  afterSign : List Char
  right : List Char
  gapBefore : ∀ char ∈ beforeSign, IsGapChar char
  gapAfter : ∀ char ∈ afterSign, IsGapChar char
  nonempty : right ≠ []
  begins : ∀ char ∈ right.head?, ¬ IsGapChar char
  oneLine : '\n' ∉ right

namespace AssignmentSpelling

def text (spelling : AssignmentSpelling) : List Char :=
  spelling.name.text ++ (spelling.beforeSign ++ '=' :: (spelling.afterSign ++ spelling.right))

theorem right_isSuffix (spelling : AssignmentSpelling) : spelling.right <:+ spelling.text :=
  ⟨spelling.name.text ++ (spelling.beforeSign ++ '=' :: spelling.afterSign), by simp [text]⟩

end AssignmentSpelling

/-! ## Gaps -/

section Gaps

variable {char : Char} {text : List Char}

theorem isSpacing_eq_true_iff : isSpacing char = true ↔ char = '\t' ∨ IsGapChar char := by
  simp only [isSpacing, IsGapChar, Bool.or_eq_true, beq_iff_eq]
  tauto

theorem isGapChar_of_isSpacing (noTab : '\t' ∉ text)
    (spacing : ∀ char ∈ text, isSpacing char = true) : ∀ char ∈ text, IsGapChar char := by
  intro char member
  refine (isSpacing_eq_true_iff.mp (spacing char member)).resolve_left ?_
  rintro rfl
  exact noTab member

theorem isSpacing_of_isGapChar (gap : ∀ char ∈ text, IsGapChar char) :
    ∀ char ∈ text, isSpacing char = true :=
  fun char member => isSpacing_eq_true_iff.mpr (Or.inr (gap char member))

theorem stops_gap_sign (gap : ∀ char ∈ text, IsGapChar char) (rest : List Char) :
    Stops (text ++ '=' :: rest) := by
  cases text with
  | nil => simp [Stops, isNameRest]
  | cons first more =>
      intro char isHead
      obtain rfl := Option.some.inj isHead
      exact stops_of_spacing (isSpacing_of_isGapChar gap) first rfl

end Gaps

/-! ## The recogniser -/

section Recogniser

variable {line name right : List Char}

theorem assignment?_eq_some_iff :
    assignment? line = some (name, right) ↔
      ∃ afterName afterSign,
        scanName ((expandTabs line).dropWhile isSpacing) = some (name, afterName) ∧
        afterName.dropWhile isSpacing = '=' :: afterSign ∧
        (afterSign.dropWhile isSpacing).takeWhile (· != '\n') ≠ [] ∧
        (∀ char ∈ (afterSign.dropWhile isSpacing).dropWhile (· != '\n'), isSpacing char = true) ∧
        right = trim ((afterSign.dropWhile isSpacing).takeWhile (· != '\n')) := by
  rw [assignment?, Option.bind_eq_bind, Option.bind_eq_some_iff]
  constructor
  · rintro ⟨⟨scanned, afterName⟩, isScanned, rest⟩
    dsimp only at rest
    split at rest
    · next afterSign isSign =>
        split at rest
        · next accepted =>
            cases rest
            exact ⟨afterName, afterSign, isScanned, isSign, accepted.1,
              by simpa using accepted.2, rfl⟩
        · cases rest
    · cases rest
  · rintro ⟨afterName, afterSign, isScanned, isSign, something, spacing, rfl⟩
    refine ⟨(name, afterName), isScanned, ?_⟩
    dsimp only
    rw [isSign]
    exact if_pos ⟨something, by simpa using spacing⟩

/-- Spacing at the end of a text without white space there is none. -/
theorem eq_nil_of_spacing_end {front rest : List Char} (tight : Tight (front ++ rest))
    (spacing : ∀ char ∈ rest, isSpacing char = true) : rest = [] := by
  rcases List.eq_nil_or_concat' rest with nothing | ⟨before, last, rfl⟩
  · exact nothing
  · have blank := isBlank_of_isSpacing (spacing last (by simp))
    rw [tight.last last (by simp)] at blank
    cases blank

/-- Where only spacing stands behind a line feed and there is none at the end, there is no line
feed. -/
theorem takeWhile_eq_self_of_tight {front shown : List Char} (tight : Tight (front ++ shown))
    (spacing : ∀ char ∈ shown.dropWhile (· != '\n'), isSpacing char = true) :
    shown.takeWhile (· != '\n') = shown := by
  have parts : shown.takeWhile (· != '\n') ++ shown.dropWhile (· != '\n') = shown :=
    List.takeWhile_append_dropWhile
  have nothingBehind : shown.dropWhile (· != '\n') = [] := by
    rw [← parts, ← List.append_assoc] at tight
    exact eq_nil_of_spacing_end tight spacing
  rwa [nothingBehind, List.append_nil] at parts

/-- What is read as an assignment is spelled as one. -/
theorem exists_spelling_of_assignment? (tight : Tight (expandTabs line))
    (read : assignment? line = some (name, right)) :
    ∃ spelling : AssignmentSpelling, expandTabs line = spelling.text ∧
      name = spelling.name.text ∧ right = trim spelling.right := by
  obtain ⟨afterName, afterSign, scanned, isSign, something, spacing, rfl⟩ :=
    assignment?_eq_some_iff.mp read
  rw [dropWhile_isSpacing_of_tight tight] at scanned
  obtain ⟨nameSpelling, rfl, shape⟩ := exists_spelling_of_scanName scanned
  obtain ⟨beforeSign, spacingBefore, afterNameShape⟩ := exists_spacing_prefix afterName
  obtain ⟨gap, spacingAfter, afterSignShape⟩ := exists_spacing_prefix afterSign
  have stopped := List.head?_dropWhile_not isSpacing afterSign
  generalize afterSign.dropWhile isSpacing = shown at *
  have whole : expandTabs line =
      nameSpelling.text ++ (beforeSign ++ '=' :: (gap ++ shown)) := by
    rw [shape, afterNameShape, isSign, afterSignShape]
  have noTab := tab_not_mem_expandTabs line
  rw [whole] at noTab
  simp only [List.mem_append, List.mem_cons, not_or] at noTab
  obtain ⟨_, noTabBefore, _, noTabAfter, _⟩ := noTab
  have sameLine : shown.takeWhile (· != '\n') = shown := by
    rw [whole, ← List.cons_append, ← List.append_assoc, ← List.append_assoc] at tight
    exact takeWhile_eq_self_of_tight tight spacing
  have oneLine : '\n' ∉ shown := by
    intro member
    rw [← sameLine] at member
    cases List.mem_takeWhile_imp member
  have begins : ∀ char ∈ shown.head?, ¬ IsGapChar char := by
    intro char isHead gapChar
    rw [Option.mem_def.mp isHead] at stopped
    simp [isSpacing_eq_true_iff.mpr (Or.inr gapChar)] at stopped
  rw [sameLine] at something ⊢
  exact ⟨⟨nameSpelling, beforeSign, gap, shown, isGapChar_of_isSpacing noTabBefore spacingBefore,
    isGapChar_of_isSpacing noTabAfter spacingAfter, something, begins, oneLine⟩, whole, rfl, rfl⟩

/-- What is spelled as an assignment is read as one. -/
theorem AssignmentSpelling.assignment?_eq (spelling : AssignmentSpelling)
    (written : expandTabs line = spelling.text) :
    assignment? line = some (spelling.name.text, trim spelling.right) := by
  have noTab := tab_not_mem_expandTabs line
  rw [written] at noTab
  have headSolid : ∀ char ∈ spelling.right.head?, isSpacing char = false := by
    intro char isHead
    by_contra spacing
    rcases isSpacing_eq_true_iff.mp (Bool.of_not_eq_false spacing) with rfl | gapChar
    · exact noTab (spelling.right_isSuffix.subset (List.mem_of_mem_head? isHead))
    · exact spelling.begins char isHead gapChar
  have signSolid : ∀ char ∈ ('=' :: (spelling.afterSign ++ spelling.right)).head?,
      isSpacing char = false := by
    simp; decide
  have sameLine : ∀ char ∈ spelling.right, (char != '\n') = true := by
    intro char member
    rw [bne_iff_ne]
    rintro rfl
    exact spelling.oneLine member
  have taken : spelling.right.takeWhile (· != '\n') = spelling.right :=
    List.takeWhile_eq_self_iff.mpr sameLine
  have nothingBehind : spelling.right.dropWhile (· != '\n') = [] :=
    List.dropWhile_eq_nil_iff.mpr sameLine
  have shown : (spelling.afterSign ++ spelling.right).dropWhile isSpacing = spelling.right :=
    dropWhile_append_of_stop (isSpacing_of_isGapChar spelling.gapAfter) headSolid
  refine assignment?_eq_some_iff.mpr ⟨spelling.beforeSign ++ '=' :: (spelling.afterSign ++
    spelling.right), spelling.afterSign ++ spelling.right, ?_, ?_, ?_⟩
  · have nameSolid : ∀ char ∈ spelling.text.head?, isSpacing char = false := by
      rw [text]
      exact head_append_of_tight spelling.name.tight_text _
    rw [written, dropWhile_eq_self_of_head nameSolid, text]
    exact spelling.name.scanName_append (stops_gap_sign spelling.gapBefore _)
  · exact dropWhile_append_of_stop (isSpacing_of_isGapChar spelling.gapBefore) signSolid
  · rw [shown, taken, nothingBehind]
    exact ⟨spelling.nonempty, nofun, rfl⟩

end Recogniser

/-! ## Statements -/

namespace Statement

variable {line name expression : String}

theorem read_eq (line : String) :
    read line =
      match assignment? (trim line.toList) with
      | some (name, right) => .assign (String.ofList name) (String.ofList right)
      | none => .expression (trimmed line) :=
  rfl

/-- A line is an assignment exactly when it is spelled as one. -/
theorem read_eq_assign_iff :
    read line = .assign name expression ↔
      ∃ spelling : AssignmentSpelling, expandTabs (trim line.toList) = spelling.text ∧
        name = String.ofList spelling.name.text ∧
        expression = String.ofList (trim spelling.right) := by
  rw [read_eq]
  constructor
  · intro isAssignment
    cases found : assignment? (trim line.toList) with
    | none =>
        rw [found] at isAssignment
        cases isAssignment
    | some parts =>
        rw [found] at isAssignment
        cases isAssignment
        have nonempty : trim line.toList ≠ [] := by
          intro nothing
          rw [nothing] at found
          cases found
        obtain ⟨spelling, written, isName, isRight⟩ :=
          exists_spelling_of_assignment? (tight_trim nonempty).expandTabs found
        exact ⟨spelling, written, congrArg String.ofList isName, congrArg String.ofList isRight⟩
  · rintro ⟨spelling, written, rfl, rfl⟩
    rw [spelling.assignment?_eq written]

theorem eq_trimmed_of_read (isExpression : read line = .expression expression) :
    expression = trimmed line := by
  rw [read_eq] at isExpression
  split at isExpression
  · cases isExpression
  · exact (Statement.expression.inj isExpression).symm

/-- Every other line is an expression, without the white space at its ends. -/
theorem read_eq_expression_iff :
    read line = .expression expression ↔
      (∀ spelling : AssignmentSpelling, expandTabs (trim line.toList) ≠ spelling.text) ∧
        expression = trimmed line := by
  constructor
  · intro isExpression
    refine ⟨?_, eq_trimmed_of_read isExpression⟩
    intro spelling written
    have isAssignment := read_eq_assign_iff.mpr ⟨spelling, written, rfl, rfl⟩
    rw [isExpression] at isAssignment
    cases isAssignment
  · rintro ⟨notSpelled, rfl⟩
    cases statement : read line with
    | assign name right =>
        obtain ⟨spelling, written, _⟩ := read_eq_assign_iff.mp statement
        exact absurd written (notSpelled spelling)
    | expression text => rw [eq_trimmed_of_read statement]

/-- The name of an assignment is one, without white space around it. -/
theorem exists_name_of_read (isAssignment : read line = .assign name expression) :
    ∃ spelling : NameSpelling, name = String.ofList spelling.text := by
  obtain ⟨spelling, _, rfl, _⟩ := read_eq_assign_iff.mp isAssignment
  exact ⟨spelling.name, rfl⟩

/-- The right-hand side of an assignment is not blank. -/
theorem isBlankText_of_read (isAssignment : read line = .assign name expression) :
    isBlankText expression = false := by
  obtain ⟨spelling, written, _, rfl⟩ := read_eq_assign_iff.mp isAssignment
  have nonempty : trim line.toList ≠ [] := by
    intro nothing
    rw [nothing] at written
    cases written
  have tight := (tight_trim nonempty).expandTabs
  obtain ⟨front, shape⟩ := spelling.right_isSuffix
  obtain ⟨before, last, rightShape⟩ :=
    (List.eq_nil_or_concat' spelling.right).resolve_left spelling.nonempty
  have solid : isBlank last = false := by
    apply tight.last last
    rw [written, ← shape, rightShape]
    simp
  have isLast : (trim spelling.right).getLast? = some last :=
    getLast?_trim (by rw [rightShape, List.getLast?_concat]) solid
  rw [isBlankText, String.toList_ofList, List.all_eq_false]
  exact ⟨last, List.mem_of_mem_getLast? isLast, by simp [solid]⟩

end Statement

end CalcShell
