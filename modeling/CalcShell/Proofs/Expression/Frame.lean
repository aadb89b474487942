import CalcShell.Proofs.Chain.Basic
import CalcShell.Proofs.Expression.Layers
import CalcShell.Proofs.Expression.Padding

/-!
# Texts around an operand

A frame is what stands around an operand in a text.  Trimming, taking layers of
parentheses off and splitting treat a filled frame in the same way whatever solid
text it is filled with: each leaves a narrower frame filled with the same text.
-/

namespace CalcShell.Expression

open Number Text

def IsSymbol (char : Char) : Prop :=
  ∃ operator : Operator, char = operator.symbol

def isSolid (char : Char) : Bool :=
  !isBlank char

/-- The text around an operand.  White space aside, an operator or an opening parenthesis
stands in front of the operand, and an operator or a closing one behind it, if anything. -/
structure Frame where
  before : List Char
  after : List Char
  opens : ∀ char ∈ before.reverse.find? isSolid, char = '(' ∨ IsSymbol char
  closes : ∀ char ∈ after.find? isSolid, char = ')' ∨ IsSymbol char

namespace Frame

variable (frame : Frame)

def fill (text : List Char) : List Char :=
  frame.before ++ (text ++ frame.after)

def IsEmpty : Prop :=
  frame.before = [] ∧ frame.after = []

/-- The frame that is left between two texts at the ends of a frame. -/
def narrowed {before after outerLeft outerRight : List Char}
    (left : frame.before = outerLeft ++ before) (right : frame.after = after ++ outerRight) :
    Frame where
  before := before
  after := after
  opens := by
    intro char isLast
    apply frame.opens char
    rw [left, List.reverse_append, List.find?_append, Option.mem_def.mp isLast]
    rfl
  closes := by
    intro char isFirst
    apply frame.closes char
    rw [right, List.find?_append, Option.mem_def.mp isFirst]
    rfl

/-! ## Trimming -/

theorem exists_trim_fill : ∃ inner : Frame, ∀ text, Tight text →
    trim (frame.fill text) = inner.fill text := by
  obtain ⟨dropped, right⟩ := exists_dropEndWhile_append isBlank frame.after
  have left : frame.before = frame.before.takeWhile isBlank ++ frame.before.dropWhile isBlank :=
    List.takeWhile_append_dropWhile.symm
  refine ⟨frame.narrowed left right, ?_⟩
  intro text tight
  exact trim_around tight

/-! ## Balance and layers -/

/-- The balance of a filled frame does not depend on the balanced text in it. -/
theorem isBalanced_fill {text : List Char} (balanced : isBalanced text = true) :
    isBalanced (frame.fill text) = isBalanced (frame.before ++ frame.after) :=
  closesFrom_around 0 frame.before frame.after balanced

theorem netDepth_of_isBalanced_cons {rest : List Char}
    (balanced : isBalanced ('(' :: rest) = true) : netDepth rest = -1 := by
  have level := netDepth_of_isBalanced balanced
  simp only [netDepth, depthAfter, if_true] at level
  omega

theorem netDepth_of_isBalanced_concat {front : List Char}
    (balanced : isBalanced (front ++ [')']) = true) : netDepth front = 1 := by
  have level := netDepth_of_isBalanced balanced
  simp only [netDepth_append, netDepth, depthAfter] at level
  simp at level
  omega

/-- A filled frame is a group exactly when its two ends are, whatever text it is filled
with. -/
theorem innerText?_fill_eq_some_iff {text inner : List Char} (nonempty : text ≠ [])
    (balanced : isBalanced text = true) (around : ¬ frame.IsEmpty) :
    innerText? (frame.fill text) = some inner ↔
      ∃ rest back, frame.before = '(' :: rest ∧ frame.after = back ++ [')'] ∧
        isBalanced (rest ++ back) = true ∧ inner = rest ++ (text ++ back) := by
  rw [innerText?_eq_some_iff, fill]
  constructor
  · rintro ⟨shape, innerBalanced⟩
    rcases List.eq_nil_or_concat' frame.after with nothingBehind | ⟨back, last, behind⟩
    · -- The closing parenthesis would be the last character of the text itself.
      obtain ⟨front, last, rfl⟩ := (List.eq_nil_or_concat' text).resolve_left nonempty
      rcases List.cons_eq_append_iff.mp shape.symm with ⟨nothing, _⟩ | ⟨rest, opening, same⟩
      · exact absurd ⟨nothing, nothingBehind⟩ around
      · rw [nothingBehind, List.append_nil, ← List.append_assoc] at same
        obtain ⟨rfl, closing⟩ := List.append_inj' same rfl
        obtain rfl : last = ')' := by simpa using closing.symm
        have above := netDepth_nonneg_of_isBalanced innerBalanced
        have level := netDepth_of_isBalanced innerBalanced
        have frontLevel := netDepth_of_isBalanced_concat balanced
        rw [netDepth_append] at level
        omega
    · rcases List.cons_eq_append_iff.mp shape.symm with ⟨nothing, same⟩ | ⟨rest, opening, same⟩
      · -- The opening parenthesis would be the first character of the text itself.
        rw [behind] at same
        cases text with
        | nil => exact absurd rfl nonempty
        | cons first rest =>
            rw [List.cons_append, List.cons.injEq, ← List.append_assoc] at same
            obtain ⟨rfl, tail⟩ := same
            obtain ⟨rfl, _⟩ := List.append_inj' tail rfl
            have above := netDepth_nonneg_of_isBalanced innerBalanced
            have restLevel := netDepth_of_isBalanced_cons balanced
            omega
      · rw [behind, ← List.append_assoc, ← List.append_assoc] at same
        obtain ⟨rfl, closing⟩ := List.append_inj' same rfl
        obtain rfl : last = ')' := by simpa using closing.symm
        rw [List.append_assoc] at innerBalanced ⊢
        refine ⟨rest, back, opening, behind, ?_, rfl⟩
        rwa [isBalanced, closesFrom_around 0 rest back balanced] at innerBalanced
  · rintro ⟨rest, back, opening, behind, inside, rfl⟩
    refine ⟨by simp [opening, behind], ?_⟩
    rwa [isBalanced, closesFrom_around 0 rest back balanced]

/-- Taking layers off a filled frame leaves a narrower frame, or the text it is filled with
without its own layers. -/
theorem exists_stripParens_fill (frame : Frame) :
    (∀ text, text ≠ [] → isBalanced text = true →
      stripParens (frame.fill text) = stripParens text) ∨
    ∃ inner : Frame, ¬ inner.IsEmpty ∧ ∀ text, text ≠ [] → isBalanced text = true →
      stripParens (frame.fill text) = inner.fill text := by
  by_cases empty : frame.IsEmpty
  · left
    intro text _ _
    rw [fill, empty.1, empty.2, List.nil_append, List.append_nil]
  · by_cases grouped : ∃ rest back, frame.before = '(' :: rest ∧ frame.after = back ++ [')'] ∧
        isBalanced (rest ++ back) = true
    · obtain ⟨rest, back, opening, closing, inside⟩ := grouped
      have openingSplit : frame.before = ['('] ++ rest := opening
      let smaller := frame.narrowed openingSplit closing
      have peeled : ∀ text, text ≠ [] → isBalanced text = true →
          stripParens (frame.fill text) = stripParens (smaller.fill text) := by
        intro text nonempty balanced
        apply stripParens_of_innerText?_eq_some
        rw [frame.innerText?_fill_eq_some_iff nonempty balanced empty]
        exact ⟨rest, back, opening, closing, inside, rfl⟩
      rcases exists_stripParens_fill smaller with bare | ⟨inner, around, stripped⟩
      · left
        intro text nonempty balanced
        rw [peeled text nonempty balanced, bare text nonempty balanced]
      · right
        refine ⟨inner, around, ?_⟩
        intro text nonempty balanced
        rw [peeled text nonempty balanced, stripped text nonempty balanced]
    · right
      refine ⟨frame, empty, ?_⟩
      intro text nonempty balanced
      apply stripParens_of_innerText?_eq_none
      rw [Option.eq_none_iff_forall_ne_some]
      intro inner found
      obtain ⟨rest, back, opening, closing, inside, _⟩ :=
        (frame.innerText?_fill_eq_some_iff nonempty balanced empty).mp found
      exact grouped ⟨rest, back, opening, closing, inside⟩
termination_by frame.before.length
decreasing_by
  show rest.length < frame.before.length
  rw [opening, List.length_cons]
  omega

/-! ## Places to split at -/

/-- A place to split at in front of the operand. -/
def PlaceBefore (operator : Operator) (place : Nat) : Prop :=
  ∃ left right, frame.before = left ++ operator.symbol :: right ∧ left.length = place ∧
    left ≠ [] ∧ netDepth left = 0

/-- A place to split at behind the operand, counted from there. -/
def PlaceBehind (operator : Operator) (place : Nat) : Prop :=
  ∃ left right, frame.after = left ++ operator.symbol :: right ∧ left.length = place ∧
    right ≠ [] ∧ netDepth (frame.before ++ left) = 0

theorem netDepth_fill_front {text : List Char} (balanced : isBalanced text = true)
    (left : List Char) :
    netDepth (frame.before ++ (text ++ left)) = netDepth (frame.before ++ left) := by
  simp only [netDepth_append, netDepth_of_isBalanced balanced, Int.zero_add]

/-- No place to split at is in a solid text that the frame is filled with. -/
theorem eligible_fill_iff {text : List Char} {operator : Operator} {place : Nat}
    (solid : Solid text) (balanced : isBalanced (frame.before ++ frame.after) = true) :
    Eligible (frame.fill text) operator.symbol place ↔
      frame.PlaceBefore operator place ∨
        ∃ behind, frame.PlaceBehind operator behind ∧
          place = frame.before.length + text.length + behind := by
  rw [eligible_symbol_iff, fill]
  constructor
  · rintro ⟨left, right, split, rfl, leftNonempty, rightNonempty, level⟩
    rcases List.append_eq_append_iff.mp split with
      ⟨middle, rfl, inside⟩ | ⟨middle, beforeSplit, inside⟩
    · rcases List.append_eq_append_iff.mp inside with
        ⟨front, rfl, behind⟩ | ⟨rest, textSplit, behind⟩
      · right
        refine ⟨front.length, ⟨front, right, behind, rfl, rightNonempty, ?_⟩, ?_⟩
        · rwa [frame.netDepth_fill_front solid.balanced] at level
        · simp [Nat.add_assoc]
      · cases rest with
        | nil =>
            right
            have sameText : middle = text := by simpa using textSplit.symm
            subst sameText
            refine ⟨0, ⟨[], right, by simpa using behind.symm, rfl, rightNonempty, ?_⟩, ?_⟩
            · rwa [netDepth_append, netDepth_of_isBalanced solid.balanced, Int.add_zero,
                ← List.append_nil frame.before] at level
            · simp
        | cons first rest =>
            -- Inside the text the operator is hidden, and the depth before it is not negative.
            rw [List.cons_append, List.cons.injEq] at behind
            obtain ⟨rfl, _⟩ := behind
            have concealed := solid.hidden operator middle rest textSplit
            have textBalanced := solid.balanced
            rw [textSplit] at textBalanced
            have above := netDepth_nonneg_of_isBalanced textBalanced
            have frameAbove := netDepth_nonneg_of_isBalanced balanced
            rw [netDepth_append] at level
            omega
    · cases middle with
      | nil =>
          rw [List.nil_append] at inside
          rcases List.cons_eq_append_iff.mp inside with ⟨nothing, _⟩ | ⟨rest, textSplit, _⟩
          · exact absurd nothing solid.tight.nonempty
          · exact absurd rfl (solid.hidden operator [] rest textSplit)
      | cons first rest =>
          rw [List.cons_append, List.cons.injEq] at inside
          obtain ⟨rfl, _⟩ := inside
          exact Or.inl ⟨left, rest, beforeSplit, rfl, leftNonempty, level⟩
  · rintro (⟨left, right, shape, rfl, leftNonempty, level⟩ |
      ⟨behind, ⟨left, right, shape, rfl, rightNonempty, level⟩, rfl⟩)
    · refine ⟨left, right ++ (text ++ frame.after), by simp [shape], rfl, leftNonempty, ?_, level⟩
      simp [solid.tight.nonempty]
    · refine ⟨frame.before ++ (text ++ left), right, by simp [shape], ?_, ?_, rightNonempty, ?_⟩
      · simp [Nat.add_assoc]
      · simp [solid.tight.nonempty]
      · rwa [frame.netDepth_fill_front solid.balanced]

section Fillings

variable {frame} {text other : List Char} {operator : Operator}

theorem lastPlace?_fill_eq_none (solid : Solid text) (otherSolid : Solid other)
    (balanced : isBalanced (frame.before ++ frame.after) = true)
    (missing : lastPlace? (frame.fill text) operator.symbol = none) :
    lastPlace? (frame.fill other) operator.symbol = none := by
  rw [lastPlace?_eq_none_iff] at missing ⊢
  intro place eligible
  rcases (frame.eligible_fill_iff otherSolid balanced).mp eligible with
    inFront | ⟨behind, isBehind, _⟩
  · exact missing place ((frame.eligible_fill_iff solid balanced).mpr (Or.inl inFront))
  · exact missing _ ((frame.eligible_fill_iff solid balanced).mpr
      (Or.inr ⟨behind, isBehind, rfl⟩))

theorem length_lt_of_placeBefore {place : Nat} (inFront : frame.PlaceBefore operator place) :
    place < frame.before.length := by
  obtain ⟨left, right, shape, rfl, _⟩ := inFront
  simp only [shape, List.length_append, List.length_cons]
  omega

/-- The last place to split at stays where it is in the frame, whatever the frame is filled
with. -/
theorem lastPlace?_fill_eq_some {place : Nat} (solid : Solid text) (otherSolid : Solid other)
    (balanced : isBalanced (frame.before ++ frame.after) = true)
    (found : lastPlace? (frame.fill text) operator.symbol = some place) :
    (frame.PlaceBefore operator place ∧
      lastPlace? (frame.fill other) operator.symbol = some place) ∨
    ∃ behind, frame.PlaceBehind operator behind ∧
      place = frame.before.length + text.length + behind ∧
      lastPlace? (frame.fill other) operator.symbol =
        some (frame.before.length + other.length + behind) := by
  obtain ⟨eligible, greatest⟩ := lastPlace?_eq_some_iff.mp found
  have inText : ∀ {place}, Eligible (frame.fill text) operator.symbol place ↔
      frame.PlaceBefore operator place ∨ ∃ behind, frame.PlaceBehind operator behind ∧
        place = frame.before.length + text.length + behind :=
    frame.eligible_fill_iff solid balanced
  have inOther : ∀ {place}, Eligible (frame.fill other) operator.symbol place ↔
      frame.PlaceBefore operator place ∨ ∃ behind, frame.PlaceBehind operator behind ∧
        place = frame.before.length + other.length + behind :=
    frame.eligible_fill_iff otherSolid balanced
  rcases inText.mp eligible with inFront | ⟨behind, isBehind, rfl⟩
  · refine Or.inl ⟨inFront, lastPlace?_eq_some_iff.mpr ⟨inOther.mpr (Or.inl inFront), ?_⟩⟩
    intro place otherEligible
    have early := length_lt_of_placeBefore inFront
    rcases inOther.mp otherEligible with placeInFront | ⟨further, placeBehind, rfl⟩
    · exact greatest place (inText.mpr (Or.inl placeInFront))
    · have furtherLe := greatest _ (inText.mpr (Or.inr ⟨further, placeBehind, rfl⟩))
      omega
  · refine Or.inr ⟨behind, isBehind, rfl, lastPlace?_eq_some_iff.mpr
      ⟨inOther.mpr (Or.inr ⟨behind, isBehind, rfl⟩), ?_⟩⟩
    intro place otherEligible
    rcases inOther.mp otherEligible with placeInFront | ⟨further, placeBehind, rfl⟩
    · have early := length_lt_of_placeBefore placeInFront
      omega
    · have furtherLe := greatest _ (inText.mpr (Or.inr ⟨further, placeBehind, rfl⟩))
      omega

/-- Splitting a filled frame leaves a text beside a narrower frame, filled with the same. -/
theorem split?_fill_eq_some {split : Split} (solid : Solid text) (otherSolid : Solid other)
    (balanced : isBalanced (frame.before ++ frame.after) = true)
    (found : split? (frame.fill text) = some split) :
    (∃ left operator, ∃ inner : Frame, split = ⟨left, operator, inner.fill text⟩ ∧
      split? (frame.fill other) = some ⟨left, operator, inner.fill other⟩) ∨
    ∃ right operator, ∃ inner : Frame, split = ⟨inner.fill text, operator, right⟩ ∧
      split? (frame.fill other) = some ⟨inner.fill other, operator, right⟩ := by
  obtain ⟨left, operator, right⟩ := split
  obtain ⟨noneBefore, place, isLast, shape⟩ := split?_eq_some_iff.mp found
  have noneBeforeOther : ∀ earlier, searchRank earlier < searchRank operator →
      lastPlace? (frame.fill other) earlier.symbol = none := by
    intro earlier lower
    exact lastPlace?_fill_eq_none solid otherSolid balanced (noneBefore earlier lower)
  rcases lastPlace?_fill_eq_some solid otherSolid balanced isLast with
    ⟨⟨front, rest, beforeSplit, rfl, _⟩, otherLast⟩ |
      ⟨behind, ⟨front, rest, afterSplit, rfl, _⟩, rfl, otherLast⟩
  · left
    have narrowed : frame.before = (front ++ [operator.symbol]) ++ rest := by
      simp [beforeSplit]
    have filled : ∀ filler, frame.fill filler =
        front ++ operator.symbol :: (rest ++ (filler ++ frame.after)) := by
      simp [fill, beforeSplit]
    refine ⟨front, operator, frame.narrowed narrowed (List.append_nil _).symm, ?_, ?_⟩
    · rw [filled, splitAt_append] at shape
      exact shape.symm
    · refine split?_eq_some_iff.mpr ⟨noneBeforeOther, _, otherLast, ?_⟩
      rw [filled, splitAt_append]
      rfl
  · right
    have filled : ∀ filler, frame.fill filler =
        (frame.before ++ (filler ++ front)) ++ operator.symbol :: rest := by
      simp [fill, afterSplit]
    have position : ∀ filler : List Char, frame.before.length + filler.length + front.length =
        (frame.before ++ (filler ++ front)).length := by
      simp [Nat.add_assoc]
    refine ⟨rest, operator, frame.narrowed (List.nil_append _).symm afterSplit, ?_, ?_⟩
    · rw [filled, position, splitAt_append] at shape
      exact shape.symm
    · refine split?_eq_some_iff.mpr ⟨noneBeforeOther, _, otherLast, ?_⟩
      rw [filled, position, splitAt_append]
      rfl

end Fillings

end Frame

end CalcShell.Expression
