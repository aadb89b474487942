import CalcShell.Expression.Split
import CalcShell.Proofs.Expression.Depth

/-!
# Places to split at

A text can be split where a symbol stands outside all parentheses with something
before it and something after it.  `lastPlace?` finds the last such place, and
`split?` the one whose operator is searched for first.
-/

namespace CalcShell.Expression

/-- A text can be split at a place: the symbol stands there at depth zero, and it is
neither the first nor the last character. -/
def Eligible (text : List Char) (symbol : Char) (place : Nat) : Prop :=
  ∃ before after, text = before ++ symbol :: after ∧ before.length = place ∧
    before ≠ [] ∧ after ≠ [] ∧ netDepth (before ++ [symbol]) = 0

theorem eligible_iff_getElem? {text : List Char} {symbol : Char} {place : Nat} :
    Eligible text symbol place ↔
      text[place]? = some symbol ∧ (depths text)[place]? = some 0 ∧
        0 < place ∧ place + 1 < text.length := by
  constructor
  · rintro ⟨before, after, rfl, rfl, beforeNonempty, afterNonempty, level⟩
    refine ⟨by simp, ?_, List.length_pos_of_ne_nil beforeNonempty, ?_⟩
    · rw [depths, getElem?_depthsFrom, level, Int.zero_add]
    · have afterLength := List.length_pos_of_ne_nil afterNonempty
      simp only [List.length_append, List.length_cons]
      omega
  · rintro ⟨here, level, notFirst, notLast⟩
    obtain ⟨inside, symbolHere⟩ := List.getElem?_eq_some_iff.mp here
    have shape : text = text.take place ++ symbol :: text.drop (place + 1) := by
      rw [← symbolHere, List.getElem_cons_drop, List.take_append_drop]
    have frontLength : (text.take place).length = place := by
      rw [List.length_take]
      omega
    refine ⟨text.take place, text.drop (place + 1), shape, frontLength, ?_, ?_, ?_⟩
    · apply List.ne_nil_of_length_pos
      omega
    · apply List.ne_nil_of_length_pos
      rw [List.length_drop]
      omega
    · have depthHere := getElem?_depthsFrom 0 (text.take place) (text.drop (place + 1)) symbol
      rw [← shape, frontLength, ← depths, level, Int.zero_add] at depthHere
      exact (Option.some.inj depthHere).symm

theorem mem_splitPlaces {text : List Char} {symbol : Char} {place : Nat} :
    place ∈ splitPlaces text symbol ↔ Eligible text symbol place := by
  rw [eligible_iff_getElem?, splitPlaces, List.mem_filterMap]
  constructor
  · rintro ⟨⟨⟨char, depth⟩, index⟩, member, kept⟩
    rw [List.mk_mem_zipIdx_iff_getElem?, List.getElem?_zip_eq_some] at member
    simp only [Option.ite_none_right_eq_some, Option.some.injEq] at kept
    obtain ⟨⟨rfl, rfl, notFirst, notLast⟩, rfl⟩ := kept
    exact ⟨member.1, member.2, notFirst, notLast⟩
  · rintro ⟨here, level, notFirst, notLast⟩
    refine ⟨((symbol, 0), place), ?_, ?_⟩
    · rw [List.mk_mem_zipIdx_iff_getElem?, List.getElem?_zip_eq_some]
      exact ⟨here, level⟩
    · simp [notFirst, notLast]

theorem pairwise_splitPlaces (text : List Char) (symbol : Char) :
    (splitPlaces text symbol).Pairwise (· < ·) := by
  have ascending :
      ((text.zip (depths text)).zipIdx).Pairwise fun left right => left.2 < right.2 := by
    rw [← List.pairwise_map, List.zipIdx_map_snd]
    exact List.pairwise_lt_range'
  refine List.Pairwise.filterMap _ ?_ ascending
  rintro ⟨_, leftIndex⟩ ⟨_, rightIndex⟩ before leftPlace leftKept rightPlace rightKept
  simp only [Option.ite_none_right_eq_some, Option.some.injEq] at leftKept rightKept
  obtain ⟨_, rfl⟩ := leftKept
  obtain ⟨_, rfl⟩ := rightKept
  exact before

theorem lastPlace?_eq_some_iff {text : List Char} {symbol : Char} {place : Nat} :
    lastPlace? text symbol = some place ↔
      Eligible text symbol place ∧
        ∀ other, Eligible text symbol other → other ≤ place := by
  have ascending := pairwise_splitPlaces text symbol
  simp only [← mem_splitPlaces]
  rw [lastPlace?]
  constructor
  · intro isLast
    obtain ⟨front, shape⟩ := List.getLast?_eq_some_iff.mp isLast
    rw [shape] at ascending ⊢
    refine ⟨by simp, ?_⟩
    intro other member
    rcases List.mem_append.mp member with inFront | atEnd
    · exact Nat.le_of_lt <|
        (List.pairwise_append.mp ascending).2.2 other inFront place (by simp)
    · exact Nat.le_of_eq (List.mem_singleton.mp atEnd)
  · rintro ⟨member, greatest⟩
    cases isLast : (splitPlaces text symbol).getLast? with
    | none =>
        rw [List.getLast?_eq_none_iff.mp isLast] at member
        cases member
    | some last =>
        obtain ⟨front, shape⟩ := List.getLast?_eq_some_iff.mp isLast
        have lastLe : last ≤ place := greatest last (by simp [shape])
        have placeLe : place ≤ last := by
          rw [shape] at member ascending
          rcases List.mem_append.mp member with inFront | atEnd
          · exact Nat.le_of_lt <|
              (List.pairwise_append.mp ascending).2.2 place inFront last (by simp)
          · exact Nat.le_of_eq (List.mem_singleton.mp atEnd)
        rw [Nat.le_antisymm lastLe placeLe]

theorem lastPlace?_eq_none_iff {text : List Char} {symbol : Char} :
    lastPlace? text symbol = none ↔ ∀ place, ¬ Eligible text symbol place := by
  simp only [← mem_splitPlaces]
  rw [lastPlace?, List.getLast?_eq_none_iff, List.eq_nil_iff_forall_not_mem]

/-! ## The operator that is split at -/

/-- The place of an operator in the order of the search. -/
def searchRank : Operator → Nat
  | .plus => 0
  | .minus => 1
  | .times => 2
  | .dividedBy => 3

theorem ne_of_searchRank_lt {earlier later : Operator}
    (lower : searchRank earlier < searchRank later) : earlier ≠ later := by
  rintro rfl
  exact Nat.lt_irrefl _ lower

theorem mem_splitOrder (operator : Operator) : operator ∈ splitOrder := by
  cases operator <;> decide

theorem pairwise_searchRank_splitOrder :
    splitOrder.Pairwise fun earlier later => searchRank earlier < searchRank later := by
  decide

/-- In front of an operator in the order of the search stand exactly those of lower rank. -/
theorem mem_front_splitOrder_iff {front rest : List Operator} {operator : Operator}
    (order : splitOrder = front ++ operator :: rest) (earlier : Operator) :
    earlier ∈ front ↔ searchRank earlier < searchRank operator := by
  have ascending := pairwise_searchRank_splitOrder
  have member := mem_splitOrder earlier
  rw [order] at ascending member
  obtain ⟨_, behind, across⟩ := List.pairwise_append.mp ascending
  constructor
  · intro inFront
    exact across earlier inFront operator (by simp)
  · intro lower
    rcases List.mem_append.mp member with inFront | inRest
    · exact inFront
    · rcases List.mem_cons.mp inRest with rfl | inTail
      · exact absurd lower (Nat.lt_irrefl _)
      · exact absurd lower <|
          Nat.lt_asymm ((List.pairwise_cons.mp behind).1 earlier inTail)

theorem splitAt_append (left right : List Char) (symbol : Char) (operator : Operator) :
    splitAt (left ++ symbol :: right) operator left.length = ⟨left, operator, right⟩ := by
  simp [splitAt]

/-- A text is split at the last place of the operator that is searched for first among those
that have a place. -/
theorem split?_eq_some_iff {text : List Char} {split : Split} :
    split? text = some split ↔
      (∀ earlier, searchRank earlier < searchRank split.operator →
        lastPlace? text earlier.symbol = none) ∧
      ∃ place, lastPlace? text split.operator.symbol = some place ∧
        splitAt text split.operator place = split := by
  rw [split?]
  constructor
  · intro found
    obtain ⟨front, operator, rest, order, atOperator, noneBefore⟩ :=
      List.findSome?_eq_some_iff.mp found
    obtain ⟨place, isLast, rfl⟩ := Option.map_eq_some_iff.mp atOperator
    refine ⟨?_, place, isLast, rfl⟩
    intro earlier lower
    have inFront := (mem_front_splitOrder_iff order earlier).mpr lower
    exact Option.map_eq_none_iff.mp (noneBefore earlier inFront)
  · rintro ⟨noneBefore, place, isLast, shape⟩
    obtain ⟨front, rest, order⟩ := List.append_of_mem (mem_splitOrder split.operator)
    refine List.findSome?_eq_some_iff.mpr
      ⟨front, split.operator, rest, order, ?_, ?_⟩
    · rw [isLast, Option.map_some, shape]
    · intro earlier inFront
      have lower := (mem_front_splitOrder_iff order earlier).mp inFront
      rw [noneBefore earlier lower, Option.map_none]

/-- Splitting loses nothing, and what stands on its sides is not empty. -/
theorem eq_of_split?_eq_some {text : List Char} {split : Split}
    (found : split? text = some split) :
    text = split.left ++ split.operator.symbol :: split.right ∧
      split.left ≠ [] ∧ split.right ≠ [] ∧
      netDepth (split.left ++ [split.operator.symbol]) = 0 := by
  obtain ⟨_, place, isLast, shape⟩ := split?_eq_some_iff.mp found
  obtain ⟨before, after, textShape, rfl, beforeNonempty, afterNonempty, level⟩ :=
    (lastPlace?_eq_some_iff.mp isLast).1
  rw [textShape, splitAt_append] at shape
  rw [← shape]
  exact ⟨textShape, beforeNonempty, afterNonempty, level⟩

theorem split?_eq_none_iff {text : List Char} :
    split? text = none ↔ ∀ operator : Operator, lastPlace? text operator.symbol = none := by
  rw [split?, List.findSome?_eq_none_iff]
  constructor
  · intro noneAnywhere operator
    exact Option.map_eq_none_iff.mp (noneAnywhere operator (mem_splitOrder operator))
  · intro noneAnywhere operator _
    rw [noneAnywhere operator, Option.map_none]

/-! ## Visible and hidden symbols -/

theorem symbol_ne_opening (operator : Operator) : operator.symbol ≠ '(' := by
  cases operator <;> decide

theorem symbol_ne_closing (operator : Operator) : operator.symbol ≠ ')' := by
  cases operator <;> decide

theorem symbol_injective {left right : Operator} (same : left.symbol = right.symbol) :
    left = right := by
  cases left <;> cases right <;> first | rfl | exact absurd same (by decide)

theorem netDepth_symbol (operator : Operator) : netDepth [operator.symbol] = 0 :=
  netDepth_singleton_of_ne (symbol_ne_opening operator) (symbol_ne_closing operator)

/-- Before an eligible operator the depth is zero. -/
theorem eligible_symbol_iff {text : List Char} {operator : Operator} {place : Nat} :
    Eligible text operator.symbol place ↔
      ∃ before after, text = before ++ operator.symbol :: after ∧ before.length = place ∧
        before ≠ [] ∧ after ≠ [] ∧ netDepth before = 0 := by
  simp only [Eligible, netDepth_append, netDepth_symbol, Int.add_zero]

theorem lastPlace?_eq_none_of_hidden {text : List Char} {operator : Operator}
    (hidden : Hidden operator.symbol text) : lastPlace? text operator.symbol = none := by
  rw [lastPlace?_eq_none_iff]
  intro place eligible
  obtain ⟨before, after, split, _, _, _, level⟩ := eligible_symbol_iff.mp eligible
  exact hidden before after split level

/-- An operator at depth zero behind which it is hidden is the last one to split at. -/
theorem lastPlace?_append_of_hidden {left right : List Char} {operator : Operator}
    (leftNonempty : left ≠ []) (rightNonempty : right ≠ []) (level : netDepth left = 0)
    (hidden : Hidden operator.symbol right) :
    lastPlace? (left ++ operator.symbol :: right) operator.symbol = some left.length := by
  rw [lastPlace?_eq_some_iff]
  refine ⟨eligible_symbol_iff.mpr ⟨left, right, rfl, rfl, leftNonempty, rightNonempty, level⟩, ?_⟩
  intro other eligible
  obtain ⟨before, after, split, rfl, _, _, otherLevel⟩ := eligible_symbol_iff.mp eligible
  rcases List.append_eq_append_iff.mp split with
    ⟨middle, rfl, behind⟩ | ⟨middle, leftSplit, _⟩
  · cases middle with
    | nil => simp
    | cons first rest =>
        obtain ⟨rfl, rightSplit⟩ := List.cons.inj behind
        rw [netDepth_append, level, Int.zero_add] at otherLevel
        have restLevel : netDepth rest = 0 := by
          have symbolLevel := netDepth_symbol operator
          simp only [netDepth] at otherLevel symbolLevel
          omega
        exact absurd restLevel (hidden rest after rightSplit)
  · rw [leftSplit, List.length_append]
    omega

/-- The split at an operator at depth zero, when none that is searched for earlier can be
seen and it cannot be seen again behind it. -/
theorem split?_append_of_hidden {left right : List Char} {operator : Operator}
    (leftNonempty : left ≠ []) (rightNonempty : right ≠ []) (level : netDepth left = 0)
    (hidden : Hidden operator.symbol right)
    (noneBefore : ∀ earlier, searchRank earlier < searchRank operator →
      Hidden earlier.symbol (left ++ operator.symbol :: right)) :
    split? (left ++ operator.symbol :: right) = some ⟨left, operator, right⟩ := by
  rw [split?_eq_some_iff]
  refine ⟨fun earlier lower => lastPlace?_eq_none_of_hidden (noneBefore earlier lower),
    left.length, ?_, ?_⟩
  · exact lastPlace?_append_of_hidden leftNonempty rightNonempty level hidden
  · exact splitAt_append left right _ operator

end CalcShell.Expression
