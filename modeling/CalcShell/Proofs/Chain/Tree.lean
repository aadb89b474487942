import CalcShell.Expression.Evaluate
import CalcShell.Proofs.Chain.Basic

/-!
# Trees of chains

A chain is turned into a tree level by level: it is cut at every operator of the
first level, the pieces are turned into trees by the remaining levels, and these
trees are combined from left to right.  A row of levels therefore fixes how a
chain is to be read.
-/

namespace CalcShell

open Expression

/-- A first item, and more items with an operator in front of each. -/
structure Row (α : Type) where
  first : α
  rest : List (Operator × α)

namespace Row

variable {α β : Type} {operator : Operator}

def operators (row : Row α) : List Operator :=
  row.rest.map Prod.fst

def map (convert : α → β) (row : Row α) : Row β :=
  ⟨convert row.first, row.rest.map fun link => (link.1, convert link.2)⟩

def foldLeft (combine : Operator → α → α → α) (row : Row α) : α :=
  row.rest.foldl (fun left link => combine link.1 left link.2) row.first

def joined (left : Row α) (operator : Operator) (right : Row α) : Row α :=
  ⟨left.first, left.rest ++ (operator, right.first) :: right.rest⟩

def cutFrom (level : List Operator) (first : α) : List (Operator × α) → Row (Row α)
  | [] => ⟨⟨first, []⟩, []⟩
  | (operator, item) :: rest =>
    let pieces := cutFrom level item rest
    if operator ∈ level then ⟨⟨first, []⟩, (operator, pieces.first) :: pieces.rest⟩
    else ⟨⟨first, (operator, item) :: pieces.first.rest⟩, pieces.rest⟩

/-- Cuts a row at every operator of a level. -/
def cut (level : List Operator) (row : Row α) : Row (Row α) :=
  cutFrom level row.first row.rest

@[simp]
theorem operators_joined (left right : Row α) (operator : Operator) :
    (left.joined operator right).operators =
      left.operators ++ operator :: right.operators := by
  simp [joined, operators]

theorem cutFrom_of_absent {level : List Operator} {first : α}
    {rest : List (Operator × α)} (absent : ∀ link ∈ rest, link.1 ∉ level) :
    cutFrom level first rest = ⟨⟨first, rest⟩, []⟩ := by
  induction rest generalizing first with
  | nil => rfl
  | cons link rest inductionHypothesis =>
      have tailAbsent : ∀ other ∈ rest, other.1 ∉ level := by
        intro other member
        exact absent other (List.mem_cons_of_mem link member)
      simp only [cutFrom, inductionHypothesis tailAbsent, absent link (List.mem_cons_self ..),
        if_false]

theorem cut_of_absent {level : List Operator} {row : Row α}
    (absent : ∀ operator ∈ row.operators, operator ∉ level) :
    row.cut level = ⟨row, []⟩ :=
  cutFrom_of_absent fun _ member => absent _ (List.mem_map_of_mem member)

theorem cutFrom_append {level : List Operator} {first item : α}
    {left right : List (Operator × α)}
    (present : operator ∈ level) (absent : ∀ link ∈ right, link.1 ∉ level) :
    cutFrom level first (left ++ (operator, item) :: right) =
      ⟨(cutFrom level first left).first,
        (cutFrom level first left).rest ++ [(operator, ⟨item, right⟩)]⟩ := by
  induction left generalizing first with
  | nil =>
      simp only [List.nil_append, cutFrom, present, if_true, cutFrom_of_absent absent]
  | cons link rest inductionHypothesis =>
      simp only [List.cons_append, cutFrom, inductionHypothesis]
      split <;> rfl

/-- The last cut of a row is made at the last operator of the level. -/
theorem cut_joined {level : List Operator} {left right : Row α}
    (present : operator ∈ level) (absent : ∀ other ∈ right.operators, other ∉ level) :
    (left.joined operator right).cut level =
      ⟨(left.cut level).first, (left.cut level).rest ++ [(operator, right)]⟩ :=
  cutFrom_append present fun _ member => absent _ (List.mem_map_of_mem member)

end Row

/-- What a chain says is to be done. -/
inductive Tree where
  | leaf (operand : Leaf)
  | apply (operator : Operator) (left right : Tree)

def Tree.height : Tree → Nat
  | .leaf _ => 1
  | .apply _ left right => max left.height right.height + 1

theorem Tree.height_pos (tree : Tree) : 1 ≤ tree.height := by
  cases tree with
  | leaf => exact Nat.le_refl 1
  | apply => exact Nat.le_add_left 1 _

/-- The tree of a row of trees that is read by the given levels. -/
def Row.tree : List (List Operator) → Row Tree → Tree
  | [], row => row.first
  | level :: levels, row => ((row.cut level).map (tree levels)).foldLeft Tree.apply

mutual

def Operand.tree (levels : List (List Operator)) : Operand → Tree
  | .atom leaf => .leaf leaf
  | .group inner => (inner.row levels).tree levels

def Chain.row (levels : List (List Operator)) : Chain → Row Tree
  | .single operand => ⟨operand.tree levels, []⟩
  | .link before _ operator _ last =>
    ⟨(before.row levels).first, (before.row levels).rest ++ [(operator, last.tree levels)]⟩

end

/-- The tree of a chain that is read by the given levels. -/
def Chain.tree (levels : List (List Operator)) (chain : Chain) : Tree :=
  (chain.row levels).tree levels

namespace Row

variable {row left right : Row Tree} {operator : Operator}

theorem tree_of_absent {level : List Operator} (levels : List (List Operator))
    (absent : ∀ operator ∈ row.operators, operator ∉ level) :
    row.tree (level :: levels) = row.tree levels := by
  rw [tree, cut_of_absent absent]
  rfl

theorem tree_of_all_absent {above : List (List Operator)} (levels : List (List Operator))
    (absent : ∀ level ∈ above, ∀ operator ∈ row.operators, operator ∉ level) :
    row.tree (above ++ levels) = row.tree levels := by
  induction above with
  | nil => rfl
  | cons level above inductionHypothesis =>
      rw [List.cons_append, tree_of_absent _ (absent level (by simp))]
      exact inductionHypothesis fun other member => absent other (by simp [member])

theorem tree_of_no_operators (levels : List (List Operator)) (alone : row.operators = []) :
    row.tree levels = row.first := by
  have absent : ∀ level ∈ levels, ∀ operator ∈ row.operators, operator ∉ level := by
    simp [alone]
  simpa [tree] using tree_of_all_absent [] absent

/-- The last operator of the first level that has one is applied last. -/
theorem tree_joined {above below : List (List Operator)} {level : List Operator}
    (absentAbove : ∀ higher ∈ above,
      ∀ other ∈ (left.joined operator right).operators, other ∉ higher)
    (present : operator ∈ level) (absent : ∀ other ∈ right.operators, other ∉ level) :
    (left.joined operator right).tree (above ++ level :: below) =
      .apply operator (left.tree (above ++ level :: below))
        (right.tree (above ++ level :: below)) := by
  have absentLeft : ∀ higher ∈ above, ∀ other ∈ left.operators, other ∉ higher := by
    intro higher inAbove other member
    exact absentAbove higher inAbove other (by simp [member])
  have absentRight : ∀ higher ∈ above, ∀ other ∈ right.operators, other ∉ higher := by
    intro higher inAbove other member
    exact absentAbove higher inAbove other (by simp [member])
  rw [tree_of_all_absent _ absentAbove, tree_of_all_absent _ absentLeft,
    tree_of_all_absent _ absentRight, tree_of_absent _ absent]
  rw [tree, cut_joined present absent, tree]
  simp [map, foldLeft]

end Row

theorem Chain.operators_row (levels : List (List Operator)) (chain : Chain) :
    (chain.row levels).operators = chain.operators := by
  induction chain using inductionOnLinks with
  | single operand => rfl
  | link before leftGap operator rightGap last inductionHypothesis =>
      simp only [row, Row.operators, List.map_append, operators]
      rw [← inductionHypothesis]
      rfl

theorem Chain.row_joined (levels : List (List Operator)) (left right : Chain)
    (leftGap rightGap : Gap) (operator : Operator) :
    (joined left leftGap operator rightGap right).row levels =
      (left.row levels).joined operator (right.row levels) := by
  induction right using inductionOnLinks with
  | single operand => rfl
  | link before leftInner inner rightInner last inductionHypothesis =>
      simp only [joined, row, inductionHypothesis]
      simp [Row.joined]

theorem Chain.tree_joined {left right : Chain} {leftGap rightGap : Gap} {operator : Operator}
    {above below : List (List Operator)} {level : List Operator}
    (absentAbove : ∀ higher ∈ above,
      ∀ other ∈ (joined left leftGap operator rightGap right).operators, other ∉ higher)
    (present : operator ∈ level) (absent : ∀ other ∈ right.operators, other ∉ level) :
    (joined left leftGap operator rightGap right).tree (above ++ level :: below) =
      .apply operator (left.tree (above ++ level :: below))
        (right.tree (above ++ level :: below)) := by
  rw [tree, row_joined]
  apply Row.tree_joined _ present
  · rw [operators_row]
    exact absent
  · rw [← row_joined _ _ _ leftGap rightGap, operators_row]
    exact absentAbove

theorem Chain.tree_joined_first {left right : Chain} {leftGap rightGap : Gap}
    {operator : Operator} {below : List (List Operator)} {level : List Operator}
    (present : operator ∈ level) (absent : ∀ other ∈ right.operators, other ∉ level) :
    (joined left leftGap operator rightGap right).tree (level :: below) =
      .apply operator (left.tree (level :: below)) (right.tree (level :: below)) := by
  have none : ∀ higher ∈ ([] : List (List Operator)),
      ∀ other ∈ (joined left leftGap operator rightGap right).operators, other ∉ higher := by
    simp
  exact tree_joined none present absent

@[simp]
theorem Chain.tree_single_atom (levels : List (List Operator)) (leaf : Leaf) :
    (single (.atom leaf)).tree levels = .leaf leaf :=
  Row.tree_of_no_operators levels rfl

@[simp]
theorem Chain.tree_single_group (levels : List (List Operator)) (inner : Chain) :
    (single (.group inner)).tree levels = inner.tree levels :=
  Row.tree_of_no_operators levels rfl

/-! ## What a tree comes to -/

namespace Leaf

variable (environment : Environment)

def outcome : Leaf → Outcome
  | .integer spelling => .ok (Value.integer (Number.digitsValue spelling.digits))
  | .decimal spelling => .ok (Value.double spelling.numeral.toDouble)
  | .name spelling => (environment.lookup (String.ofList spelling.text)).outcome
  | .enclosed inside => .ok inside.value

def lookups : Leaf → List String
  | .name spelling => [String.ofList spelling.text]
  | _ => []

end Leaf

namespace Tree

variable (environment : Environment)

/-- The value of a tree, the left operand before the right one, or the first error. -/
def outcome : Tree → Outcome
  | .leaf operand => operand.outcome environment
  | .apply operator left right => do
    operator.apply (← left.outcome) (← right.outcome)

/-- The names that are looked up on the way, in order; none behind an error. -/
def lookups : Tree → List String
  | .leaf operand => operand.lookups
  | .apply _ left right =>
    left.lookups ++ if (left.outcome environment).isOk then right.lookups else []

end Tree

end CalcShell
