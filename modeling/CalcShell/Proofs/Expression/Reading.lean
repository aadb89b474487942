import CalcShell.Expression.Evaluate
import CalcShell.Proofs.Expression.Layers
import CalcShell.Proofs.Text.Trim

/-!
# Reading and evaluating in steps

Reading an expression depends on the trimmed text only, and where that is
balanced and not empty, on the text that is left without the layers around it.
The outcome of an operation is that of its operands in sequence.
-/

namespace CalcShell

open Text

namespace Expression

/-- What is made of a source whose layers of parentheses leave a core. -/
def ofCore (depth : Nat) (source core : List Char) : Expression :=
  match literal? core with
  | .error fault => .refused source (EvalError.ofFault fault)
  | .ok (some value) => .literal source value
  | .ok none =>
    if isName core then .variable source (String.ofList core)
    else
      match split? core with
      | some ⟨left, operator, right⟩ =>
        .binary source (ofText depth left) operator (ofText depth right)
      | none => .refused source (.invalid (String.ofList core))

theorem ofText_succ (depth : Nat) {text : List Char}
    (nonempty : trim text ≠ []) (balanced : isBalanced (trim text) = true) :
    ofText (depth + 1) text = ofCore depth (trim text) (stripParens (trim text)) := by
  rw [ofText]
  simp only [nonempty, balanced, if_false, Bool.not_true, Bool.false_eq_true]
  rfl

theorem ofText_of_tight (depth : Nat) {text : List Char} (tight : Tight text)
    (balanced : isBalanced text = true) :
    ofText (depth + 1) text = ofCore depth text (stripParens text) := by
  have trimmed := tight.trim_eq
  rw [ofText_succ depth (by rw [trimmed]; exact tight.nonempty)
    (by rw [trimmed]; exact balanced), trimmed]

theorem ofText_of_trim_eq_nil (depth : Nat) {text : List Char} (gone : trim text = []) :
    ofText (depth + 1) text = .refused [] .empty := by
  rw [ofText]
  simp [gone]

theorem ofText_of_unbalanced (depth : Nat) {text : List Char} (nonempty : trim text ≠ [])
    (unbalanced : isBalanced (trim text) = false) :
    ofText (depth + 1) text = .refused (trim text) .unbalanced := by
  rw [ofText]
  simp [nonempty, unbalanced]

theorem ofText_congr_trim (depth : Nat) {left right : List Char}
    (same : trim left = trim right) : ofText depth left = ofText depth right := by
  cases depth with
  | zero => rw [ofText, ofText, same]
  | succ depth => rw [ofText, ofText, same]

/-- The same expression as if it had been read from another text. -/
def withSource (source : List Char) : Expression → Expression
  | .literal _ value => .literal source value
  | .variable _ name => .variable source name
  | .binary _ left operator right => .binary source left operator right
  | .refused _ error => .refused source error

theorem withSource_ofCore (depth : Nat) (source other core : List Char) :
    (ofCore depth other core).withSource source = ofCore depth source core := by
  unfold ofCore
  split
  · rfl
  · rfl
  · split
    · rfl
    · split <;> rfl

section Core

variable {depth : Nat} {source core : List Char}

theorem ofCore_error {fault : Fault} (read : literal? core = .error fault) :
    ofCore depth source core = .refused source (EvalError.ofFault fault) := by
  rw [ofCore, read]

theorem ofCore_literal {value : Value} (read : literal? core = .ok (some value)) :
    ofCore depth source core = .literal source value := by
  rw [ofCore, read]

theorem ofCore_name (noLiteral : literal? core = .ok none) (name : isName core = true) :
    ofCore depth source core = .variable source (String.ofList core) := by
  rw [ofCore, noLiteral]
  simp [name]

theorem ofCore_split {split : Split} (noLiteral : literal? core = .ok none)
    (noName : isName core = false) (found : split? core = some split) :
    ofCore depth source core =
      .binary source (ofText depth split.left) split.operator (ofText depth split.right) := by
  rw [ofCore, noLiteral]
  simp [noName, found]

theorem ofCore_invalid (noLiteral : literal? core = .ok none)
    (noName : isName core = false) (noSplit : split? core = none) :
    ofCore depth source core = .refused source (.invalid (String.ofList core)) := by
  rw [ofCore, noLiteral]
  simp [noName, noSplit]

variable (source core) in
/-- What a core is read as depends on the depth only where it is split. -/
theorem ofCore_fixed_or_split :
    (∃ expression, ∀ depth, ofCore depth source core = expression) ∨
      ∃ split : Split, ∀ depth, ofCore depth source core =
        .binary source (ofText depth split.left) split.operator (ofText depth split.right) := by
  cases read : literal? core with
  | error fault => exact Or.inl ⟨_, fun _ => ofCore_error read⟩
  | ok found =>
      cases found with
      | some value => exact Or.inl ⟨_, fun _ => ofCore_literal read⟩
      | none =>
          cases name : isName core with
          | true => exact Or.inl ⟨_, fun _ => ofCore_name read name⟩
          | false =>
              cases parted : split? core with
              | none => exact Or.inl ⟨_, fun _ => ofCore_invalid read name parted⟩
              | some split => exact Or.inr ⟨split, fun _ => ofCore_split read name parted⟩

end Core

/-- Parentheses around a text without white space at its ends change nothing but the source. -/
theorem ofText_enclosed (depth : Nat) {text : List Char} (tight : Tight text)
    (balanced : isBalanced text = true) :
    ofText (depth + 1) ('(' :: (text ++ [')'])) =
      (ofText (depth + 1) text).withSource ('(' :: (text ++ [')'])) := by
  rw [ofText_of_tight depth (Tight.enclosed (by decide) (by decide) text)
      (isBalanced_enclosed balanced), stripParens_enclosed balanced,
    ofText_of_tight depth tight balanced, withSource_ofCore]

/-- A text between a number of pairs of parentheses. -/
def inLayers : Nat → List Char → List Char
  | 0, text => text
  | layers + 1, text => '(' :: (inLayers layers text ++ [')'])

theorem tight_inLayers {text : List Char} (tight : Tight text) (layers : Nat) :
    Tight (inLayers layers text) := by
  cases layers with
  | zero => exact tight
  | succ layers => exact Tight.enclosed (by decide) (by decide) _

theorem isBalanced_inLayers {text : List Char} (balanced : isBalanced text = true)
    (layers : Nat) : isBalanced (inLayers layers text) = true := by
  induction layers with
  | zero => exact balanced
  | succ layers inductionHypothesis => exact isBalanced_enclosed inductionHypothesis

theorem stripParens_inLayers {text : List Char} (balanced : isBalanced text = true)
    (layers : Nat) : stripParens (inLayers layers text) = stripParens text := by
  induction layers with
  | zero => rfl
  | succ layers inductionHypothesis =>
      rw [inLayers, stripParens_enclosed (isBalanced_inLayers balanced layers),
        inductionHypothesis]

/-- Layers of parentheses are taken off in one go, at any depth. -/
theorem ofText_inLayers (limit : Nat) {text : List Char} (tight : Tight text)
    (balanced : isBalanced text = true) (layers : Nat) :
    ofText limit (inLayers layers text) =
      (ofText limit text).withSource (inLayers layers text) := by
  have layeredTight := tight_inLayers tight layers
  cases limit with
  | zero =>
      rw [ofText, ofText, layeredTight.trim_eq]
      rfl
  | succ depth =>
      rw [ofText_of_tight depth layeredTight (isBalanced_inLayers balanced layers),
        ofText_of_tight depth tight balanced, stripParens_inLayers balanced layers,
        withSource_ofCore]

/-! ## Runs -/

section Runs

variable (environment : Environment)

/-- Whether evaluation runs into a part that is nested too deeply. -/
def reachesLimit : Expression → Bool
  | .literal .. | .variable .. => false
  | .refused _ error => error == .tooDeep
  | .binary _ left _ right =>
    left.reachesLimit || ((left.run environment).outcome.isOk && right.reachesLimit)

section WithSource

variable (source : List Char) (expression : Expression)

@[simp]
theorem reachesLimit_withSource :
    (expression.withSource source).reachesLimit environment =
      expression.reachesLimit environment := by
  cases expression <;> rfl

@[simp]
theorem outcome_run_withSource :
    ((expression.withSource source).run environment).outcome =
      (expression.run environment).outcome := by
  cases expression <;> rfl

@[simp]
theorem lookups_run_withSource :
    ((expression.withSource source).run environment).lookups =
      (expression.run environment).lookups := by
  cases expression <;> rfl

end WithSource

theorem outcome_inLayers {text : List Char} (tight : Tight text)
    (balanced : isBalanced text = true) (depth layers : Nat) :
    ((ofText (depth + 1) (inLayers layers text)).run environment).outcome =
      ((ofText (depth + 1) text).run environment).outcome := by
  rw [ofText_inLayers (depth + 1) tight balanced, outcome_run_withSource]

@[simp]
theorem outcome_run_literal (source : List Char) (value : Value) :
    ((literal source value).run environment).outcome = .ok value :=
  rfl

@[simp]
theorem outcome_run_refused (source : List Char) (error : EvalError) :
    ((refused source error).run environment).outcome = .error error :=
  rfl

@[simp]
theorem outcome_run_variable (source : List Char) (name : String) :
    ((Expression.variable source name).run environment).outcome =
      (environment.lookup name).outcome :=
  rfl

@[simp]
theorem lookups_run_variable (source : List Char) (name : String) :
    ((Expression.variable source name).run environment).lookups = [name] := by
  show (environment.lookup name).lookups = [name]
  unfold Environment.lookup
  split <;> rfl

theorem ofText?_singleton_symbol (operator : Operator) :
    Operator.ofText? (String.singleton operator.symbol) = some operator := by
  cases operator <;> decide

@[simp]
theorem outcome_run_binary (source : List Char) (left right : Expression)
    (operator : Operator) :
    ((binary source left operator right).run environment).outcome = (do
      operator.apply (← (left.run environment).outcome) (← (right.run environment).outcome)) := by
  simp only [run, runJoined, Run.after, Run.both, ofText?_singleton_symbol]
  cases leftOutcome : (left.run environment).outcome with
  | error error => simp only [leftOutcome]; rfl
  | ok leftValue =>
      cases rightOutcome : (right.run environment).outcome <;> rfl

theorem outcome_run_binary_eq_ok_iff {source : List Char} {left right : Expression}
    {operator : Operator} {value : Value} :
    ((binary source left operator right).run environment).outcome = .ok value ↔
      ∃ leftValue rightValue, (left.run environment).outcome = .ok leftValue ∧
        (right.run environment).outcome = .ok rightValue ∧
          operator.apply leftValue rightValue = .ok value := by
  rw [outcome_run_binary]
  cases (left.run environment).outcome with
  | error error => simp [bind, Except.bind]
  | ok leftValue =>
      cases (right.run environment).outcome with
      | error error => simp [bind, Except.bind]
      | ok rightValue => simp [bind, Except.bind]

@[simp]
theorem lookups_run_binary (source : List Char) (left right : Expression)
    (operator : Operator) :
    ((binary source left operator right).run environment).lookups =
      (left.run environment).lookups ++
        if (left.run environment).outcome.isOk then (right.run environment).lookups else [] := by
  simp only [run, runJoined, Run.after, Run.both]
  cases leftOutcome : (left.run environment).outcome with
  | error error => simp [Except.isOk, Except.toBool]
  | ok leftValue =>
      cases rightOutcome : (right.run environment).outcome <;> simp [Except.isOk, Except.toBool]

theorem outcome_lookup_eq_ok_iff {name : String} {value : Value} :
    (environment.lookup name).outcome = .ok value ↔ environment name = .ok (some value) := by
  unfold Environment.lookup
  split <;> simp_all

/-- The three ways in which a core has a value. -/
theorem outcome_run_ofCore_eq_ok_iff {depth : Nat} {source core : List Char} {value : Value} :
    ((ofCore depth source core).run environment).outcome = .ok value ↔
      literal? core = .ok (some value) ∨
      (literal? core = .ok none ∧ isName core = true ∧
        environment (String.ofList core) = .ok (some value)) ∨
      (literal? core = .ok none ∧ isName core = false ∧
        ∃ split leftValue rightValue, split? core = some split ∧
          ((ofText depth split.left).run environment).outcome = .ok leftValue ∧
            ((ofText depth split.right).run environment).outcome = .ok rightValue ∧
              split.operator.apply leftValue rightValue = .ok value) := by
  cases read : literal? core with
  | error fault =>
      rw [ofCore_error read]
      simp
  | ok found =>
      cases found with
      | some literalValue =>
          rw [ofCore_literal read]
          simp
      | none =>
          cases name : isName core with
          | true =>
              rw [ofCore_name read name, outcome_run_variable, outcome_lookup_eq_ok_iff]
              simp
          | false =>
              cases found : split? core with
              | none =>
                  rw [ofCore_invalid read name found]
                  simp
              | some split =>
                  rw [ofCore_split read name found, outcome_run_binary_eq_ok_iff]
                  simp

variable {environment}

theorem outcome_ne_ok_of_blank {text : List Char} (blank : trim text = []) (limit : Nat)
    (value : Value) : ((ofText limit text).run environment).outcome ≠ .ok value := by
  intro evaluated
  cases limit with
  | zero =>
      rw [ofText, outcome_run_refused] at evaluated
      cases evaluated
  | succ depth =>
      rw [ofText_of_trim_eq_nil depth blank, outcome_run_refused] at evaluated
      cases evaluated

theorem reachesLimit_binary {source : List Char} {left right : Expression} {operator : Operator}
    (within : (binary source left operator right).reachesLimit environment = false) :
    left.reachesLimit environment = false ∧
      ∀ value, (left.run environment).outcome = .ok value →
        right.reachesLimit environment = false := by
  rw [reachesLimit, Bool.or_eq_false_iff] at within
  refine ⟨within.1, ?_⟩
  intro value evaluated
  simpa [evaluated, Except.isOk, Except.toBool] using within.2

/-- A limit that is not reached may as well be higher. -/
theorem outcome_ofText_of_le {depth limit : Nat} (higher : depth ≤ limit) (text : List Char)
    (within : (ofText depth text).reachesLimit environment = false) :
    ((ofText limit text).run environment).outcome =
      ((ofText depth text).run environment).outcome := by
  induction depth generalizing limit text with
  | zero => cases within
  | succ depth inductionHypothesis =>
      obtain ⟨limit, rfl⟩ := Nat.exists_eq_add_of_le' (Nat.le_of_add_left_le higher)
      have lower : depth ≤ limit := Nat.le_of_add_le_add_right higher
      by_cases nonempty : trim text = []
      · rw [ofText_of_trim_eq_nil _ nonempty, ofText_of_trim_eq_nil _ nonempty]
      · cases balanced : isBalanced (trim text) with
        | false =>
            rw [ofText_of_unbalanced _ nonempty balanced,
              ofText_of_unbalanced _ nonempty balanced]
        | true =>
            rw [ofText_succ depth nonempty balanced] at within ⊢
            rw [ofText_succ limit nonempty balanced]
            rcases ofCore_fixed_or_split (trim text) (stripParens (trim text)) with
              ⟨expression, fixed⟩ | ⟨split, parted⟩
            · rw [fixed, fixed]
            · rw [parted] at within ⊢
              rw [parted]
              obtain ⟨leftWithin, rightWithin⟩ := reachesLimit_binary within
              have leftSame := inductionHypothesis lower split.left leftWithin
              rw [outcome_run_binary, outcome_run_binary, leftSame]
              cases evaluated : ((ofText depth split.left).run environment).outcome with
              | error error => rfl
              | ok value =>
                  have rightSame := inductionHypothesis lower split.right
                    (rightWithin value evaluated)
                  rw [rightSame]

end Runs

end Expression

theorem exists_of_isOk {fault given : Type} {result : Except fault given}
    (isOk : result.isOk = true) : ∃ value, result = .ok value := by
  cases result with
  | ok value => exact ⟨value, rfl⟩
  | error error => cases isOk

section Evaluate

variable (limit : Nat) (environment : Environment) (text : String)

@[simp]
theorem outcome_evaluateWithin :
    (evaluateWithin limit environment text).outcome =
      ((Expression.ofText limit text.toList).run environment).outcome := by
  rw [evaluateWithin, Run.withFailure]
  split <;> rfl

@[simp]
theorem lookups_evaluateWithin :
    (evaluateWithin limit environment text).lookups =
      ((Expression.ofText limit text.toList).run environment).lookups := by
  rw [evaluateWithin, Run.withFailure]
  split <;> rfl

end Evaluate

end CalcShell
