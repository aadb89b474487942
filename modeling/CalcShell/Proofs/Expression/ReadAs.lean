import CalcShell.Proofs.Expression.Pieces
import CalcShell.Proofs.Expression.Reading

/-!
# What a text is read as

Reading follows the text: a core that is a literal or a name is a leaf, and one that is
split becomes an operation on what is read from its two sides.  Every other text is
refused.  The relation has one case for each of these, so that what reading brings about
is shown by induction on it.
-/

namespace CalcShell.Expression

open Text

/-- Why a text is refused that is not nested too deeply. -/
inductive RefusedFor (text : List Char) : EvalError → Prop
  | empty : RefusedFor text .empty
  | unbalanced (unmatched : isBalanced (trim text) = false) : RefusedFor text .unbalanced
  | unreadable {fault : Fault} (read : literal? (coreOf text) = .error fault) :
      RefusedFor text (EvalError.ofFault fault)
  | invalid : RefusedFor text (.invalid (String.ofList (coreOf text)))

/-- A text that may be nested to a depth is read as an expression. -/
inductive ReadAs : Nat → List Char → Expression → Prop
  | tooDeep (text : List Char) : ReadAs 0 text (.refused (trim text) .tooDeep)
  | refused {depth : Nat} {text : List Char} {error : EvalError}
      (reason : RefusedFor text error) : ReadAs (depth + 1) text (.refused (trim text) error)
  | literal {depth : Nat} {text : List Char} {value : Value}
      (read : literal? (coreOf text) = .ok (some value)) :
      ReadAs (depth + 1) text (.literal (trim text) value)
  | name {depth : Nat} {text : List Char} (named : isName (coreOf text) = true) :
      ReadAs (depth + 1) text (.variable (trim text) (String.ofList (coreOf text)))
  | operation {depth : Nat} {text : List Char} {split : Split}
      (found : split? (coreOf text) = some split)
      (leftRead : ReadAs depth split.left (ofText depth split.left))
      (rightRead : ReadAs depth split.right (ofText depth split.right)) :
      ReadAs (depth + 1) text
        (.binary (trim text) (ofText depth split.left) split.operator
          (ofText depth split.right))

theorem readAs_ofText (limit : Nat) (text : List Char) :
    ReadAs limit text (ofText limit text) := by
  induction limit generalizing text with
  | zero =>
      rw [ofText]
      exact ReadAs.tooDeep text
  | succ depth inductionHypothesis =>
      by_cases blank : trim text = []
      · rw [ofText_of_trim_eq_nil depth blank, ← blank]
        exact ReadAs.refused RefusedFor.empty
      cases balanced : isBalanced (trim text) with
      | false =>
          rw [ofText_of_unbalanced depth blank balanced]
          exact ReadAs.refused (RefusedFor.unbalanced balanced)
      | true =>
          rw [ofText_succ depth blank balanced, ← coreOf, ofCore]
          split
          · next fault read => exact ReadAs.refused (RefusedFor.unreadable read)
          · next value read => exact ReadAs.literal read
          · split
            · next named => exact ReadAs.name named
            · split
              · next left operator right found =>
                  exact ReadAs.operation found (inductionHypothesis left)
                    (inductionHypothesis right)
              · exact ReadAs.refused RefusedFor.invalid

end CalcShell.Expression
