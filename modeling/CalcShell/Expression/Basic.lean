import CalcShell.Expression.Literal
import CalcShell.Expression.Split
import CalcShell.Outcome

/-!
# Expressions

An expression is read from a text by taking the text apart: white space at its
ends and pairs of parentheses around the whole are removed, a literal or a name
is recognised, and anything else is split at the operator that is applied last.
What cannot be read is part of the expression, at the place where evaluation
will run into it, and so is the point at which the nesting becomes too deep.
-/

namespace CalcShell

open Expression Text

/-- An expression as it was read.  Each part keeps the text that it was read from, without
white space at its ends. -/
inductive Expression where
  | literal (source : List Char) (value : Value)
  | variable (source : List Char) (name : String)
  | binary (source : List Char) (left : Expression) (operator : Operator)
      (right : Expression)
  /-- A part that nothing can be made of. -/
  | refused (source : List Char) (error : EvalError)

namespace Expression

def source : Expression → List Char
  | .literal source _ | .variable source _ | .binary source _ _ _ | .refused source _ => source

/-- The expression that a text holds; it may be nested at most as deeply as the first
argument says. -/
def ofText : Nat → List Char → Expression
  | 0, text => .refused (trim text) .tooDeep
  | depth + 1, text =>
    let source := trim text
    if source = [] then .refused source .empty
    else if !isBalanced source then .refused source .unbalanced
    else
      let core := stripParens source
      match literal? core with
      | .error fault => .refused source (EvalError.ofFault fault)
      | .ok (some value) => .literal source value
      | .ok none =>
        if isName core then .variable source (String.ofList core)
        else
          match split? core with
          | some ⟨left, operator, right⟩ =>
            .binary source (ofText depth left) operator (ofText depth right)
          | none => .refused source (.invalid (String.ofList core))

end Expression

end CalcShell
