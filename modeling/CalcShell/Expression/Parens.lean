/-!
# Parentheses

The depth of a place in a text is the number of parentheses that have been
opened before it and not closed again; it can drop below zero.  A text is
balanced when its depth never does so and ends at zero.
-/

namespace CalcShell.Expression

/-- The depth behind a character, given the depth before it. -/
def depthAfter (depth : Int) (char : Char) : Int :=
  if char = '(' then depth + 1
  else if char = ')' then depth - 1
  else depth

/-- The depth behind each character of a text, from a given depth on. -/
def depthsFrom (depth : Int) : List Char → List Int
  | [] => []
  | char :: rest => depthAfter depth char :: depthsFrom (depthAfter depth char) rest

def depths (text : List Char) : List Int :=
  depthsFrom 0 text

/-- Whether a text closes the parentheses that are open before it, and no others. -/
def closesFrom : Nat → List Char → Bool
  | depth, [] => depth == 0
  | depth, char :: rest =>
    if char = '(' then closesFrom (depth + 1) rest
    else if char = ')' then
      match depth with
      | 0 => false
      | below + 1 => closesFrom below rest
    else closesFrom depth rest

def isBalanced (text : List Char) : Bool :=
  closesFrom 0 text

/-- What stands between a parenthesis at the start of a text and one at its end, if that
is balanced by itself. -/
def innerText? : List Char → Option (List Char)
  | '(' :: rest =>
    if rest.getLast? = some ')' ∧ isBalanced rest.dropLast then some rest.dropLast else none
  | _ => none

theorem length_of_innerText? {text inner : List Char} (found : innerText? text = some inner) :
    inner.length < text.length := by
  unfold innerText? at found
  split at found
  · split at found
    · cases found
      simp only [List.length_dropLast, List.length_cons]
      omega
    · cases found
  · cases found

/-- A text without the pairs of parentheses that stand around the whole of it.  The two
ends of a text such as `(a)+(b)` are no pair. -/
def stripParens (text : List Char) : List Char :=
  match _found : innerText? text with
  | some inner => stripParens inner
  | none => text
termination_by text.length
decreasing_by exact length_of_innerText? _found

end CalcShell.Expression
