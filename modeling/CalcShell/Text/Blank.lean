/-!
# Blank characters

Two notions of blank space are in use and they differ.  Lines, names and
subexpressions are trimmed of every white space character of the Unicode
property `White_Space`, together with the four ASCII separators `U+001C` to
`U+001F`.  Between the tokens of a literal or a statement only four characters
are skipped: the space, the tab, the line feed and the carriage return.
-/

namespace CalcShell.Text

/-- A white space character: these are removed from both ends by `trim`. -/
def isBlank (char : Char) : Bool :=
  let code := char.toNat
  (0x09 ≤ code && code ≤ 0x0D) || (0x1C ≤ code && code ≤ 0x20) ||
    code == 0x85 || code == 0xA0 || code == 0x1680 ||
    (0x2000 ≤ code && code ≤ 0x200A) || code == 0x2028 || code == 0x2029 ||
    code == 0x202F || code == 0x205F || code == 0x3000

/-- A character that may stand between two tokens. -/
def isSpacing (char : Char) : Bool :=
  char == ' ' || char == '\t' || char == '\n' || char == '\r'

/-- Every character that may stand between tokens is white space. -/
theorem isBlank_of_isSpacing {char : Char} (spacing : isSpacing char = true) :
    isBlank char = true := by
  simp only [isSpacing, Bool.or_eq_true, beq_iff_eq] at spacing
  rcases spacing with ((rfl | rfl) | rfl) | rfl <;> decide

/-- The text without the longest run of `drop` characters at its end. -/
def dropEndWhile (drop : Char → Bool) (text : List Char) : List Char :=
  (text.reverse.dropWhile drop).reverse

/-- The text without the characters of a class at both of its ends. -/
def trimOf (drop : Char → Bool) (text : List Char) : List Char :=
  dropEndWhile drop (text.dropWhile drop)

/-- The text without white space at both of its ends. -/
def trim (text : List Char) : List Char :=
  trimOf isBlank text

def trimmed (text : String) : String :=
  String.ofList (trim text.toList)

/-- A text of white space only; the empty text is one. -/
def isBlankText (text : String) : Bool :=
  text.toList.all isBlank

end CalcShell.Text
