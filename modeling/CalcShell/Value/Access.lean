import CalcShell.Host.Arithmetic
import CalcShell.Value.Basic

/-!
# Access to values

A value can be asked for an integer, a double, a truth value, a text, a list or
a map.  Numbers narrow: integers wrap, while doubles are cut down toward zero
and then into the range.  Texts count as true when they spell one of a few
words.  Every value has a text except the null value.
-/

namespace CalcShell

open Number Text

/-- The words that count as true. -/
def truthWords : List String :=
  ["true", "1", "yes", "on"]

/-- Whether a text spells one of the words that count as true, white space and case left
aside.  No other script has a capital of one of their letters. -/
def spellsTruth (text : String) : Bool :=
  truthWords.contains (String.ofList ((trim text.toList).map Char.toLower))

namespace Host

/-- The truth of what a text value stores. -/
def textTruth : Host → Except Fault Bool
  | .text value => .ok (spellsTruth value)
  | .bytes resizable _ =>
    if resizable then .error (.unhashable HostClass.byteArray.qualifiedLabel) else .ok false
  | other => .error (.trimMissing other.qualifiedClassName)

end Host

namespace Value

/-- The failure to turn a value into a form that its type does not have. -/
def castFault (value : Value) (target : String) : Fault :=
  .castFailed value.typeName target

/-- An integer of a width: stored integers wrap, stored doubles are cut down. -/
def narrowed (value : Value) (width : Nat) (target : String) : Except Fault Int :=
  match value.numericKind? with
  | some .integer | some .long => value.raw.wrapped width
  | some .float | some .double => value.raw.truncated (least width) (greatest width)
  | none => .error (value.castFault target)

def asInt (value : Value) : Except Fault Int :=
  value.narrowed integerWidth "int"

def asLong (value : Value) : Except Fault Int :=
  value.narrowed longWidth "long"

def asDouble (value : Value) : Except Fault Double :=
  if value.isNumeric then value.raw.toDouble else .error (value.castFault "double")

def asFloat (value : Value) : Except Fault Double :=
  if value.isNumeric then Double.toSingle <$> value.raw.toDouble
  else .error (value.castFault "float")

/-- The value as a truth value.  A value that is tagged as one gives what it stores. -/
def asBoolean (value : Value) : Except Fault Host :=
  match value.tag with
  | .boolean => .ok value.raw
  | .null => .ok (.bool false)
  | .integer | .long | .float | .double => return .bool !(← value.raw.toDouble).isZero
  | .string => return .bool (← value.raw.textTruth)
  | _ => .error (value.castFault "boolean")

/-- The text of the value; the null value has none. -/
def asString (value : Value) : Except Fault (Option String) :=
  match value.tag with
  | .null => .ok none
  | .float => some <$> value.raw.singleString
  | _ => some <$> value.raw.render

def asList (value : Value) : Except Fault (List Host) :=
  match value.tag with
  | .list => value.raw.members
  | _ => .error (value.castFault "list")

def asMap (value : Value) : Except Fault Host :=
  match value.tag with
  | .map => value.raw.toMap
  | _ => .error (value.castFault "map")

/-- A description of the value with its text and its type. -/
def describe (value : Value) : Except Fault String :=
  return "Value\x7bvalue=" ++ (← value.toHost.render) ++ ", type=" ++ value.typeName ++ "\x7d"

end Value

end CalcShell
