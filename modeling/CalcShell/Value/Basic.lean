import CalcShell.Host.Convert
import CalcShell.Number.Wrap

/-!
# Shell values

A shell value is a host value with a tag, and a custom name where the tag is
`Tag.custom`.  The constructors of this module choose tag and content together:
an integer is wrapped to the width of its tag, and a double is rounded to single
precision where the tag asks for it.
-/

namespace CalcShell

open Number Text

/-- A host value with its tag. -/
structure Value where
  raw : Host
  tag : Tag
  customName : Option String := none

instance : Inhabited Value := ⟨⟨.null, .null, none⟩⟩

def integerWidth : Nat := 32

def longWidth : Nat := 64

/-- The four kinds of number, the narrowest first. -/
inductive NumericKind where
  | integer
  | long
  | float
  | double
  deriving DecidableEq, Repr

namespace NumericKind

/-- The place of a kind in the order of widening. -/
def rank : NumericKind → Nat
  | .integer => 0
  | .long => 1
  | .float => 2
  | .double => 3

def wider (left right : NumericKind) : NumericKind :=
  if right.rank ≤ left.rank then left else right

def tag : NumericKind → Tag
  | .integer => .integer
  | .long => .long
  | .float => .float
  | .double => .double

end NumericKind

/-- The kind of number that a tag stands for, if it stands for one. -/
def Tag.numericKind? : Tag → Option NumericKind
  | .integer => some .integer
  | .long => some .long
  | .float => some .float
  | .double => some .double
  | _ => none

namespace Value

def null : Value :=
  ⟨.null, .null, none⟩

/-- The integer with the same low bits. -/
def integer (value : Int) : Value :=
  ⟨.int (wrap integerWidth value), .integer, none⟩

/-- The long integer with the same low bits. -/
def long (value : Int) : Value :=
  ⟨.int (wrap longWidth value), .long, none⟩

def double (value : Double) : Value :=
  ⟨.float value, .double, none⟩

/-- The nearest number of single precision. -/
def single (value : Double) : Value :=
  ⟨.float value.toSingle, .float, none⟩

def boolean (value : Bool) : Value :=
  ⟨.bool value, .boolean, none⟩

def string (value : String) : Value :=
  ⟨.text value, .string, none⟩

/-- The integer that a host value is; a truth value is none. -/
def requireInt : Host → Except Fault Int
  | .int value => .ok value
  | other => .error (.integerExpected other.className)

def ofInt (raw : Host) : Except Fault Value :=
  return integer (← requireInt raw)

def ofLong (raw : Host) : Except Fault Value :=
  return long (← requireInt raw)

/-- A number of double precision made of a host value. -/
def ofDouble (raw : Host) : Except Fault Value :=
  return double (← raw.toDouble)

/-- A number of single precision made of a host value. -/
def ofFloat (raw : Host) : Except Fault Value :=
  return single (← raw.toDouble)

def ofBoolean (raw : Host) : Value :=
  boolean raw.truth

def ofString : Host → Except Fault Value
  | .text value => .ok (string value)
  | other => .error (.textExpected other.className)

def ofList (raw : Host) : Except Fault Value :=
  return ⟨.list (← raw.members), .list, none⟩

def ofMap (raw : Host) : Except Fault Value :=
  return ⟨← raw.toMap, .map, none⟩

/-- The custom name that a host value is: a text that is not blank. -/
def requireTypeName : Host → Except Fault String
  | .text name => if isBlankText name then .error .blankTypeName else .ok name
  | _ => .error .blankTypeName

def ofType (raw name : Host) : Except Fault Value :=
  return ⟨raw, .custom, some (← requireTypeName name)⟩

def toHost (value : Value) : Host :=
  .tagged value.raw value.tag value.customName

/-- The value that a host value carries, if it carries one. -/
def ofHost? : Host → Option Value
  | .tagged raw tag customName => some ⟨raw, tag, customName⟩
  | _ => none

/-- The kind of number that a value is, if it is one. -/
def numericKind? (value : Value) : Option NumericKind :=
  value.tag.numericKind?

def isNumeric (value : Value) : Bool :=
  value.numericKind?.isSome

/-- A list, an array or another collection. -/
def isCollection (value : Value) : Bool :=
  value.tag == .list || value.tag == .collection || value.tag == .array

/-- The name of the value's type: its custom name, or else its tag. -/
def typeName? (value : Value) : Option String :=
  if value.tag = .custom then value.customName else some value.tag.text

/-- The name of the value's type as messages show it. -/
def typeName (value : Value) : String :=
  value.typeName?.getD "None"

/-- Equality of values: of tag, custom name and content. -/
def same (left right : Value) : Bool :=
  left.toHost.same right.toHost

/-- What values that are equal share, and the only thing that a hash is made of. -/
def hashKey (value : Value) : Tag × Option String :=
  (value.tag, value.customName)

end Value

/-- The name of the type of a value that may be missing. -/
def typeNameOf : Option Value → String
  | some value => value.typeName
  | none => "null"

end CalcShell
