import CalcShell.Number.Double

/-!
# Host values

The host hands the shell values of its own: numbers, texts, containers and opaque
objects.  A shell value wraps one of them together with a tag, and may itself be
handed around as a host value.

Host values are taken by their content.  Left out are classes derived from the ones
below, mappings and containers of further kinds, texts with unpaired surrogates, and
whatever depends on which object a value is rather than on what it holds.
-/

namespace CalcShell

open Number

/-- What a shell value claims to be. -/
inductive Tag where
  | null
  | integer
  | long
  | double
  | float
  | boolean
  | string
  | list
  | map
  | collection
  | array
  | object
  | custom
  deriving DecidableEq, Repr

def Tag.text : Tag → String
  | .null => "null"
  | .integer => "integer"
  | .long => "long"
  | .double => "double"
  | .float => "float"
  | .boolean => "boolean"
  | .string => "string"
  | .list => "list"
  | .map => "map"
  | .collection => "collection"
  | .array => "array"
  | .object => "object"
  | .custom => "custom"

def Tag.all : List Tag :=
  [.null, .integer, .long, .double, .float, .boolean, .string, .list, .map, .collection,
    .array, .object, .custom]

def Tag.ofText? (text : String) : Option Tag :=
  all.find? fun tag => tag.text == text

/-- The members of an array, all stored in one machine format.  The formats are those of signed
words, of bytes and of numbers of single and of double precision; arrays of characters, of
unsigned words and of words that are shorter or longer are left out. -/
inductive ArrayElements where
  | words (elements : List Int32)
  | bytes (elements : List UInt8)
  | singles (elements : List Single)
  | doubles (elements : List Double)
  deriving DecidableEq

inductive Host where
  | null
  | bool (value : Bool)
  | int (value : Int)
  | float (value : Double)
  | text (value : String)
  | list (items : List Host)
  | tuple (items : List Host)
  /-- A set without repetitions; a frozen one never changes. -/
  | set (frozen : Bool) (members : List Host)
  /-- Keys with their values, in the order in which the keys were first bound. -/
  | map (entries : List (Host × Host))
  /-- A row of bytes, fixed or resizable. -/
  | bytes (resizable : Bool) (content : List UInt8)
  | array (elements : ArrayElements)
  /-- The integers from `start` on, by `step`, before `stop` is reached. -/
  | range (start stop step : Int)
  /-- An object of which only its class and its text are known. -/
  | object (className text : String)
  /-- A shell value, handed around as a host value. -/
  | tagged (raw : Host) (tag : Tag) (customName : Option String)

instance : Inhabited Host := ⟨.null⟩

inductive HostClass where
  | null
  | bool
  | int
  | float
  | text
  | list
  | tuple
  | set
  | frozenSet
  | map
  | bytes
  | byteArray
  | array
  | range
  | value
  | object (name : String)
  deriving DecidableEq, Repr

namespace HostClass

def label : HostClass → String
  | .null => "NoneType"
  | .bool => "bool"
  | .int => "int"
  | .float => "float"
  | .text => "str"
  | .list => "list"
  | .tuple => "tuple"
  | .set => "set"
  | .frozenSet => "frozenset"
  | .map => "dict"
  | .bytes => "bytes"
  | .byteArray => "bytearray"
  | .array => "array"
  | .range => "range"
  | .value => "Value"
  | .object name => name

/-- The name of a class together with the library it comes from, if it is not built in. -/
def qualifiedLabel : HostClass → String
  | .array => "array.array"
  | other => other.label

def ofLabel (label : String) : HostClass :=
  let builtIn : List HostClass :=
    [.null, .bool, .int, .float, .text, .list, .tuple, .set, .frozenSet, .map, .bytes,
      .byteArray, .array, .range, .value]
  (builtIn.find? fun candidate => candidate.label == label).getD (.object label)

end HostClass

namespace Host

def cls : Host → HostClass
  | .null => .null
  | .bool _ => .bool
  | .int _ => .int
  | .float _ => .float
  | .text _ => .text
  | .list _ => .list
  | .tuple _ => .tuple
  | .set frozen _ => if frozen then .frozenSet else .set
  | .map _ => .map
  | .bytes resizable _ => if resizable then .byteArray else .bytes
  | .array _ => .array
  | .range .. => .range
  | .object className _ => .object className
  | .tagged .. => .value

def className (host : Host) : String :=
  host.cls.label

/-- The qualified name of the class of a host value. -/
def qualifiedClassName (host : Host) : String :=
  host.cls.qualifiedLabel

end Host

def boolInt (value : Bool) : Int :=
  if value then 1 else 0

/-- The number of integers from `start` on, by `step`, before `stop` is reached. -/
def rangeLength (start stop step : Int) : Nat :=
  if 0 < step then ((stop - start + step - 1) / step).toNat
  else if step < 0 then ((start - stop - step - 1) / -step).toNat
  else 0

/-- The integers from `start` on, by `step`, before `stop` is reached. -/
def rangeMembers (start stop step : Int) : List Int :=
  (List.range (rangeLength start stop step)).map fun (index : Nat) => start + index * step

end CalcShell
