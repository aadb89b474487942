import CalcShell.Fault
import CalcShell.Host.Basic
import CalcShell.Number.DecimalText

/-!
# The text of host values

Host values are written in two ways.  `Host.render` is the text that the shell
prints.  `Host.shown` is the form in which messages show a value that was not
expected; there a text stands between quotes.  Both fail only on integers with
more digits than the limit, and on a value that claims to be of single precision
and wraps no number.
-/

namespace CalcShell

open Number Text

/-- The text of an integer, if it has no more digits than the limit. -/
def writeInt (value : Int) : Except Fault String :=
  if 10 ^ digitLimit ≤ value.natAbs then .error .integerTooLong else .ok (intText value)

def commaSeparated (texts : List String) : String :=
  ", ".intercalate texts

def bracketed (texts : List String) : String :=
  "[" ++ commaSeparated texts ++ "]"

def braced (texts : List String) : String :=
  "\x7b" ++ commaSeparated texts ++ "\x7d"

def doubleString (value : Double) : String :=
  String.ofList (doubleText value)

def ArrayElements.texts : ArrayElements → List String
  | .words elements => elements.map fun element => intText element.toInt
  | .bytes elements => elements.map fun element => toString element.toNat
  | .singles elements => elements.map fun element => doubleString element.value
  | .doubles elements => elements.map doubleString

def ArrayElements.letter : ArrayElements → Char
  | .words _ => 'i'
  | .bytes _ => 'B'
  | .singles _ => 'f'
  | .doubles _ => 'd'

/-- A range as it is written; a step of one is left out. -/
def rangeText (start stop step : Int) : Except Fault String := do
  let bounds := s!"{← writeInt start}, {← writeInt stop}"
  if step = 1 then return s!"range({bounds})"
  else return s!"range({bounds}, {← writeInt step})"

namespace Host

/-- The text of an integer that claims to be of single precision, given its double.  An
integer that single precision does not hold is written in full. -/
def singleTextOf (value : Int) : Option Double → Except Fault String
  | none => .error .integerTooLarge
  | some double =>
    let isSame (candidate : Double) : Bool :=
      candidate.quantity? == some (Quantity.ofInt value)
    match singleText? isSame double with
    | some written => .ok (String.ofList written)
    | none => .ok (intText value ++ ".0")

def singleIntText (value : Int) : Except Fault String :=
  singleTextOf value (Double.ofInt? value)

/-- The text of a host value that claims to be of single precision. -/
def singleString : Host → Except Fault String
  | .float value => .ok (String.ofList (singleText value))
  | .int value => singleIntText value
  | .bool value => singleIntText (boolInt value)
  | other => .error (.realExpected other.qualifiedClassName)

mutual

/-- The text that the shell prints for a host value. -/
def render : Host → Except Fault String
  | .null => .ok "null"
  | .bool value => .ok (if value then "true" else "false")
  | .int value => writeInt value
  | .float value => .ok (doubleString value)
  | .text value => .ok value
  | .list items | .tuple items | .set _ items => return bracketed (← renderItems items)
  | .map entries => return braced (← renderEntries entries)
  | .bytes _ content => .ok (bracketed (content.map fun byte => toString byte.toNat))
  | .array elements => .ok (bracketed elements.texts)
  | .range start stop step => rangeText start stop step
  | .object _ written => .ok written
  | .tagged raw tag _ =>
    match tag with
    | .null => .ok "null"
    | .float => raw.singleString
    | _ => raw.render

/-- The texts that the shell prints for the members of a container. -/
def renderItems : List Host → Except Fault (List String)
  | [] => .ok []
  | item :: rest => return (← item.render) :: (← renderItems rest)

/-- The texts that the shell prints for the entries of a map. -/
def renderEntries : List (Host × Host) → Except Fault (List String)
  | [] => .ok []
  | (key, value) :: rest =>
    return s!"{← key.render}={← value.render}" :: (← renderEntries rest)

end

/-- The members of a set as a message shows them. -/
def shownSet (frozen : Bool) (members : List String) : String :=
  match frozen, members with
  | false, [] => "set()"
  | false, members => braced members
  | true, [] => "frozenset()"
  | true, members => s!"frozenset({braced members})"

/-- A tuple as a message shows it: a comma marks one with a single member. -/
def shownTuple : List String → String
  | [item] => s!"({item},)"
  | items => s!"({commaSeparated items})"

/-- A row of bytes as a message shows it.  In a resizable one the single quote is escaped
whichever quotes stand around it. -/
def shownBytes (resizable : Bool) (content : List UInt8) : String :=
  if resizable then
    "bytearray(" ++ quotedBytes (fun _ char => char == '\'' || char == '\\') content ++ ")"
  else
    quotedBytes (fun quote char => char == quote || char == '\\') content

def shownArray (elements : ArrayElements) : String :=
  match elements.texts with
  | [] => s!"array('{elements.letter}')"
  | texts => s!"array('{elements.letter}', {bracketed texts})"

/-- A tag as a message shows it: its name in capitals, and its text. -/
def shownTag (tag : Tag) : String :=
  s!"<Tag.{tag.text.toUpper}: {quoted tag.text}>"

/-- A shell value as a message shows it, with all that it holds. -/
def shownValue (raw : String) (tag : Tag) (customName : Option String) : String :=
  let name := (customName.map quoted).getD "None"
  s!"Value(raw={raw}, tag={shownTag tag}, custom_name={name})"

mutual

def shown : Host → Except Fault String
  | .null => .ok "None"
  | .bool value => .ok (if value then "True" else "False")
  | .int value => writeInt value
  | .float value => .ok (doubleString value)
  | .text value => .ok (quoted value)
  | .list items => return bracketed (← shownItems items)
  | .tuple items => return shownTuple (← shownItems items)
  | .set frozen members => return shownSet frozen (← shownItems members)
  | .map entries => return braced (← shownEntries entries)
  | .bytes resizable content => .ok (shownBytes resizable content)
  | .array elements => .ok (shownArray elements)
  | .range start stop step => rangeText start stop step
  | .object _ written => .ok written
  | .tagged raw tag customName => return shownValue (← raw.shown) tag customName

/-- The forms in which messages show the members of a container. -/
def shownItems : List Host → Except Fault (List String)
  | [] => .ok []
  | item :: rest => return (← item.shown) :: (← shownItems rest)

/-- The forms in which messages show the entries of a map. -/
def shownEntries : List (Host × Host) → Except Fault (List String)
  | [] => .ok []
  | (key, value) :: rest =>
    return s!"{← key.shown}: {← value.shown}" :: (← shownEntries rest)

end

end Host

end CalcShell
