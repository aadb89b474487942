import CalcShell.Host.Equality
import CalcShell.Host.Text
import CalcShell.Number.Numeral
import CalcShell.Number.Wrap
import CalcShell.Text.Blank
import CalcShell.Text.DecimalDigit

/-!
# Conversions of host values

Host values can be turned into a double, into a truth value, into the list of
their members and into a map.  A text that is read as a double may stand between
white space, use the digits of any script and have single underscores between
its digits.
-/

namespace CalcShell

open Number Text

/-- What a reader of numbers sees of a character of a text that is not all ASCII. -/
def numeralChar (char : Char) : Char :=
  if char.toNat < 0x7F then char
  else if isBlank char then ' '
  else
    match decimalDigit? char with
    | some value => Char.ofNat (0x30 + value)
    | none => '?'

def isAsciiBlank (char : Char) : Bool :=
  char == ' ' || (0x09 ≤ char.toNat && char.toNat ≤ 0x0D)

/-- A text without its underscores, each of which has to stand between two digits; `before`
says whether a digit stands in front of the text. -/
def dropUnderscores? (before : Bool) : List Char → Option (List Char)
  | [] => some []
  | '_' :: rest =>
    match rest with
    | next :: _ => if before && next.isDigit then dropUnderscores? false rest else none
    | [] => none
  | char :: rest => (dropUnderscores? char.isDigit rest).map (char :: ·)

/-- The names of the doubles that have no numeral. -/
def namedDouble? (negative : Bool) (name : List Char) : Option Double :=
  match String.ofList (name.map Char.toLower) with
  | "inf" | "infinity" => some (.infinite negative)
  | "nan" => some .nan
  | _ => none

/-- The double that a text without white space and underscores stands for. -/
def bareDouble? (text : List Char) : Option Double :=
  match Numeral.scan text with
  | some (numeral, []) => some numeral.toDouble
  | _ =>
    let (negative, name) := takeSign text
    namedDouble? negative name

/-- The double that a text stands for, given the characters that a reader of numbers
sees. -/
def spacedDouble? (text : List Char) : Option Double :=
  (dropUnderscores? false (trimOf isAsciiBlank text)).bind bareDouble?

def readDouble? (text : String) : Option Double :=
  let chars := text.toList
  if chars.all fun char => char.toNat < 0x80 then spacedDouble? chars
  else spacedDouble? (chars.map numeralChar)

def ArrayElements.members : ArrayElements → List Host
  | .words elements => elements.map fun element => .int element.toInt
  | .bytes elements => elements.map fun element => .int element.toNat
  | .singles elements => elements.map fun element => .float element.value
  | .doubles elements => elements.map .float

namespace Host

def intToDouble (value : Int) : Except Fault Double :=
  (Double.ofInt? value).elim (.error .integerTooLarge) .ok

/-- The double that stored bytes spell out. -/
def storedDouble (host : Host) (content : List UInt8) : Except Fault Double :=
  match spacedDouble? (content.map fun byte => Char.ofNat byte.toNat) with
  | some double => .ok double
  | none => do .error (.unreadableNumber (← host.shown))

/-- The double that a host value amounts to or spells out. -/
def toDouble (host : Host) : Except Fault Double :=
  match host with
  | .float value => .ok value
  | .int value => intToDouble value
  | .bool value => intToDouble (boolInt value)
  | .text value =>
    match readDouble? value with
    | some double => .ok double
    | none => .error (.unreadableNumber (quoted value))
  | .bytes _ content => host.storedDouble content
  | .array elements => host.storedDouble elements.storage
  | other => .error (.numberExpected other.qualifiedClassName)

/-- Whether a host value counts as true: zero, the null value and what is empty do not. -/
def truth : Host → Bool
  | .null => false
  | .bool value => value
  | .int value => value != 0
  | .float value => !value.isZero
  | .text value => value != ""
  | .list items | .tuple items | .set _ items => !items.isEmpty
  | .map entries => !entries.isEmpty
  | .bytes _ content => !content.isEmpty
  | .array elements => !elements.members.isEmpty
  | .range start stop step => rangeLength start stop step != 0
  | .object .. | .tagged .. => true

/-- The members of a host value: the characters of a text, the keys of a map. -/
def members : Host → Except Fault (List Host)
  | .text value => .ok (value.toList.map fun char => .text (String.singleton char))
  | .list items | .tuple items | .set _ items => .ok items
  | .map entries => .ok (entries.map Prod.fst)
  | .bytes _ content => .ok (content.map fun byte => .int byte.toNat)
  | .array elements => .ok elements.members
  | .range start stop step => .ok ((rangeMembers start stop step).map .int)
  | other => .error (.notIterable other.qualifiedClassName)

mutual

/-- The class that keeps a host value from being a key, if there is one: what can change
is no key, and neither is a tuple that holds such a thing. -/
def changeableClass? : Host → Option HostClass
  | .list _ => some .list
  | .map _ => some .map
  | .set frozen _ => if frozen then none else some .set
  | .bytes resizable _ => if resizable then some .byteArray else none
  | .array _ => some .array
  | .tuple items => firstChangeableClass? items
  | _ => none

/-- The first class that keeps a member from being a key. -/
def firstChangeableClass? : List Host → Option HostClass
  | [] => none
  | item :: rest => item.changeableClass? <|> firstChangeableClass? rest

end

/-- A host value that is to be a key or the member of a set. -/
def hashed (host : Host) : Except Fault Host :=
  match host.changeableClass? with
  | some cls => .error (.unhashable cls.qualifiedLabel)
  | none => .ok host

/-- The key and the value that the element of a row with the given index stands for. -/
def pairAt (index : Nat) (element : Host) : Except Fault (Host × Host) :=
  match element.members with
  | .error _ => .error (.elementNotSequence index)
  | .ok [key, value] => return (← key.hashed, value)
  | .ok items => .error (.elementLength index items.length)

/-- The pairs that the elements of a row stand for, the first of which has the given
index. -/
def pairsFrom (index : Nat) : List Host → Except Fault (List (Host × Host))
  | [] => .ok []
  | element :: rest => return (← pairAt index element) :: (← pairsFrom (index + 1) rest)

/-- The map that a host value amounts to: itself if it is one, and otherwise the map of
the pairs that its members are. -/
def toMap : Host → Except Fault Host
  | .map entries => .ok (.map entries)
  | other => return ofEntries (← pairsFrom 0 (← other.members))

def integral? : Host → Option Int
  | .int value => some value
  | .bool value => some (boolInt value)
  | _ => none

/-- The double that a number amounts to, unless it is an integer beyond all doubles. -/
def double? : Host → Option Double
  | .float value => some value
  | other => other.integral?.bind Double.ofInt?

/-- The signed word that an integer is, if it is one. -/
def word? (host : Host) : Option Int32 :=
  (host.integral?.filter (InRange 32 ·)).map Int32.ofInt

/-- The byte that an integer is, if it is one. -/
def byte? (host : Host) : Option UInt8 :=
  (host.integral?.filter fun value => 0 ≤ value ∧ value < 256).map fun value =>
    UInt8.ofNat value.toNat

end Host

/-- The array with the machine format that a letter stands for and the given members, if they
all have a place in it. -/
def ArrayElements.ofMembers? (letter : Char) (members : List Host) : Option ArrayElements :=
  match letter with
  | 'i' => (members.mapM Host.word?).map .words
  | 'B' => (members.mapM Host.byte?).map .bytes
  | 'f' => (members.mapM Host.double?).map fun elements => .singles (elements.map Single.ofDouble)
  | 'd' => (members.mapM Host.double?).map .doubles
  | _ => none

end CalcShell
