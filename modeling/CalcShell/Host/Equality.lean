import CalcShell.Host.Storage

/-!
# Equality of host values

Numbers are compared by their exact value, whatever their class, and what is no
number equals nothing, not even itself.  Lists and tuples are compared member
by member with their own kind only, rows of bytes by content, arrays member by
member, ranges by the integers they stand for, and shell values by tag, custom
name and what they wrap.  Sets and maps are compared without regard to order:
there are equally many members in both, and each one of the first is found in the
second.  A resizable row of bytes also equals an array that is stored in just
these bytes, which a fixed one never does.
-/

namespace CalcShell

open Number

/-- The quantity of an array member, if it is a number at all. -/
def ArrayElements.quantities : ArrayElements → List (Option Quantity)
  | .words elements => elements.map fun element => some (Quantity.ofInt element.toInt)
  | .bytes elements => elements.map fun element => some (Quantity.ofInt element.toNat)
  | .singles elements => elements.map fun element => element.value.quantity?
  | .doubles elements => elements.map Double.quantity?

/-- Two quantities that are there and agree. -/
def sameQuantity : Option Quantity → Option Quantity → Bool
  | some left, some right => left == right
  | _, _ => false

def sameQuantities : List (Option Quantity) → List (Option Quantity) → Bool
  | [], [] => true
  | left :: lefts, right :: rights => sameQuantity left right && sameQuantities lefts rights
  | _, _ => false

/-- Two ranges that stand for the same integers: what matters is how many there are, the
first one, and the step if there is a second one. -/
def sameRange (start stop step start' stop' step' : Int) : Bool :=
  let length := rangeLength start stop step
  length == rangeLength start' stop' step' &&
    (length == 0 || (start == start' && (length == 1 || step == step')))

namespace Host

def quantity? : Host → Option Quantity
  | .bool value => some (Quantity.ofInt (boolInt value))
  | .int value => some (Quantity.ofInt value)
  | .float value => value.quantity?
  | _ => none

mutual

/-- Whether two host values are equal.  What is looked up in a set or a map is compared from the
side of the container that it is looked up in. -/
def same : Host → Host → Bool
  | .null, .null => true
  | .text left, .text right => left == right
  | .list left, .list right => sameItems left right
  | .tuple left, .tuple right => sameItems left right
  | .set _ left, .set _ right => left.length == right.length && eachOccurs left right
  | .map left, .map right => left.length == right.length && eachBound left right
  | .bytes _ left, .bytes _ right => left == right
  | .bytes resizable left, .array right => resizable && left == right.storage
  | .array left, .bytes resizable right => resizable && left.storage == right
  | .array left, .array right => sameQuantities left.quantities right.quantities
  | .range start stop step, .range start' stop' step' =>
    sameRange start stop step start' stop' step'
  | .object leftClass left, .object rightClass right =>
    leftClass == rightClass && left == right
  | .tagged left leftTag leftName, .tagged right rightTag rightName =>
    leftTag == rightTag && leftName == rightName && left.same right
  | left, right => sameQuantity left.quantity? right.quantity?
termination_by left right => sizeOf left + sizeOf right

def sameItems : List Host → List Host → Bool
  | [], [] => true
  | left :: lefts, right :: rights => left.same right && sameItems lefts rights
  | _, _ => false
termination_by lefts rights => sizeOf lefts + sizeOf rights

/-- Whether some member is equal to a host value. -/
def occurs : List Host → Host → Bool
  | [], _ => false
  | member :: members, sought => member.same sought || occurs members sought
termination_by members sought => sizeOf members + sizeOf sought

def eachOccurs : List Host → List Host → Bool
  | [], _ => true
  | sought :: others, members => occurs members sought && eachOccurs others members
termination_by others members => sizeOf others + sizeOf members

/-- Whether the first entry with a key has a value. -/
def isBound : List (Host × Host) → Host → Host → Bool
  | [], _, _ => false
  | (key, value) :: entries, soughtKey, sought =>
    if key.same soughtKey then value.same sought else isBound entries soughtKey sought
termination_by entries soughtKey sought => sizeOf entries + sizeOf soughtKey + sizeOf sought

def eachBound : List (Host × Host) → List (Host × Host) → Bool
  | [], _ => true
  | (key, value) :: others, entries => isBound entries key value && eachBound others entries
termination_by others entries => sizeOf others + sizeOf entries

end

/-- The entries with a key bound to a value.  A key that is there already keeps its place
and its form. -/
def bindKey (entries : List (Host × Host)) (key value : Host) : List (Host × Host) :=
  match entries with
  | [] => [(key, value)]
  | entry :: rest =>
    if entry.1.same key then (entry.1, value) :: rest else entry :: bindKey rest key value

/-- The map that binds keys to values one after the other. -/
def ofEntries (entries : List (Host × Host)) : Host :=
  .map (entries.foldl (fun bound (key, value) => bindKey bound key value) [])

/-- The set of some members: of equal ones only the first is kept. -/
def ofMembers (frozen : Bool) (members : List Host) : Host :=
  .set frozen <| members.foldl
    (fun kept member => if occurs kept member then kept else kept ++ [member]) []

end Host

end CalcShell
