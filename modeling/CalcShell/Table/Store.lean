import CalcShell.Table.SymbolTable

/-!
# Stores of variables

Variables are kept in a symbol table, either directly or behind a mailbox that
several clients share.  Both answer the same requests.  A shared table handles
the requests in its mailbox one after the other on the table that it owns, and
after it has been stopped it answers none of them.
-/

namespace CalcShell

/-- What a store of variables can be asked, with the type of the answer. -/
inductive Request : Type → Type 1 where
  | assign (name value : Host) : Request Unit
  | lookup (name : Host) : Request (Option Value)
  | contains (name : Host) : Request Bool
  | remove (name : Host) : Request (Option Value)
  | items : Request (List (String × Value))
  | clear : Request Unit

/-- The answer of a table to a request, and the table afterwards.  A request that fails
changes nothing. -/
def SymbolTable.handle {answer : Type} (table : SymbolTable) :
    Request answer → Except Fault answer × SymbolTable
  | .assign name value =>
    match table.set name value with
    | .ok changed => (.ok (), changed)
    | .error fault => (.error fault, table)
  | .lookup name => (table.get name, table)
  | .contains name => (Option.isSome <$> table.get name, table)
  | .remove name =>
    match table.remove name with
    | .ok (found, changed) => (.ok found, changed)
    | .error fault => (.error fault, table)
  | .items => (.ok table.bindings, table)
  | .clear => (.ok (), .empty)

/-- A symbol table behind a mailbox. -/
structure SharedTable where
  table : SymbolTable
  alive : Bool

namespace SharedTable

def start (table : SymbolTable) : SharedTable :=
  ⟨table, true⟩

/-- The answer to the next request in the mailbox, and the shared table afterwards. -/
def handle {answer : Type} (shared : SharedTable) (request : Request answer) :
    Except Fault answer × SharedTable :=
  if shared.alive then
    let (reply, table) := shared.table.handle request
    (reply, { shared with table := table })
  else (.error .tableStopped, shared)

def stop (shared : SharedTable) : SharedTable :=
  { shared with alive := false }

end SharedTable

/-- What keeps variables and answers requests about them. -/
class Store (store : Type) where
  handle : {answer : Type} → store → Request answer → Except Fault answer × store

instance : Store SymbolTable := ⟨SymbolTable.handle⟩

instance : Store SharedTable := ⟨SharedTable.handle⟩

namespace Store

variable {store : Type} [Store store]

/-- The answer to a request that changes nothing. -/
def ask {answer : Type} (state : store) (request : Request answer) : Except Fault answer :=
  (handle state request).1

/-- The bound names with their values, in ascending order of the names. -/
def items (state : store) : Except Fault (List (String × Value)) :=
  ask state .items

def names (state : store) : Except Fault (List String) :=
  return (← items state).map Prod.fst

def size (state : store) : Except Fault Nat :=
  return (← items state).length

def lookup (state : store) (name : String) : Except Fault (Option Value) :=
  ask state (.lookup (.text name))

end Store

end CalcShell
