import CalcShell.Table.Store

/-!
# Clients of a shared table

Any number of clients use one shared table.  A client that calls it puts a letter
into the mailbox of the table and waits.  The table takes the letters out in the
order in which they arrived, and the client makes its answer of the reply; the
names, their number and an iteration are all made of the reply to one request for
the bindings.  The order in which clients and table take turns is given as a list
of moves.
-/

namespace CalcShell

/-- What a table can be called for. -/
inductive Call where
  | set (name value : Host)
  | get (name : Host)
  | contains (name : Host)
  | remove (name : Host)
  | items
  | names
  | clear
  | size
  | iterate

/-- What a call returns. -/
inductive Answer where
  | nothing
  | value (found : Option Value)
  | truth (holds : Bool)
  | items (bindings : List (String × Value))
  | names (names : List String)
  | size (count : Nat)

/-- What a call comes to on a table that is used directly, and the table afterwards. -/
def SymbolTable.perform (table : SymbolTable) : Call → Except Fault Answer × SymbolTable
  | .set name value =>
    match table.set name value with
    | .ok changed => (.ok .nothing, changed)
    | .error fault => (.error fault, table)
  | .get name => (.value <$> table.get name, table)
  | .contains name => ((.truth ∘ Option.isSome) <$> table.get name, table)
  | .remove name =>
    match table.remove name with
    | .ok (found, changed) => (.ok (.value found), changed)
    | .error fault => (.error fault, table)
  | .items => (.ok (.items table.bindings), table)
  | .names | .iterate => (.ok (.names table.names), table)
  | .clear => (.ok .nothing, .empty)
  | .size => (.ok (.size table.size), table)

namespace Call

/-- What a shared table replies to the request that goes with a call. -/
def Reply : Call → Type
  | .set .. | .clear => Unit
  | .get _ | .remove _ => Option Value
  | .contains _ => Bool
  | .items | .names | .size | .iterate => List (String × Value)

/-- The request that a client makes for a call. -/
def request : (call : Call) → Request call.Reply
  | .set name value => .assign name value
  | .get name => .lookup name
  | .contains name => .contains name
  | .remove name => .remove name
  | .items | .names | .size | .iterate => .items
  | .clear => .clear

/-- What a client makes of the reply. -/
def answer : (call : Call) → call.Reply → Answer
  | .set .., _ | .clear, _ => .nothing
  | .get _, found | .remove _, found => .value found
  | .contains _, holds => .truth holds
  | .items, bindings => .items bindings
  | .names, bindings | .iterate, bindings => .names (bindings.map Prod.fst)
  | .size, bindings => .size bindings.length

end Call

/-- What a client puts into the mailbox of a shared table. -/
inductive Letter where
  | call (asked : Call)
  | stop

namespace Letter

def Reply : Letter → Type
  | .call asked => asked.Reply
  | .stop => Unit

def answer : (letter : Letter) → letter.Reply → Answer
  | .call asked, reply => asked.answer reply
  | .stop, _ => .nothing

/-- What becomes of a letter to a table that has been stopped: a call fails, and there is
nothing left to stop. -/
def unserved : Letter → Except Fault Answer
  | .call _ => .error .tableStopped
  | .stop => .ok .nothing

end Letter

/-- The reply to the letter that the table takes out of its mailbox, and the shared table
afterwards. -/
def SharedTable.accept (shared : SharedTable) :
    (letter : Letter) → Except Fault letter.Reply × SharedTable
  | .call asked => shared.handle asked.request
  | .stop => (.ok (), shared.stop)

/-- Where a client stands: between two letters, or with one for which it waits. -/
inductive Status where
  | idle
  | waiting (letter : Letter)
  /-- The reply is there and has not been fetched. -/
  | replied (letter : Letter) (reply : Except Fault letter.Reply)

/-- A client: the letters that it is still going to write, and what came of the ones before. -/
structure Client where
  plan : List Letter
  status : Status
  history : List (Letter × Except Fault Answer)

/-- A letter that has been answered.  It was delivered unless the table had been stopped before
it was written. -/
structure Entry (identity : Type) where
  sender : identity
  letter : Letter
  result : Except Fault Answer
  delivered : Bool

/-- A shared table with its mailbox and its clients, and two records of what has happened: the
letters as they arrived in the mailbox, and the answers as they were given. -/
structure System (identity : Type) where
  shared : SharedTable
  mailbox : List (identity × Letter)
  clients : identity → Client
  posted : List (identity × Letter)
  journal : List (Entry identity)

/-- One turn of a client or of the table. -/
inductive Move (identity : Type) where
  /-- A client that waits for nothing writes its next letter. -/
  | post (sender : identity)
  /-- The table takes the first letter out of the mailbox. -/
  | serve
  /-- A client fetches the reply that it has waited for. -/
  | receive (sender : identity)

namespace System

variable {identity : Type} [DecidableEq identity]

/-- A table that nobody has called yet, and clients with the letters that they are going to
write. -/
def start (table : SymbolTable) (programs : identity → List Letter) : System identity where
  shared := .start table
  mailbox := []
  clients := fun sender => ⟨programs sender, .idle, []⟩
  posted := []
  journal := []

def withClient (system : System identity) (sender : identity) (changed : Client) :
    System identity :=
  { system with
    clients := fun other => if other = sender then changed else system.clients other }

/-- The next letter of a client.  A table that has been stopped has no mailbox any more, and the
letter comes back at once. -/
def post (system : System identity) (sender : identity) : System identity :=
  match system.clients sender with
  | ⟨letter :: rest, .idle, history⟩ =>
    if system.shared.alive then
      { system.withClient sender ⟨rest, .waiting letter, history⟩ with
        mailbox := system.mailbox ++ [(sender, letter)]
        posted := system.posted ++ [(sender, letter)] }
    else
      { system.withClient sender ⟨rest, .idle, history ++ [(letter, letter.unserved)]⟩ with
        journal := system.journal ++ [⟨sender, letter, letter.unserved, false⟩] }
  | _ => system

def serve (system : System identity) : System identity :=
  match system.mailbox with
  | [] => system
  | (sender, letter) :: rest =>
    let (reply, shared) := system.shared.accept letter
    let client := system.clients sender
    { system.withClient sender ⟨client.plan, .replied letter reply, client.history⟩ with
      shared := shared
      mailbox := rest
      journal := system.journal ++ [⟨sender, letter, letter.answer <$> reply, true⟩] }

def receive (system : System identity) (sender : identity) : System identity :=
  match system.clients sender with
  | ⟨plan, .replied letter reply, history⟩ =>
    system.withClient sender ⟨plan, .idle, history ++ [(letter, letter.answer <$> reply)]⟩
  | _ => system

/-- The system after a move.  A move that is not possible changes nothing. -/
def step (system : System identity) : Move identity → System identity
  | .post sender => system.post sender
  | .serve => system.serve
  | .receive sender => system.receive sender

def run (system : System identity) (moves : List (Move identity)) : System identity :=
  moves.foldl step system

end System

end CalcShell
