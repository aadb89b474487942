import CalcShell.Value.Basic

/-!
# Symbol tables

A symbol table binds names to values.  Its bindings are kept in ascending order of
the names, compared code point by code point, which is the order in which they
are listed.

The main statement is `SymbolTable.ascending_insertBinding`: binding a name keeps
that order.
-/

namespace CalcShell

open Text

/-- Names with the values that they are bound to, in ascending order of the names. -/
structure SymbolTable where
  bindings : List (String × Value)
  ascending : bindings.Pairwise fun left right => left.1 < right.1

namespace SymbolTable

def empty : SymbolTable :=
  ⟨[], .nil⟩

instance : Inhabited SymbolTable := ⟨empty⟩

/-- Bindings with one more, which replaces a binding of the same name. -/
def insertBinding (name : String) (value : Value) :
    List (String × Value) → List (String × Value)
  | [] => [(name, value)]
  | binding :: rest =>
    if name < binding.1 then (name, value) :: binding :: rest
    else if name = binding.1 then (name, value) :: rest
    else binding :: insertBinding name value rest

theorem mem_of_mem_insertBinding {name : String} {value : Value}
    {bindings : List (String × Value)} {binding : String × Value}
    (member : binding ∈ insertBinding name value bindings) :
    binding = (name, value) ∨ binding ∈ bindings := by
  induction bindings with
  | nil => exact Or.inl (List.mem_singleton.mp member)
  | cons first rest step =>
    unfold insertBinding at member
    split at member
    · exact List.mem_cons.mp member
    · split at member
      · rcases List.mem_cons.mp member with equal | later
        · exact Or.inl equal
        · exact Or.inr (List.mem_cons_of_mem _ later)
      · rcases List.mem_cons.mp member with equal | later
        · exact Or.inr (equal ▸ List.mem_cons_self)
        · exact (step later).imp id (List.mem_cons_of_mem _)

theorem ascending_insertBinding (name : String) (value : Value)
    {bindings : List (String × Value)}
    (ascending : bindings.Pairwise fun left right => left.1 < right.1) :
    (insertBinding name value bindings).Pairwise fun left right => left.1 < right.1 := by
  induction bindings with
  | nil => exact List.pairwise_singleton _ _
  | cons first rest step =>
    obtain ⟨below, later⟩ := List.pairwise_cons.mp ascending
    unfold insertBinding
    split
    · rename_i before
      refine List.pairwise_cons.mpr ⟨fun binding member => ?_, ascending⟩
      rcases List.mem_cons.mp member with rfl | inRest
      · exact before
      · exact String.lt_trans before (below binding inRest)
    · split
      · rename_i equal
        refine List.pairwise_cons.mpr ⟨fun binding member => ?_, later⟩
        exact equal ▸ below binding member
      · rename_i notBefore different
        refine List.pairwise_cons.mpr ⟨fun binding member => ?_, step later⟩
        rcases mem_of_mem_insertBinding member with rfl | inRest
        · refine Decidable.byContradiction fun notAfter => different ?_
          exact String.le_antisymm (String.not_lt.mp notAfter) (String.not_lt.mp notBefore)
        · exact below binding inRest

def insert (table : SymbolTable) (name : String) (value : Value) : SymbolTable :=
  ⟨insertBinding name value table.bindings, ascending_insertBinding name value table.ascending⟩

def erase (table : SymbolTable) (name : String) : SymbolTable :=
  ⟨table.bindings.filter fun binding => binding.1 != name, table.ascending.filter _⟩

/-- The value that a name is bound to.  A name that is bound to the null value is bound
all the same. -/
def find? (table : SymbolTable) (name : String) : Option Value :=
  (table.bindings.find? fun binding => binding.1 == name).map Prod.snd

def names (table : SymbolTable) : List String :=
  table.bindings.map Prod.fst

def size (table : SymbolTable) : Nat :=
  table.bindings.length

end SymbolTable

/-- The name that a host value is when a table is asked for it; what is no text is the
name of nothing. -/
def Host.name? : Host → Option String
  | .text name => some name
  | _ => none

/-- The name that a host value is when a variable is to be bound: a text that is not
blank. -/
def Host.variableName (raw : Host) : Except Fault String :=
  match raw.name? with
  | some name =>
    if isBlankText name then .error (.invalidVariableName (quoted name)) else .ok name
  | none => do .error (.invalidVariableName (← raw.shown))

namespace SymbolTable

/-- The table with a name bound to a value, both of which the host hands in.  The name is
checked before the value. -/
def set (table : SymbolTable) (name value : Host) : Except Fault SymbolTable := do
  let variableName ← name.variableName
  match Value.ofHost? value with
  | some bound => return table.insert variableName bound
  | none => .error (.valueExpected variableName value.className)

/-- The table of some names with their values, bound one after the other. -/
def ofBindings (bindings : List (Host × Host)) : Except Fault SymbolTable :=
  bindings.foldlM (fun table (name, value) => table.set name value) empty

/-- The value that a name is bound to, where the host hands in the name.  What cannot be a key
cannot be asked for. -/
def get (table : SymbolTable) (name : Host) : Except Fault (Option Value) :=
  return (← name.hashed).name?.bind table.find?

/-- The value that a name is bound to, and the table without the name, which the host hands
in.  An empty table does not look at the name. -/
def remove (table : SymbolTable) (name : Host) : Except Fault (Option Value × SymbolTable) := do
  if table.bindings.isEmpty then return (none, table)
  match (← name.hashed).name? with
  | some bound => return (table.find? bound, table.erase bound)
  | none => return (none, table)

end SymbolTable

end CalcShell
