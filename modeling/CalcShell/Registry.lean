import CalcShell.Value.Basic

/-!
# Registered types and the inference of tags

A registry gives host classes custom names.  A host value of a registered class
becomes a value under that name; otherwise its class, and for an integer its
size, determine the tag.  Only the exact class counts, never a more general one.
-/

namespace CalcShell

open Number

/-- What may be handed in where a class is to be registered. -/
inductive Registrant where
  | cls (cls : HostClass)
  | host (raw : Host)

/-- Custom names by class; each class stands in the list at most once. -/
structure TypeRegistry where
  names : List (HostClass × String)
  deriving DecidableEq, Repr

namespace TypeRegistry

def empty : TypeRegistry :=
  ⟨[]⟩

def unregister (registry : TypeRegistry) (cls : HostClass) : TypeRegistry :=
  ⟨registry.names.filter fun entry => entry.1 != cls⟩

def insert (registry : TypeRegistry) (cls : HostClass) (name : String) : TypeRegistry :=
  ⟨(registry.unregister cls).names ++ [(cls, name)]⟩

/-- The registry with a name for a class, after a check of the class and then of the
name. -/
def register (registry : TypeRegistry) (registrant : Registrant) (name : Host) :
    Except Fault TypeRegistry :=
  match registrant with
  | .cls cls => return registry.insert cls (← Value.requireTypeName name)
  | .host raw => do .error (.classExpected (← raw.shown))

def nameOf? (registry : TypeRegistry) (cls : HostClass) : Option String :=
  (registry.names.find? fun entry => entry.1 == cls).map Prod.snd

def contains (registry : TypeRegistry) (cls : HostClass) : Bool :=
  (registry.nameOf? cls).isSome

def lookup (registry : TypeRegistry) (raw : Host) : Option String :=
  registry.nameOf? raw.cls

def size (registry : TypeRegistry) : Nat :=
  registry.names.length

end TypeRegistry

/-- A change to a registry. -/
inductive RegistryChange where
  | register (registrant : Registrant) (name : Host)
  | unregister (cls : HostClass)
  | clear

/-- The registry after a change, if that is possible. -/
def TypeRegistry.change (registry : TypeRegistry) : RegistryChange → Except Fault TypeRegistry
  | .register registrant name => registry.register registrant name
  | .unregister cls => .ok (registry.unregister cls)
  | .clear => .ok .empty

/-- The registry that is in force where none is named, and one besides. -/
structure Registries where
  common : TypeRegistry
  own : TypeRegistry
  deriving DecidableEq, Repr

/-- Which of two registries is meant. -/
inductive RegistryChoice where
  | common
  | own
  deriving DecidableEq, Repr

namespace Registries

def empty : Registries :=
  ⟨.empty, .empty⟩

def chosen (registries : Registries) : RegistryChoice → TypeRegistry
  | .common => registries.common
  | .own => registries.own

/-- The registries with another one in the place of the one that is meant. -/
def replaced (registries : Registries) (changed : TypeRegistry) :
    RegistryChoice → Registries
  | .common => { registries with common := changed }
  | .own => { registries with own := changed }

/-- What came of a change to one of the registries, and the registries afterwards.  A change
that fails changes nothing, and none reaches the other registry. -/
def handle (registries : Registries) (choice : RegistryChoice) (change : RegistryChange) :
    Except Fault Unit × Registries :=
  match (registries.chosen choice).change change with
  | .ok changed => (.ok (), registries.replaced changed choice)
  | .error fault => (.error fault, registries)

end Registries

/-- The tag that an integer gets by its size. -/
def integerTag (value : Int) : Tag :=
  if InRange integerWidth value then .integer
  else if InRange longWidth value then .long
  else .object

/-- The tag of a host value whose class has no custom name. -/
def Host.builtInTag : Host → Tag
  | .null => .null
  | .bool _ => .boolean
  | .int value => integerTag value
  | .float _ => .double
  | .text _ => .string
  | .list _ => .list
  | .map _ => .map
  | .tuple _ | .bytes .. | .array _ => .array
  | .set .. | .range .. => .collection
  | .object .. | .tagged .. => .object

/-- The tag of a host value and its custom name, if its class has one.  The null value is
never custom. -/
def TypeRegistry.infer (registry : TypeRegistry) (raw : Host) : Tag × Option String :=
  match raw with
  | .null => (.null, none)
  | _ =>
    match registry.lookup raw with
    | some name => (.custom, some name)
    | none => (raw.builtInTag, none)

/-- The value that a host value becomes. -/
def Value.of (registry : TypeRegistry) (raw : Host) : Value :=
  let (tag, customName) := registry.infer raw
  ⟨raw, tag, customName⟩

end CalcShell
