import CalcShell.Proofs.Value.Kind
import CalcShell.Registry
import Mathlib.Data.List.Induction

/-!
# The names in registries

A name is looked at before a registry changes.  Whatever is registered and taken out
again, in whatever order, and whatever fails in between, no registry therefore gives a
class a blank name.
-/

namespace CalcShell

open Text

theorem Value.requireTypeName_eq_ok_iff {raw : Host} {name : String} :
    requireTypeName raw = .ok name ↔ raw = .text name ∧ isBlankText name = false := by
  cases raw with
  | text written =>
      rw [requireTypeName]
      by_cases blank : isBlankText written = true
      · rw [if_pos blank]
        refine ⟨nofun, fun both => ?_⟩
        rw [← Host.text.inj both.1, blank] at both
        cases both.2
      · rw [if_neg blank]
        constructor
        · intro isName
          obtain rfl := Except.ok.inj isName
          exact ⟨rfl, Bool.eq_false_iff.mpr blank⟩
        · intro both
          rw [Host.text.inj both.1]
  | _ => exact ⟨nofun, nofun⟩

theorem Value.isBlankText_of_requireTypeName {raw : Host} {name : String}
    (isName : requireTypeName raw = .ok name) : isBlankText name = false :=
  (requireTypeName_eq_ok_iff.mp isName).2

namespace TypeRegistry

/-- No class has a blank name. -/
def IsNamed (registry : TypeRegistry) : Prop :=
  ∀ entry ∈ registry.names, isBlankText entry.2 = false

variable {registry changed : TypeRegistry}

theorem isNamed_empty : empty.IsNamed :=
  nofun

theorem IsNamed.unregister (named : registry.IsNamed) (cls : HostClass) :
    (registry.unregister cls).IsNamed :=
  fun entry member => named entry (List.mem_filter.mp member).1

theorem IsNamed.insert (named : registry.IsNamed) (cls : HostClass) {name : String}
    (notBlank : isBlankText name = false) : (registry.insert cls name).IsNamed := by
  intro entry member
  rcases List.mem_append.mp member with kept | added
  · exact named.unregister cls entry kept
  · obtain rfl := List.mem_singleton.mp added
    exact notBlank

theorem IsNamed.change (named : registry.IsNamed) {change : RegistryChange}
    (made : registry.change change = .ok changed) : changed.IsNamed := by
  cases change with
  | register registrant name =>
      cases registrant with
      | cls cls =>
          obtain ⟨text, isName, inserted⟩ := bind_eq_ok_iff.mp made
          obtain rfl := Except.ok.inj inserted
          exact named.insert cls (Value.isBlankText_of_requireTypeName isName)
      | host raw =>
          obtain ⟨_, _, refused⟩ := bind_eq_ok_iff.mp made
          cases refused
  | unregister cls =>
      obtain rfl := Except.ok.inj made
      exact named.unregister cls
  | clear =>
      obtain rfl := Except.ok.inj made
      exact isNamed_empty

theorem IsNamed.of_lookup (named : registry.IsNamed) {raw : Host} {name : String}
    (found : registry.lookup raw = some name) : isBlankText name = false := by
  obtain ⟨entry, isFirst, rfl⟩ := Option.map_eq_some_iff.mp found
  exact named entry (List.mem_of_find?_eq_some isFirst)

end TypeRegistry

namespace Registries

/-- Both registries after a row of changes, the first of which finds them empty. -/
def after (changes : List (RegistryChoice × RegistryChange)) : Registries :=
  changes.foldl (fun registries entry => (registries.handle entry.1 entry.2).2) empty

def IsNamed (registries : Registries) : Prop :=
  ∀ choice, (registries.chosen choice).IsNamed

theorem isNamed_empty : empty.IsNamed := by
  intro choice
  cases choice <;> exact TypeRegistry.isNamed_empty

theorem IsNamed.handle {registries : Registries} (named : registries.IsNamed)
    (choice : RegistryChoice) (change : RegistryChange) :
    (registries.handle choice change).2.IsNamed := by
  unfold Registries.handle
  split
  · next changed made =>
      have changedNamed : changed.IsNamed := (named choice).change made
      intro other
      cases choice with
      | common =>
          cases other with
          | common => exact changedNamed
          | own => exact named .own
      | own =>
          cases other with
          | common => exact named .common
          | own => exact changedNamed
  · exact named

theorem isNamed_after (changes : List (RegistryChoice × RegistryChange)) :
    (after changes).IsNamed := by
  induction changes using List.reverseRecOn with
  | nil => exact isNamed_empty
  | append_singleton earlier last named =>
      rw [after, List.foldl_append]
      exact named.handle last.1 last.2

end Registries

end CalcShell
