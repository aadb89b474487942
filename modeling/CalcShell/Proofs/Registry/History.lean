import CalcShell.Proofs.History.Keyed
import CalcShell.Proofs.History.LastEffect
import CalcShell.Proofs.Registry.Names
import CalcShell.Proofs.Value.Written
import Mathlib.Data.Finset.Card

/-!
# Custom values by the last registration

A class has the name that it was last registered under, unless it has been taken out or the
registry cleared since.  What failed in between counts for nothing, and what happened to the
other registry does not count either: a host value becomes a custom value by the names in the
registry that is in force, and by its exact class, and by nothing else.
-/

namespace CalcShell

open Text

/-- What a change does to the name of a class: it gives the class a name, takes its name away or
leaves it alone.  Registering anything but a class, or under anything but a text that is not
blank, leaves every class alone. -/
def RegistryChange.effectOn (cls : HostClass) : RegistryChange → Option (Option String)
  | .register (.cls registered) (.text name) =>
    if registered = cls ∧ isBlankText name = false then some (some name) else none
  | .register _ _ => none
  | .unregister removed => if removed = cls then some none else none
  | .clear => some none

/-- A class and a name for it, which can be registered. -/
def Registrant.Accepts (registrant : Registrant) (name : Host) : Prop :=
  ∃ cls text, registrant = .cls cls ∧ name = .text text ∧ isBlankText text = false

theorem RegistryChange.effectOn_register_of_not_accepts {registrant : Registrant} {name : Host}
    (refused : ¬ registrant.Accepts name) (cls : HostClass) :
    (RegistryChange.register registrant name).effectOn cls = none := by
  unfold effectOn
  split
  · next registered text isRegistered =>
      obtain ⟨rfl, rfl⟩ := RegistryChange.register.inj isRegistered
      rw [if_neg]
      intro both
      exact refused ⟨registered, text, rfl, rfl, both.2⟩
  · rfl
  · next isOther => cases isOther
  · next isOther => cases isOther

namespace TypeRegistry

variable (registry : TypeRegistry) {cls other : HostClass} {name : String}

theorem nameOf?_unregister_self : (registry.unregister cls).nameOf? cls = none := by
  rw [nameOf?, unregister, find?_filter_bne_self, Option.map_none]

theorem nameOf?_unregister_of_ne (different : other ≠ cls) :
    (registry.unregister cls).nameOf? other = registry.nameOf? other := by
  rw [nameOf?, unregister, find?_filter_bne_of_ne different, nameOf?]

theorem nameOf?_insert_self : (registry.insert cls name).nameOf? cls = some name := by
  rw [nameOf?, insert, unregister, List.find?_append, find?_filter_bne_self]
  simp

theorem nameOf?_insert_of_ne (different : other ≠ cls) :
    (registry.insert cls name).nameOf? other = registry.nameOf? other := by
  rw [← registry.nameOf?_unregister_of_ne different, nameOf?, insert, List.find?_append, nameOf?]
  simp [Ne.symm different]

theorem register_cls_text (notBlank : isBlankText name = false) :
    registry.register (.cls cls) (.text name) = .ok (registry.insert cls name) := by
  rw [register, Value.requireTypeName_eq_ok_iff.mpr ⟨rfl, notBlank⟩]
  rfl

theorem register_eq_error {registrant : Registrant} {name : Host}
    (refused : ¬ registrant.Accepts name) :
    ∃ fault, registry.register registrant name = .error fault := by
  cases registrant with
  | cls cls =>
      cases isName : Value.requireTypeName name with
      | error fault => exact ⟨fault, by rw [register, isName]; rfl⟩
      | ok text =>
          have isText := Value.requireTypeName_eq_ok_iff.mp isName
          exact absurd ⟨cls, text, rfl, isText.1, isText.2⟩ refused
  | host raw =>
      cases written : raw.shown with
      | error fault => exact ⟨fault, by rw [register, written]; rfl⟩
      | ok text => exact ⟨.classExpected text, by rw [register, written]; rfl⟩

/-- The registry after a change, and the same registry if the change fails. -/
def changed (change : RegistryChange) : TypeRegistry :=
  match registry.change change with
  | .ok next => next
  | .error _ => registry

theorem changed_register_cls_text (notBlank : isBlankText name = false) :
    registry.changed (.register (.cls cls) (.text name)) = registry.insert cls name := by
  rw [changed, change, registry.register_cls_text notBlank]

theorem changed_register_of_not_accepts {registrant : Registrant} {name : Host}
    (refused : ¬ registrant.Accepts name) :
    registry.changed (.register registrant name) = registry := by
  obtain ⟨fault, failed⟩ := registry.register_eq_error refused
  rw [changed, change, failed]

theorem changed_unregister (removed : HostClass) :
    registry.changed (.unregister removed) = registry.unregister removed :=
  rfl

theorem changed_clear : registry.changed .clear = empty :=
  rfl

/-- A change does to the name of a class what its effect on the class says. -/
theorem nameOf?_changed (change : RegistryChange) (cls : HostClass) :
    (registry.changed change).nameOf? cls =
      (change.effectOn cls).getD (registry.nameOf? cls) := by
  cases change with
  | register registrant name =>
      by_cases accepted : registrant.Accepts name
      · obtain ⟨registered, text, rfl, rfl, notBlank⟩ := accepted
        rw [registry.changed_register_cls_text notBlank, RegistryChange.effectOn]
        by_cases same : registered = cls
        · subst same
          rw [nameOf?_insert_self, if_pos ⟨rfl, notBlank⟩, Option.getD_some]
        · rw [registry.nameOf?_insert_of_ne (Ne.symm same), if_neg (same ·.1), Option.getD_none]
      · rw [registry.changed_register_of_not_accepts accepted,
          RegistryChange.effectOn_register_of_not_accepts accepted, Option.getD_none]
  | unregister removed =>
      rw [changed_unregister, RegistryChange.effectOn]
      by_cases same : removed = cls
      · subst same
        rw [nameOf?_unregister_self, if_pos rfl, Option.getD_some]
      · rw [registry.nameOf?_unregister_of_ne (Ne.symm same), if_neg same, Option.getD_none]
  | clear => rfl

/-- Each class stands in the registry at most once. -/
def IsDistinct : Prop :=
  (registry.names.map Prod.fst).Nodup

variable {registry}

theorem IsDistinct.unregister (distinct : registry.IsDistinct) (cls : HostClass) :
    (registry.unregister cls).IsDistinct :=
  distinct.sublist (List.filter_sublist.map Prod.fst)

theorem IsDistinct.insert (distinct : registry.IsDistinct) (cls : HostClass) (name : String) :
    (registry.insert cls name).IsDistinct := by
  have new : cls ∉ (registry.unregister cls).names.map Prod.fst := by
    rw [mem_keys_iff_isSome_find?, TypeRegistry.unregister, find?_filter_bne_self]
    simp
  rw [IsDistinct, TypeRegistry.insert, List.map_append]
  exact (distinct.unregister cls).append (List.nodup_singleton cls) (by simpa using new)

theorem IsDistinct.changed (distinct : registry.IsDistinct) (change : RegistryChange) :
    (registry.changed change).IsDistinct := by
  cases change with
  | register registrant name =>
      by_cases accepted : registrant.Accepts name
      · obtain ⟨registered, text, rfl, rfl, notBlank⟩ := accepted
        rw [registry.changed_register_cls_text notBlank]
        exact distinct.insert registered text
      · rwa [registry.changed_register_of_not_accepts accepted]
  | unregister removed =>
      rw [changed_unregister]
      exact distinct.unregister removed
  | clear =>
      rw [changed_clear]
      exact List.nodup_nil

/-- The registry counts the classes that have a name. -/
theorem IsDistinct.size_eq_card (distinct : registry.IsDistinct) :
    ∃ classes : Finset HostClass,
      (∀ cls, cls ∈ classes ↔ (registry.nameOf? cls).isSome = true) ∧
        registry.size = classes.card := by
  refine ⟨(registry.names.map Prod.fst).toFinset, ?_, ?_⟩
  · intro cls
    rw [List.mem_toFinset, mem_keys_iff_isSome_find?, nameOf?, Option.isSome_map]
  · rw [List.toFinset_card_of_nodup distinct, List.length_map, size]

end TypeRegistry

namespace Value

variable {registry : TypeRegistry} {raw : Host}

theorem of_eq_custom {name : String} (notNull : raw ≠ .null)
    (named : registry.nameOf? raw.cls = some name) :
    of registry raw = ⟨raw, .custom, some name⟩ := by
  have found : registry.lookup raw = some name := named
  cases raw with
  | null => exact absurd rfl notNull
  | _ =>
      rw [of, TypeRegistry.infer, found]
      nofun

theorem of_eq_of_nameOf?_eq_none (unnamed : registry.nameOf? raw.cls = none) :
    of registry raw = ⟨raw, raw.builtInTag, none⟩ := by
  have missing : registry.lookup raw = none := unnamed
  cases raw with
  | null => rfl
  | _ =>
      rw [of, TypeRegistry.infer, missing]
      nofun

theorem builtInTag_ne_custom (raw : Host) : raw.builtInTag ≠ .custom := by
  cases raw with
  | int number =>
      rw [Host.builtInTag]
      rcases integerTag_eq number with tag | tag | tag <;> rw [tag] <;> nofun
  | _ => nofun

/-- A host value becomes a custom value if its class has a name, and under that name. -/
theorem of_eq_custom_iff (registry : TypeRegistry) (raw : Host) (name : String) :
    of registry raw = ⟨raw, .custom, some name⟩ ↔
      raw ≠ .null ∧ registry.nameOf? raw.cls = some name := by
  constructor
  · intro isCustom
    by_cases isNull : raw = .null
    · subst isNull
      cases isCustom
    · refine ⟨isNull, ?_⟩
      cases named : registry.nameOf? raw.cls with
      | some other =>
          rw [of_eq_custom isNull named] at isCustom
          injection isCustom
      | none =>
          rw [of_eq_of_nameOf?_eq_none named] at isCustom
          have noName : none = some name := congrArg customName isCustom
          cases noName
  · intro ⟨notNull, named⟩
    exact of_eq_custom notNull named

theorem tag_of_eq_custom_iff (registry : TypeRegistry) (raw : Host) :
    (of registry raw).tag = .custom ↔
      raw ≠ .null ∧ (registry.nameOf? raw.cls).isSome = true := by
  constructor
  · intro isCustom
    rcases exists_custom_or_of_eq registry raw with ⟨name, made⟩ | made
    · have named := (of_eq_custom_iff registry raw name).mp made
      exact ⟨named.1, Option.isSome_iff_exists.mpr ⟨name, named.2⟩⟩
    · rw [made] at isCustom
      exact absurd isCustom (builtInTag_ne_custom raw)
  · intro ⟨notNull, isNamed⟩
    obtain ⟨name, named⟩ := Option.isSome_iff_exists.mp isNamed
    rw [of_eq_custom notNull named]

end Value

namespace Registries

variable {registries : Registries}

/-- The changes to the one of the registries that is meant. -/
def changesOf (choice : RegistryChoice) (changes : List (RegistryChoice × RegistryChange)) :
    List RegistryChange :=
  (changes.filter fun entry => entry.1 = choice).map Prod.snd

theorem chosen_replaced (next : TypeRegistry) (target choice : RegistryChoice) :
    (registries.replaced next target).chosen choice =
      if target = choice then next else registries.chosen choice := by
  cases target <;> cases choice <;> rfl

theorem chosen_handle (target choice : RegistryChoice) (change : RegistryChange) :
    (registries.handle target change).2.chosen choice =
      if target = choice then (registries.chosen choice).changed change
      else registries.chosen choice := by
  unfold handle
  by_cases same : target = choice
  · subst same
    cases made : (registries.chosen target).change change with
    | ok next => simp only [chosen_replaced, TypeRegistry.changed, made]
    | error fault => simp only [TypeRegistry.changed, made, ite_true]
  · cases made : (registries.chosen target).change change with
    | ok next => simp only [chosen_replaced, if_neg same]
    | error fault => simp only [if_neg same]

/-- A registry depends on the changes to it alone, in their order. -/
theorem chosen_after (changes : List (RegistryChoice × RegistryChange))
    (choice : RegistryChoice) :
    (after changes).chosen choice =
      (changesOf choice changes).foldl TypeRegistry.changed .empty := by
  induction changes using List.reverseRecOn with
  | nil => cases choice <;> rfl
  | append_singleton earlier last inductionHypothesis =>
      have next : (after (earlier ++ [last])).chosen choice =
          ((after earlier).handle last.1 last.2).2.chosen choice := by
        rw [after, List.foldl_append]
        rfl
      rw [next, chosen_handle, inductionHypothesis, changesOf, changesOf, List.filter_append,
        List.map_append, List.foldl_append]
      by_cases same : last.1 = choice
      · simp [same]
      · simp [same]

theorem nameOf?_chosen_after (changes : List (RegistryChoice × RegistryChange))
    (choice : RegistryChoice) (cls : HostClass) :
    ((after changes).chosen choice).nameOf? cls =
      lastEffect (RegistryChange.effectOn cls) (changesOf choice changes) := by
  rw [chosen_after]
  exact view_foldl_eq_lastEffect (fun registry : TypeRegistry => registry.nameOf? cls) _
    (fun registry change => registry.nameOf?_changed change cls) rfl _

theorem isDistinct_chosen_after (changes : List (RegistryChoice × RegistryChange))
    (choice : RegistryChoice) : ((after changes).chosen choice).IsDistinct := by
  rw [chosen_after]
  induction changesOf choice changes using List.reverseRecOn with
  | nil => exact List.nodup_nil
  | append_singleton earlier last distinct =>
      rw [List.foldl_append]
      exact distinct.changed last

theorem handle_register_of_not_accepts {registrant : Registrant} {name : Host}
    (refused : ¬ registrant.Accepts name) (choice : RegistryChoice) :
    ∃ fault, registries.handle choice (.register registrant name) = (.error fault, registries) := by
  obtain ⟨fault, failed⟩ := (registries.chosen choice).register_eq_error refused
  exact ⟨fault, by rw [handle, TypeRegistry.change, failed]⟩

theorem handle_register_of_accepts {registrant : Registrant} {name : Host}
    (accepted : registrant.Accepts name) (choice : RegistryChoice) :
    (registries.handle choice (.register registrant name)).1 = .ok () := by
  obtain ⟨cls, text, rfl, rfl, notBlank⟩ := accepted
  rw [handle, TypeRegistry.change, (registries.chosen choice).register_cls_text notBlank]

/-- Whatever has been done to two registries, a host value that is not null becomes a custom value
under a name if its class was last registered under that name where it is looked up, and neither
taken out nor cleared away since; the value of any other class is as without a registry.  What is
done to the other registry changes none of this; a registry counts the classes with a name; and
what cannot be registered is refused without a change. -/
theorem of_chosen_after (changes : List (RegistryChoice × RegistryChange))
    (choice : RegistryChoice) :
    let registry := (after changes).chosen choice
    let nameFor (cls : HostClass) : Option String :=
      lastEffect (RegistryChange.effectOn cls) (changesOf choice changes)
    (∀ (raw : Host) (name : String), Value.of registry raw = ⟨raw, .custom, some name⟩ ↔
      raw ≠ .null ∧ nameFor raw.cls = some name) ∧
    (∀ raw : Host, (Value.of registry raw).tag = .custom ↔
      raw ≠ .null ∧ (nameFor raw.cls).isSome = true) ∧
    (∀ raw : Host, nameFor raw.cls = none → Value.of registry raw = Value.of .empty raw) ∧
    (∀ others, changesOf choice others = changesOf choice changes →
      (after others).chosen choice = registry) ∧
    (∃ classes : Finset HostClass, (∀ cls, cls ∈ classes ↔ (nameFor cls).isSome = true) ∧
      registry.size = classes.card) ∧
    ∀ (registrant : Registrant) (name : Host),
      (registrant.Accepts name →
        ((after changes).handle choice (.register registrant name)).1 = .ok ()) ∧
      (¬ registrant.Accepts name → ∃ fault,
        (after changes).handle choice (.register registrant name) =
          (.error fault, after changes)) := by
  intro registry nameFor
  have named (cls : HostClass) : registry.nameOf? cls = nameFor cls :=
    nameOf?_chosen_after changes choice cls
  simp only [← named]
  refine ⟨Value.of_eq_custom_iff registry, Value.tag_of_eq_custom_iff registry, ?_, ?_, ?_, ?_⟩
  · intro raw unnamed
    rw [Value.of_eq_of_nameOf?_eq_none unnamed, Value.of_eq_of_nameOf?_eq_none rfl]
  · intro others sameChanges
    rw [chosen_after, sameChanges, ← chosen_after]
  · exact (isDistinct_chosen_after changes choice).size_eq_card
  · intro registrant name
    exact ⟨fun accepted => handle_register_of_accepts accepted choice,
      fun refused => handle_register_of_not_accepts refused choice⟩

theorem of_chosen_after_sample :
    let changes : List (RegistryChoice × RegistryChange) :=
      [(.common, .register (.cls .int) (.text "Count")), (.own, .register (.cls .int) (.text "N")),
        (.own, .register (.cls .bool) (.text "Flag")), (.own, .unregister .int),
        (.own, .register (.cls .int) (.text " "))]
    let own := (after changes).chosen .own
    Value.of own (.bool true) = ⟨.bool true, .custom, some "Flag"⟩ ∧
      Value.of own (.int 7) = Value.of .empty (.int 7) ∧
      (∃ fault, (after changes).handle .own (.register (.host .null) (.text "Nothing")) =
        (.error fault, after changes)) ∧
      Value.of ((after changes).chosen .common) (.int 7) = ⟨.int 7, .custom, some "Count"⟩ := by
  intro changes own
  obtain ⟨custom, _, unnamed, _, _, registering⟩ := of_chosen_after changes .own
  have noClass : ¬ (Registrant.host .null).Accepts (.text "Nothing") := by
    intro ⟨cls, text, isClass, _⟩
    cases isClass
  exact ⟨(custom (.bool true) "Flag").mpr ⟨nofun, rfl⟩, unnamed (.int 7) rfl,
    (registering (.host .null) (.text "Nothing")).2 noClass,
    ((of_chosen_after changes .common).1 (.int 7) "Count").mpr ⟨nofun, rfl⟩⟩

end Registries

end CalcShell
