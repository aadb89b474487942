import CalcShell.Proofs.Table.Binding
import CalcShell.Proofs.Value.Obstacles

/-!
# What a table refuses

A variable is bound only where the name is a text that is not blank and what it is to be
bound to is a value.  The name is looked at first: a wrong one is refused as a value that
will not do, even where its own text is too long to be shown, and only then a thing that
is no value is refused for its type.
-/

namespace CalcShell

open Text

namespace Host

variable {fault : Fault}

mutual

/-- A message can show any host value but one with an integer of too many digits in it. -/
theorem eq_integerTooLong_of_shown :
    ∀ host : Host, host.shown = .error fault → fault = .integerTooLong
  | .int value => by
      intro failed
      rw [shown] at failed
      exact (writeInt_eq_error failed).2
  | .range start stop step => by
      intro failed
      rw [shown] at failed
      cases obstructs_of_rangeText failed with
      | tooLong _ => rfl
  | .list items | .tuple items | .set _ items => by
      intro failed
      rw [shown] at failed
      exact eq_integerTooLong_of_shownItems items (eq_error_of_return failed)
  | .map entries => by
      intro failed
      rw [shown] at failed
      exact eq_integerTooLong_of_shownEntries entries (eq_error_of_return failed)
  | .tagged raw _ _ => by
      intro failed
      rw [shown] at failed
      exact eq_integerTooLong_of_shown raw (eq_error_of_return failed)
  | .null | .bool _ | .float _ | .text _ | .bytes .. | .array _ | .object .. => by
      intro failed
      rw [shown] at failed
      cases failed

theorem eq_integerTooLong_of_shownItems :
    ∀ items : List Host, shownItems items = .error fault → fault = .integerTooLong
  | [] => by
      intro failed
      cases failed
  | item :: rest => by
      intro failed
      rw [shownItems] at failed
      rcases bind_eq_error_iff.mp failed with first | ⟨_, _, failed⟩
      · exact eq_integerTooLong_of_shown item first
      · exact eq_integerTooLong_of_shownItems rest (eq_error_of_return failed)

theorem eq_integerTooLong_of_shownEntries :
    ∀ entries : List (Host × Host), shownEntries entries = .error fault → fault = .integerTooLong
  | [] => by
      intro failed
      cases failed
  | (key, value) :: rest => by
      intro failed
      rw [shownEntries] at failed
      rcases bind_eq_error_iff.mp failed with atKey | ⟨_, _, failed⟩
      · exact eq_integerTooLong_of_shown key atKey
      rcases bind_eq_error_iff.mp failed with atValue | ⟨_, _, failed⟩
      · exact eq_integerTooLong_of_shown value atValue
      · exact eq_integerTooLong_of_shownEntries rest (eq_error_of_return failed)

end

/-- A text that is not blank, which can be the name of a variable. -/
def IsVariableName (host : Host) : Prop :=
  ∃ name, host = .text name ∧ isBlankText name = false

theorem variableName_of_not_isVariableName {host : Host} (refused : ¬ host.IsVariableName) :
    ∃ fault, host.variableName = .error fault ∧ fault.category = .value := by
  have isWrong (noText : host.name? = none) :
      ∃ fault, host.variableName = .error fault ∧ fault.category = .value := by
    rw [variableName, noText]
    cases written : host.shown with
    | ok text => exact ⟨_, rfl, rfl⟩
    | error fault =>
        obtain rfl := eq_integerTooLong_of_shown host written
        exact ⟨_, rfl, rfl⟩
  cases host with
  | text name =>
      cases blank : isBlankText name with
      | false => exact absurd ⟨name, rfl, blank⟩ refused
      | true => exact ⟨_, by simp [variableName, name?, blank]; rfl, rfl⟩
  | _ => exact isWrong rfl

end Host

namespace SymbolTable

variable (table : SymbolTable) (name value : Host)

theorem toHost_of_ofHost? {bound : Value} (isValue : Value.ofHost? value = some bound) :
    value = bound.toHost := by
  cases value with
  | tagged raw tag customName =>
      obtain rfl := Option.some.inj isValue
      rfl
  | _ => cases isValue

/-- The three ways in which setting a variable can go. -/
theorem set_cases :
    (∃ variableName bound, name = .text variableName ∧ isBlankText variableName = false ∧
      value = bound.toHost ∧ table.set name value = .ok (table.insert variableName bound)) ∨
    (name.IsVariableName ∧ Value.ofHost? value = none ∧
      ∃ fault, table.set name value = .error fault ∧ fault.category = .type) ∨
    (¬ name.IsVariableName ∧
      ∃ fault, table.set name value = .error fault ∧ fault.category = .value) := by
  by_cases named : name.IsVariableName
  · obtain ⟨variableName, rfl, notBlank⟩ := named
    cases isValue : Value.ofHost? value with
    | some bound =>
        obtain rfl := toHost_of_ofHost? value isValue
        exact Or.inl ⟨variableName, bound, rfl, notBlank, rfl, table.set_toHost bound notBlank⟩
    | none =>
        refine Or.inr (Or.inl ⟨⟨variableName, rfl, notBlank⟩, rfl,
          .valueExpected variableName value.className, ?_, rfl⟩)
        simp [set, Host.variableName, Host.name?, notBlank, isValue, bind, Except.bind]
  · obtain ⟨fault, refused, category⟩ := Host.variableName_of_not_isVariableName named
    refine Or.inr (Or.inr ⟨named, fault, ?_, category⟩)
    rw [set, refused]
    rfl

variable {name} in
theorem remove_of_name?_eq_none (noText : name.name? = none) :
    table.remove name = .ok (none, table) ∨ ∃ fault, table.remove name = .error fault := by
  rw [remove]
  by_cases empty : table.bindings.isEmpty = true
  · rw [if_pos empty]
    exact Or.inl rfl
  · rw [if_neg empty, Host.hashed]
    cases name.changeableClass? with
    | some cls => exact Or.inr ⟨_, rfl⟩
    | none =>
        left
        simp only [bind, Except.bind, pure, Except.pure, noText]

theorem remove_text (text : String) :
    table.remove (.text text) = .ok (table.find? text, table.erase text) := by
  rw [remove]
  by_cases empty : table.bindings.isEmpty = true
  · obtain ⟨bindings, ascending⟩ := table
    obtain rfl : bindings = [] := List.isEmpty_iff.mp empty
    rfl
  · rw [if_neg empty]
    rfl

/-- A text is found and taken out.  Anything else is the name of nothing, and may be no key. -/
theorem remove_cases :
    (∃ text, name = .text text ∧ table.remove name = .ok (table.find? text, table.erase text)) ∨
    ((∀ text, name ≠ .text text) ∧
      (table.remove name = .ok (none, table) ∨ ∃ fault, table.remove name = .error fault)) := by
  cases name with
  | text text => exact Or.inl ⟨text, rfl, table.remove_text text⟩
  | _ => exact Or.inr ⟨nofun, table.remove_of_name?_eq_none rfl⟩

end SymbolTable

end CalcShell
