import CalcShell.Proofs.History.Keyed
import CalcShell.Table.SymbolTable

/-!
# What a table finds

Binding a name changes what is found under that name and under no other, and so does
taking a name out.  What is found under a name is what it stands with in the list of
bindings.
-/

namespace CalcShell.SymbolTable

open Text

variable {name other : String} {value : Value} {bindings : List (String × Value)}

theorem find?_insertBinding_self :
    (insertBinding name value bindings).find? (fun binding => binding.1 == name) =
      some (name, value) := by
  induction bindings with
  | nil => simp [insertBinding]
  | cons first rest inductionHypothesis =>
      rw [insertBinding]
      split
      · simp
      · split
        · simp
        · next different => simp [Ne.symm different, inductionHypothesis]

theorem find?_insertBinding_of_ne (different : other ≠ name) :
    (insertBinding name value bindings).find? (fun binding => binding.1 == other) =
      bindings.find? (fun binding => binding.1 == other) := by
  induction bindings with
  | nil => simp [insertBinding, Ne.symm different]
  | cons first rest inductionHypothesis =>
      rw [insertBinding]
      split
      · simp [Ne.symm different]
      · split
        · next replaced => simp [← replaced, Ne.symm different]
        · simp only [List.find?_cons, inductionHypothesis]

variable (table : SymbolTable)

theorem find?_insert_self : (table.insert name value).find? name = some value := by
  rw [find?, insert, find?_insertBinding_self, Option.map_some]

theorem find?_insert_of_ne (different : other ≠ name) :
    (table.insert name value).find? other = table.find? other := by
  rw [find?, insert, find?_insertBinding_of_ne different, find?]

theorem find?_erase_self : (table.erase name).find? name = none := by
  rw [find?, erase, find?_filter_bne_self, Option.map_none]

theorem find?_erase_of_ne (different : other ≠ name) :
    (table.erase name).find? other = table.find? other := by
  rw [find?, erase, find?_filter_bne_of_ne different, find?]

theorem nodup_names : (table.bindings.map Prod.fst).Nodup :=
  List.pairwise_map.mpr (table.ascending.imp String.ne_of_lt)

variable {table}

theorem mem_of_find?_eq_some (found : table.find? name = some value) :
    (name, value) ∈ table.bindings := by
  obtain ⟨binding, isFirst, rfl⟩ := Option.map_eq_some_iff.mp found
  have member := List.mem_of_find?_eq_some isFirst
  have named : binding.1 = name := by simpa using List.find?_some isFirst
  rwa [← named]

theorem mem_bindings_iff : (name, value) ∈ table.bindings ↔ table.find? name = some value := by
  constructor
  · intro member
    rw [find?, find?_eq_some_of_mem_of_nodup table.nodup_names member, Option.map_some]
  · exact mem_of_find?_eq_some

theorem set_toHost (table : SymbolTable) (value : Value) (named : isBlankText name = false) :
    table.set (.text name) value.toHost = .ok (table.insert name value) := by
  have valid : (Host.text name).variableName = .ok name := by
    simp [Host.variableName, Host.name?, named]
  rw [set, valid]
  rfl

end CalcShell.SymbolTable
