import CalcShell.Proofs.History.LastEffect
import CalcShell.Proofs.Table.Refusals
import CalcShell.Table.Clients

/-!
# A table as a finite map

Whatever has been called before, and whatever has failed among it, a name is bound to the
value that it was last set to, unless it has been removed or everything has been cleared
since.  The listings, the count and the single lookups all tell of these bindings, and a
call to set that fails changes none of them.
-/

namespace CalcShell

open Text

/-- What a call does to the binding of a name: it gives the name a value, takes it away or leaves
it alone.  A call that would set anything but a name that is not blank, or to anything but a
value, leaves everything alone. -/
def Call.effectOn (name : String) : Call → Option (Option Value)
  | .set (.text target) value =>
    if target = name ∧ isBlankText target = false then (Value.ofHost? value).map some else none
  | .remove (.text target) => if target = name then some none else none
  | .clear => some none
  | _ => none

/-- The code points of a name, by which names are ordered. -/
def codePoints (name : String) : List Nat :=
  name.toList.map Char.toNat

theorem codePoints_lt_codePoints {left right : String} (below : left < right) :
    codePoints left < codePoints right :=
  List.map_lt (fun _ _ => Char.lt_def.mp) (String.lt_iff.mp below)

namespace Call

variable {name : String} {key host : Host} {value : Value}

theorem effectOn_set_of_not_isVariableName (refused : ¬ key.IsVariableName) :
    (set key host).effectOn name = none := by
  cases key with
  | text target =>
      rw [effectOn, if_neg]
      rintro ⟨_, notBlank⟩
      exact refused ⟨target, rfl, notBlank⟩
  | _ => rfl

theorem effectOn_set_of_ofHost?_eq_none (noValue : Value.ofHost? host = none) :
    (set key host).effectOn name = none := by
  cases key with
  | text target => rw [effectOn, noValue, Option.map_none, ite_self]
  | _ => rfl

theorem effectOn_remove_of_ne_text (noText : ∀ text, key ≠ .text text) :
    (remove key).effectOn name = none := by
  cases key with
  | text text => exact absurd rfl (noText text)
  | _ => rfl

/-- Only a name that is not blank is ever given a value. -/
theorem isBlankText_of_effectOn {call : Call} (gives : call.effectOn name = some (some value)) :
    isBlankText name = false := by
  unfold effectOn at gives
  split at gives
  · next target host =>
      by_cases named : target = name ∧ isBlankText target = false
      · exact named.1 ▸ named.2
      · rw [if_neg named] at gives
        cases gives
  · split at gives <;> cases gives
  · cases gives
  · cases gives

end Call

namespace SymbolTable

/-- The table after some calls. -/
def after (table : SymbolTable) (calls : List Call) : SymbolTable :=
  calls.foldl (fun current call => (current.perform call).2) table

variable (table : SymbolTable) {name : String} {value : Value}

theorem perform_remove_text (text : String) :
    table.perform (.remove (.text text)) = (.ok (.value (table.find? text)), table.erase text) := by
  rw [perform, remove_text]

/-- A call does to what is found under a name what its effect on the name says. -/
theorem find?_perform (call : Call) (name : String) :
    (table.perform call).2.find? name = (call.effectOn name).getD (table.find? name) := by
  cases call with
  | set key host =>
      rcases table.set_cases key host with ⟨target, bound, rfl, notBlank, rfl, changed⟩ |
        ⟨_, noValue, fault, failed, _⟩ | ⟨noName, fault, failed, _⟩
      · have given : (Call.set (.text target) bound.toHost).effectOn name =
            if target = name then some (some bound) else none := by
          simp [Call.effectOn, notBlank, Value.ofHost?, Value.toHost]
        rw [given]
        simp only [perform, changed]
        by_cases same : target = name
        · subst same
          rw [find?_insert_self, if_pos rfl, Option.getD_some]
        · rw [find?_insert_of_ne table (Ne.symm same), if_neg same, Option.getD_none]
      · rw [Call.effectOn_set_of_ofHost?_eq_none noValue]
        simp only [perform, failed, Option.getD_none]
      · rw [Call.effectOn_set_of_not_isVariableName noName]
        simp only [perform, failed, Option.getD_none]
  | remove key =>
      rcases table.remove_cases key with ⟨text, rfl, _⟩ | ⟨noText, removed | ⟨fault, failed⟩⟩
      · rw [perform_remove_text, Call.effectOn]
        by_cases same : text = name
        · subst same
          rw [find?_erase_self, if_pos rfl, Option.getD_some]
        · rw [find?_erase_of_ne table (Ne.symm same), if_neg same, Option.getD_none]
      · rw [Call.effectOn_remove_of_ne_text noText]
        simp only [perform, removed, Option.getD_none]
      · rw [Call.effectOn_remove_of_ne_text noText]
        simp only [perform, failed, Option.getD_none]
  | get | contains | items | names | clear | size | iterate => rfl

theorem find?_after_empty (history : List Call) (name : String) :
    (empty.after history).find? name = lastEffect (Call.effectOn name) history :=
  view_foldl_eq_lastEffect (fun current : SymbolTable => current.find? name) _
    (fun current call => current.find?_perform call name) rfl history

/-- The calls that bind some names to some values, one after the other. -/
def settings (bindings : List (Host × Host)) : List Call :=
  bindings.map fun binding => .set binding.1 binding.2

theorem after_settings {bindings : List (Host × Host)} {start last : SymbolTable}
    (made : bindings.foldlM (fun table (name, value) => table.set name value) start = .ok last) :
    start.after (settings bindings) = last := by
  induction bindings generalizing start with
  | nil => exact Except.ok.inj made
  | cons binding rest inductionHypothesis =>
      obtain ⟨name, value⟩ := binding
      rw [List.foldlM_cons] at made
      obtain ⟨next, changed, later⟩ := bind_eq_ok_iff.mp made
      have first : (start.perform (.set name value)).2 = next := by
        simp only [perform, changed]
      rw [settings, List.map_cons, after, List.foldl_cons, first]
      exact inductionHypothesis later

/-- A table that some bindings have been made into is reached by making them one after the
other. -/
theorem after_eq_of_ofBindings {bindings : List (Host × Host)} {table : SymbolTable}
    (accepted : ofBindings bindings = .ok table) (calls : List Call) :
    table.after calls = empty.after (settings bindings ++ calls) := by
  have reached := after_settings accepted
  rw [after, after, List.foldl_append, ← reached, after]

/-- Whatever a table has been made of and called for, a name is found, and returned when it is
removed, if it was last set and neither removed nor cleared since; the listings tell of exactly
these names, none of which is blank, in the order of their code points; and a call to set goes
wrong for a wrong name, or else for what is no value, and changes nothing then. -/
theorem finiteMap_after (bindings : List (Host × Host)) (table : SymbolTable)
    (accepted : ofBindings bindings = .ok table) (calls : List Call) :
    let current := table.after calls
    let boundTo (name : String) : Option Value :=
      lastEffect (Call.effectOn name) (settings bindings ++ calls)
    (∀ name : String,
      (current.perform (.get (.text name))).1 = .ok (.value (boundTo name)) ∧
      (current.perform (.contains (.text name))).1 = .ok (.truth (boundTo name).isSome) ∧
      (current.perform (.remove (.text name))).1 = .ok (.value (boundTo name))) ∧
    (∃ items : List (String × Value),
      (current.perform .items).1 = .ok (.items items) ∧
      (current.perform .names).1 = .ok (.names (items.map Prod.fst)) ∧
      (current.perform .iterate).1 = .ok (.names (items.map Prod.fst)) ∧
      (current.perform .size).1 = .ok (.size (items.map Prod.fst).length) ∧
      (items.map Prod.fst).Pairwise (fun earlier later => codePoints earlier < codePoints later) ∧
      (∀ name value, (name, value) ∈ items ↔ boundTo name = some value) ∧
      ∀ name value, (name, value) ∈ items → isBlankText name = false) ∧
    ∀ name value : Host,
      (name.IsVariableName → (Value.ofHost? value).isSome = true →
        (current.perform (.set name value)).1 = .ok .nothing) ∧
      (¬ name.IsVariableName →
        ∃ fault, current.perform (.set name value) = (.error fault, current) ∧
          fault.category = .value) ∧
      (name.IsVariableName → Value.ofHost? value = none →
        ∃ fault, current.perform (.set name value) = (.error fault, current) ∧
          fault.category = .type) := by
  intro current boundTo
  have found (name : String) : current.find? name = boundTo name :=
    calc
      current.find? name = (empty.after (settings bindings ++ calls)).find? name := by
        rw [← after_eq_of_ofBindings accepted]
      _ = boundTo name := find?_after_empty _ name
  refine ⟨?_, ?_, ?_⟩
  · intro name
    rw [← found name]
    refine ⟨rfl, rfl, ?_⟩
    rw [perform_remove_text]
  · refine ⟨current.bindings, rfl, rfl, rfl, ?_, ?_, ?_, ?_⟩
    · rw [List.length_map]
      rfl
    · rw [List.pairwise_map]
      exact current.ascending.imp codePoints_lt_codePoints
    · intro name value
      rw [mem_bindings_iff, found]
    · intro name value member
      rw [mem_bindings_iff, found] at member
      obtain ⟨_, call, _, _, gives, _⟩ := exists_of_lastEffect member
      exact Call.isBlankText_of_effectOn gives
  · intro name value
    rcases current.set_cases name value with ⟨target, bound, rfl, notBlank, rfl, changed⟩ |
      ⟨named, noValue, fault, failed, category⟩ | ⟨notNamed, fault, failed, category⟩
    · have named : (Host.text target).IsVariableName := ⟨target, rfl, notBlank⟩
      refine ⟨fun _ _ => ?_, fun refused => absurd named refused, nofun⟩
      simp only [perform, changed]
    · refine ⟨fun _ isValue => ?_, fun refused => absurd named refused, fun _ _ => ?_⟩
      · rw [noValue] at isValue
        cases isValue
      · exact ⟨fault, by simp only [perform, failed], category⟩
    · refine ⟨fun named => absurd named notNamed, fun _ => ?_, fun named => absurd named notNamed⟩
      exact ⟨fault, by simp only [perform, failed], category⟩

theorem finiteMap_after_sample :
    let bindings : List (Host × Host) := [(.text "b", (Value.integer 1).toHost)]
    let table : SymbolTable := empty.insert "b" (.integer 1)
    let calls : List Call :=
      [.set (.text "a") (Value.integer 2).toHost, .set (.text " ") (Value.integer 3).toHost,
        .remove (.text "b"), .set (.text "a") (Value.integer 4).toHost, .set (.text "a") (.int 5)]
    ofBindings bindings = .ok table ∧
      ((table.after calls).perform (.get (.text "a"))).1 = .ok (.value (some (.integer 4))) ∧
      ((table.after calls).perform (.contains (.text "b"))).1 = .ok (.truth false) ∧
      ∃ fault, (table.after calls).perform (.set (.text "") .null) =
        (.error fault, table.after calls) ∧ fault.category = .value := by
  intro bindings table calls
  have accepted : ofBindings bindings = .ok table := rfl
  obtain ⟨lookups, _, changes⟩ := finiteMap_after bindings table accepted calls
  have isWrong : ¬ (Host.text "").IsVariableName := by
    rintro ⟨name, isEmpty, notBlank⟩
    obtain rfl := Host.text.inj isEmpty
    cases notBlank
  exact ⟨accepted, (lookups "a").1, (lookups "b").2.1, (changes (.text "") .null).2.1 isWrong⟩

end SymbolTable

end CalcShell
