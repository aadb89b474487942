import Mathlib.Data.List.Nodup

/-!
# Rows of entries under keys

A row of entries may be searched for the first that stands under a key.  What else stands in
the row, and what is taken out of it, does not matter to the search.
-/

namespace CalcShell

variable {keys given : Type} [DecidableEq keys] {entries : List (keys × given)} {key other : keys}

theorem find?_filter_bne_self :
    (entries.filter fun entry => entry.1 != key).find? (fun entry => entry.1 == key) = none := by
  rw [List.find?_eq_none]
  intro entry member
  simpa using (List.mem_filter.mp member).2

theorem find?_filter_bne_of_ne (different : other ≠ key) :
    (entries.filter fun entry => entry.1 != key).find? (fun entry => entry.1 == other) =
      entries.find? (fun entry => entry.1 == other) := by
  rw [List.find?_filter]
  congr 1
  funext entry
  by_cases isOther : entry.1 = other
  · simp [isOther, different]
  · simp [isOther]

theorem mem_keys_iff_isSome_find? :
    key ∈ entries.map Prod.fst ↔ (entries.find? fun entry => entry.1 == key).isSome = true := by
  rw [List.mem_map, List.find?_isSome]
  simp only [beq_iff_eq]

/-- Where a key stands at most once, the entry that is found under it is the only one. -/
theorem find?_eq_some_of_mem_of_nodup {found : given} (distinct : (entries.map Prod.fst).Nodup)
    (member : (key, found) ∈ entries) :
    entries.find? (fun entry => entry.1 == key) = some (key, found) := by
  induction entries with
  | nil => cases member
  | cons first rest inductionHypothesis =>
      obtain ⟨new, later⟩ := List.nodup_cons.mp distinct
      by_cases named : first.1 = key
      · have isFirst : (key, found) = first := by
          rcases List.mem_cons.mp member with isFirst | inRest
          · exact isFirst
          · exact absurd (List.mem_map.mpr ⟨_, inRest, named.symm⟩) new
        simp [← isFirst]
      · have inRest : (key, found) ∈ rest := by
          rcases List.mem_cons.mp member with isFirst | inRest
          · exact absurd (congrArg Prod.fst isFirst).symm named
          · exact inRest
        simp [named, inductionHypothesis later inRest]

end CalcShell
