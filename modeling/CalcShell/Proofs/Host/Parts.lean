import CalcShell.Proofs.Host.Alike

/-!
# What host values are made of

A property can hold of a host value and of all that it is made of, at every depth.  One of these
properties is that no member of a set and no key of a map is there twice, which the host sees to
when it makes them.
-/

namespace CalcShell

namespace Host

/-- The host values that a host value is made of. -/
def parts : Host → List Host
  | .list items | .tuple items | .set _ items => items
  | .map entries => entries.flatMap fun entry => [entry.1, entry.2]
  | .tagged raw _ _ => [raw]
  | .null | .bool _ | .int _ | .float _ | .text _ | .bytes .. | .array _ | .range .. | .object .. =>
    []

/-- The parts under which something is looked up. -/
def keyParts : Host → List Host
  | .set _ members => members
  | .map entries => entries.map Prod.fst
  | _ => []

/-- The host value and all that it is made of have a property. -/
inductive Everywhere (holds : Host → Prop) : Host → Prop
  | intro {host : Host} (here : holds host)
    (inside : ∀ part ∈ host.parts, Everywhere holds part) : Everywhere holds host

/-- No member of a set and no key of a map is there twice. -/
def IsUnrepeated (host : Host) : Prop :=
  host.keyParts.Pairwise fun earlier later => ¬ earlier.Same later

/-- Nothing of a class stands in the host value. -/
def Lacks (cls : HostClass) (host : Host) : Prop :=
  host.Everywhere fun part => part.cls ≠ cls

variable {host part key value : Host} {holds : Host → Prop}

theorem Everywhere.here (everywhere : host.Everywhere holds) : holds host := by
  obtain ⟨here, _⟩ := everywhere
  exact here

theorem Everywhere.inside (everywhere : host.Everywhere holds) (member : part ∈ host.parts) :
    part.Everywhere holds := by
  obtain ⟨_, inside⟩ := everywhere
  exact inside part member

theorem mem_parts_of_mem_keyParts (member : part ∈ host.keyParts) : part ∈ host.parts := by
  cases host with
  | set frozen members => exact member
  | map entries =>
      obtain ⟨entry, inEntries, rfl⟩ := List.mem_map.mp member
      exact List.mem_flatMap.mpr ⟨entry, inEntries, List.mem_cons_self⟩
  | _ => cases member

section Entries

variable {entries : List (Host × Host)} {entry : Host × Host} (member : entry ∈ entries)

include member

theorem key_mem_keyParts : entry.1 ∈ (Host.map entries).keyParts :=
  List.mem_map_of_mem member

theorem key_mem_parts : entry.1 ∈ (Host.map entries).parts :=
  mem_parts_of_mem_keyParts (key_mem_keyParts member)

theorem value_mem_parts : entry.2 ∈ (Host.map entries).parts :=
  List.mem_flatMap.mpr ⟨entry, member, List.mem_cons_of_mem _ List.mem_cons_self⟩

end Entries

theorem sizeOf_lt_of_mem_parts (member : part ∈ host.parts) : sizeOf part < sizeOf host := by
  cases host with
  | list items | tuple items | set frozen items =>
      have smaller : sizeOf part < sizeOf items := List.sizeOf_lt_of_mem member
      simp only [list.sizeOf_spec, tuple.sizeOf_spec, set.sizeOf_spec]
      omega
  | map entries =>
      obtain ⟨entry, inEntries, inEntry⟩ := List.mem_flatMap.mp member
      have smaller := List.sizeOf_lt_of_mem inEntries
      obtain ⟨first, second⟩ := entry
      simp only [map.sizeOf_spec, Prod.mk.sizeOf_spec, List.mem_cons, List.not_mem_nil,
        or_false] at smaller inEntry ⊢
      rcases inEntry with rfl | rfl <;> omega
  | tagged raw tag customName =>
      rw [List.mem_singleton.mp member, tagged.sizeOf_spec]
      omega
  | _ => cases member

theorem everywhere_of_parts_eq_nil (here : holds host) (none : host.parts = []) :
    host.Everywhere holds := by
  refine .intro here fun part member => ?_
  rw [none] at member
  cases member

theorem everywhere_isUnrepeated_concat {frozen : Bool} {kept : List Host} {member : Host}
    (made : (Host.set frozen kept).Everywhere IsUnrepeated)
    (memberMade : member.Everywhere IsUnrepeated)
    (new : ∀ earlier ∈ kept, ¬ earlier.Same member) :
    (Host.set frozen (kept ++ [member])).Everywhere IsUnrepeated := by
  refine .intro ?_ fun part inSet => ?_
  · rw [IsUnrepeated, keyParts, List.pairwise_append]
    refine ⟨made.here, List.pairwise_singleton _ _, fun earlier inKept later isMember => ?_⟩
    rw [List.mem_singleton.mp isMember]
    exact new earlier inKept
  · rcases List.mem_append.mp inSet with inKept | isMember
    · exact made.inside inKept
    · rwa [List.mem_singleton.mp isMember]

/-- A set that is made of members has no member twice. -/
theorem everywhere_isUnrepeated_ofMembers (frozen : Bool) {members : List Host}
    (made : ∀ member ∈ members, member.Everywhere IsUnrepeated) :
    (ofMembers frozen members).Everywhere IsUnrepeated := by
  suffices grown : ∀ kept, (Host.set frozen kept).Everywhere IsUnrepeated →
      (Host.set frozen (members.foldl
        (fun kept member => if occurs kept member then kept else kept ++ [member])
        kept)).Everywhere IsUnrepeated from
    grown [] (everywhere_of_parts_eq_nil List.Pairwise.nil rfl)
  induction members with
  | nil => exact fun kept keptMade => keptMade
  | cons member rest inductionHypothesis =>
      rw [List.forall_mem_cons] at made
      intro kept keptMade
      refine inductionHypothesis made.2 _ ?_
      dsimp only
      split
      · exact keptMade
      · next new =>
          rw [occurs_iff, not_exists] at new
          exact everywhere_isUnrepeated_concat keptMade made.1
            fun earlier inKept same => new earlier ⟨inKept, same⟩

theorem map_fst_bindKey (entries : List (Host × Host)) (key value : Host) :
    (bindKey entries key value).map Prod.fst = entries.map Prod.fst ∨
      (bindKey entries key value).map Prod.fst = entries.map Prod.fst ++ [key] ∧
        ∀ entry ∈ entries, ¬ entry.1.Same key := by
  induction entries with
  | nil => exact Or.inr ⟨rfl, by simp⟩
  | cons entry rest inductionHypothesis =>
      rw [bindKey]
      split
      · exact Or.inl rfl
      · next different =>
          rw [List.map_cons, List.map_cons, List.forall_mem_cons]
          rcases inductionHypothesis with kept | ⟨grown, unknown⟩
          · exact Or.inl (by rw [kept])
          · exact Or.inr ⟨by rw [grown, List.cons_append], different, unknown⟩

theorem mem_bindKey {entries : List (Host × Host)} {key value : Host} {entry : Host × Host}
    (member : entry ∈ bindKey entries key value) :
    entry ∈ entries ∨ entry.2 = value ∧ (entry.1 = key ∨ ∃ old ∈ entries, entry.1 = old.1) := by
  induction entries with
  | nil =>
      rw [List.mem_singleton.mp member]
      exact Or.inr ⟨rfl, Or.inl rfl⟩
  | cons first rest inductionHypothesis =>
      rw [bindKey] at member
      split at member
      · rcases List.mem_cons.mp member with rfl | inRest
        · exact Or.inr ⟨rfl, Or.inr ⟨first, List.mem_cons_self, rfl⟩⟩
        · exact Or.inl (List.mem_cons_of_mem _ inRest)
      · rcases List.mem_cons.mp member with rfl | inRest
        · exact Or.inl List.mem_cons_self
        · rcases inductionHypothesis inRest with known | ⟨isValue, isKey | ⟨old, inRest, isOld⟩⟩
          · exact Or.inl (List.mem_cons_of_mem _ known)
          · exact Or.inr ⟨isValue, Or.inl isKey⟩
          · exact Or.inr ⟨isValue, Or.inr ⟨old, List.mem_cons_of_mem _ inRest, isOld⟩⟩

theorem everywhere_isUnrepeated_bindKey {entries : List (Host × Host)}
    (made : (Host.map entries).Everywhere IsUnrepeated) (keyMade : key.Everywhere IsUnrepeated)
    (valueMade : value.Everywhere IsUnrepeated) :
    (Host.map (bindKey entries key value)).Everywhere IsUnrepeated := by
  refine .intro ?_ fun part inMap => ?_
  · have apart := made.here
    rw [IsUnrepeated, keyParts] at apart ⊢
    rcases map_fst_bindKey entries key value with kept | ⟨grown, unknown⟩
    · rwa [kept]
    · rw [grown, List.pairwise_append]
      refine ⟨apart, List.pairwise_singleton _ _, fun earlier inEntries later isKey => ?_⟩
      obtain ⟨entry, member, rfl⟩ := List.mem_map.mp inEntries
      rw [List.mem_singleton.mp isKey]
      exact unknown entry member
  · obtain ⟨entry, member, inEntry⟩ := List.mem_flatMap.mp inMap
    rw [List.mem_cons, List.mem_singleton] at inEntry
    rcases mem_bindKey member with known | ⟨isValue, isKey⟩
    · rcases inEntry with rfl | rfl
      · exact made.inside (key_mem_parts known)
      · exact made.inside (value_mem_parts known)
    · rcases inEntry with rfl | rfl
      · rcases isKey with isKey | ⟨old, inEntries, isOld⟩
        · rwa [isKey]
        · rw [isOld]
          exact made.inside (key_mem_parts inEntries)
      · rwa [isValue]

/-- A map that is made of entries has no key twice. -/
theorem everywhere_isUnrepeated_ofEntries {entries : List (Host × Host)}
    (made : ∀ entry ∈ entries,
      entry.1.Everywhere IsUnrepeated ∧ entry.2.Everywhere IsUnrepeated) :
    (ofEntries entries).Everywhere IsUnrepeated := by
  suffices grown : ∀ bound, (Host.map bound).Everywhere IsUnrepeated →
      (Host.map (entries.foldl (fun bound entry => bindKey bound entry.1 entry.2)
        bound)).Everywhere IsUnrepeated from
    grown [] (everywhere_of_parts_eq_nil List.Pairwise.nil rfl)
  induction entries with
  | nil => exact fun bound boundMade => boundMade
  | cons entry rest inductionHypothesis =>
      rw [List.forall_mem_cons] at made
      exact fun bound boundMade => inductionHypothesis made.2 _
        (everywhere_isUnrepeated_bindKey boundMade made.1.1 made.1.2)

end Host

end CalcShell
