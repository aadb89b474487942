import CalcShell.Host.Equality
import Mathlib.Data.List.Forall2

/-!
# One layer of equality

Two host values are equal if they are of one kind and what they are made of is equal.  What is
looked up in a set or a map stands on the right of the equation there.
-/

namespace CalcShell

open Number

/-- Two quantities that are there and agree. -/
def AgreeOn (left right : Option Quantity) : Prop :=
  ∃ quantity, left = some quantity ∧ right = some quantity

namespace Host

/-- Equality as a relation. -/
def Same (left right : Host) : Prop :=
  left.same right = true

/-- The first entry with a key has a value. -/
def IsBoundTo (entries : List (Host × Host)) (key value : Host) : Prop :=
  ∃ before entry after, entries = before ++ entry :: after ∧
    (∀ earlier ∈ before, ¬ earlier.1.Same key) ∧ entry.1.Same key ∧ entry.2.Same value

/-- Two host values are of one kind, and what they are made of is equal as the kind has it. -/
inductive Alike : Host → Host → Prop
  | null : Alike .null .null
  | text (content : String) : Alike (.text content) (.text content)
  | list {left right : List Host} (items : List.Forall₂ Same left right) :
    Alike (.list left) (.list right)
  | tuple {left right : List Host} (items : List.Forall₂ Same left right) :
    Alike (.tuple left) (.tuple right)
  | set {frozen otherFrozen : Bool} {left right : List Host} (length : left.length = right.length)
    (found : ∀ sought ∈ left, ∃ member ∈ right, member.Same sought) :
    Alike (.set frozen left) (.set otherFrozen right)
  | map {left right : List (Host × Host)} (length : left.length = right.length)
    (found : ∀ entry ∈ left, IsBoundTo right entry.1 entry.2) : Alike (.map left) (.map right)
  | bytes (resizable otherResizable : Bool) (content : List UInt8) :
    Alike (.bytes resizable content) (.bytes otherResizable content)
  | storage (elements : ArrayElements) : Alike (.bytes true elements.storage) (.array elements)
  | stored (elements : ArrayElements) : Alike (.array elements) (.bytes true elements.storage)
  | array {left right : ArrayElements}
    (quantities : List.Forall₂ AgreeOn left.quantities right.quantities) :
    Alike (.array left) (.array right)
  | range {start stop step start' stop' step' : Int}
    (members : sameRange start stop step start' stop' step' = true) :
    Alike (.range start stop step) (.range start' stop' step')
  | object (className text : String) : Alike (.object className text) (.object className text)
  | tagged {left right : Host} (raw : left.Same right) (tag : Tag) (customName : Option String) :
    Alike (.tagged left tag customName) (.tagged right tag customName)
  | number {left right : Host} (quantity : AgreeOn left.quantity? right.quantity?) :
    Alike left right

end Host

theorem sameQuantity_iff {left right : Option Quantity} :
    sameQuantity left right = true ↔ AgreeOn left right := by
  cases left with
  | none => simp [sameQuantity, AgreeOn]
  | some left =>
      cases right with
      | none => simp [sameQuantity, AgreeOn]
      | some right => simpa [sameQuantity, AgreeOn] using eq_comm

theorem sameQuantities_iff {left right : List (Option Quantity)} :
    sameQuantities left right = true ↔ List.Forall₂ AgreeOn left right := by
  induction left generalizing right with
  | nil => cases right <;> simp [sameQuantities]
  | cons first left inductionHypothesis =>
      cases right with
      | nil => simp [sameQuantities]
      | cons second right =>
          rw [sameQuantities, Bool.and_eq_true, sameQuantity_iff, inductionHypothesis,
            List.forall₂_cons]

namespace Host

theorem sameItems_iff {left right : List Host} :
    sameItems left right = true ↔ List.Forall₂ Same left right := by
  induction left generalizing right with
  | nil => cases right <;> simp [sameItems]
  | cons first left inductionHypothesis =>
      cases right with
      | nil => simp [sameItems]
      | cons second right =>
          rw [sameItems, Bool.and_eq_true, inductionHypothesis, List.forall₂_cons, Same]

theorem occurs_iff {members : List Host} {sought : Host} :
    occurs members sought = true ↔ ∃ member ∈ members, member.Same sought := by
  induction members with
  | nil => simp [occurs]
  | cons member rest inductionHypothesis =>
      rw [occurs, Bool.or_eq_true, inductionHypothesis, List.exists_mem_cons_iff, Same]

theorem eachOccurs_iff {others members : List Host} :
    eachOccurs others members = true ↔
      ∀ sought ∈ others, ∃ member ∈ members, member.Same sought := by
  induction others with
  | nil => simp [eachOccurs]
  | cons sought rest inductionHypothesis =>
      rw [eachOccurs, Bool.and_eq_true, occurs_iff, inductionHypothesis, List.forall_mem_cons]

theorem isBoundTo_cons_iff {entry : Host × Host} {entries : List (Host × Host)}
    {key value : Host} :
    IsBoundTo (entry :: entries) key value ↔
      entry.1.Same key ∧ entry.2.Same value ∨
        ¬ entry.1.Same key ∧ IsBoundTo entries key value := by
  constructor
  · rintro ⟨_ | ⟨earlier, before⟩, found, after, split, notBefore, keys, values⟩
    · cases split
      exact Or.inl ⟨keys, values⟩
    · cases split
      rw [List.forall_mem_cons] at notBefore
      exact Or.inr ⟨notBefore.1, before, found, after, rfl, notBefore.2, keys, values⟩
  · rintro (⟨keys, values⟩ | ⟨different, before, found, after, rfl, notBefore, keys, values⟩)
    · exact ⟨[], entry, entries, rfl, by simp, keys, values⟩
    · exact ⟨entry :: before, found, after, rfl,
        List.forall_mem_cons.mpr ⟨different, notBefore⟩, keys, values⟩

theorem isBound_iff {entries : List (Host × Host)} {key value : Host} :
    isBound entries key value = true ↔ IsBoundTo entries key value := by
  induction entries with
  | nil => simp [isBound, IsBoundTo]
  | cons entry rest inductionHypothesis =>
      rw [isBound, isBoundTo_cons_iff, Same, Same]
      split
      · next keys => simp [keys]
      · next different => simp [different, inductionHypothesis]

theorem eachBound_iff {others entries : List (Host × Host)} :
    eachBound others entries = true ↔
      ∀ entry ∈ others, IsBoundTo entries entry.1 entry.2 := by
  induction others with
  | nil => simp [eachBound]
  | cons entry rest inductionHypothesis =>
      rw [eachBound, Bool.and_eq_true, isBound_iff, inductionHypothesis, List.forall_mem_cons]

/-- Host values with one quantity are numbers, and equal. -/
theorem same_of_agreeOn {left right : Host} (quantities : AgreeOn left.quantity? right.quantity?) :
    left.same right = true := by
  obtain ⟨quantity, isLeft, isRight⟩ := quantities
  have agree : sameQuantity left.quantity? right.quantity? = true :=
    sameQuantity_iff.mpr ⟨quantity, isLeft, isRight⟩
  cases left <;> simp only [quantity?, reduceCtorEq] at isLeft <;>
    cases right <;> simp only [quantity?, reduceCtorEq] at isRight <;> unfold same <;> exact agree

/-- Equality, one layer deep. -/
theorem same_iff {left right : Host} : left.Same right ↔ Alike left right := by
  constructor
  · intro equal
    rw [Same] at equal
    unfold same at equal
    split at equal
    · exact .null
    · obtain rfl := beq_iff_eq.mp equal
      exact .text _
    · exact .list (sameItems_iff.mp equal)
    · exact .tuple (sameItems_iff.mp equal)
    · obtain ⟨length, found⟩ := Bool.and_eq_true_iff.mp equal
      exact .set (beq_iff_eq.mp length) (eachOccurs_iff.mp found)
    · obtain ⟨length, found⟩ := Bool.and_eq_true_iff.mp equal
      exact .map (beq_iff_eq.mp length) (eachBound_iff.mp found)
    · obtain rfl := beq_iff_eq.mp equal
      exact .bytes _ _ _
    · obtain ⟨rfl, content⟩ := Bool.and_eq_true_iff.mp equal
      obtain rfl := beq_iff_eq.mp content
      exact .storage _
    · obtain ⟨rfl, content⟩ := Bool.and_eq_true_iff.mp equal
      obtain rfl := beq_iff_eq.mp content
      exact .stored _
    · exact .array (sameQuantities_iff.mp equal)
    · exact .range equal
    · obtain ⟨classes, texts⟩ := Bool.and_eq_true_iff.mp equal
      obtain rfl := beq_iff_eq.mp classes
      obtain rfl := beq_iff_eq.mp texts
      exact .object _ _
    · obtain ⟨labels, raws⟩ := Bool.and_eq_true_iff.mp equal
      obtain ⟨tags, names⟩ := Bool.and_eq_true_iff.mp labels
      obtain rfl := beq_iff_eq.mp tags
      obtain rfl := beq_iff_eq.mp names
      exact .tagged raws _ _
    · exact .number (sameQuantity_iff.mp equal)
  · intro alike
    rw [Same]
    cases alike with
    | null => rw [same]
    | text content => rw [same, beq_self_eq_true]
    | list items => rwa [same, sameItems_iff]
    | tuple items => rwa [same, sameItems_iff]
    | set length found => 
        rw [same, Bool.and_eq_true, eachOccurs_iff, beq_iff_eq]
        exact ⟨length, found⟩
    | map length found =>
        rw [same, Bool.and_eq_true, eachBound_iff, beq_iff_eq]
        exact ⟨length, found⟩
    | bytes resizable otherResizable content => rw [same, beq_self_eq_true]
    | storage elements | stored elements => rw [same, beq_self_eq_true, Bool.and_true]
    | array quantities => rwa [same, sameQuantities_iff]
    | range members => rwa [same]
    | object className text => rw [same, beq_self_eq_true, beq_self_eq_true, Bool.and_true]
    | tagged raw tag customName =>
        rw [same, beq_self_eq_true, beq_self_eq_true, Bool.true_and, Bool.true_and]
        exact raw
    | number quantities => rw [same_of_agreeOn quantities]

end Host

end CalcShell
