import CalcShell.Proofs.Value.Written

/-!
# What stands in the way of a text

The text of a host value is made of the texts of its parts.  It is there unless one of
them, at some depth, is an integer with too many digits or a value that claims to be of
single precision and wraps nothing that is; what goes wrong goes wrong there.
-/

namespace CalcShell

open Number

namespace Host

/-- The host values whose texts stand in the text of a host value. -/
def writtenParts : Host → List Host
  | .list items | .tuple items | .set _ items => items
  | .map entries => entries.flatMap fun entry => [entry.1, entry.2]
  | .tagged raw tag _ => if tag = .null ∨ tag = .float then [] else [raw]
  | .null | .bool _ | .int _ | .float _ | .text _ | .bytes .. | .array _ | .range .. | .object .. =>
    []

/-- In the text of the first host value the text of the second one is written. -/
inductive Writes : Host → Host → Prop
  | itself (host : Host) : Writes host host
  | inside {host part inner : Host} (member : part ∈ host.writtenParts)
      (writes : Writes part inner) : Writes host inner

theorem writes_iff {host inner : Host} :
    host.Writes inner ↔ inner = host ∨ ∃ part ∈ host.writtenParts, part.Writes inner := by
  constructor
  · rintro (_ | ⟨member, writes⟩)
    · exact Or.inl rfl
    · exact Or.inr ⟨_, member, writes⟩
  · rintro (rfl | ⟨part, member, writes⟩)
    · exact .itself inner
    · exact .inside member writes

/-- An integer with too many digits, or a range with such a bound. -/
def IsTooLong : Host → Prop
  | .int value => 10 ^ digitLimit ≤ value.natAbs
  | .range start stop step => ∃ bound ∈ [start, stop, step], 10 ^ digitLimit ≤ bound.natAbs
  | _ => False

/-- The host value itself has no text, and this is what goes wrong. -/
inductive Obstructs : Host → Fault → Prop
  | tooLong {host : Host} (long : host.IsTooLong) : Obstructs host .integerTooLong
  | notSingle {raw : Host} {customName : Option String} {fault : Fault}
      (failed : raw.singleString = .error fault) : Obstructs (.tagged raw .float customName) fault

variable {host part : Host} {fault : Fault}

theorem areWritable_iff {items : List Host} :
    areWritable items = true ↔ ∀ item ∈ items, item.isWritable = true := by
  induction items with
  | nil => simp [areWritable]
  | cons item rest inductionHypothesis => simp [areWritable, inductionHypothesis]

theorem areEntriesWritable_iff {entries : List (Host × Host)} :
    areEntriesWritable entries = true ↔
      ∀ part ∈ (map entries).writtenParts, part.isWritable = true := by
  rw [writtenParts]
  induction entries with
  | nil => simp [areEntriesWritable]
  | cons entry rest inductionHypothesis =>
      obtain ⟨key, value⟩ := entry
      rw [areEntriesWritable, Bool.and_eq_true, Bool.and_eq_true, inductionHypothesis]
      simp [or_imp, forall_and]

/-- A host value that can be written has parts that can be. -/
theorem isWritable_of_mem_writtenParts (writable : host.isWritable = true)
    (member : part ∈ host.writtenParts) : part.isWritable = true := by
  cases host with
  | list items | tuple items | set _ items =>
      rw [isWritable] at writable
      exact areWritable_iff.mp writable part member
  | map entries =>
      rw [isWritable] at writable
      exact areEntriesWritable_iff.mp writable part member
  | tagged raw tag customName =>
      rw [writtenParts] at member
      split at member
      · cases member
      · next written =>
          obtain ⟨notNull, notFloat⟩ := not_or.mp written
          obtain rfl := List.mem_singleton.mp member
          simpa [isWritable, notNull, notFloat] using writable
  | _ => cases member

theorem Writes.isWritable (writes : host.Writes part) (writable : host.isWritable = true) :
    part.isWritable = true := by
  induction writes with
  | itself host => exact writable
  | inside member _ inductionHypothesis =>
      exact inductionHypothesis (isWritable_of_mem_writtenParts writable member)

theorem IsTooLong.isWritable (long : host.IsTooLong) : host.isWritable = false := by
  cases host with
  | int value => exact isWritable_int_of_le long
  | range start stop step =>
      obtain ⟨bound, member, long⟩ := long
      rw [Host.isWritable, List.all_eq_false]
      exact ⟨bound, member, by simpa using Nat.not_lt.mpr long⟩
  | _ => cases long

theorem Obstructs.isWritable (obstructs : host.Obstructs fault) : host.isWritable = false := by
  cases obstructs with
  | tooLong long => exact long.isWritable
  | @notSingle raw _ _ failed =>
      have unwritable := isOk_singleString raw
      rw [failed] at unwritable
      simp [Host.isWritable, ← unwritable, Except.isOk, Except.toBool]

theorem writeInt_eq_error {value : Int} (failed : writeInt value = .error fault) :
    10 ^ digitLimit ≤ value.natAbs ∧ fault = .integerTooLong := by
  unfold writeInt at failed
  split at failed
  · next long => exact ⟨long, (Except.error.inj failed).symm⟩
  · cases failed

theorem obstructs_of_writeInt {value : Int} (failed : writeInt value = .error fault) :
    (int value).Obstructs fault := by
  obtain ⟨long, rfl⟩ := writeInt_eq_error failed
  exact .tooLong long

theorem obstructs_of_rangeText {start stop step : Int}
    (failed : rangeText start stop step = .error fault) :
    (range start stop step).Obstructs fault := by
  have atBound {bound : Int} (member : bound ∈ [start, stop, step])
      (failed : writeInt bound = .error fault) : (range start stop step).Obstructs fault := by
    obtain ⟨long, rfl⟩ := writeInt_eq_error failed
    exact .tooLong ⟨bound, member, long⟩
  rw [rangeText] at failed
  rcases bind_eq_error_iff.mp failed with atStart | ⟨first, _, failed⟩
  · exact atBound (by simp) atStart
  rcases bind_eq_error_iff.mp failed with atStop | ⟨last, _, failed⟩
  · exact atBound (by simp) atStop
  by_cases single : step = 1
  · simp only [if_pos single] at failed
    cases failed
  · simp only [if_neg single] at failed
    rcases bind_eq_error_iff.mp failed with atStep | ⟨_, _, failed⟩
    · exact atBound (by simp) atStep
    · cases failed

/-- What goes wrong goes wrong at a host value that is written. -/
def IsObstructed (host : Host) (fault : Fault) : Prop :=
  ∃ part, host.Writes part ∧ part.Obstructs fault

theorem Obstructs.isObstructed (obstructs : host.Obstructs fault) : host.IsObstructed fault :=
  ⟨host, .itself host, obstructs⟩

theorem IsObstructed.of_mem (obstructed : part.IsObstructed fault)
    (member : part ∈ host.writtenParts) : host.IsObstructed fault := by
  obtain ⟨inner, writes, obstructs⟩ := obstructed
  exact ⟨inner, .inside member writes, obstructs⟩

theorem eq_error_of_return {given answer : Type} {first : Except Fault given}
    {make : given → answer} (failed : (do return make (← first)) = .error fault) :
    first = .error fault := by
  rcases bind_eq_error_iff.mp failed with failed | ⟨_, _, failed⟩
  · exact failed
  · cases failed

mutual

/-- What goes wrong in writing a host value goes wrong at one of those that are written in it. -/
theorem isObstructed_of_render (fault : Fault) :
    ∀ host : Host, host.render = .error fault → host.IsObstructed fault
  | .int value => by
      intro failed
      rw [render] at failed
      exact (obstructs_of_writeInt failed).isObstructed
  | .range start stop step => by
      intro failed
      rw [render] at failed
      exact (obstructs_of_rangeText failed).isObstructed
  | .list items | .tuple items | .set _ items => by
      intro failed
      rw [render] at failed
      obtain ⟨item, member, obstructed⟩ :=
        exists_of_renderItems fault items (eq_error_of_return failed)
      exact obstructed.of_mem member
  | .map entries => by
      intro failed
      rw [render] at failed
      obtain ⟨part, member, obstructed⟩ :=
        exists_of_renderEntries fault entries (eq_error_of_return failed)
      exact obstructed.of_mem member
  | .tagged raw tag customName => by
      intro failed
      cases tag with
      | null => cases failed
      | float => exact (Obstructs.notSingle failed).isObstructed
      | _ => exact (isObstructed_of_render fault raw failed).of_mem List.mem_cons_self
  | .null | .bool _ | .float _ | .text _ | .bytes .. | .array _ | .object .. => by
      intro failed
      rw [render] at failed
      cases failed

theorem exists_of_renderItems (fault : Fault) :
    ∀ items : List Host, renderItems items = .error fault →
      ∃ item ∈ items, item.IsObstructed fault
  | [] => by
      intro failed
      cases failed
  | item :: rest => by
      intro failed
      rw [renderItems] at failed
      rcases bind_eq_error_iff.mp failed with first | ⟨_, _, failed⟩
      · exact ⟨item, List.mem_cons_self, isObstructed_of_render fault item first⟩
      · obtain ⟨later, member, obstructed⟩ :=
          exists_of_renderItems fault rest (eq_error_of_return failed)
        exact ⟨later, List.mem_cons_of_mem item member, obstructed⟩

theorem exists_of_renderEntries (fault : Fault) :
    ∀ entries : List (Host × Host), renderEntries entries = .error fault →
      ∃ part ∈ (map entries).writtenParts, part.IsObstructed fault
  | [] => by
      intro failed
      cases failed
  | (key, value) :: rest => by
      intro failed
      rw [renderEntries] at failed
      rcases bind_eq_error_iff.mp failed with atKey | ⟨_, _, failed⟩
      · exact ⟨key, by simp [writtenParts], isObstructed_of_render fault key atKey⟩
      rcases bind_eq_error_iff.mp failed with atValue | ⟨_, _, failed⟩
      · exact ⟨value, by simp [writtenParts], isObstructed_of_render fault value atValue⟩
      · obtain ⟨part, member, obstructed⟩ :=
          exists_of_renderEntries fault rest (eq_error_of_return failed)
        refine ⟨part, ?_, obstructed⟩
        rw [writtenParts] at member ⊢
        exact List.mem_append_right _ member

end

theorem isWritable_eq_true_iff :
    host.isWritable = true ↔ ∀ fault, ¬ host.IsObstructed fault := by
  constructor
  · rintro writable fault ⟨part, writes, obstructs⟩
    have unwritable := obstructs.isWritable
    rw [writes.isWritable writable] at unwritable
    cases unwritable
  · intro unobstructed
    rw [← isOk_render]
    cases written : host.render with
    | ok text => rfl
    | error fault => exact absurd (isObstructed_of_render fault host written) (unobstructed fault)

end Host

namespace Value

open Host

variable {value : Value} {fault : Fault}

theorem toHost_inj {left right : Value} : left.toHost = right.toHost ↔ left = right := by
  obtain ⟨raw, tag, customName⟩ := left
  obtain ⟨otherRaw, otherTag, otherName⟩ := right
  rw [toHost, toHost, Host.tagged.injEq, mk.injEq]

/-- A value is written as the host value that it is handed around as. -/
theorem asString_eq_error_iff :
    value.asString = .error fault ↔ value.toHost.render = .error fault := by
  have wrapped (text : Except Fault String) :
      (some <$> text : Except Fault _) = .error fault ↔ text = .error fault := by
    cases text <;> simp
  obtain ⟨raw, tag, customName⟩ := value
  cases tag with
  | null => simp [asString, toHost, render]
  | float => simp [asString, toHost, render, wrapped]
  | _ => simp [asString, toHost, render, wrapped]

theorem exists_asString_eq_ok_iff :
    (∃ text?, value.asString = .ok text?) ↔ ∀ fault, ¬ value.toHost.IsObstructed fault := by
  rw [← isWritable_eq_true_iff, ← isOk_render]
  cases written : value.asString with
  | ok text? =>
      cases rendered : value.toHost.render with
      | ok text => simp [Except.isOk, Except.toBool]
      | error fault =>
          rw [asString_eq_error_iff.mpr rendered] at written
          cases written
  | error fault =>
      rw [asString_eq_error_iff.mp written]
      simp [Except.isOk, Except.toBool]

/-- In what is written of made values only integers with too many digits stand in the way. -/
theorem tooLong_of_made (made : ∀ inner : Value, value.toHost.Writes inner.toHost → inner.Made)
    (obstructed : value.toHost.IsObstructed fault) :
    fault = .integerTooLong ∧ ∃ part, value.toHost.Writes part ∧ part.IsTooLong := by
  obtain ⟨part, writes, obstructs⟩ := obstructed
  cases obstructs with
  | tooLong long => exact ⟨rfl, part, writes, long⟩
  | @notSingle raw customName _ failed =>
      obtain ⟨number, rfl⟩ := (made ⟨raw, .float, customName⟩ writes).wellTagged.float rfl
      cases failed

/-- A value has a text, or is tagged as null and has none, unless something that is written in it
stands in the way; where everything in it has been made, only an integer with too many digits
does. -/
theorem asString_total_unless_obstructed (value : Value) :
    (value.asString = .ok none ↔ value.tag = .null) ∧
    ((∃ text?, value.asString = .ok text?) ↔ ∀ fault, ¬ value.toHost.IsObstructed fault) ∧
    (∀ fault, value.asString = .error fault → value.toHost.IsObstructed fault) ∧
    ((∀ inner : Value, value.toHost.Writes inner.toHost → inner.Made) →
      ((∃ text?, value.asString = .ok text?) ↔
        ∀ part, value.toHost.Writes part → ¬ part.IsTooLong) ∧
      ∀ fault, value.asString = .error fault → fault = .integerTooLong) := by
  have atPart (fault : Fault) (failed : value.asString = .error fault) :
      value.toHost.IsObstructed fault :=
    isObstructed_of_render fault value.toHost (asString_eq_error_iff.mp failed)
  refine ⟨asString_eq_ok_none_iff, exists_asString_eq_ok_iff, atPart, ?_⟩
  intro made
  refine ⟨?_, fun fault failed => (tooLong_of_made made (atPart fault failed)).1⟩
  rw [exists_asString_eq_ok_iff]
  constructor
  · intro unobstructed part writes long
    exact unobstructed .integerTooLong ⟨part, writes, .tooLong long⟩
  · intro short fault obstructed
    obtain ⟨_, part, writes, long⟩ := tooLong_of_made made obstructed
    exact short part writes long

/-- The value that a list with one integer in it becomes. -/
def ofListOf (number : Int) : Value :=
  of .empty (.list [.int number])

theorem made_of_writes_ofListOf {number : Int} (inner : Value)
    (writes : (ofListOf number).toHost.Writes inner.toHost) : inner.Made := by
  rcases writes_iff.mp writes with isList | ⟨part, atList, writes⟩
  · obtain rfl : inner = ofListOf number := toHost_inj.mp isList
    exact Made.of .empty _
  obtain rfl : part = .list [.int number] := List.mem_singleton.mp atList
  rcases writes_iff.mp writes with notValue | ⟨part, atInteger, writes⟩
  · cases notValue
  obtain rfl : part = .int number := List.mem_singleton.mp atInteger
  rcases writes_iff.mp writes with notValue | ⟨part, nowhere, _⟩
  · cases notValue
  · cases nowhere

theorem asString_total_unless_obstructed_in_list :
    (∀ inner : Value,
        (ofListOf (10 ^ digitLimit : Nat)).toHost.Writes inner.toHost → inner.Made) ∧
      (ofListOf (10 ^ digitLimit : Nat)).asString = .error .integerTooLong := by
  obtain ⟨_, _, _, ofMade⟩ := asString_total_unless_obstructed (ofListOf (10 ^ digitLimit : Nat))
  obtain ⟨total, onlyTooLong⟩ := ofMade made_of_writes_ofListOf
  refine ⟨made_of_writes_ofListOf, ?_⟩
  cases written : (ofListOf (10 ^ digitLimit : Nat)).asString with
  | error fault => rw [onlyTooLong fault written]
  | ok text? =>
      have writesInteger : (ofListOf (10 ^ digitLimit : Nat)).toHost.Writes
          (.int (10 ^ digitLimit : Nat)) :=
        .inside List.mem_cons_self (.inside List.mem_cons_self (.itself _))
      have long : 10 ^ digitLimit ≤ Int.natAbs (10 ^ digitLimit : Nat) :=
        (Int.natAbs_natCast _).ge
      exact absurd long (total.mp ⟨text?, written⟩ _ writesInteger)

/-- A list in which a text claims to be a number of single precision is made like any other, and
has no text. -/
theorem not_forall_asString_total :
    ¬ ∀ value : Value, value.Made →
      ∃ text?, value.asString = .ok text? ∧ (text? = none ↔ value.tag = .null) := by
  intro total
  obtain ⟨text?, written, _⟩ := total listOfMisfit made_listOfMisfit
  have hasText := made_listOfMisfit.wellTagged.isOk_asString
  rw [written, isWritable_listOfMisfit] at hasText
  cases hasText

end Value

end CalcShell
