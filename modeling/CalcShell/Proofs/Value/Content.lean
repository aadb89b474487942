import CalcShell.Proofs.Number.Wrap
import CalcShell.Proofs.Value.Kind
import CalcShell.Registry

/-!
# What tags admit

A tag says what is stored under it: an integer of a width, a double, a text, one of the
containers.  Under the tags of a collection, of an object and of a custom value anything
may be stored.  A number that stores what its tag says is one that can be computed with.
-/

namespace CalcShell

open Number

/-- Whether a host value is of the kind that is stored under a tag. -/
def Tag.admits : Tag → Host → Bool
  | .null, .null | .double, .float _ | .float, .float _ | .boolean, .bool _ | .string, .text _
  | .list, .list _ | .map, .map _ | .array, .tuple _ | .array, .bytes .. | .array, .array _
  | .collection, _ | .object, _ | .custom, _ => true
  | .integer, .int number => decide (InRange integerWidth number)
  | .long, .int number => decide (InRange longWidth number)
  | _, _ => false

theorem admits_integerTag (number : Int) : (integerTag number).admits (.int number) = true := by
  rw [integerTag]
  split
  · next inRange => exact decide_eq_true inRange
  · split
    · next inRange => exact decide_eq_true inRange
    · rfl

theorem Host.admits_builtInTag (raw : Host) : raw.builtInTag.admits raw = true := by
  cases raw with
  | int number => exact admits_integerTag number
  | _ => rfl

theorem Host.exists_map_of_toMap {raw host : Host} (made : raw.toMap = .ok host) :
    ∃ entries, host = .map entries := by
  unfold toMap at made
  split at made
  · exact ⟨_, (Except.ok.inj made).symm⟩
  · obtain ⟨members, _, rest⟩ := bind_eq_ok_iff.mp made
    obtain ⟨pairs, _, last⟩ := bind_eq_ok_iff.mp rest
    exact ⟨_, (Except.ok.inj last).symm⟩

namespace Value

/-- The numbers of a kind that store what their tag says.  Under the tag of single precision
any double may be stored. -/
inductive IsNumber : NumericKind → Value → Prop
  | integer {number : Int} (inRange : InRange integerWidth number) (name? : Option String) :
      IsNumber .integer ⟨.int number, .integer, name?⟩
  | long {number : Int} (inRange : InRange longWidth number) (name? : Option String) :
      IsNumber .long ⟨.int number, .long, name?⟩
  | float (number : Double) (name? : Option String) :
      IsNumber .float ⟨.float number, .float, name?⟩
  | double (number : Double) (name? : Option String) :
      IsNumber .double ⟨.float number, .double, name?⟩

variable {kind : NumericKind} {value : Value}

theorem IsNumber.of_admits (admitted : value.tag.admits value.raw = true)
    (numeric : value.numericKind? = some kind) : IsNumber kind value := by
  obtain ⟨raw, tag, name?⟩ := value
  cases tag with
  | integer =>
      obtain rfl := Option.some.inj numeric
      cases raw with
      | int number => exact IsNumber.integer (of_decide_eq_true admitted) name?
      | _ => cases admitted
  | long =>
      obtain rfl := Option.some.inj numeric
      cases raw with
      | int number => exact IsNumber.long (of_decide_eq_true admitted) name?
      | _ => cases admitted
  | float =>
      obtain rfl := Option.some.inj numeric
      cases raw with
      | float number => exact IsNumber.float number name?
      | _ => cases admitted
  | double =>
      obtain rfl := Option.some.inj numeric
      cases raw with
      | float number => exact IsNumber.double number name?
      | _ => cases admitted
  | _ => cases numeric

theorem IsNumber.numericKind?_eq (isNumber : IsNumber kind value) :
    value.numericKind? = some kind := by
  cases isNumber <;> rfl

theorem IsNumber.isNumeric (isNumber : IsNumber kind value) : value.isNumeric = true := by
  rw [Value.isNumeric, isNumber.numericKind?_eq]
  rfl

end Value

end CalcShell
