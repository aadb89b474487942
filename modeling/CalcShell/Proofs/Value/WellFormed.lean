import CalcShell.Proofs.Expression.Results
import CalcShell.Proofs.Registry.Names
import CalcShell.Proofs.Value.Numeric

/-!
# Well-formed values

A value is well formed when its tag admits what it stores, and when it has a custom name
exactly where its tag says so.  All ways to make a value give well-formed ones, whatever
host value they are given and whatever has been registered, and so do operations and
expressions over well-formed values.
-/

namespace CalcShell

open Expression Text

/-- Whether values with a tag go by a custom name, or by none. -/
def Tag.isNamedBy : Tag → Option String → Bool
  | .custom, some name => !isBlankText name
  | .custom, none => false
  | _, name? => name?.isNone

namespace Value

/-- Tag, content and custom name go together. -/
structure WellFormed (value : Value) : Prop where
  content : value.tag.admits value.raw = true
  name : value.tag.isNamedBy value.customName = true

instance (value : Value) : Decidable value.WellFormed :=
  decidable_of_iff
    (value.tag.admits value.raw = true ∧ value.tag.isNamedBy value.customName = true)
    ⟨fun both => ⟨both.1, both.2⟩, fun wellFormed => ⟨wellFormed.content, wellFormed.name⟩⟩

/-- The ways to make a value of host values. -/
inductive Construction where
  | null
  /-- The tag is inferred, with regard to one of the two registries. -/
  | inferred (choice : RegistryChoice) (raw : Host)
  | integer (raw : Host)
  | long (raw : Host)
  | double (raw : Host)
  | float (raw : Host)
  | boolean (raw : Host)
  | string (raw : Host)
  | list (raw : Host)
  | map (raw : Host)
  | custom (raw name : Host)

/-- The value that is made, if the host values allow it. -/
def Construction.value? (registries : Registries) : Construction → Except Fault Value
  | .null => .ok Value.null
  | .inferred choice raw => .ok (Value.of (registries.chosen choice) raw)
  | .integer raw => ofInt raw
  | .long raw => ofLong raw
  | .double raw => ofDouble raw
  | .float raw => ofFloat raw
  | .boolean raw => .ok (ofBoolean raw)
  | .string raw => ofString raw
  | .list raw => ofList raw
  | .map raw => ofMap raw
  | .custom raw name => ofType raw name

variable {value : Value}

theorem Construction.made {registries : Registries} {construction : Construction}
    (made : construction.value? registries = .ok value) : value.Made := by
  cases construction with
  | null => exact Except.ok.inj made ▸ Made.null
  | inferred choice raw => exact Except.ok.inj made ▸ Made.of _ raw
  | integer raw => exact Made.ofInt raw made
  | long raw => exact Made.ofLong raw made
  | double raw => exact Made.ofDouble raw made
  | float raw => exact Made.ofFloat raw made
  | boolean raw => exact Except.ok.inj made ▸ Made.ofBoolean raw
  | string raw => exact Made.ofString raw made
  | list raw => exact Made.ofList raw made
  | map raw => exact Made.ofMap raw made
  | custom raw name => exact Made.ofType raw name made

theorem isNamedBy_builtInTag (raw : Host) : raw.builtInTag.isNamedBy none = true := by
  cases raw with
  | int number =>
      rcases integerTag_eq number with tag | tag | tag <;> rw [Host.builtInTag, tag] <;> rfl
  | _ => rfl

theorem isNamedBy_of {registry : TypeRegistry} (named : registry.IsNamed) (raw : Host) :
    (of registry raw).tag.isNamedBy (of registry raw).customName = true := by
  unfold of TypeRegistry.infer
  split
  next tag name? inferred =>
  split at inferred
  · obtain ⟨rfl, rfl⟩ := Prod.mk.inj inferred
    rfl
  · split at inferred
    · next name found =>
        obtain ⟨rfl, rfl⟩ := Prod.mk.inj inferred
        simp [Tag.isNamedBy, named.of_lookup found]
    · obtain ⟨rfl, rfl⟩ := Prod.mk.inj inferred
      exact isNamedBy_builtInTag raw

theorem Construction.isNamedBy {registries : Registries} (named : registries.IsNamed)
    {construction : Construction} (made : construction.value? registries = .ok value) :
    value.tag.isNamedBy value.customName = true := by
  cases construction with
  | null | boolean raw =>
      obtain rfl := Except.ok.inj made
      rfl
  | inferred choice raw =>
      obtain rfl := Except.ok.inj made
      exact isNamedBy_of (named choice) raw
  | integer raw | long raw | double raw | float raw | list raw | map raw =>
      obtain ⟨_, rfl⟩ := exists_of_return_eq_ok made
      rfl
  | string raw =>
      cases raw with
      | text written =>
          obtain rfl := Except.ok.inj made
          rfl
      | _ => cases made
  | custom raw name =>
      obtain ⟨text, isName, last⟩ := bind_eq_ok_iff.mp made
      obtain rfl := Except.ok.inj last
      simp [Tag.isNamedBy, isBlankText_of_requireTypeName isName]

/-- However a value is made, and whatever has been registered before, it is well formed. -/
theorem Construction.wellFormed {registries : Registries} (named : registries.IsNamed)
    {construction : Construction} (made : construction.value? registries = .ok value) :
    value.WellFormed where
  content := (Construction.made made).admits
  name := Construction.isNamedBy named made

/-! ## Results -/

theorem OfKind.wellFormed {kind : NumericKind} (ofKind : OfKind kind value) :
    value.WellFormed where
  content := ofKind.made.admits
  name := by cases ofKind <;> rfl

end Value

/-- Operands that are no numbers are refused, whatever they store. -/
theorem Operator.onValues_of_not_numeric (operator : Operator) {left right : Value}
    (notNumeric : (left.isNumeric && right.isNumeric) = false) :
    operator.onValues left right = .error (.operandsNotNumeric operator.noun) := by
  have refused : Value.widen operator.noun left right =
      .error (.operandsNotNumeric operator.noun) := by
    rw [Value.widen]
    rw [Value.isNumeric, Value.isNumeric] at notNumeric
    cases leftKind : left.numericKind? with
    | none => rfl
    | some kind =>
        cases rightKind : right.numericKind? with
        | none => rfl
        | some other =>
            rw [leftKind, rightKind] at notNumeric
            cases notNumeric
  cases operator with
  | plus => rw [onValues, Value.add, Value.combine, refused]; rfl
  | minus => rw [onValues, Value.subtract, Value.combine, refused]; rfl
  | times => rw [onValues, Value.multiply, Value.combine, refused]; rfl
  | dividedBy => rw [onValues, Value.divide, refused]; rfl

/-- Well-formed numbers have a well-formed sum, difference, product and quotient. -/
theorem Operator.exists_wellFormed_onValues (operator : Operator) {left right : Value}
    (leftWellFormed : left.WellFormed) (rightWellFormed : right.WellFormed)
    (numeric : (left.isNumeric && right.isNumeric) = true) :
    ∃ value, operator.onValues left right = .ok value ∧ value.WellFormed ∧
      value.isNumeric = true := by
  obtain ⟨leftNumeric, rightNumeric⟩ := Bool.and_eq_true_iff.mp numeric
  obtain ⟨leftKind, leftIs⟩ := Option.isSome_iff_exists.mp leftNumeric
  obtain ⟨rightKind, rightIs⟩ := Option.isSome_iff_exists.mp rightNumeric
  have succeeds := operator.isOk_onValues
    (Value.IsNumber.of_admits leftWellFormed.content leftIs)
    (Value.IsNumber.of_admits rightWellFormed.content rightIs)
  cases result : operator.onValues left right with
  | error fault =>
      rw [result] at succeeds
      cases succeeds
  | ok value =>
      obtain ⟨_, _, _, _, ofKind⟩ := Operator.ofKind_of_onValues result
      exact ⟨value, rfl, ofKind.wellFormed, ofKind.isNumeric⟩

/-- Tag and content of a value agree, whatever is made of host values, whatever was registered
before, whatever operations are applied and whatever expression is evaluated.  An operation on
well-formed values fails only where one of them is no number. -/
theorem tag_agrees_with_content :
    (∀ (changes : List (RegistryChoice × RegistryChange)) (construction : Value.Construction)
        (value : Value),
      construction.value? (Registries.after changes) = .ok value → value.WellFormed) ∧
    (∀ (operator : Operator) (left right : Value), left.WellFormed → right.WellFormed →
      if left.isNumeric && right.isNumeric then
        ∃ value, operator.onValues left right = .ok value ∧ value.WellFormed ∧
          value.isNumeric = true
      else operator.onValues left right = .error (.operandsNotNumeric operator.noun)) ∧
    ∀ (limit : Nat) (environment : Environment) (text : String) (value : Value),
      (∀ name bound, environment name = .ok (some bound) → bound.WellFormed) →
      (evaluateWithin limit environment text).outcome = .ok value → value.WellFormed := by
  refine ⟨?_, ?_, ?_⟩
  · intro changes construction value made
    exact Value.Construction.wellFormed (Registries.isNamed_after changes) made
  · intro operator left right leftWellFormed rightWellFormed
    split
    · next numeric =>
        exact operator.exists_wellFormed_onValues leftWellFormed rightWellFormed numeric
    · next notNumeric =>
        exact operator.onValues_of_not_numeric (Bool.eq_false_iff.mpr notNumeric)
  · intro limit environment text value bound evaluated
    rw [outcome_evaluateWithin] at evaluated
    rcases (wellRead_ofText limit text.toList).bound_or_ofKind evaluated with
      ⟨name, isBound⟩ | ⟨kind, ofKind⟩
    · exact bound name value isBound
    · exact ofKind.wellFormed

/-- An integer whose class has a name is a custom value, and the greatest long integer stays one
when it is counted up. -/
theorem tag_agrees_with_content_of_extremes :
    let changes := [(RegistryChoice.common, RegistryChange.register (.cls .int) (.text "Count"))]
    let counted : Value := ⟨.int 5, .custom, some "Count"⟩
    let greatestLong := Value.long (Number.greatest longWidth)
    let environment : Environment := fun _ => .ok (some greatestLong)
    ((Value.Construction.inferred .common (.int 5)).value? (Registries.after changes) =
        .ok counted ∧ counted.WellFormed) ∧
    (greatestLong.WellFormed ∧ (Value.integer 1).WellFormed ∧
      ∃ value, greatestLong.add (Value.integer 1) = .ok value ∧ value.WellFormed) ∧
    (∀ name bound, environment name = .ok (some bound) → bound.WellFormed) ∧
      ∃ value, (evaluate environment "a + 1").outcome = .ok value ∧ value.WellFormed := by
  intro changes counted greatestLong environment
  have made : (Value.Construction.inferred .common (.int 5)).value? (Registries.after changes) =
      .ok counted := rfl
  have longWellFormed : greatestLong.WellFormed := (Value.OfKind.long _).wellFormed
  have oneWellFormed : (Value.integer 1).WellFormed := (Value.OfKind.integer 1).wellFormed
  have bound : ∀ name bound, environment name = .ok (some bound) → bound.WellFormed := by
    intro name bound isBound
    obtain rfl := Option.some.inj (Except.ok.inj isBound)
    exact longWellFormed
  have evaluates : (evaluate environment "a + 1").outcome.isOk = true := by decide +kernel
  obtain ⟨value, evaluated⟩ := exists_of_isOk evaluates
  obtain ⟨constructed, applied, computed⟩ := tag_agrees_with_content
  obtain ⟨sum, added, sumWellFormed, _⟩ :=
    applied .plus greatestLong (Value.integer 1) longWellFormed oneWellFormed
  exact ⟨⟨made, constructed changes _ counted made⟩,
    ⟨longWellFormed, oneWellFormed, sum, added, sumWellFormed⟩,
    bound, value, evaluated, computed depthLimit environment "a + 1" value bound evaluated⟩

end CalcShell
