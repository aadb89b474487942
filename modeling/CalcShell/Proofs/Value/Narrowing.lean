import CalcShell.Proofs.Expression.Reading
import CalcShell.Proofs.Number.Truncation
import CalcShell.Proofs.Value.Numeric

/-!
# Asking values for other forms

A value that stores what its tag says has the forms that go with its tag, and is refused for
its type where it has not; nothing else ever goes wrong.  As an integer of a width a number is
always in range: integers keep their residue, and doubles are cut down.
-/

namespace CalcShell

open Host Number

namespace Value

/-- The value has a form where it is admitted to have one, and otherwise is refused for its
type. -/
def CastsIf {form : Type} (value : Value) (admitted : Prop) (target : String)
    (result : Except Fault form) : Prop :=
  (admitted → ∃ found, result = .ok found) ∧
    (¬ admitted → result = .error (.castFailed value.typeName target))

/-- The tags other than those of numbers under which a truth value can be asked for. -/
def truthTags : List Tag :=
  [.boolean, .null, .string]

/-- What a number becomes as an integer of a width: integers keep their residue, and doubles are
cut down. -/
structure NarrowsTo (width : Nat) (value : Value) (result : Int) : Prop where
  inRange : InRange width result
  residue : ∀ stored, value.raw = .int stored → result ≡ stored [ZMOD 2 ^ width]
  cut : ∀ stored, value.raw = .float stored →
    result = stored.saturated (least width) (greatest width)

variable {kind : NumericKind} {value : Value} {width : Nat}
  (admitted : value.tag.admits value.raw = true)

theorem least_nonpos (width : Nat) : least width ≤ 0 := by
  have positive := Nat.two_pow_pos (width - 1)
  rw [least]
  omega

theorem greatest_nonneg (width : Nat) : 0 ≤ greatest width := by
  have positive := Nat.two_pow_pos (width - 1)
  rw [greatest]
  omega

theorem narrowsTo_wrap (positive : 0 < width) {stored : Int} (isStored : value.raw = .int stored) :
    NarrowsTo width value (wrap width stored) where
  inRange := inRange_wrap positive stored
  residue other isOther := by
    obtain rfl := Host.int.inj (isStored.symm.trans isOther)
    exact wrap_modEq width stored
  cut other isOther := by cases isStored.symm.trans isOther

theorem narrowsTo_truncate {stored : Double} (isStored : value.raw = .float stored) :
    NarrowsTo width value (stored.truncate (least width) (greatest width)) := by
  have ordered := (least_nonpos width).trans (greatest_nonneg width)
  rw [Double.truncate_eq_saturated ordered]
  obtain ⟨low, high⟩ :=
    Double.saturated_mem_range (least_nonpos width) (greatest_nonneg width) stored
  refine ⟨⟨low, ?_⟩, ?_, ?_⟩
  · rw [greatest] at high
    exact Int.lt_of_le_sub_one high
  · intro other isOther
    cases isStored.symm.trans isOther
  · intro other isOther
    obtain rfl := Host.float.inj (isStored.symm.trans isOther)
    rfl

theorem IsNumber.exists_narrowed (isNumber : IsNumber kind value) (positive : 0 < width)
    (target : String) :
    ∃ result, value.narrowed width target = .ok result ∧ NarrowsTo width value result := by
  cases isNumber with
  | integer inRange _ | long inRange _ => exact ⟨_, rfl, narrowsTo_wrap positive rfl⟩
  | float number _ | double number _ => exact ⟨_, rfl, narrowsTo_truncate rfl⟩

include admitted in
theorem castsIf_narrowed {width : Nat} (positive : 0 < width) (target : String) :
    value.CastsIf value.isNumeric target (value.narrowed width target) ∧
      ∀ result, value.narrowed width target = .ok result → NarrowsTo width value result := by
  cases numeric : value.numericKind? with
  | none =>
      have refused : value.narrowed width target = .error (.castFailed value.typeName target) := by
        rw [Value.narrowed, numeric]
        rfl
      simp [CastsIf, isNumeric, numeric, refused]
  | some kind =>
      obtain ⟨result, narrowed, narrowsTo⟩ :=
        (IsNumber.of_admits admitted numeric).exists_narrowed positive target
      simp [CastsIf, isNumeric, numeric, narrowed, narrowsTo]

/-! ## Other forms -/

theorem CastsIf.of_isOk {form : Type} {admitted : Prop} {target : String}
    {result : Except Fault form} (taken : admitted → result.isOk = true)
    (refused : ¬ admitted → result = .error (.castFailed value.typeName target)) :
    value.CastsIf admitted target result :=
  ⟨fun isAdmitted => exists_of_isOk (taken isAdmitted), refused⟩

include admitted

theorem exists_isNumber (numeric : value.isNumeric = true) : ∃ kind, IsNumber kind value := by
  obtain ⟨kind, isKind⟩ := Option.isSome_iff_exists.mp numeric
  exact ⟨kind, IsNumber.of_admits admitted isKind⟩

theorem castsIf_asDouble : value.CastsIf value.isNumeric "double" value.asDouble := by
  refine CastsIf.of_isOk ?_ fun notNumeric => by rw [asDouble, if_neg notNumeric]; rfl
  intro numeric
  obtain ⟨kind, isNumber⟩ := exists_isNumber admitted numeric
  exact isNumber.isOk_asDouble

theorem castsIf_asFloat : value.CastsIf value.isNumeric "float" value.asFloat := by
  refine CastsIf.of_isOk ?_ fun notNumeric => by rw [asFloat, if_neg notNumeric]; rfl
  intro numeric
  obtain ⟨kind, isNumber⟩ := exists_isNumber admitted numeric
  exact isNumber.isOk_asFloat

theorem castsIf_asBoolean :
    value.CastsIf (value.isNumeric ∨ value.tag ∈ truthTags) "boolean" value.asBoolean := by
  have numbers (numeric : value.isNumeric = true) : value.raw.toDouble.isOk = true := by
    obtain ⟨kind, isNumber⟩ := exists_isNumber admitted numeric
    exact isNumber.isOk_toDouble
  obtain ⟨raw, tag, name?⟩ := value
  refine CastsIf.of_isOk ?_ ?_
  · intro hasTruth
    cases tag with
    | boolean | null => rfl
    | integer | long | float | double => exact (isOk_bind_return _ _).trans (numbers rfl)
    | string =>
        cases raw with
        | text written => rfl
        | _ => cases admitted
    | _ => simp [isNumeric, numericKind?, Tag.numericKind?, truthTags] at hasTruth
  · intro noTruth
    cases tag with
    | boolean | null | string | integer | long | float | double =>
        simp [isNumeric, numericKind?, Tag.numericKind?, truthTags] at noTruth
    | _ => rfl

theorem castsIf_asList : value.CastsIf (value.tag = .list) "list" value.asList := by
  obtain ⟨raw, tag, name?⟩ := value
  refine CastsIf.of_isOk ?_ ?_
  · rintro rfl
    cases raw with
    | list items => rfl
    | _ => cases admitted
  · intro noList
    cases tag with
    | list => exact absurd rfl noList
    | _ => rfl

theorem castsIf_asMap : value.CastsIf (value.tag = .map) "map" value.asMap := by
  obtain ⟨raw, tag, name?⟩ := value
  refine CastsIf.of_isOk ?_ ?_
  · rintro rfl
    cases raw with
    | map entries => rfl
    | _ => cases admitted
  · intro noMap
    cases tag with
    | map => exact absurd rfl noMap
    | _ => rfl

omit admitted in
/-- Of two values that store doubles, the one with the larger double becomes the larger integer. -/
theorem le_of_narrowsTo {left right : Value} {leftDouble rightDouble : Double}
    {leftResult rightResult : Int} (leftStored : left.raw = .float leftDouble)
    (rightStored : right.raw = .float rightDouble)
    (order : leftDouble.atMost rightDouble = true) (leftNarrows : NarrowsTo width left leftResult)
    (rightNarrows : NarrowsTo width right rightResult) : leftResult ≤ rightResult := by
  rw [leftNarrows.cut leftDouble leftStored, rightNarrows.cut rightDouble rightStored]
  exact Double.saturated_le_saturated (least_nonpos width) (greatest_nonneg width) order

end Value

/-- A value that stores what its tag says has just the forms that go with the tag, and is refused
for its type where it has not.  The integers that numbers become are in range: integers keep their
residue, and doubles are cut down, the larger double to the larger integer. -/
theorem narrowing_exact :
    (∀ value : Value, value.tag.admits value.raw = true →
      (value.CastsIf value.isNumeric "int" value.asInt ∧
        ∀ result, value.asInt = .ok result → value.NarrowsTo integerWidth result) ∧
      (value.CastsIf value.isNumeric "long" value.asLong ∧
        ∀ result, value.asLong = .ok result → value.NarrowsTo longWidth result) ∧
      value.CastsIf value.isNumeric "double" value.asDouble ∧
      value.CastsIf value.isNumeric "float" value.asFloat ∧
      value.CastsIf (value.isNumeric ∨ value.tag ∈ Value.truthTags) "boolean" value.asBoolean ∧
      value.CastsIf (value.tag = .list) "list" value.asList ∧
      value.CastsIf (value.tag = .map) "map" value.asMap) ∧
    ∀ (left right : Value) (leftDouble rightDouble : Double),
      left.tag.admits left.raw = true → right.tag.admits right.raw = true →
      left.raw = .float leftDouble → right.raw = .float rightDouble →
      leftDouble.atMost rightDouble = true →
      (∀ leftResult rightResult, left.asInt = .ok leftResult → right.asInt = .ok rightResult →
        leftResult ≤ rightResult) ∧
      ∀ leftResult rightResult, left.asLong = .ok leftResult → right.asLong = .ok rightResult →
        leftResult ≤ rightResult := by
  have ofInt {value : Value} (admitted : value.tag.admits value.raw = true) :=
    Value.castsIf_narrowed admitted (by decide : 0 < integerWidth) "int"
  have ofLong {value : Value} (admitted : value.tag.admits value.raw = true) :=
    Value.castsIf_narrowed admitted (by decide : 0 < longWidth) "long"
  constructor
  · intro value admitted
    exact ⟨ofInt admitted, ofLong admitted, Value.castsIf_asDouble admitted,
      Value.castsIf_asFloat admitted, Value.castsIf_asBoolean admitted,
      Value.castsIf_asList admitted, Value.castsIf_asMap admitted⟩
  · intro left right leftDouble rightDouble leftAdmitted rightAdmitted leftStored rightStored order
    constructor
    · intro leftResult rightResult leftNarrowed rightNarrowed
      exact Value.le_of_narrowsTo leftStored rightStored order
        ((ofInt leftAdmitted).2 _ leftNarrowed) ((ofInt rightAdmitted).2 _ rightNarrowed)
    · intro leftResult rightResult leftNarrowed rightNarrowed
      exact Value.le_of_narrowsTo leftStored rightStored order
        ((ofLong leftAdmitted).2 _ leftNarrowed) ((ofLong rightAdmitted).2 _ rightNarrowed)

/-- A double one half beyond the least integer, one half below zero, and an integer that does not
fit. -/
theorem narrowing_exact_of_halves :
    let beyond := Value.double (Double.ofBits 0xC1E0000000100000)
    let below := Value.double (Double.ofBits 0xBFE0000000000000)
    let wide := Value.long 4294967301
    (beyond.tag.admits beyond.raw = true ∧ beyond.asInt = .ok (-2147483648) ∧
      beyond.NarrowsTo integerWidth (-2147483648)) ∧
    (wide.tag.admits wide.raw = true ∧ wide.asInt = .ok 5 ∧ wide.NarrowsTo integerWidth 5) ∧
    (Value.null.tag.admits Value.null.raw = true ∧
      Value.null.asInt = .error (.castFailed "null" "int")) ∧
    below.tag.admits below.raw = true ∧ beyond.asLong = .ok (-2147483648) ∧ below.asLong = .ok 0 ∧
      (Double.ofBits 0xC1E0000000100000).atMost (Double.ofBits 0xBFE0000000000000) = true ∧
      (-2147483648 : Int) ≤ 0 := by
  intro beyond below wide
  obtain ⟨forms, monotone⟩ := narrowing_exact
  have beyondAdmitted : beyond.tag.admits beyond.raw = true := rfl
  have belowAdmitted : below.tag.admits below.raw = true := rfl
  have wideAdmitted : wide.tag.admits wide.raw = true := (Value.OfKind.long _).made.admits
  have nullAdmitted : Value.null.tag.admits Value.null.raw = true := rfl
  have beyondInt : beyond.asInt = .ok (-2147483648) := by decide +kernel
  have beyondLong : beyond.asLong = .ok (-2147483648) := by decide +kernel
  have belowLong : below.asLong = .ok 0 := by decide +kernel
  have wideInt : wide.asInt = .ok 5 := by decide +kernel
  have order : (Double.ofBits 0xC1E0000000100000).atMost
      (Double.ofBits 0xBFE0000000000000) = true := by decide +kernel
  obtain ⟨⟨_, beyondNarrows⟩, _⟩ := forms beyond beyondAdmitted
  obtain ⟨⟨_, wideNarrows⟩, _⟩ := forms wide wideAdmitted
  obtain ⟨⟨nullCasts, _⟩, _⟩ := forms Value.null nullAdmitted
  exact ⟨⟨beyondAdmitted, beyondInt, beyondNarrows _ beyondInt⟩,
    ⟨wideAdmitted, wideInt, wideNarrows _ wideInt⟩, ⟨nullAdmitted, nullCasts.2 (by decide)⟩,
    belowAdmitted, beyondLong, belowLong, order,
    (monotone beyond below _ _ beyondAdmitted belowAdmitted rfl rfl order).2 _ _ beyondLong
      belowLong⟩

end CalcShell
