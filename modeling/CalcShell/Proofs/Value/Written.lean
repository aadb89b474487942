import CalcShell.Proofs.Value.Content

/-!
# Values that can be written

The text of a host value is there unless an integer in it has too many digits, or a
value in it claims to be of single precision and wraps nothing that is.  For a value
made by one of the constructors this decides whether it has a text.
-/

namespace CalcShell

open Number

namespace Host

/-- What the text of a number of single precision can be made of. -/
def isSingleWritable : Host → Bool
  | .float _ => true
  | .int value => (Double.ofInt? value).isSome
  | .bool value => (Double.ofInt? (boolInt value)).isSome
  | _ => false

mutual

/-- Whether nothing in a host value keeps it from being written. -/
def isWritable : Host → Bool
  | .int value => value.natAbs < 10 ^ digitLimit
  | .list items | .tuple items | .set _ items => areWritable items
  | .map entries => areEntriesWritable entries
  | .tagged raw tag _ =>
    tag = .null || (if tag = .float then raw.isSingleWritable else raw.isWritable)
  | .range start stop step =>
    [start, stop, step].all fun bound => bound.natAbs < 10 ^ digitLimit
  | .null | .bool _ | .float _ | .text _ | .bytes .. | .array _ | .object .. => true

def areWritable : List Host → Bool
  | [] => true
  | item :: rest => item.isWritable && areWritable rest

def areEntriesWritable : List (Host × Host) → Bool
  | [] => true
  | (key, value) :: rest =>
    key.isWritable && (value.isWritable && areEntriesWritable rest)

end

theorem isOk_singleTextOf (value : Int) (double? : Option Double) :
    (singleTextOf value double?).isOk = double?.isSome := by
  cases double? with
  | none => rfl
  | some double =>
      rw [singleTextOf]
      split <;> rfl

theorem isOk_singleIntText (value : Int) :
    (singleIntText value).isOk = (Double.ofInt? value).isSome := by
  rw [singleIntText, isOk_singleTextOf]

theorem isOk_singleString (host : Host) : host.singleString.isOk = host.isSingleWritable := by
  cases host with
  | int value => exact isOk_singleIntText value
  | bool value => exact isOk_singleIntText (boolInt value)
  | _ => rfl

theorem isOk_writeInt (value : Int) :
    (writeInt value).isOk = decide (value.natAbs < 10 ^ digitLimit) := by
  unfold writeInt
  split
  · next long => simp [Nat.not_lt.mpr long, Except.isOk, Except.toBool]
  · next short => simp [Nat.not_le.mp short, Except.isOk, Except.toBool]

/-- What is made of something that can fail is there if that is. -/
theorem isOk_bind_return {given answer : Type} (first : Except Fault given)
    (make : given → answer) :
    (do return make (← first) : Except Fault answer).isOk = first.isOk := by
  cases first <;> rfl

theorem isOk_both {left right answer : Type} (first : Except Fault left)
    (second : Except Fault right) (make : left → right → answer) :
    (do return make (← first) (← second) : Except Fault answer).isOk =
      (first.isOk && second.isOk) := by
  cases first with
  | error fault => rfl
  | ok given => cases second <;> rfl

theorem isOk_rangeText (start stop step : Int) :
    (rangeText start stop step).isOk =
      [start, stop, step].all fun bound => bound.natAbs < 10 ^ digitLimit := by
  simp only [List.all_cons, List.all_nil, Bool.and_true, ← isOk_writeInt]
  rw [rangeText]
  by_cases single : step = 1
  · have short : (writeInt step).isOk = true := by
      rw [isOk_writeInt, single]
      exact decide_eq_true (Nat.one_lt_pow (by decide) (by decide))
    rw [short, Bool.and_true]
    simp only [if_pos single]
    exact isOk_both _ _ fun first last => s!"range({first}, {last})"
  · simp only [if_neg single]
    cases writeInt start with
    | error fault => rfl
    | ok first => cases writeInt stop <;> cases writeInt step <;> rfl

theorem isWritable_int_of_le {value : Int} (long : 10 ^ digitLimit ≤ value.natAbs) :
    (int value).isWritable = false := by
  rw [isWritable, decide_eq_false_iff_not]
  exact Nat.not_lt.mpr long

mutual

/-- A host value has a text exactly when it can be written. -/
theorem isOk_render : ∀ host : Host, host.render.isOk = host.isWritable
  | .int value => by rw [render, isWritable, isOk_writeInt]
  | .list items | .tuple items | .set _ items => by
      rw [render, isWritable, isOk_bind_return, isOk_renderItems items]
  | .map entries => by
      rw [render, isWritable, isOk_bind_return, isOk_renderEntries entries]
  | .tagged raw tag customName => by
      rw [isWritable]
      cases tag with
      | null => simp [render, Except.isOk, Except.toBool]
      | float => simp [render, isOk_singleString raw]
      | _ => simp [render, isOk_render raw]
  | .range start stop step => by rw [render, isWritable, isOk_rangeText]
  | .null | .bool _ | .float _ | .text _ | .bytes .. | .array _ | .object .. => by
      rw [render, isWritable]
      rfl

theorem isOk_renderItems : ∀ items : List Host, (renderItems items).isOk = areWritable items
  | [] => rfl
  | item :: rest => by
      rw [renderItems, areWritable, isOk_both, isOk_render item, isOk_renderItems rest]

theorem isOk_renderEntries :
    ∀ entries : List (Host × Host), (renderEntries entries).isOk = areEntriesWritable entries
  | [] => rfl
  | (key, value) :: rest => by
      rw [renderEntries, areEntriesWritable, ← isOk_render key, ← isOk_render value,
        ← isOk_renderEntries rest]
      cases key.render with
      | error fault => rfl
      | ok keyText => cases value.render <;> cases renderEntries rest <;> rfl

end

end Host

namespace Value

/-- The values that the constructors make. -/
inductive Made : Value → Prop
  | null : Made null
  | of (registry : TypeRegistry) (raw : Host) : Made (of registry raw)
  | ofInt (raw : Host) {value : Value} (made : ofInt raw = .ok value) : Made value
  | ofLong (raw : Host) {value : Value} (made : ofLong raw = .ok value) : Made value
  | ofDouble (raw : Host) {value : Value} (made : ofDouble raw = .ok value) : Made value
  | ofFloat (raw : Host) {value : Value} (made : ofFloat raw = .ok value) : Made value
  | ofBoolean (raw : Host) : Made (ofBoolean raw)
  | ofString (raw : Host) {value : Value} (made : ofString raw = .ok value) : Made value
  | ofList (raw : Host) {value : Value} (made : ofList raw = .ok value) : Made value
  | ofMap (raw : Host) {value : Value} (made : ofMap raw = .ok value) : Made value
  | ofType (raw name : Host) {value : Value} (made : ofType raw name = .ok value) : Made value

/-- What writing a made value depends on: only a null value is tagged as one, and only doubles
as numbers of single precision. -/
structure WellTagged (value : Value) : Prop where
  null : value.tag = .null → value.raw = .null
  float : value.tag = .float → ∃ number, value.raw = .float number

variable {value : Value}

/-- What a host value becomes has the custom name of its class, or else the tag that goes with
what it is. -/
theorem exists_custom_or_of_eq (registry : TypeRegistry) (raw : Host) :
    (∃ name, of registry raw = ⟨raw, .custom, some name⟩) ∨
      of registry raw = ⟨raw, raw.builtInTag, none⟩ := by
  cases raw with
  | null => exact Or.inr rfl
  | _ =>
      unfold of TypeRegistry.infer
      cases registry.lookup _ with
      | some name => exact Or.inl ⟨name, rfl⟩
      | none => exact Or.inr rfl

theorem integerTag_eq (number : Int) :
    integerTag number = .integer ∨ integerTag number = .long ∨ integerTag number = .object := by
  rw [integerTag]
  split
  · exact Or.inl rfl
  · split
    · exact Or.inr (Or.inl rfl)
    · exact Or.inr (Or.inr rfl)

theorem admits_of (registry : TypeRegistry) (raw : Host) :
    (of registry raw).tag.admits (of registry raw).raw = true := by
  rcases exists_custom_or_of_eq registry raw with ⟨name, isCustom⟩ | isBuiltIn
  · rw [isCustom]
    rfl
  · rw [isBuiltIn]
    exact raw.admits_builtInTag

/-- The constructors choose tag and content together. -/
theorem Made.admits (made : value.Made) : value.tag.admits value.raw = true := by
  cases made with
  | null | ofBoolean raw => rfl
  | of registry raw => exact admits_of registry raw
  | ofInt raw made | ofLong raw made =>
      obtain ⟨number, rfl⟩ := exists_of_return_eq_ok made
      exact decide_eq_true (inRange_wrap (by decide) number)
  | ofDouble raw made | ofFloat raw made | ofList raw made | ofType raw name made =>
      obtain ⟨_, rfl⟩ := exists_of_return_eq_ok made
      rfl
  | ofMap raw made =>
      obtain ⟨host, isMap, last⟩ := bind_eq_ok_iff.mp made
      obtain rfl := Except.ok.inj last
      obtain ⟨entries, rfl⟩ := Host.exists_map_of_toMap isMap
      rfl
  | ofString raw made =>
      cases raw with
      | text written =>
          obtain rfl := Except.ok.inj made
          rfl
      | _ => cases made

theorem Made.wellTagged (made : value.Made) : value.WellTagged := by
  have admitted := made.admits
  obtain ⟨raw, tag, name?⟩ := value
  constructor
  · rintro rfl
    cases raw with
    | null => rfl
    | _ => cases admitted
  · rintro rfl
    cases raw with
    | float number => exact ⟨number, rfl⟩
    | _ => cases admitted

/-- A value has a text, or is the null value, exactly when what it wraps can be written. -/
theorem WellTagged.isOk_asString (wellTagged : value.WellTagged) :
    value.asString.isOk = value.raw.isWritable := by
  rw [asString]
  split
  · next isNull =>
      rw [wellTagged.null isNull, Host.isWritable]
      rfl
  · next isFloat =>
      obtain ⟨number, isDouble⟩ := wellTagged.float isFloat
      rw [isDouble, Host.isWritable]
      rfl
  · rw [← Host.isOk_render]
    cases value.raw.render <;> rfl

/-- Only a value tagged as null gives no text. -/
theorem asString_eq_ok_none_iff : value.asString = .ok none ↔ value.tag = .null := by
  have wrapped (text : Except Fault String) : (some <$> text : Except Fault _) ≠ .ok none := by
    cases text <;> simp
  rw [asString]
  split
  · next isNull => simp [isNull]
  · next isFloat => simp [isFloat, wrapped]
  · next notNull _ =>
      exact ⟨fun nothing => absurd nothing (wrapped _), fun isNull => absurd isNull notNull⟩

theorem WellTagged.asString_of_int (wellTagged : value.WellTagged) {number : Int}
    (raw : value.raw = .int number) (short : number.natAbs < 10 ^ digitLimit) :
    value.asString = .ok (some (intText number)) := by
  rw [asString]
  split
  · next isNull =>
      rw [wellTagged.null isNull] at raw
      cases raw
  · next isFloat =>
      obtain ⟨double, isDouble⟩ := wellTagged.float isFloat
      rw [isDouble] at raw
      cases raw
  · rw [raw, Host.render, writeInt, if_neg (Nat.not_le.mpr short)]
    rfl

/-- The value of a list in which there is a text that claims to be a number of single precision. -/
def listOfMisfit : Value :=
  of .empty (.list [.tagged (.text "abc") .float none])

theorem made_listOfMisfit : listOfMisfit.Made :=
  Made.of _ _

theorem isWritable_listOfMisfit : listOfMisfit.raw.isWritable = false := by
  decide +kernel

theorem OfKind.made {kind : NumericKind} (ofKind : OfKind kind value) : value.Made := by
  cases ofKind with
  | integer number => exact Made.ofInt (.int number) rfl
  | long number => exact Made.ofLong (.int number) rfl
  | float number => exact Made.ofFloat (.float number) rfl
  | double number => exact Made.ofDouble (.float number) rfl

theorem isWritable_int_wrap {width : Nat} (positive : 0 < width) (short : width ≤ digitLimit)
    (number : Int) : (Host.int (wrap width number)).isWritable = true := by
  obtain ⟨low, high⟩ := inRange_wrap positive number
  have below : 2 ^ (width - 1) < 10 ^ digitLimit := by
    calc 2 ^ (width - 1) < 2 ^ digitLimit := Nat.pow_lt_pow_right Nat.one_lt_two (by omega)
      _ ≤ 10 ^ digitLimit := Nat.pow_le_pow_left (by decide) digitLimit
  rw [Host.isWritable, decide_eq_true_eq]
  generalize 10 ^ digitLimit = limit at below ⊢
  omega

theorem OfKind.isWritable {kind : NumericKind} (ofKind : OfKind kind value) :
    value.raw.isWritable = true := by
  cases ofKind with
  | integer number => exact isWritable_int_wrap (by decide) (by decide) number
  | long number => exact isWritable_int_wrap (by decide) (by decide) number
  | float number => exact Host.isWritable.eq_def _
  | double number => exact Host.isWritable.eq_def _

end Value

end CalcShell
