import CalcShell.Proofs.Command.Execute
import CalcShell.Proofs.Expression.IntegerText
import CalcShell.Proofs.Number.DigitRows
import CalcShell.Proofs.Table.Binding
import CalcShell.Proofs.Value.WellFormed

/-!
# Integers that are printed and read

An integer is printed as one of its spellings, with a minus sign if it is negative and
without zeros at its front.  Reading the text gives the integer back where it fits its width,
and the text is refused where it does not.
-/

namespace CalcShell

open Expression Number Text

namespace Expression.IntegerSpelling

/-- The way in which an integer is printed. -/
def ofInt (number : Int) : IntegerSpelling where
  sign := if number < 0 then .minus else .none
  digits := digitsOf number.natAbs
  nonempty := Nat.toDigits_ne_nil
  decimal := fun _ member => Nat.isDigit_of_mem_toDigits (by decide) (by decide) member

variable (number : Int)

theorem text_ofInt : (ofInt number).text = (intText number).toList := by
  rw [intText, Int.toString_eq_repr]
  cases number with
  | ofNat magnitude =>
      rw [Int.repr, Nat.toList_repr]
      rfl
  | negSucc below =>
      have negative : Int.negSucc below < 0 := Int.negSucc_lt_zero below
      rw [Int.repr, String.toList_append, Nat.toList_repr, text, ofInt]
      simp only [negative, if_true]
      rfl

theorem value_ofInt : (ofInt number).value = number := by
  have magnitude : digitsValue (digitsOf number.natAbs) = number.natAbs :=
    Nat.ofDigitChars_ten_toDigits
  rw [value, ofInt, magnitude]
  by_cases negative : number < 0
  · simp only [negative, if_true]
    show -(number.natAbs : Int) = number
    omega
  · simp only [negative, if_false]
    show (number.natAbs : Int) = number
    omega

/-- In layers of parentheses or without them the text of an integer is the integer, or is
refused if it does not fit the width. -/
theorem outcome_inLayers_intText {number : Int} (short : number.natAbs < 10 ^ digitLimit)
    (environment : Environment) (depth layers : Nat) :
    (evaluateWithin (depth + 1) environment
        (String.ofList (inLayers layers (intText number).toList))).outcome =
      if InRange integerWidth number then .ok ⟨.int number, .integer, none⟩
      else .error (.invalid (intText number)) := by
  have read := (ofInt number).literal?_of_short ((length_digitsOf_le_iff (by decide)).mpr short)
  rw [value_ofInt] at read
  have plain := (ofInt number).outcome_evaluateWithin_text environment depth
  rw [outcome_evaluateWithin, String.toList_ofList, read] at plain
  rw [outcome_evaluateWithin, String.toList_ofList, ← text_ofInt,
    outcome_inLayers environment (ofInt number).tight_text (ofInt number).isBalanced_text, plain]
  by_cases inRange : InRange integerWidth number
  · simp only [if_pos inRange]
    rw [Value.integer, wrap_of_inRange (by decide) inRange]
  · simp only [if_neg inRange, text_ofInt, String.ofList_toList]

end Expression.IntegerSpelling

namespace Value

variable {value : Value} {number : Int}

theorem asString_of (registry : TypeRegistry) (short : number.natAbs < 10 ^ digitLimit) :
    (of registry (.int number)).asString = .ok (some (intText number)) := by
  refine (Made.of registry (.int number)).wellTagged.asString_of_int ?_ short
  rcases exists_custom_or_of_eq registry (.int number) with ⟨name, isCustom⟩ | isBuiltIn
  · rw [isCustom]
  · rw [isBuiltIn]

theorem natAbs_lt_of_inRange (inRange : InRange integerWidth number) :
    number.natAbs < 10 ^ digitLimit := by
  have writable := isWritable_int_wrap (by decide : 0 < integerWidth) (by decide) number
  rwa [wrap_of_inRange (by decide) inRange, Host.isWritable, decide_eq_true_eq] at writable

theorem asString_integer (inRange : InRange integerWidth number) :
    Value.asString ⟨.int number, .integer, none⟩ = .ok (some (intText number)) := by
  refine WellTagged.asString_of_int ?_ rfl (natAbs_lt_of_inRange inRange)
  rw [← wrap_of_inRange (by decide) inRange]
  exact (OfKind.integer number).made.wellTagged

theorem WellFormed.exists_eq_integer (wellFormed : value.WellFormed)
    (tagged : value.tag = .integer) :
    ∃ number, InRange integerWidth number ∧ value = ⟨.int number, .integer, none⟩ := by
  have numeric : value.numericKind? = some .integer := by
    rw [numericKind?, tagged]
    rfl
  have named := wellFormed.name
  cases IsNumber.of_admits wellFormed.content numeric with
  | @integer number inRange name? =>
      obtain rfl : name? = none := Option.isNone_iff_eq_none.mp named
      exact ⟨number, inRange, rfl⟩

theorem same_integer_self (number : Int) :
    Value.same ⟨.int number, .integer, none⟩ ⟨.int number, .integer, none⟩ = true := by
  simp [Value.same, toHost, Host.same, sameQuantity, Host.quantity?]

end Value

namespace Command

variable {table : SymbolTable} {value : Value}

/-- An assignment of the text of an integer binds the name to the integer. -/
theorem execute_assign_intText (depth : Nat) (tracing : Bool) (table : SymbolTable)
    {target : String} (named : isName (trim target.toList) = true) {number : Int}
    (inRange : InRange integerWidth number) :
    let execution := execute (depth + 1) tracing .assign table [target, intText number]
    execution.result = .ok (Report.ok s!"{trimmed target} = {intText number}") ∧
      execution.state = table.insert (trimmed target) ⟨.int number, .integer, none⟩ := by
  have short := Value.natAbs_lt_of_inRange inRange
  have evaluated := IntegerSpelling.outcome_inLayers_intText short (Store.lookup table) depth 0
  rw [if_pos inRange, inLayers, String.ofList_toList] at evaluated
  have bound : binding? (depth + 1) table [target, intText number] =
      some (trimmed target, ⟨.int number, .integer, none⟩) :=
    binding?_eq_some_iff.mpr ⟨target, _, rfl, named, valueOf?_eq_some_iff.mpr evaluated, rfl⟩
  obtain ⟨changed, reported⟩ := execute_assign_of_some tracing bound
  rw [Value.asString_integer inRange] at reported
  exact ⟨reported, changed⟩

end Command

/-- The text of an integer, with or without parentheses around it, evaluates to the integer where
it fits its width and is an error of syntax where it does not.  So the text of an integer variable
can be assigned to another variable, which is then bound to an equal value, like the first one. -/
theorem printed_integer_reads_back :
    (∀ (registry : TypeRegistry) (number : Int), number.natAbs < 10 ^ digitLimit →
      ∃ text, (Value.of registry (.int number)).asString = .ok (some text) ∧
        ∀ (environment : Environment) (depth layers : Nat),
          let printed := String.ofList (inLayers layers text.toList)
          let outcome := (evaluateWithin (depth + 1) environment printed).outcome
          (InRange integerWidth number → outcome = .ok ⟨.int number, .integer, none⟩) ∧
          (¬ InRange integerWidth number →
            ∃ error, outcome = .error error ∧ error.kind = .malformed)) ∧
    ∀ (depth : Nat) (tracing : Bool) (table : SymbolTable) (source target : String)
      (value : Value),
      table.find? source = some value → value.tag = .integer → value.WellFormed →
      isName (trim target.toList) = true →
      ∃ text, value.asString = .ok (some text) ∧
        let execution := Command.execute (depth + 1) tracing .assign table [target, text]
        execution.result = .ok (Report.ok s!"{trimmed target} = {text}") ∧
        (∃ stored, execution.state.find? (trimmed target) = some stored ∧
          stored.same value = true) ∧
        (source ≠ trimmed target → execution.state.find? source = some value) := by
  constructor
  · intro registry number short
    refine ⟨intText number, Value.asString_of registry short, ?_⟩
    intro environment depth layers printed outcome
    have evaluated : outcome = _ :=
      IntegerSpelling.outcome_inLayers_intText short environment depth layers
    constructor
    · intro inRange
      rw [evaluated, if_pos inRange]
    · intro exceeds
      rw [evaluated, if_neg exceeds]
      exact ⟨_, rfl, rfl⟩
  · intro depth tracing table source target value found tagged wellFormed named
    obtain ⟨number, inRange, rfl⟩ := wellFormed.exists_eq_integer tagged
    obtain ⟨reported, changed⟩ := Command.execute_assign_intText depth tracing table named inRange
    refine ⟨intText number, Value.asString_integer inRange, reported, ?_, ?_⟩
    · rw [changed, SymbolTable.find?_insert_self]
      exact ⟨_, rfl, Value.same_integer_self number⟩
    · intro different
      rw [changed, SymbolTable.find?_insert_of_ne table different, found]

/-- The least integer inside two pairs of parentheses, and a copy of an integer variable. -/
theorem printed_integer_reads_back_of_least :
    let least : Int := -2147483648
    let environment : Environment := fun _ => .ok none
    let table := SymbolTable.empty.insert "a" ⟨.int least, .integer, none⟩
    (least.natAbs < 10 ^ digitLimit ∧ InRange integerWidth least ∧
      ∃ text, (Value.of .empty (.int least)).asString = .ok (some text) ∧
        (evaluate environment (String.ofList (inLayers 2 text.toList))).outcome =
          .ok ⟨.int least, .integer, none⟩) ∧
    (table.find? "a" = some ⟨.int least, .integer, none⟩ ∧
      ∃ text stored,
        (Command.execute depthLimit false .assign table ["b", text]).state.find? "b" =
          some stored ∧ stored.same ⟨.int least, .integer, none⟩ = true ∧
        (Command.execute depthLimit false .assign table ["b", text]).state.find? "a" =
          some ⟨.int least, .integer, none⟩) := by
  intro least environment table
  have inRange : InRange integerWidth least := by decide +kernel
  have short := Value.natAbs_lt_of_inRange inRange
  have found : table.find? "a" = some ⟨.int least, .integer, none⟩ :=
    SymbolTable.find?_insert_self _
  obtain ⟨readsBack, copies⟩ := printed_integer_reads_back
  obtain ⟨text, written, evaluated⟩ := readsBack .empty least short
  obtain ⟨printed, _, _, ⟨stored, bound, same⟩, kept⟩ :=
    copies 449 false table "a" "b" _ found rfl ⟨decide_eq_true inRange, rfl⟩ (by decide)
  have noSpaces : trimmed "b" = "b" := by decide
  rw [noSpaces] at bound kept
  exact ⟨⟨short, inRange, text, written, (evaluated environment 449 2).1 inRange⟩, found,
    printed, stored, bound, same, kept (by decide)⟩

end CalcShell
