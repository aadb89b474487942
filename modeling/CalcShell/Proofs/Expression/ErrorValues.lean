import CalcShell.Proofs.Expression.Lookups
import CalcShell.Proofs.Expression.Results
import CalcShell.Proofs.Value.Written

/-!
# Values that stand for errors

An error is given back as a text that begins with the error mark.  No computed value is
such a text, and a variable is one only where it was bound to one.  Where no lookup
finds such a text, the value that an evaluation gives back tells whether there was an
error, and which.
-/

namespace CalcShell

open Expression Text

section Marks

variable {value : Value}

theorem markedText?_of_tag_ne (noText : value.tag ≠ .string) : markedText? value = .ok none := by
  rw [markedText?, if_neg noText]
  rfl

theorem markedText?_of_text {shown : String} (isText : value.tag = .string)
    (asString : value.asString = .ok (some shown)) :
    markedText? value = .ok
      (if errorMark.toList.isPrefixOf shown.toList then
        some (shown.toList.drop errorMark.length)
      else none) := by
  rw [markedText?, if_pos isText, asString]
  show (if errorMark.toList.isPrefixOf shown.toList then _ else _) = _
  split <;> rfl

theorem markedText?_errorValue (message : String) :
    markedText? (errorValue message) = .ok (some (' ' :: message.toList)) := by
  have shown : (errorText message).toList = errorMark.toList ++ ' ' :: message.toList := by
    show (errorMark ++ " " ++ message).toList = _
    simp
  have marked : errorMark.toList.isPrefixOf (errorText message).toList = true := by
    rw [shown, List.isPrefixOf_iff_prefix]
    exact List.prefix_append _ _
  have dropped : (errorText message).toList.drop errorMark.length = ' ' :: message.toList := by
    rw [shown]
    exact List.drop_left
  have asString : (errorValue message).asString = .ok (some (errorText message)) := rfl
  rw [markedText?_of_text rfl asString, if_pos marked, dropped]

theorem isErrorValue_errorValue (message : String) :
    isErrorValue (some (errorValue message)) = .ok true := by
  rw [isErrorValue, markedText?_errorValue]
  rfl

theorem errorMessage?_errorValue (message : String) :
    errorMessage? (some (errorValue message)) = .ok (some (trimmed message)) := by
  have blank : ∀ char ∈ [' '], isBlank char = true :=
    List.forall_mem_singleton.mpr (by decide)
  have spaced : trim (' ' :: message.toList) = trim message.toList :=
    trim_append_of_blank_left blank
  rw [errorMessage?, markedText?_errorValue]
  show Except.ok (some (String.ofList (trim (' ' :: message.toList)))) = _
  rw [spaced, trimmed]

/-- The value, if it is tagged as a text, has one that does not begin with the error mark. -/
def Value.IsUnmarked (value : Value) : Prop :=
  value.tag = .string →
    ∃ shown, value.asString = .ok (some shown) ∧ ¬ errorMark.toList <+: shown.toList

theorem Value.IsUnmarked.markedText? (unmarked : value.IsUnmarked) :
    markedText? value = .ok none := by
  by_cases isText : value.tag = .string
  · obtain ⟨shown, asString, noMark⟩ := unmarked isText
    rw [← List.isPrefixOf_iff_prefix] at noMark
    rw [markedText?_of_text isText asString, if_neg noMark]
  · exact markedText?_of_tag_ne isText

theorem Value.OfKind.isUnmarked {kind : NumericKind} (ofKind : value.OfKind kind) :
    value.IsUnmarked := by
  intro isText
  cases ofKind <;> cases isText

/-- What the constructors tag as a text is one. -/
theorem Value.Made.exists_eq_string (made : value.Made) (isText : value.tag = .string) :
    ∃ text, value = Value.string text := by
  cases made with
  | null => cases isText
  | of registry raw =>
      rcases exists_custom_or_of_eq registry raw with ⟨name, isCustom⟩ | isBuiltIn
      · rw [isCustom] at isText
        cases isText
      · rw [isBuiltIn] at isText ⊢
        cases raw with
        | text text => exact ⟨text, rfl⟩
        | int number =>
            have tagged : integerTag number = .string := isText
            rcases integerTag_eq number with tag | tag | tag <;> rw [tag] at tagged <;>
              cases tagged
        | _ => cases isText
  | ofString raw made =>
      cases raw with
      | text text => exact ⟨text, (Except.ok.inj made).symm⟩
      | _ => cases made
  | ofBoolean raw => cases isText
  | ofInt raw made | ofLong raw made | ofDouble raw made | ofFloat raw made | ofList raw made
  | ofMap raw made | ofType raw name made =>
      obtain ⟨_, _, isMade⟩ := bind_eq_ok_iff.mp made
      obtain rfl := Except.ok.inj isMade
      cases isText

theorem Value.Made.isUnmarked_iff (made : value.Made) :
    value.IsUnmarked ↔ ¬ ∃ text, value = Value.string text ∧ errorMark.toList <+: text.toList := by
  constructor
  · rintro unmarked ⟨text, rfl, marked⟩
    obtain ⟨shown, asString, noMark⟩ := unmarked rfl
    obtain rfl : text = shown := Option.some.inj (Except.ok.inj asString)
    exact noMark marked
  · intro noMark isText
    obtain ⟨text, rfl⟩ := made.exists_eq_string isText
    exact ⟨text, rfl, fun marked => noMark ⟨text, rfl, marked⟩⟩

end Marks

/-- The value of an expression was found by one of its lookups, or is a number. -/
theorem Expression.WellRead.lookedUp_or_ofKind {environment : Environment}
    {expression : Expression} (wellRead : WellRead expression) {value : Value}
    (evaluated : (expression.run environment).outcome = .ok value) :
    (∃ name ∈ (expression.run environment).lookups, environment name = .ok (some value)) ∨
      ∃ kind, Value.OfKind kind value := by
  -- Nothing changes where all other names are unbound, and then the value can only have been
  -- bound to one of the names that were looked up.
  let narrowed : Environment := fun name =>
    if name ∈ (expression.run environment).lookups then environment name else .ok none
  have same : expression.run narrowed = expression.run environment :=
    run_eq_of_agree fun name member => if_pos member
  rw [← same] at evaluated
  refine (wellRead.bound_or_ofKind evaluated).imp_left ?_
  rintro ⟨name, isBound⟩
  by_cases member : name ∈ (expression.run environment).lookups
  · exact ⟨name, member, (if_pos member).symm.trans isBound⟩
  · have unbound : narrowed name = .ok none := if_neg member
    rw [unbound] at isBound
    cases isBound

/-- Where no lookup finds a text that begins with the error mark, the value that an evaluation
gives back stands for an error exactly when there was one, and then has its message; any other
value is the one that the expression came to, and has none.  Of the values that the constructors
make, only such texts are excluded. -/
theorem isErrorValue_toValue_iff (limit : Nat) (environment : Environment) (text : String)
    (unmarked : ∀ name ∈ (evaluateWithin limit environment text).lookups, ∀ value,
      environment name = .ok (some value) → value.IsUnmarked) :
    let outcome := (evaluateWithin limit environment text).outcome
    (isErrorValue (some outcome.toValue) = .ok true ↔ ∃ error, outcome = .error error) ∧
      (∀ error, outcome = .error error →
        errorMessage? (some outcome.toValue) = .ok (some (trimmed error.message))) ∧
      (∀ value, outcome = .ok value →
        outcome.toValue = value ∧ isErrorValue (some value) = .ok false ∧
          errorMessage? (some value) = .ok none) ∧
      ∀ value : Value, value.Made →
        (value.IsUnmarked ↔
          ¬ ∃ text, value = Value.string text ∧ errorMark.toList <+: text.toList) := by
  intro outcome
  have notMarked : ∀ value, outcome = .ok value → markedText? value = .ok none := by
    intro value evaluated
    rw [lookups_evaluateWithin] at unmarked
    have outcome := (outcome_evaluateWithin limit environment text).symm.trans evaluated
    rcases (wellRead_ofText limit text.toList).lookedUp_or_ofKind outcome with
      ⟨name, member, isBound⟩ | ⟨kind, ofKind⟩
    · exact (unmarked name member value isBound).markedText?
    · exact ofKind.isUnmarked.markedText?
  refine ⟨?_, ?_, ?_, fun value made => made.isUnmarked_iff⟩
  · cases ended : outcome with
    | error error => simp [Outcome.toValue, isErrorValue_errorValue]
    | ok value => simp [Outcome.toValue, isErrorValue, notMarked value ended]
  · intro error failed
    rw [failed, Outcome.toValue, errorMessage?_errorValue]
  · intro value evaluated
    rw [evaluated, isErrorValue, errorMessage?, notMarked value evaluated]
    exact ⟨rfl, rfl, rfl⟩

/-- A text that lacks the last character of the mark is a value like any other. -/
theorem isErrorValue_toValue_iff_of_error_word :
    let environment : Environment := fun _ => .ok (some (Value.string "Error"))
    (∀ name ∈ (evaluateWithin 1 environment "a").lookups, ∀ value,
      environment name = .ok (some value) → value.IsUnmarked) ∧
      (evaluateWithin 1 environment "a").outcome.toValue = Value.string "Error" ∧
      isErrorValue (some (Value.string "Error")) = .ok false ∧
      errorMessage? (some (Value.string "Error")) = .ok none := by
  intro environment
  have unmarked : ∀ name ∈ (evaluateWithin 1 environment "a").lookups, ∀ value,
      environment name = .ok (some value) → value.IsUnmarked := by
    rintro name - value isBound
    obtain rfl := Option.some.inj (Except.ok.inj isBound)
    exact fun _ => ⟨"Error", rfl, by decide⟩
  have tight : Tight ['a'] :=
    tight_of_not_blank nofun (List.forall_mem_singleton.mpr (by decide))
  have bare : stripParens ['a'] = ['a'] := stripParens_of_innerText?_eq_none rfl
  have read : ofText 1 ['a'] = .variable ['a'] "a" := by
    rw [ofText_of_tight 0 tight rfl, bare, ofCore_name rfl rfl]
  have evaluated : (evaluateWithin 1 environment "a").outcome = .ok (Value.string "Error") := by
    rw [outcome_evaluateWithin]
    exact congrArg (fun expression => (expression.run environment).outcome) read
  obtain ⟨_, _, values, _⟩ := isErrorValue_toValue_iff 1 environment "a" unmarked
  exact ⟨unmarked, values _ evaluated⟩

end CalcShell
