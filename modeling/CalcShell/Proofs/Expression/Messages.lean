import CalcShell.Proofs.Value.Faults

/-!
# What messages tell

Every message begins with words of its own.  Messages that begin differently differ,
whatever they go on with.  So an error of syntax that quotes no text is known by its
message.
-/

namespace CalcShell

/-- The message begins with the words. -/
def Begins (words message : String) : Prop :=
  words.toList <+: message.toList

/-- Neither of two texts begins with the other one. -/
def Diverge (left right : String) : Prop :=
  ¬ Begins left right ∧ ¬ Begins right left

instance (words message : String) : Decidable (Begins words message) :=
  inferInstanceAs (Decidable (_ <+: _))

instance (left right : String) : Decidable (Diverge left right) :=
  inferInstanceAs (Decidable (_ ∧ _))

theorem Begins.refl (words : String) : Begins words words :=
  List.prefix_refl _

theorem Begins.append {words message : String} (begins : Begins words message) (rest : String) :
    Begins words (message ++ rest) := by
  rw [Begins, String.toList_append]
  exact begins.trans (List.prefix_append _ _)

theorem Begins.append_left {words message : String} (begins : Begins words message)
    (front : String) : Begins (front ++ words) (front ++ message) := by
  rw [Begins, String.toList_append, String.toList_append]
  exact (List.prefix_append_right_inj _).mpr begins

theorem Diverge.not_begins {left right message : String} (diverge : Diverge left right)
    (begins : Begins left message) : ¬ Begins right message := by
  intro beginsRight
  exact (List.prefix_or_prefix_of_prefix begins beginsRight).elim diverge.1 diverge.2

/-- An error of syntax that quotes no text is known by its message. -/
theorem EvalError.eq_of_message {error known : EvalError}
    (plain : known = .empty ∨ known = .unbalanced ∨ known = .tooDeep)
    (malformed : error.kind = .malformed) (message : error.message = known.message) :
    error = known := by
  have known_begins : Begins known.message error.message := by
    rw [message]
    exact Begins.refl _
  cases error with
  | empty | unbalanced | tooDeep =>
      rcases plain with rfl | rfl | rfl <;>
        first | rfl | exact absurd message (by decide +kernel)
  | invalid text =>
      have diverge : Diverge "Invalid expression '" known.message := by
        rcases plain with rfl | rfl | rfl <;> decide +kernel
      exact absurd known_begins (diverge.not_begins (((Begins.refl _).append _).append _))
  | unknownOperator operator =>
      have diverge : Diverge "Unknown operator '" known.message := by
        rcases plain with rfl | rfl | rfl <;> decide +kernel
      exact absurd known_begins (diverge.not_begins (((Begins.refl _).append _).append _))
  | _ => cases malformed

/-! ## Openings -/

/-- What goes wrong in the middle of an evaluation over a table of variables: an operation, the
reading of an integer, or a lookup in a shared table that has been stopped. -/
inductive Fault.OfEvaluation : Fault → Prop
  | operation {fault : Fault} (ofOperation : fault.OfOperation) : OfEvaluation fault
  | numeral (digits : Nat) : OfEvaluation (.numeralTooLong digits)
  | stopped : OfEvaluation .tableStopped

/-- What messages about such faults begin with. -/
def Fault.openings : List String :=
  ["Cannot cast ", "Addition requires ", "Subtraction requires ", "Multiplication requires ",
    "Division requires ", "could not convert string to float: ",
    "float() argument must be a string or a real number, not '", "must be real number, not ",
    "unsupported operand type(s) for ", "int too large to convert to float",
    "Exceeds the limit (", "The shared table has been stopped"]

/-- What messages about errors of evaluations begin with. -/
def EvalError.openings : List String :=
  ["Empty expression", "Unbalanced parentheses in expression", "Invalid expression '",
    "Unknown operator '", "Expression too deeply nested", "Undefined variable '", "Cannot ",
    "Division by zero"] ++ Fault.openings

theorem Fault.OfOperation.exists_opening {fault : Fault} (ofOperation : fault.OfOperation) :
    ∃ opening ∈ Fault.openings, Begins opening fault.message := by
  cases ofOperation with
  | castFailed typeName target =>
      have begins : Begins "Cannot cast " ("Cannot cast " ++ typeName ++ " to " ++ target) :=
        (((Begins.refl _).append _).append _).append _
      exact ⟨_, by simp [Fault.openings], begins⟩
  | operandsNotNumeric operator => cases operator <;> decide +kernel
  | unreadableNumber shown =>
      have begins : Begins "could not convert string to float: "
          ("could not convert string to float: " ++ shown) := (Begins.refl _).append _
      exact ⟨_, by simp [Fault.openings], begins⟩
  | numberExpected className =>
      have begins : Begins "float() argument must be a string or a real number, not '"
          ("float() argument must be a string or a real number, not '" ++ className ++ "'") :=
        ((Begins.refl _).append _).append _
      exact ⟨_, by simp [Fault.openings], begins⟩
  | realExpected className =>
      have begins : Begins "must be real number, not "
          ("must be real number, not " ++ className) := (Begins.refl _).append _
      exact ⟨_, by simp [Fault.openings], begins⟩
  | operandsRefused symbol leftClass rightClass =>
      have begins : Begins "unsupported operand type(s) for " ("unsupported operand type(s) for " ++
          symbol ++ ": '" ++ leftClass ++ "' and '" ++ rightClass ++ "'") :=
        ((((((Begins.refl _).append _).append _).append _).append _).append _).append _
      exact ⟨_, by simp [Fault.openings], begins⟩
  | integerTooLarge => decide +kernel

theorem Fault.OfEvaluation.exists_opening {fault : Fault} (ofEvaluation : fault.OfEvaluation) :
    ∃ opening ∈ Fault.openings, Begins opening fault.message := by
  cases ofEvaluation with
  | operation ofOperation => exact ofOperation.exists_opening
  | numeral digits =>
      have begins : Begins "Exceeds the limit (" ("Exceeds the limit (" ++ toString digitLimit ++
          " digits) for integer string conversion" ++ ": value has " ++ toString digits ++
          " digits" ++ limitAdvice) :=
        ((((((Begins.refl _).append _).append _).append _).append _).append _).append _
      exact ⟨_, by simp [Fault.openings], begins⟩
  | stopped => decide +kernel

theorem EvalError.exists_opening {error : EvalError}
    (ofEvaluation : ∀ fault, error = .internal fault → fault.OfEvaluation) :
    ∃ opening ∈ EvalError.openings, Begins opening error.message := by
  cases error with
  | empty | unbalanced | tooDeep | divisionByZero => decide +kernel
  | invalid text =>
      exact ⟨"Invalid expression '", by simp [EvalError.openings],
        ((Begins.refl _).append _).append _⟩
  | unknownOperator operator =>
      exact ⟨"Unknown operator '", by simp [EvalError.openings],
        ((Begins.refl _).append _).append _⟩
  | undefined name =>
      exact ⟨"Undefined variable '", by simp [EvalError.openings],
        ((Begins.refl _).append _).append _⟩
  | operands operator leftType rightType =>
      have begins : Begins "Cannot "
          ("Cannot " ++ verbOf operator ++ " " ++ leftType ++ " and " ++ rightType) :=
        (((((Begins.refl _).append _).append _).append _).append _).append _
      exact ⟨_, by simp [EvalError.openings], begins⟩
  | internal fault =>
      obtain ⟨opening, member, begins⟩ := (ofEvaluation fault rfl).exists_opening
      have words : fault.message ≠ "" := by
        intro nothing
        rw [nothing] at begins
        exact absurd begins
          ((by decide +kernel : ∀ opening ∈ Fault.openings, ¬ Begins opening "") opening member)
      refine ⟨opening, List.mem_append_right _ member, ?_⟩
      show Begins opening fault.description
      rwa [Fault.description, if_neg words]

end CalcShell
