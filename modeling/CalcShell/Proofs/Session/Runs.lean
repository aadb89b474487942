import CalcShell.Proofs.Session.Invariant
import CalcShell.Session.Interactive
import CalcShell.Session.Script

/-!
# Scripts and conversations

Scripts and interactive sessions change variables through lines only, and meta
commands change nothing.  What every line keeps is therefore kept by both.
-/

namespace CalcShell

variable {store answer other : Type}

namespace Execution

@[simp]
theorem state_printing (text : String) (execution : Execution store answer) :
    (execution.printing text).state = execution.state :=
  rfl

@[simp]
theorem state_silent (state : store) (result : Except Fault answer) :
    (silent state result).state = state :=
  rfl

theorem holds_andThen {invariant : store → Prop} {first : Execution store answer}
    {next : store → answer → Execution store other} (kept : invariant first.state)
    (keptNext : ∀ state given, invariant state → invariant (next state given).state) :
    invariant (first.andThen next).state := by
  rw [andThen]
  split
  · exact kept
  · next given _ => exact keptNext first.state given kept

end Execution

namespace Session

open Execution

section MetaCommands

variable (state : store)

theorem state_listItems (items : List (String × Value)) :
    (listItems state items).state = state := by
  induction items with
  | nil => rfl
  | cons binding rest inductionHypothesis =>
      rw [listItems]
      split
      · rfl
      · exact inductionHypothesis

variable [Store store]

theorem state_listVariables : (listVariables state).state = state := by
  rw [listVariables, state_printing]
  split
  · rfl
  · rfl
  · exact state_listItems state _

theorem state_describeVariable (name : String) : (describeVariable state name).state = state := by
  rw [describeVariable]
  split <;> rfl

theorem state_runMeta (code : String) : (runMeta state code).state = state := by
  rw [runMeta]
  split
  · exact state_listVariables state
  · split
    · rfl
    · split
      · exact state_describeVariable state _
      · rfl

end MetaCommands

section Kept

variable [Store store] {invariant : store → Prop} {limit : Nat} {tracing : Bool}
variable (keptByLine : ∀ state line, invariant state →
  invariant (runLine limit tracing state line).state)
variable {state : store} (holds : invariant state)

include keptByLine holds

theorem holds_runLines (path : String) (number : Nat) (lines : List String) :
    invariant (runLines limit tracing path number state lines).state := by
  induction lines generalizing number state with
  | nil => exact holds
  | cons line rest inductionHypothesis =>
      rw [runLines]
      apply holds_andThen (keptByLine state line holds)
      intro later report? keptLater
      cases report? with
      | none => exact inductionHypothesis keptLater (number + 1)
      | some report =>
          rw [state_printing]
          apply holds_andThen (inductionHypothesis keptLater (number + 1))
          intro atEnd failures keptAtEnd
          exact keptAtEnd

theorem holds_runScript (path : String) (content : FileContent) :
    invariant (runScript limit tracing path content state).state := by
  unfold runScript
  split
  · exact holds
  · split
    · exact holds
    · apply holds_andThen (holds_runLines keptByLine holds path 1 _)
      intro atEnd failures keptAtEnd
      exact keptAtEnd
  · exact holds

theorem holds_respond (line : String) : invariant (respond limit tracing state line).state := by
  rw [respond]
  split
  · exact holds
  · split
    · apply holds_andThen
      · rwa [state_runMeta]
      · intro later answer keptLater
        exact keptLater
    · apply holds_andThen (keptByLine state _ holds)
      intro later report? keptLater
      cases report? <;> exact keptLater

theorem holds_converse (inputs : List Input) :
    invariant (converse limit tracing state inputs).state := by
  induction inputs generalizing state with
  | nil => exact holds
  | cons input rest inductionHypothesis =>
      cases input with
      | interrupt => exact holds
      | line text =>
          rw [converse, state_printing]
          apply holds_andThen (holds_respond keptByLine holds text)
          intro later goesOn keptLater
          split
          · exact inductionHypothesis keptLater
          · exact keptLater

end Kept

theorem isPlain_runScript (limit : Nat) (tracing : Bool) (path : String)
    (content : FileContent) {table : SymbolTable} (plain : table.IsPlain) :
    (runScript limit tracing path content table).state.IsPlain :=
  holds_runScript (fun _ line => isPlain_runLine limit tracing line) plain path content

theorem isPlain_runInteractive (limit : Nat) (tracing : Bool) (inputs : List Input)
    {table : SymbolTable} (plain : table.IsPlain) :
    (runInteractive limit tracing table inputs).state.IsPlain :=
  holds_converse (fun _ line => isPlain_runLine limit tracing line) plain inputs

end Session

end CalcShell
