import CalcShell.Table.Clients
import Mathlib.Data.List.Basic

/-!
# A shared table and one that is used directly

The requests that a shared table handles, together with what clients make of the
replies, come to what the calls come to on a table that is used directly.  A shared
table therefore follows such a table letter by letter, until a letter asks it to stop.
-/

namespace CalcShell

/-- What a letter comes to on a table that is used directly. -/
def SymbolTable.performLetter (table : SymbolTable) : Letter → Except Fault Answer × SymbolTable
  | .call asked => table.perform asked
  | .stop => (.ok .nothing, table)

/-- What letters come to, one after the other, on a table that is used directly, and the table
afterwards.  Nothing is performed behind a letter that asks the table to stop. -/
def SymbolTable.performAll (table : SymbolTable) :
    List Letter → List (Except Fault Answer) × SymbolTable
  | [] => ([], table)
  | .call asked :: rest =>
    let (result, changed) := table.perform asked
    let (results, last) := changed.performAll rest
    (result :: results, last)
  | .stop :: rest => (.ok .nothing :: rest.map Letter.unserved, table)

theorem eq_error_of_map {given answer : Type} {make : given → answer}
    {result : Except Fault given} {fault : Fault} (failed : make <$> result = .error fault) :
    result = .error fault := by
  cases result with
  | error other =>
      obtain rfl := Except.error.inj failed
      rfl
  | ok value => cases failed

namespace SymbolTable

variable (table : SymbolTable) {letters : List Letter}

/-- Requests and what clients make of the replies come to what the calls come to directly. -/
theorem handle_request (asked : Call) :
    asked.answer <$> (table.handle asked.request).1 = (table.perform asked).1 ∧
      (table.handle asked.request).2 = (table.perform asked).2 := by
  cases asked with
  | set name value =>
      simp only [Call.request, handle, perform]
      cases table.set name value <;> exact ⟨rfl, rfl⟩
  | remove name =>
      simp only [Call.request, handle, perform]
      cases table.remove name <;> exact ⟨rfl, rfl⟩
  | get name | contains name =>
      refine ⟨?_, rfl⟩
      simp only [Call.request, handle, perform]
      cases table.get name <;> rfl
  | items | names | clear | size | iterate => exact ⟨rfl, rfl⟩

theorem handle_of_error {answer : Type} {request : Request answer} {fault : Fault}
    (failed : (table.handle request).1 = .error fault) : (table.handle request).2 = table := by
  cases request with
  | assign name value =>
      rw [handle] at failed ⊢
      cases changed : table.set name value with
      | ok next => simp [changed] at failed
      | error fault => rfl
  | remove name =>
      rw [handle] at failed ⊢
      cases changed : table.remove name with
      | ok next => simp [changed] at failed
      | error fault => rfl
  | lookup | contains | items => rfl
  | clear => cases failed

theorem performAll_append (running : Letter.stop ∉ letters) (letter : Letter) :
    table.performAll (letters ++ [letter]) =
      ((table.performAll letters).1 ++ [((table.performAll letters).2.performLetter letter).1],
        ((table.performAll letters).2.performLetter letter).2) := by
  induction letters generalizing table with
  | nil => cases letter <;> rfl
  | cons first rest inductionHypothesis =>
      cases first with
      | stop => exact absurd List.mem_cons_self running
      | call earlier =>
          have later := inductionHypothesis (table.perform earlier).2
            fun isLater => running (List.mem_cons_of_mem _ isLater)
          simp only [List.cons_append, performAll, later]

theorem performAll_append_of_stopped (stopped : Letter.stop ∈ letters) (letter : Letter) :
    table.performAll (letters ++ [letter]) =
      ((table.performAll letters).1 ++ [letter.unserved], (table.performAll letters).2) := by
  induction letters generalizing table with
  | nil => cases stopped
  | cons first rest inductionHypothesis =>
      cases first with
      | stop => simp [performAll]
      | call earlier =>
          have later := inductionHypothesis (table.perform earlier).2 (by simpa using stopped)
          simp only [List.cons_append, performAll, later]

end SymbolTable

namespace SharedTable

variable {shared : SharedTable} {table : SymbolTable} {letters : List Letter}
  {results : List (Except Fault Answer)}

theorem accept_of_stopped (stopped : shared.alive = false) (letter : Letter) :
    letter.answer <$> (shared.accept letter).1 = letter.unserved ∧
      (shared.accept letter).2 = shared := by
  cases letter with
  | call asked =>
      simp only [accept, handle, stopped]
      exact ⟨rfl, rfl⟩
  | stop =>
      obtain ⟨owned, alive⟩ := shared
      obtain rfl : alive = false := stopped
      exact ⟨rfl, rfl⟩

theorem accept_of_running (running : shared.alive = true) (letter : Letter) :
    letter.answer <$> (shared.accept letter).1 = (shared.table.performLetter letter).1 ∧
      (shared.accept letter).2.table = (shared.table.performLetter letter).2 ∧
      ((shared.accept letter).2.alive = true ↔ letter ≠ .stop) := by
  obtain ⟨owned, alive⟩ := shared
  obtain rfl : alive = true := running
  cases letter with
  | call asked =>
      obtain ⟨sameResult, sameTable⟩ := owned.handle_request asked
      exact ⟨sameResult, sameTable, fun _ => nofun, fun _ => rfl⟩
  | stop => exact ⟨rfl, rfl, nofun, fun notStop => absurd rfl notStop⟩

/-- A letter that fails changes nothing. -/
theorem accept_of_error {letter : Letter} {fault : Fault}
    (failed : letter.answer <$> (shared.accept letter).1 = .error fault) :
    (shared.accept letter).2 = shared := by
  cases running : shared.alive with
  | false => exact (accept_of_stopped running letter).2
  | true =>
      cases letter with
      | stop => cases failed
      | call asked =>
          obtain ⟨owned, alive⟩ := shared
          obtain rfl : alive = true := running
          have unanswered : (owned.handle asked.request).1 = .error fault :=
            eq_error_of_map failed
          exact congrArg (SharedTable.mk · true) (owned.handle_of_error unanswered)

/-- The shared table has come to where a table that is used directly comes to with the letters,
and the results are those of that table. -/
structure Follows (shared : SharedTable) (table : SymbolTable) (letters : List Letter)
    (results : List (Except Fault Answer)) : Prop where
  results : results = (table.performAll letters).1
  table : shared.table = (table.performAll letters).2
  alive : shared.alive = true ↔ Letter.stop ∉ letters

theorem follows_start (table : SymbolTable) : (start table).Follows table [] [] where
  results := rfl
  table := rfl
  alive := by simp [start]

theorem Follows.refuse (follows : shared.Follows table letters results)
    (stopped : shared.alive = false) (letter : Letter) :
    shared.Follows table (letters ++ [letter]) (results ++ [letter.unserved]) := by
  have inLetters : Letter.stop ∈ letters := by
    by_contra running
    rw [follows.alive.mpr running] at stopped
    cases stopped
  have last := table.performAll_append_of_stopped inLetters letter
  refine ⟨?_, ?_, ?_⟩
  · rw [last, follows.results]
  · rw [last, follows.table]
  · simp [stopped, inLetters]

theorem Follows.accept (follows : shared.Follows table letters results) (letter : Letter) :
    (shared.accept letter).2.Follows table (letters ++ [letter])
      (results ++ [letter.answer <$> (shared.accept letter).1]) := by
  cases running : shared.alive with
  | false =>
      obtain ⟨sameResult, same⟩ := accept_of_stopped running letter
      rw [sameResult, same]
      exact follows.refuse running letter
  | true =>
      have notStopped := follows.alive.mp running
      have last := table.performAll_append notStopped letter
      obtain ⟨sameResult, sameTable, goesOn⟩ := accept_of_running running letter
      refine ⟨?_, ?_, ?_⟩
      · rw [sameResult, last, follows.results, follows.table]
      · rw [sameTable, last, follows.table]
      · rw [goesOn, List.mem_append, List.mem_singleton, not_or]
        exact ⟨fun notStop => ⟨notStopped, Ne.symm notStop⟩, fun both => Ne.symm both.2⟩

end SharedTable

end CalcShell
