import CalcShell.Proofs.Text.Encoding
import CalcShell.Text.Lines

/-!
# Files of lines

Lines without line ends inside them are the lines of a file: of the one in which each
of them ends with a line feed.
-/

namespace CalcShell.Text

/-- The bytes are those of a text with the given lines. -/
def HoldsLines (content : List UInt8) (lines : List String) : Prop :=
  ∃ text, Utf8.decode content = .ok text ∧ (scriptLines text).map String.ofList = lines

/-- Neither a line feed nor a carriage return is in the line. -/
def IsOneLine (line : List Char) : Prop :=
  '\n' ∉ line ∧ '\r' ∉ line

theorem scriptLines_append_lineFeed {line : List Char} (oneLine : IsOneLine line)
    (rest : List Char) : scriptLines (line ++ '\n' :: rest) = line :: scriptLines rest := by
  induction line with
  | nil => simp [scriptLines]
  | cons char line inductionHypothesis =>
      obtain ⟨noFeed, noReturn⟩ := oneLine
      simp only [List.mem_cons, not_or] at noFeed noReturn
      have later := inductionHypothesis ⟨noFeed.2, noReturn.2⟩
      have inside : ¬ (char = '\n' ∨ char = '\r') := by
        rintro (isFeed | isReturn)
        · exact noFeed.1 isFeed.symm
        · exact noReturn.1 isReturn.symm
      rw [List.cons_append, scriptLines, if_neg inside, later, consLine]
      rintro _ rfl
      exact absurd rfl noReturn.1

/-- Every list of lines is held by a file. -/
theorem exists_holdsLines {lines : List String} (oneLine : ∀ line ∈ lines, IsOneLine line.toList) :
    ∃ content, HoldsLines content lines := by
  refine ⟨_, lines.flatMap fun line => line.toList ++ ['\n'], Utf8.decode_encode _, ?_⟩
  induction lines with
  | nil => rfl
  | cons line rest inductionHypothesis =>
      have first := oneLine line List.mem_cons_self
      have later := inductionHypothesis fun other member =>
        oneLine other (List.mem_cons_of_mem line member)
      rw [List.flatMap_cons, List.append_assoc, List.singleton_append,
        scriptLines_append_lineFeed first, List.map_cons, later, String.ofList_toList]

end CalcShell.Text
