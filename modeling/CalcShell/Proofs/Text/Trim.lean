import CalcShell.Text.Blank
import Mathlib.Data.List.Basic
import Mathlib.Data.List.TakeWhile

/-!
# What trimming leaves

White space at the ends of a text is invisible to `trim`, and a text is tight
when there is none: it is not empty, and neither its first nor its last
character is white space.  A trimmed text is empty or tight.
-/

namespace CalcShell.Text

section Ends

variable {drop : Char → Bool} {text before after : List Char}

theorem blank_of_spacing (spacing : ∀ char ∈ text, isSpacing char = true) :
    ∀ char ∈ text, isBlank char = true :=
  fun char member => isBlank_of_isSpacing (spacing char member)

/-- A class of characters stops at the first character outside it. -/
theorem takeWhile_append_of_stop
    (inside : ∀ char ∈ before, drop char = true)
    (stop : ∀ char ∈ after.head?, drop char = false) :
    (before ++ after).takeWhile drop = before := by
  rw [List.takeWhile_append_of_pos inside]
  cases after with
  | nil => simp
  | cons first rest =>
      simp [stop first (by simp)]

theorem dropWhile_append_of_stop
    (inside : ∀ char ∈ before, drop char = true)
    (stop : ∀ char ∈ after.head?, drop char = false) :
    (before ++ after).dropWhile drop = after := by
  rw [List.dropWhile_append_of_pos inside]
  cases after with
  | nil => simp
  | cons first rest =>
      simp [stop first (by simp)]

theorem dropWhile_eq_self_of_head
    (stop : ∀ char ∈ text.head?, drop char = false) :
    text.dropWhile drop = text := by
  have nothing : ∀ char ∈ ([] : List Char), drop char = true := by simp
  exact dropWhile_append_of_stop nothing stop

/-- What follows a text at a stop is not looked at. -/
theorem takeWhile_append_right (stop : ∀ char ∈ after.head?, drop char = false) :
    (text ++ after).takeWhile drop = text.takeWhile drop := by
  induction text with
  | nil =>
      have nothing : ∀ char ∈ ([] : List Char), drop char = true := by simp
      exact takeWhile_append_of_stop nothing stop
  | cons first rest inductionHypothesis =>
      simp only [List.cons_append, List.takeWhile_cons, inductionHypothesis]

theorem dropWhile_append_right (stop : ∀ char ∈ after.head?, drop char = false) :
    (text ++ after).dropWhile drop = text.dropWhile drop ++ after := by
  induction text with
  | nil => exact dropWhile_eq_self_of_head stop
  | cons first rest inductionHypothesis =>
      simp only [List.cons_append, List.dropWhile_cons, inductionHypothesis]
      split <;> rfl

theorem dropEndWhile_eq_self_of_last
    (stop : ∀ char ∈ text.getLast?, drop char = false) :
    dropEndWhile drop text = text := by
  have stopReverse : ∀ char ∈ text.reverse.head?, drop char = false := by
    simpa using stop
  rw [dropEndWhile, dropWhile_eq_self_of_head stopReverse, List.reverse_reverse]

theorem dropEndWhile_append_of_all
    (inside : ∀ char ∈ after, drop char = true) :
    dropEndWhile drop (text ++ after) = dropEndWhile drop text := by
  have insideReverse : ∀ char ∈ after.reverse, drop char = true := by
    simpa using inside
  rw [dropEndWhile, List.reverse_append,
    List.dropWhile_append_of_pos insideReverse, dropEndWhile]

theorem dropEndWhile_append_left (stop : ∀ char ∈ text.getLast?, drop char = false) :
    dropEndWhile drop (text ++ after) = text ++ dropEndWhile drop after := by
  have stopReverse : ∀ char ∈ text.reverse.head?, drop char = false := by
    simpa using stop
  rw [dropEndWhile, List.reverse_append, dropWhile_append_right stopReverse,
    List.reverse_append, List.reverse_reverse, dropEndWhile]

variable (drop text) in
theorem exists_dropEndWhile_append : ∃ dropped, text = dropEndWhile drop text ++ dropped := by
  refine ⟨(text.reverse.takeWhile drop).reverse, ?_⟩
  rw [dropEndWhile, ← List.reverse_append, List.takeWhile_append_dropWhile,
    List.reverse_reverse]

variable (drop text) in
/-- What trimming takes away belongs to the class. -/
theorem exists_around_trimOf :
    ∃ before after, text = before ++ (trimOf drop text ++ after) ∧
      (∀ char ∈ before, drop char = true) ∧ ∀ char ∈ after, drop char = true := by
  refine ⟨text.takeWhile drop, ((text.dropWhile drop).reverse.takeWhile drop).reverse, ?_, ?_, ?_⟩
  · rw [trimOf, dropEndWhile, ← List.reverse_append, List.takeWhile_append_dropWhile,
      List.reverse_reverse, List.takeWhile_append_dropWhile]
  · intro char member
    exact List.mem_takeWhile_imp member
  · intro char member
    exact List.mem_takeWhile_imp (List.mem_reverse.mp member)

/-- Characters of the class that stand around a text make no difference. -/
theorem trimOf_pad
    (insideBefore : ∀ char ∈ before, drop char = true)
    (insideAfter : ∀ char ∈ after, drop char = true) :
    trimOf drop (before ++ text ++ after) = trimOf drop text := by
  rw [trimOf, trimOf, List.append_assoc, List.dropWhile_append_of_pos insideBefore,
    List.dropWhile_append]
  split
  · next nothingLeft =>
      have textGone : text.dropWhile drop = [] := by
        simpa using nothingLeft
      have afterGone : after.dropWhile drop = [] :=
        List.dropWhile_eq_nil_iff.mpr insideAfter
      rw [textGone, afterGone]
  · exact dropEndWhile_append_of_all insideAfter

end Ends

/-- A text with something in it and no white space at either end. -/
structure Tight (text : List Char) : Prop where
  nonempty : text ≠ []
  first : ∀ char ∈ text.head?, isBlank char = false
  last : ∀ char ∈ text.getLast?, isBlank char = false

section Trim

variable {text before after : List Char}

theorem trim_pad
    (blankBefore : ∀ char ∈ before, isBlank char = true)
    (blankAfter : ∀ char ∈ after, isBlank char = true) :
    trim (before ++ text ++ after) = trim text :=
  trimOf_pad blankBefore blankAfter

theorem trim_append_of_blank
    (blankAfter : ∀ char ∈ after, isBlank char = true) :
    trim (text ++ after) = trim text := by
  have nothing : ∀ char ∈ ([] : List Char), isBlank char = true := by simp
  exact trim_pad nothing blankAfter

theorem trim_append_of_blank_left
    (blankBefore : ∀ char ∈ before, isBlank char = true) :
    trim (before ++ text) = trim text := by
  have nothing : ∀ char ∈ ([] : List Char), isBlank char = true := by simp
  have padded : trim (before ++ text ++ []) = trim text := trim_pad blankBefore nothing
  rwa [List.append_nil] at padded

theorem trim_eq_nil_of_blank
    (blank : ∀ char ∈ text, isBlank char = true) : trim text = [] := by
  have same : trim ([] ++ text) = trim [] := trim_append_of_blank blank
  exact same

theorem tight_of_not_blank (nonempty : text ≠ [])
    (solid : ∀ char ∈ text, isBlank char = false) : Tight text where
  nonempty := nonempty
  first := fun char isHead => solid char (List.mem_of_mem_head? isHead)
  last := fun char isLast => solid char (List.mem_of_mem_getLast? isLast)

/-- A character at the end that is not white space stays there. -/
theorem getLast?_trim {char : Char} (isLast : text.getLast? = some char)
    (solid : isBlank char = false) : (trim text).getLast? = some char := by
  obtain ⟨front, rfl⟩ := List.getLast?_eq_some_iff.mp isLast
  have started : (front ++ [char]).dropWhile isBlank = front.dropWhile isBlank ++ [char] :=
    dropWhile_append_right (by simpa using solid)
  have ended : dropEndWhile isBlank (front.dropWhile isBlank ++ [char]) =
      front.dropWhile isBlank ++ [char] :=
    dropEndWhile_eq_self_of_last (by simpa using solid)
  rw [trim, trimOf, started, ended, List.getLast?_concat]

namespace Tight

/-- Nothing is taken off a tight text, whichever part of white space is taken off. -/
theorem trimOf_eq (tight : Tight text) {drop : Char → Bool}
    (narrower : ∀ char, drop char = true → isBlank char = true) : trimOf drop text = text := by
  have kept : ∀ char, isBlank char = false → drop char = false := by
    intro char solid
    by_contra dropped
    rw [narrower char (Bool.of_not_eq_false dropped)] at solid
    cases solid
  rw [trimOf,
    dropWhile_eq_self_of_head fun char isFirst => kept char (tight.first char isFirst),
    dropEndWhile_eq_self_of_last fun char isLast => kept char (tight.last char isLast)]

theorem trim_eq (tight : Tight text) : trim text = text :=
  tight.trimOf_eq fun _ blank => blank

/-- Whatever stands between two tight texts, the whole is tight. -/
theorem append {left right : List Char} (leftTight : Tight left) (rightTight : Tight right)
    (between : List Char) : Tight (left ++ between ++ right) where
  nonempty := by
    simp [leftTight.nonempty]
  first := by
    have leftHead := leftTight.first
    cases left with
    | nil => exact absurd rfl leftTight.nonempty
    | cons first rest => simpa using leftHead
  last := by
    intro char isLast
    rw [List.getLast?_append_of_ne_nil _ rightTight.nonempty] at isLast
    exact rightTight.last char isLast

/-- A text between two characters that are not white space. -/
theorem enclosed {opening closing : Char}
    (openingSolid : isBlank opening = false) (closingSolid : isBlank closing = false)
    (inner : List Char) : Tight (opening :: (inner ++ [closing])) where
  nonempty := by simp
  first := by simpa using openingSolid
  last := by
    rw [← List.cons_append, List.getLast?_append_of_ne_nil _ (by simp)]
    simpa using closingSolid

end Tight

/-- Trimming stops on both sides at a tight text. -/
theorem trim_around (tight : Tight text) :
    trim (before ++ (text ++ after)) =
      before.dropWhile isBlank ++ (text ++ dropEndWhile isBlank after) := by
  have startStops : ∀ char ∈ (text ++ after).head?, isBlank char = false := by
    rw [List.head?_append_of_ne_nil _ tight.nonempty]
    exact tight.first
  have endStops : ∀ char ∈ (before.dropWhile isBlank ++ text).getLast?,
      isBlank char = false := by
    rw [List.getLast?_append_of_ne_nil _ tight.nonempty]
    exact tight.last
  rw [trim, trimOf, dropWhile_append_right startStops, ← List.append_assoc,
    dropEndWhile_append_left endStops, List.append_assoc]

/-- What trimming leaves begins with a character that is not white space, and ends with
one. -/
theorem tight_trim (nonempty : trim text ≠ []) : Tight (trim text) where
  nonempty := nonempty
  first := by
    intro char isFirst
    have startStops : ∀ first ∈ (text.dropWhile isBlank).head?, isBlank first = false := by
      intro first isHead
      have stopped := List.head?_dropWhile_not isBlank text
      rw [Option.mem_def.mp isHead] at stopped
      simpa using stopped
    obtain ⟨front, shape⟩ :
        ∃ dropped, text.dropWhile isBlank = trim text ++ dropped := by
      exact exists_dropEndWhile_append isBlank (text.dropWhile isBlank)
    apply startStops char
    rw [shape, List.head?_append_of_ne_nil _ nonempty]
    exact isFirst
  last := by
    intro char isLast
    have stopped := List.head?_dropWhile_not isBlank (text.dropWhile isBlank).reverse
    rw [trim, trimOf, dropEndWhile, List.getLast?_reverse] at isLast
    rw [Option.mem_def.mp isLast] at stopped
    simpa using stopped

theorem tight_of_trim_eq (trimmed : trim text = text) (nonempty : text ≠ []) :
    Tight text := by
  rw [← trimmed] at nonempty ⊢
  exact tight_trim nonempty

end Trim

end CalcShell.Text
