import CalcShell.Text.Utf8
import Mathlib.Data.List.Basic

/-!
# Reading what was written

The bytes of a character lead the decoder from the end of the character before it to
the end of this one, wherever blocks end.  Every text is therefore read back from its
bytes.
-/

namespace CalcShell.Text.Utf8

/-! ## Classes of bytes -/

section Bytes

variable {first second third fourth : UInt8}

theorem isContinuation_iff :
    isContinuation first = true ↔ 0x80 ≤ first.toNat ∧ first.toNat ≤ 0xBF := by
  simp [isContinuation, UInt8.le_iff_toNat_le]

theorem admitsSecond_iff :
    admitsSecond first second = true ↔
      (0x80 ≤ second.toNat ∧ second.toNat ≤ 0xBF) ∧
        (first.toNat = 0xE0 → 0xA0 ≤ second.toNat) ∧
        (first.toNat = 0xF0 → 0x90 ≤ second.toNat) ∧
        (first.toNat = 0xF4 → second.toNat < 0x90) := by
  simp [admitsSecond, isContinuation_iff, UInt8.le_iff_toNat_le, UInt8.lt_iff_toNat_lt,
    ← UInt8.toNat_inj, and_assoc, imp_iff_not_or]

theorem startsSurrogate_iff :
    startsSurrogate first second = true ↔ first.toNat = 0xED ∧ 0xA0 ≤ second.toNat := by
  simp [startsSurrogate, UInt8.le_iff_toNat_le, ← UInt8.toNat_inj]

theorem progress_ascii (low : first.toNat < 0x80) :
    progress [first] = .character (Char.ofNat first.toNat) := by
  rw [progress, if_pos (UInt8.lt_iff_toNat_lt.mpr low)]

theorem progress_begun (low : 0xC2 ≤ first.toNat) (high : first.toNat < 0xF5) :
    progress [first] = .unfinished := by
  have notAscii : ¬ first < 0x80 := by
    simp only [UInt8.lt_iff_toNat_lt, UInt8.reduceToNat]
    omega
  have notRefused : ¬ (decide (first < 0xC2) || decide (0xF5 ≤ first)) = true := by
    simp only [UInt8.lt_iff_toNat_lt, UInt8.le_iff_toNat_le, UInt8.reduceToNat, Bool.or_eq_true,
      decide_eq_true_eq]
    omega
  rw [progress, if_neg notAscii, if_neg notRefused]

theorem progress_second (admitted : admitsSecond first second = true) :
    progress [first, second] =
      if first.toNat < 0xE0 then
        .character (Char.ofNat (first.toNat % 0x20 * 0x40 + payload second))
      else .unfinished := by
  simp [progress, admitted, UInt8.lt_iff_toNat_lt]

theorem progress_third (paired : startsSurrogate first second = false)
    (continued : isContinuation third = true) :
    progress [first, second, third] =
      if first.toNat < 0xF0 then
        .character (Char.ofNat
          ((first.toNat % 0x10 * 0x40 + payload second) * 0x40 + payload third))
      else .unfinished := by
  simp [progress, paired, continued, UInt8.lt_iff_toNat_lt]

theorem progress_fourth (continued : isContinuation fourth = true) :
    progress [first, second, third, fourth] =
      .character (Char.ofNat
        (((first.toNat % 0x08 * 0x40 + payload second) * 0x40 + payload third) * 0x40
          + payload fourth)) := by
  simp [progress, continued]

end Bytes

/-! ## Characters -/

/-- The bytes complete a character of which the bytes `held` have been seen. -/
inductive Completes (char : Char) : List UInt8 → List UInt8 → Prop
  | last {held : List UInt8} {byte : UInt8}
      (complete : progress (held ++ [byte]) = .character char) : Completes char held [byte]
  | more {held rest : List UInt8} {byte : UInt8}
      (unfinished : progress (held ++ [byte]) = .unfinished)
      (later : Completes char (held ++ [byte]) rest) : Completes char held (byte :: rest)

theorem completes_one {first : UInt8} {code : Nat} (isFirst : first.toNat = code)
    (high : code < 0x80) : Completes (Char.ofNat code) [] [first] := by
  subst isFirst
  exact Completes.last (progress_ascii high)

section Sizes

variable {code : Nat} {first second third fourth : UInt8}

theorem completes_two (low : 0x80 ≤ code) (high : code < 0x800)
    (isFirst : first.toNat = code / 64 + 192) (isSecond : second.toNat = code % 64 + 128) :
    Completes (Char.ofNat code) [] [first, second] := by
  have begun : progress [first] = .unfinished :=
    progress_begun (by omega) (by omega)
  have admitted : admitsSecond first second = true :=
    admitsSecond_iff.mpr (by omega)
  have composed : first.toNat % 0x20 * 0x40 + payload second = code := by
    rw [payload]
    omega
  refine Completes.more begun (Completes.last ?_)
  exact (progress_second admitted).trans (by rw [if_pos (by omega), composed])

theorem completes_three (low : 0x800 ≤ code) (high : code < 0x10000)
    (noSurrogate : code < 0xD800 ∨ 0xDFFF < code)
    (isFirst : first.toNat = code / 4096 + 224)
    (isSecond : second.toNat = code / 64 % 64 + 128)
    (isThird : third.toNat = code % 64 + 128) :
    Completes (Char.ofNat code) [] [first, second, third] := by
  have begun : progress [first] = .unfinished :=
    progress_begun (by omega) (by omega)
  have admitted : admitsSecond first second = true :=
    admitsSecond_iff.mpr (by omega)
  have unpaired : startsSurrogate first second = false := by
    rw [Bool.eq_false_iff, ne_eq, startsSurrogate_iff]
    omega
  have continued : isContinuation third = true :=
    isContinuation_iff.mpr (by omega)
  have composed :
      (first.toNat % 0x10 * 0x40 + payload second) * 0x40 + payload third = code := by
    rw [payload, payload]
    omega
  refine Completes.more begun (Completes.more ?_ (Completes.last ?_))
  · exact (progress_second admitted).trans (if_neg (by omega))
  · exact (progress_third unpaired continued).trans (by rw [if_pos (by omega), composed])

theorem completes_four (low : 0x10000 ≤ code) (high : code < 0x110000)
    (isFirst : first.toNat = code / 262144 + 240)
    (isSecond : second.toNat = code / 4096 % 64 + 128)
    (isThird : third.toNat = code / 64 % 64 + 128)
    (isFourth : fourth.toNat = code % 64 + 128) :
    Completes (Char.ofNat code) [] [first, second, third, fourth] := by
  have begun : progress [first] = .unfinished :=
    progress_begun (by omega) (by omega)
  have admitted : admitsSecond first second = true :=
    admitsSecond_iff.mpr (by omega)
  have unpaired : startsSurrogate first second = false := by
    rw [Bool.eq_false_iff, ne_eq, startsSurrogate_iff]
    omega
  have continuedThird : isContinuation third = true :=
    isContinuation_iff.mpr (by omega)
  have continuedFourth : isContinuation fourth = true :=
    isContinuation_iff.mpr (by omega)
  have composed :
      ((first.toNat % 0x08 * 0x40 + payload second) * 0x40 + payload third) * 0x40
        + payload fourth = code := by
    rw [payload, payload, payload]
    omega
  refine Completes.more begun (Completes.more ?_ (Completes.more ?_ (Completes.last ?_)))
  · exact (progress_second admitted).trans (if_neg (by omega))
  · exact (progress_third unpaired continuedThird).trans (if_neg (by omega))
  · exact (progress_fourth continuedFourth).trans (by rw [composed])

end Sizes

theorem toNat_ofNat_of_eq {given code : Nat} (small : given < 256) (same : given = code) :
    (UInt8.ofNat given).toNat = code := by
  rw [UInt8.toNat_ofNat_of_lt' small, same]

theorem completes_utf8EncodeChar (char : Char) :
    Completes char [] (String.utf8EncodeChar char) := by
  suffices completes : Completes (Char.ofNat char.toNat) [] (String.utf8EncodeChar char) by
    rwa [Char.ofNat_toNat] at completes
  have valid : char.toNat < 0xD800 ∨ (0xDFFF < char.toNat ∧ char.toNat < 0x110000) := char.valid
  have isCode : char.val.toNat = char.toNat := rfl
  simp only [String.utf8EncodeChar, isCode]
  generalize char.toNat = code at valid ⊢
  split
  · exact completes_one (toNat_ofNat_of_eq (by omega) rfl) (by omega)
  · split
    · exact completes_two (by omega) (by omega) (toNat_ofNat_of_eq (by omega) (by omega))
        (toNat_ofNat_of_eq (by omega) rfl)
    · split
      · exact completes_three (by omega) (by omega) (by omega)
          (toNat_ofNat_of_eq (by omega) (by omega)) (toNat_ofNat_of_eq (by omega) rfl)
          (toNat_ofNat_of_eq (by omega) rfl)
      · exact completes_four (by omega) (by omega) (toNat_ofNat_of_eq (by omega) (by omega))
          (toNat_ofNat_of_eq (by omega) rfl) (toNat_ofNat_of_eq (by omega) rfl)
          (toNat_ofNat_of_eq (by omega) rfl)

/-! ## Texts -/

/-- The bytes that a text is written as. -/
def encode (text : List Char) : List UInt8 :=
  text.flatMap String.utf8EncodeChar

section Decoders

variable {decoder : Decoder} {byte : UInt8} {char : Char}

theorem exists_feed_of_unfinished (unfinished : progress (decoder.held ++ [byte]) = .unfinished) :
    ∃ next, decoder.feed byte = .ok next ∧ next.held = decoder.held ++ [byte] ∧
      next.read = decoder.read := by
  rw [Decoder.feed]
  split <;> simp [Decoder.take, Decoder.nextBlock, unfinished]

theorem exists_feed_of_character
    (complete : progress (decoder.held ++ [byte]) = .character char) :
    ∃ next, decoder.feed byte = .ok next ∧ next.held = [] ∧ next.read = char :: decoder.read := by
  rw [Decoder.feed]
  split <;> simp [Decoder.take, Decoder.nextBlock, complete]

theorem Completes.exists_foldlM {bytes : List UInt8}
    (completes : Completes char decoder.held bytes) :
    ∃ next, bytes.foldlM Decoder.feed decoder = .ok next ∧ next.held = [] ∧
      next.read = char :: decoder.read := by
  generalize isHeld : decoder.held = held at completes
  induction completes generalizing decoder with
  | last complete =>
      subst isHeld
      obtain ⟨next, fed, isNext⟩ := exists_feed_of_character complete
      exact ⟨next, by simp [fed], isNext⟩
  | more unfinished _ inductionHypothesis =>
      subst isHeld
      obtain ⟨middle, fed, heldNow, sameRead⟩ := exists_feed_of_unfinished unfinished
      obtain ⟨next, folded, isNext⟩ := inductionHypothesis heldNow
      rw [sameRead] at isNext
      refine ⟨next, ?_, isNext⟩
      rw [List.foldlM_cons, fed]
      exact folded

theorem exists_foldlM_encode (text : List Char) (between : decoder.held = []) :
    ∃ last, (encode text).foldlM Decoder.feed decoder = .ok last ∧ last.held = [] ∧
      last.read = text.reverse ++ decoder.read := by
  induction text generalizing decoder with
  | nil => exact ⟨decoder, rfl, between, rfl⟩
  | cons char rest inductionHypothesis =>
      have completes := completes_utf8EncodeChar char
      rw [← between] at completes
      obtain ⟨next, taken, betweenAgain, read⟩ := completes.exists_foldlM
      obtain ⟨last, folded, atEnd, allRead⟩ := inductionHypothesis betweenAgain
      refine ⟨last, ?_, atEnd, ?_⟩
      · rw [encode, List.flatMap_cons, List.foldlM_append, taken]
        exact folded
      · rw [allRead, read, List.reverse_cons, List.append_assoc]
        rfl

end Decoders

/-- Every text is read back from its bytes. -/
theorem decode_encode (text : List Char) : decode (encode text) = .ok text := by
  have between : Decoder.initial.held = [] := rfl
  obtain ⟨last, folded, atEnd, read⟩ := exists_foldlM_encode text between
  have isRead : last.read.reverse = text := by
    rw [read]
    simp [Decoder.initial]
  rw [decode, folded]
  show last.finish = _
  rw [Decoder.finish, atEnd]
  exact congrArg Except.ok isRead

end CalcShell.Text.Utf8
