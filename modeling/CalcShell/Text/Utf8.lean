/-!
# Reading UTF-8

A file is read in blocks of bytes, and each block is decoded as it comes in; the
bytes of a character that a block leaves unfinished are carried over into the
next one.  A failure names the offending bytes by their offset in the block that
was being decoded, carried bytes included.
-/

namespace CalcShell.Text.Utf8

/-- Bytes that are read at a time. -/
def blockSize : Nat := 8192

inductive Problem where
  | invalidStart
  | invalidContinuation
  | unexpectedEnd
  deriving DecidableEq, Repr

def Problem.reason : Problem → String
  | .invalidStart => "invalid start byte"
  | .invalidContinuation => "invalid continuation byte"
  | .unexpectedEnd => "unexpected end of data"

/-- The first `length` bytes from `position` on, of which `byte` is the first, cannot be
decoded. -/
structure Failure where
  byte : UInt8
  position : Nat
  length : Nat
  problem : Problem
  deriving DecidableEq, Repr

/-- What the bytes seen since the end of the last character amount to. -/
inductive Progress where
  | character (char : Char)
  | unfinished
  | refused (problem : Problem) (length : Nat)
  deriving DecidableEq, Repr

def isContinuation (byte : UInt8) : Bool :=
  0x80 ≤ byte && byte ≤ 0xBF

/-- The six bits that a continuation byte contributes. -/
def payload (byte : UInt8) : Nat :=
  byte.toNat % 0x40

/-- Whether a second byte may follow a first one.  Overlong forms and code points beyond
`U+10FFFF` are excluded here; a surrogate is refused one byte later, by `progress`. -/
def admitsSecond (first second : UInt8) : Bool :=
  isContinuation second &&
    !(first == 0xE0 && second < 0xA0) &&
    !(first == 0xF0 && second < 0x90) &&
    !(first == 0xF4 && 0x90 ≤ second)

/-- The two bytes that every encoded surrogate begins with. -/
def startsSurrogate (first second : UInt8) : Bool :=
  first == 0xED && 0xA0 ≤ second

/-- Judges the bytes of a character that has begun, given the whole of them so far. -/
def progress : List UInt8 → Progress
  | [first] =>
    if first < 0x80 then .character (Char.ofNat first.toNat)
    else if first < 0xC2 || 0xF5 ≤ first then .refused .invalidStart 1
    else .unfinished
  | [first, second] =>
    if !admitsSecond first second then .refused .invalidContinuation 1
    else if first < 0xE0 then
      .character (Char.ofNat (first.toNat % 0x20 * 0x40 + payload second))
    else .unfinished
  | [first, second, third] =>
    if startsSurrogate first second then .refused .invalidContinuation 1
    else if !isContinuation third then .refused .invalidContinuation 2
    else if first < 0xF0 then
      .character (Char.ofNat
        ((first.toNat % 0x10 * 0x40 + payload second) * 0x40 + payload third))
    else .unfinished
  | [first, second, third, fourth] =>
    if !isContinuation fourth then .refused .invalidContinuation 3
    else
      .character (Char.ofNat
        (((first.toNat % 0x08 * 0x40 + payload second) * 0x40 + payload third) * 0x40
          + payload fourth))
  | _ => .unfinished

/-- Judges the bytes of a character that nothing follows. -/
def problemAtEnd : List UInt8 → Problem × Nat
  | [first, second] =>
    if startsSurrogate first second then (.invalidContinuation, 1) else (.unexpectedEnd, 2)
  | held => (.unexpectedEnd, held.length)

/-- A decoder between two bytes: the bytes `held` of an unfinished character, which begin
at offset `start` of the current block, the number `room` of bytes to come in that
block, and the characters read so far, the last one first. -/
structure Decoder where
  held : List UInt8
  start : Nat
  room : Nat
  read : List Char
  deriving DecidableEq, Repr

namespace Decoder

def initial : Decoder :=
  ⟨[], 0, blockSize, []⟩

def nextBlock (decoder : Decoder) : Decoder :=
  { decoder with start := 0, room := blockSize }

def take (decoder : Decoder) (byte : UInt8) : Except Failure Decoder :=
  let held := decoder.held ++ [byte]
  match progress held with
  | .character char =>
    .ok ⟨[], decoder.start + held.length, decoder.room - 1, char :: decoder.read⟩
  | .unfinished => .ok { decoder with held := held, room := decoder.room - 1 }
  | .refused problem length =>
    .error ⟨held.headD byte, decoder.start, length, problem⟩

/-- Takes one byte, going on to the next block where the current one is used up. -/
def feed (decoder : Decoder) (byte : UInt8) : Except Failure Decoder :=
  if decoder.room = 0 then decoder.nextBlock.take byte else decoder.take byte

def finish (decoder : Decoder) : Except Failure (List Char) :=
  match decoder.held with
  | [] => .ok decoder.read.reverse
  | first :: rest =>
    let (problem, length) := problemAtEnd (first :: rest)
    .error ⟨first, decoder.nextBlock.start, length, problem⟩

end Decoder

def decode (bytes : List UInt8) : Except Failure (List Char) :=
  bytes.foldlM Decoder.feed .initial >>= Decoder.finish

end CalcShell.Text.Utf8
