import CalcShell.Text.Printable

/-!
# Quoted text

Messages and traces show a text between quotes in a form that is readable on
one line: what is not printable is written as an escape.
-/

namespace CalcShell.Text

def hexDigit (value : Nat) : Char :=
  if value < 10 then Char.ofNat (0x30 + value) else Char.ofNat (0x57 + value)

def hexDigits : Nat → Nat → List Char
  | 0, _ => []
  | width + 1, value => hexDigits width (value / 16) ++ [hexDigit (value % 16)]

/-- The escape of a code point, in the shortest of the three lengths that holds it. -/
def codeEscape (code : Nat) : List Char :=
  if code < 0x100 then '\\' :: 'x' :: hexDigits 2 code
  else if code < 0x10000 then '\\' :: 'u' :: hexDigits 4 code
  else '\\' :: 'U' :: hexDigits 8 code

/-- The quote that stands around a text: the double one only where that spares escapes. -/
def quoteFor (text : List Char) : Char :=
  if '\'' ∈ text ∧ '"' ∉ text then '"' else '\''

def quotedChar (quote : Char) (char : Char) : List Char :=
  if char = quote ∨ char = '\\' then ['\\', char]
  else if char = '\n' then ['\\', 'n']
  else if char = '\r' then ['\\', 'r']
  else if char = '\t' then ['\\', 't']
  else if isPrintable char then [char]
  else codeEscape char.toNat

def quotedChars (text : List Char) : List Char :=
  let quote := quoteFor text
  quote :: text.flatMap (quotedChar quote) ++ [quote]

def quoted (text : String) : String :=
  String.ofList (quotedChars text.toList)

/-- One byte as it is written between quotes: bytes above `7E` are never printable. -/
def quotedByte (escapes : Char → Bool) (byte : UInt8) : List Char :=
  let char := Char.ofNat byte.toNat
  if escapes char then ['\\', char]
  else if char = '\n' then ['\\', 'n']
  else if char = '\r' then ['\\', 'r']
  else if char = '\t' then ['\\', 't']
  else if 0x20 ≤ byte.toNat ∧ byte.toNat < 0x7F then [char]
  else codeEscape byte.toNat

/-- Bytes between quotes, after the letter that marks them; `escapes` says, given the
quote, which characters a backslash precedes. -/
def quotedBytes (escapes : Char → Char → Bool) (bytes : List UInt8) : String :=
  let quote := quoteFor (bytes.map fun byte => Char.ofNat byte.toNat)
  String.ofList ('b' :: quote :: bytes.flatMap (quotedByte (escapes quote)) ++ [quote])

end CalcShell.Text
