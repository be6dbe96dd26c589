import RestDispatch.Text.Basic
import RestDispatch.Text.Utf8

/-!
# Percent-encoding

A `%` and two hexadecimal digits stand for one byte.  A `%` that is not followed by two
hexadecimal digits stands for itself.  Decoding works on bytes; a text whose decoded
bytes are not UTF-8 is kept as it was written.  Encoding writes every byte outside the
ASCII letters and digits as such a triple.
-/

namespace RestDispatch.Text

/-- The value of a hexadecimal digit. -/
def hexValue (b : UInt8) : Option UInt8 :=
  if 0x30 ≤ b && b ≤ 0x39 then some (b - 0x30)
  else if 0x41 ≤ b && b ≤ 0x46 then some (b - 0x41 + 10)
  else if 0x61 ≤ b && b ≤ 0x66 then some (b - 0x61 + 10)
  else none

/-- Replace every complete `%XX` by its byte. -/
def percentDecode : Bytes → Bytes
  | a :: b :: c :: rest =>
    if a = 0x25 then
      match hexValue b, hexValue c with
      | some high, some low => (high * 16 + low) :: percentDecode rest
      | _, _ => a :: percentDecode (b :: c :: rest)
    else a :: percentDecode (b :: c :: rest)
  | bs => bs

/-- The decoded text, or the text itself when the decoded bytes are not UTF-8. -/
def decodeComponent (s : String) : String := (string? (percentDecode (bytes s))).getD s

/-- Decode one key or value of a query string, where `+` stands for a space. -/
def decodeFormComponent (s : String) : String :=
  decodeComponent (String.ofList (s.toList.map fun c => if c = '+' then ' ' else c))

/-- The capital hexadecimal digit of a value below sixteen. -/
def hexDigit (n : UInt8) : UInt8 := if n < 10 then 0x30 + n else 0x41 + (n - 10)

/-- The ASCII letters and digits. -/
def isUnreserved (b : UInt8) : Bool :=
  (0x30 ≤ b && b ≤ 0x39) || (0x41 ≤ b && b ≤ 0x5A) || (0x61 ≤ b && b ≤ 0x7A)

/-- Write every byte outside the ASCII letters and digits as `%XX`. -/
def percentEncode : Bytes → Bytes
  | [] => []
  | b :: rest =>
    if isUnreserved b then b :: percentEncode rest
    else 0x25 :: hexDigit (b / 16) :: hexDigit (b % 16) :: percentEncode rest

end RestDispatch.Text
