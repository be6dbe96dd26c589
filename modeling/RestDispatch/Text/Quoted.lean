import RestDispatch.Text.Hidden

/-!
# Quoted texts

Names and values appear in diagnostics between quotation marks.  The mark itself, the
backslash and five controls have an escape of two characters; a character without a
picture of its own is written by its number in hexadecimal digits; every other character
stands for itself.
-/

namespace RestDispatch.Text

/-- The escaped form of one character between quotation marks `mark`. -/
def escapeChar (mark c : Char) : List Char :=
  if c = '\x00' then ['\\', '0']
  else if c = '\t' then ['\\', 't']
  else if c = '\r' then ['\\', 'r']
  else if c = '\n' then ['\\', 'n']
  else if c = '\\' || c = mark then ['\\', c]
  else if CharRanges.hidden.contains c then
    '\\' :: 'u' :: '\x7b' :: (Nat.toDigits 16 c.toNat ++ ['\x7d'])
  else [c]

/-- A text between quotation marks. -/
def quoted (s : String) : String :=
  String.ofList ('"' :: (s.toList.flatMap (escapeChar '"') ++ ['"']))

/-- A character between apostrophes. -/
def quotedChar (c : Char) : String :=
  String.ofList ('\'' :: (escapeChar '\'' c ++ ['\'']))

/-- Texts between brackets, separated by commas. -/
def bracketed (texts : List String) : String := "[" ++ join ", " texts ++ "]"

def quotedList (texts : List String) : String := bracketed (texts.map quoted)

end RestDispatch.Text
