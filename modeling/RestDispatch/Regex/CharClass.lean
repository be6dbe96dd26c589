import RestDispatch.Text.CaseFolding
import RestDispatch.Text.DerivedProperty

/-!
# Classes of characters

The sets of characters that a regular expression names without naming a property.
-/

namespace RestDispatch

abbrev CharClass := Text.CharRanges

namespace CharClass

def ofText (s : String) : CharClass := .unions (s.toList.map .single)

def ascii : CharClass := .interval 0 0x7F

def asciiDigit : CharClass := .interval 0x30 0x39

def asciiUpper : CharClass := .interval 0x41 0x5A

def asciiLower : CharClass := .interval 0x61 0x7A

def asciiLetter : CharClass := asciiUpper ∪ asciiLower

def asciiWord : CharClass := asciiLetter ∪ asciiDigit ∪ .single '_'

/-- Tabulator, line feed, vertical tabulator, form feed, carriage return and space. -/
def asciiBlank : CharClass := .interval 9 13 ∪ .single ' '

/-- The classes between `[:` and `:]`. -/
def ofAsciiName? : String → Option CharClass
  | "alnum" => some (asciiLetter ∪ asciiDigit)
  | "alpha" => some asciiLetter
  | "ascii" => some ascii
  | "blank" => some (ofText "\t ")
  | "cntrl" => some (.interval 0 0x1F ∪ .interval 0x7F 0x7F)
  | "digit" => some asciiDigit
  | "graph" => some (.interval 0x21 0x7E)
  | "lower" => some asciiLower
  | "print" => some (.interval 0x20 0x7E)
  | "punct" =>
    some (.interval 0x21 0x2F ∪ .interval 0x3A 0x40 ∪ .interval 0x5B 0x60 ∪ .interval 0x7B 0x7E)
  | "space" => some asciiBlank
  | "upper" => some asciiUpper
  | "word" => some asciiWord
  | "xdigit" => some .asciiHexDigit
  | _ => none

end CharClass

end RestDispatch
