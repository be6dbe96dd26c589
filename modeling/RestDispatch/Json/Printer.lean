import RestDispatch.Json.Document
import RestDispatch.Number.Shortest

/-!
# Writing JSON

Documents are written without white space.  Quotation marks, backslashes and controls are
escaped and nothing else.  A double is written with the fewest digits that read back, with
an exponent outside the decimal exponents from -5 to 15.
-/

namespace RestDispatch.Json

/-- The text form of doubles in documents. -/
def layout : Number.Layout where
  positionalFrom := some (-5)
  positionalTo := some 15
  pointZero := true
  plusSign := true
  tieUp := false

/-- Two hexadecimal digits in small letters. -/
def hexPair (n : Nat) : List Char := [Nat.digitChar (n / 16 % 16), Nat.digitChar (n % 16)]

def escape (c : Char) : List Char :=
  if c = '"' then ['\\', '"']
  else if c = '\\' then ['\\', '\\']
  else if c = '\x08' then ['\\', 'b']
  else if c = '\t' then ['\\', 't']
  else if c = '\n' then ['\\', 'n']
  else if c = '\x0c' then ['\\', 'f']
  else if c = '\r' then ['\\', 'r']
  else if c.toNat < 0x20 then ['\\', 'u', '0', '0'] ++ hexPair c.toNat
  else [c]

def quote (s : String) : List Char := '"' :: (s.toList.flatMap escape ++ ['"'])

mutual

/-- The text of a document. -/
def render : Json → List Char
  | .null => ['n', 'u', 'l', 'l']
  | .bool true => ['t', 'r', 'u', 'e']
  | .bool false => ['f', 'a', 'l', 's', 'e']
  | .integer n => (Number.integerText n).toList
  | .number x => (Number.text layout x).toList
  | .string s => quote s
  | .array items => '[' :: (renderItems items ++ [']'])
  | .object fields => '\x7b' :: (renderFields fields ++ ['\x7d'])

/-- The texts of items with commas between them. -/
def renderItems : List Json → List Char
  | [] => []
  | [item] => render item
  | item :: items => render item ++ ',' :: renderItems items

/-- The texts of fields with commas between them. -/
def renderFields : List (String × Json) → List Char
  | [] => []
  | [(name, value)] => quote name ++ ':' :: render value
  | (name, value) :: fields => quote name ++ ':' :: (render value ++ ',' :: renderFields fields)

end

def text (j : Json) : String := String.ofList j.render

end RestDispatch.Json
