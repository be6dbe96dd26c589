import RestDispatch.Value.Basic

/-!
# Listings of values

The form in which values appear in diagnostics: the name of the case and its content.
-/

namespace RestDispatch

def recordListing (name : String) (fields : List (String × String)) : String :=
  name ++ " \x7b " ++ Text.join ", " (fields.map fun (k, v) => k ++ ": " ++ v) ++ " \x7d"

/-- A word for a truth value. -/
def boolText (b : Bool) : String := if b then "true" else "false"

def listedByte (b : UInt8) : List Char :=
  if b = 0x0A then ['\\', 'n']
  else if b = 0x0D then ['\\', 'r']
  else if b = 0x09 then ['\\', 't']
  else if b = 0x5C then ['\\', '\\']
  else if b = 0x22 then ['\\', '"']
  else if b = 0 then ['\\', '0']
  else if 0x20 ≤ b && b < 0x7F then [Char.ofNat b.toNat]
  else ['\\', 'x', Nat.digitChar (b.toNat / 16), Nat.digitChar (b.toNat % 16)]

def bytesListing (bs : Bytes) : String :=
  String.ofList ('b' :: '"' :: (bs.flatMap listedByte ++ ['"']))

namespace Value

def listingLayout : Number.Layout where
  positionalFrom := some (-4)
  positionalTo := some 15
  pointZero := true
  plusSign := false
  tieUp := true

mutual

def listing : Value → String
  | .null => "Null"
  | .string s => "Str(" ++ Text.quoted s ++ ")"
  | .bool b => "Bool(" ++ boolText b ++ ")"
  | .char c => "Char(" ++ Text.quotedChar c ++ ")"
  | .int n => "Int(" ++ Number.integerText n ++ ")"
  | .uint n => "UInt(" ++ Number.integerText n ++ ")"
  | .float x => "Float(" ++ Number.text listingLayout x ++ ")"
  | .bytes bs => "Bytes(" ++ bytesListing bs ++ ")"
  | .list items => "List(" ++ Text.bracketed (itemListings items) ++ ")"
  | .set items => "Set(" ++ Text.bracketed (itemListings items) ++ ")"
  | .map entries => "Map(\x7b" ++ Text.join ", " (entryListings entries) ++ "\x7d)"
  | .cookie c =>
    "Cookie(" ++ recordListing "Cookie"
      [("name", Text.quoted c.name), ("value", Text.quoted c.value)] ++ ")"
  | .headers h => "Headers(" ++ h.listing ++ ")"
  | .object type _ => "Object(AnyObject<" ++ type ++ ">)"

def itemListings : List Value → List String
  | [] => []
  | v :: vs => v.listing :: itemListings vs

def entryListings : List (String × Value) → List String
  | [] => []
  | (k, v) :: rest => (Text.quoted k ++ ": " ++ v.listing) :: entryListings rest

end

end Value

end RestDispatch
