import RestDispatch.Description.Vocabulary
import RestDispatch.Value.Host

/-!
# Descriptions of values

Every value has a description that keeps its kind: `{"int": "5"}` is not `{"uint": "5"}`,
and numbers are given by their bits.  Instances of registered types are described by their
content.  Bytes are described by hexadecimal digits or by the text they encode.
-/

namespace RestDispatch

namespace Text

/-- The number of some hexadecimal digits. -/
def readHex (digits : List Char) : Nat :=
  digits.foldl (fun n c => n * 16 + (Json.hexValue c).getD 0) 0

/-- The bytes of pairs of hexadecimal digits. -/
def readHexBytes : List Char → Bytes
  | a :: b :: rest => UInt8.ofNat (readHex [a, b]) :: readHexBytes rest
  | _ => []

/-- At least `width` hexadecimal digits. -/
def hexText (width n : Nat) : String :=
  let digits := Nat.toDigits 16 n
  String.ofList (List.replicate (width - digits.length) '0' ++ digits)

/-- Two hexadecimal digits for each byte. -/
def hexBytes (bs : Bytes) : String := String.join (bs.map fun b => hexText 2 b.toNat)

end Text

namespace Json

/-- The description of a number by `width` hexadecimal digits of its bits. -/
def ofBits {f : BinaryFormat} (width : Nat) (x : Binary f) : Json :=
  .string (if x.isNaN then "NaN" else Text.hexText width x.bits)

def readBits (s : String) : Double :=
  if s == "NaN" then Binary.nan else ⟨Text.readHex s.toList⟩

/-- The bytes of a description: a text, `{"hex": digits}` or `{"repeat": [text, n]}`. -/
def readBytes (j : Json) : Bytes :=
  match j with
  | .string s => Text.bytes s
  | j =>
    if j.has "hex" then Text.readHexBytes (j.getText "hex").toList
    else
      match j.getItems "repeat" with
      | [s, n] => (List.replicate n.asInt.toNat (Text.bytes s.asText)).flatten
      | _ => []

/-- The description of bytes, as text where they are UTF-8. -/
def ofBytes (bs : Bytes) : Json :=
  match Text.string? bs with
  | some s => .ofMembers [("text", .string s)]
  | none => .ofMembers [("hex", .string (Text.hexBytes bs))]

def readDecimal (s : String) : Int := s.toInt?.getD 0

end Json

namespace Description

def fieldText (fields : Fields) (name : String) : Json :=
  match fields.lookup name with
  | some (.string s) => .string s
  | _ => .null

def fieldInt (fields : Fields) (name : String) : Int :=
  match fields.lookup name with
  | some (.int n) => n
  | some (.uint n) => n
  | _ => 0

section

variable [Vocabulary]

/-- The value of a description of at most `depth` levels. -/
def readValueIn : Nat → Json → Value
  | 0, _ => .null
  | depth + 1, j =>
    let all (name : String) : List Value := (j.getItems name).map (readValueIn depth)
    if j.has "str" then .string (j.getText "str")
    else if j.has "bool" then .bool (j.getFlag "bool")
    else if j.has "char" then .char ((j.getText "char").toList.headD ' ')
    else if j.has "int" then .int (Json.readDecimal (j.getText "int"))
    else if j.has "uint" then .uint (Json.readDecimal (j.getText "uint")).toNat
    else if j.has "float" then .float (Json.readBits (j.getText "float"))
    else if j.has "bytes" then .bytes (Text.readHexBytes (j.getText "bytes").toList)
    else if j.has "list" then .list (all "list")
    else if j.has "set" then Value.ofItems (all "set")
    else if j.has "map" then
      .map (Dictionary.ofPairs ((j.getItems "map").map fun entry =>
        match entry.asItems with
        | [k, v] => (k.asText, readValueIn depth v)
        | _ => ("", .null)))
    else if j.has "cookie" then
      match j.getTexts "cookie" with
      | [name, value] => .cookie ⟨name, value⟩
      | _ => .null
    else if j.has "headers" then .headers ⟨j.getPairs "headers"⟩
    else Vocabulary.readInstance j

def readValue (j : Json) : Value := readValueIn Json.maxDepth j

def beanNumber (type : String) : Int :=
  Json.readDecimal (String.ofList (type.toList.filter Char.isDigit))

/-- The description of an instance; `sets` describes what was set in a recording bean. -/
def ofObject (sets : List Json) (type : String) (fields : Fields) : Json :=
  match Vocabulary.ofInstance type fields with
  | some (word, content) => .ofMembers [(word, content)]
  | none =>
    .ofMembers [("bean", .ofMembers [("id", .integer (beanNumber type)), ("sets", .array sets)])]

mutual

def ofValue : Value → Json
  | .null => .null
  | .string s => .ofMembers [("str", .string s)]
  | .bool b => .ofMembers [("bool", .bool b)]
  | .char c => .ofMembers [("char", .string (String.ofList [c]))]
  | .int n => .ofMembers [("int", .string (Number.integerText n))]
  | .uint n => .ofMembers [("uint", .string (Number.integerText n))]
  | .float x => .ofMembers [("float", .ofBits 16 x)]
  | .bytes bs => .ofMembers [("bytes", .string (Text.hexBytes bs))]
  | .list items => .ofMembers [("list", .array (ofValues items))]
  | .set items => .ofMembers [("set", .array (ofValues items))]
  | .map entries => .ofMembers [("map", .array (ofEntries entries))]
  | .cookie c => .ofMembers [("cookie", .ofTexts [c.name, c.value])]
  | .headers h => .ofMembers [("headers", .ofTextPairs h.entries)]
  | .object type fields => ofObject (ofSets fields) type fields

def ofValues : List Value → List Json
  | [] => []
  | v :: vs => ofValue v :: ofValues vs

def ofEntries : List (String × Value) → List Json
  | [] => []
  | (k, v) :: rest => .array [.string k, ofValue v] :: ofEntries rest

/-- What was set in a recording bean: field, way and value. -/
def ofSets : List (String × Value) → List Json
  | [] => []
  | (field, .list [.string way, v]) :: rest =>
    .array [.string field, .string way, ofValue v] :: ofSets rest
  | (field, v) :: rest => .array [.string field, ofValue v] :: ofSets rest

end

/-- The description of extracted data, sets in order. -/
def ofHost : (t : HostType) → t.Carrier → Json
  | .value, v => ofValue v
  | .string, s => .string s
  | .bool, b => .bool b
  | .char, c => .string (String.ofList [c])
  | .integer _, n => .string (Number.integerText n.val)
  | .size, n => .string (Number.integerText n.val)
  | .single, x => .ofBits 8 x
  | .double, x => .ofBits 16 x
  | .bytes, bs => .string (Text.hexBytes bs)
  | .cookie, c => ofValue (.cookie c)
  | .headers, h => ofValue (.headers h)
  | .object type, fields => .ofOption (·.2) (Vocabulary.ofInstance type fields)
  | .option t, x => .ofOption (fun y => .ofMembers [("some", ofHost t y)]) x
  | .list t, xs => .array (xs.map (ofHost t))
  | .set .string, xs => .ofTexts (stableSort (fun a b => a < b) xs)
  | .set (.integer t), xs =>
    .array ((stableSort (fun a b => a.val < b.val) xs).map (ofHost (.integer t)))
  | .set t, xs => .array (xs.map (ofHost t))
  | .map t, d => .array (d.map fun (k, x) => .array [.string k, ofHost t x])
  | .table t, d => .array (d.map fun (k, x) => .array [.string k, ofHost t x])

end

end Description

end RestDispatch
