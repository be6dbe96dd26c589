import RestDispatch.Type.Basic

/-!
# Conversion of texts

Query parameters, headers, cookies, path and matrix variables arrive as texts.  Whether a
type has a text form is decided once; then a text is converted as a scalar, as bytes, or
as a collection of scalars separated by commas.  A blank text is an absent value of every
scalar type but strings.
-/

namespace RestDispatch

/-- Why a text is not a value of a scalar type. -/
inductive ConversionFault
  | notABoolean
  | notACharacter
  | integer (fault : IntegerFault)
  | notANumber
  | rejected (reason : String)
  | unsupported (type : String)
  deriving DecidableEq, Repr

def ConversionFault.message : ConversionFault → String
  | .notABoolean => "expected a boolean"
  | .notACharacter => "expected a single character"
  | .integer fault => fault.message
  | .notANumber => "invalid float literal"
  | .rejected reason => reason
  | .unsupported type => "unsupported target type " ++ type

namespace Conversion

/-- The words for truth values, in any case. -/
def readBool (text : List Char) : Except ConversionFault Value :=
  match Text.lower (String.ofList text) with
  | "true" => .ok (.bool true)
  | "on" => .ok (.bool true)
  | "yes" => .ok (.bool true)
  | "1" => .ok (.bool true)
  | "false" => .ok (.bool false)
  | "off" => .ok (.bool false)
  | "no" => .ok (.bool false)
  | "0" => .ok (.bool false)
  | _ => .error .notABoolean

def readChar : List Char → Except ConversionFault Value
  | [c] => .ok (.char c)
  | _ => .error .notACharacter

def readInteger (t : IntegerType) (text : List Char) : Except ConversionFault Value :=
  match t.range.read text with
  | .ok n => .ok (if t.isSigned then .int n else .uint n.toNat)
  | .error fault => .error (.integer fault)

/-- A number, rounded once to its own format. -/
def readFloat (f : BinaryFormat) (text : List Char) : Except ConversionFault Value :=
  match (Number.readBinary text : Option (Binary f)) with
  | some x => .ok (.float x.convert)
  | none => .error .notANumber

/-- Convert the trimmed text of a scalar; a character is taken from the whole text. -/
def readTrimmed (ty : Ty) (whole trimmed : List Char) : Except ConversionFault Value :=
  match ty with
  | .bool => readBool trimmed
  | .char => readChar whole
  | .integer t => readInteger t trimmed
  | .single => readFloat .single trimmed
  | .double => readFloat .double trimmed
  | .parsed p =>
    match p.parse trimmed with
    | .ok fields => .ok (.object p.name fields)
    | .error reason => .error (.rejected reason)
  | ty => .error (.unsupported ty.name)

def readScalar (ty : Ty) (text : List Char) : Except ConversionFault Value :=
  match ty with
  | .string => .ok (.string (String.ofList text))
  | ty =>
    let trimmed := Text.trim text
    if trimmed.isEmpty then .ok .null else readTrimmed ty text trimmed

end Conversion

/-- How many scalars a text holds. -/
inductive Arity
  | scalar
  | bytes
  | list
  | set
  deriving DecidableEq, Repr

/-- A conversion of texts into values of one type. -/
structure Conversion where
  target : Ty
  /-- The scalar type of the value or of its elements, never optional. -/
  element : Ty
  arity : Arity

namespace Conversion

/-- The conversion for a type, when it has a text form: scalars, bytes, and lists, arrays
and sets of scalars. -/
def of? (target : Ty) : Option Conversion :=
  match target.unwrap with
  | .bytes => some ⟨target, .bytes, .bytes⟩
  | .list e => if e.isScalar then some ⟨target, e.unwrap, .list⟩ else none
  | .array e => if e.isScalar then some ⟨target, e.unwrap, .list⟩ else none
  | .set e => if e.isScalar then some ⟨target, e.unwrap, .set⟩ else none
  | t => if t.isScalar then some ⟨target, t, .scalar⟩ else none

/-- Whether a type has a text form. -/
def supports (target : Ty) : Bool := (of? target).isSome

/-- The conversion for a type, or the fault of a type without text form. -/
def of (target : Ty) : Except Error Conversion :=
  match of? target with
  | some c => .ok c
  | none => .error (.configuration (.noTextForm target.unwrap.name))

def scalar (c : Conversion) (text : String) : Except Error Value :=
  match readScalar c.element text.toList with
  | .ok v => .ok v
  | .error fault =>
    .error (.badRequest ("cannot convert '" ++ text ++ "' to " ++ c.element.name ++ ": " ++
      fault.message))

/-- Convert the texts one by one and leave out absent values. -/
def each (c : Conversion) : List String → Except Error (List Value)
  | [] => .ok []
  | text :: texts => do
    let v ← c.scalar text
    let vs ← c.each texts
    return if v.isNull then vs else v :: vs

/-- Convert the parts of a text between commas; a blank text has none. -/
def split (c : Conversion) (text : String) : Except Error (List Value) :=
  if (Text.trim text.toList).isEmpty then .ok []
  else c.each ((Text.splitOn ',' text.toList).map fun part => String.ofList (Text.trim part))

def convert (c : Conversion) (text : String) : Except Error Value :=
  match c.arity with
  | .scalar => c.scalar text
  | .bytes => .ok (.bytes (Text.bytes text))
  | .list => (c.split text).map .list
  | .set => (c.split text).map .ofItems

/-- Convert all texts of a source.  A single value comes from the first; a collection
comes from the parts of a single text, or else from one text each. -/
def convertAll (c : Conversion) : List String → Except Error Value
  | [] => .ok .null
  | [text] => c.convert text
  | first :: others =>
    match c.arity with
    | .scalar => c.convert first
    | .bytes => c.convert first
    | .list => (c.each (first :: others)).map .list
    | .set => (c.each (first :: others)).map .ofItems

end Conversion

end RestDispatch
