import RestDispatch.Dictionary
import RestDispatch.Text.Basic

/-!
# Media types

A media type is a type, a subtype and parameters; the quality parameter `q` belongs to
the entry of an `Accept` header and not to the type it names.  Ranges stand for several
types: `*/*`, `text/*` and `application/*+json`.
-/

namespace RestDispatch

/-- A media type or a range of media types. -/
structure MediaType where
  mainType : String
  subtype : String
  params : Dictionary String := []
  deriving DecidableEq, Repr

namespace MediaType

/-- A media type without parameters; types and subtypes are in small letters. -/
def ofParts (mainType subtype : String) : MediaType :=
  ⟨Text.lower mainType, Text.lower subtype, []⟩

/-- Give a parameter a value; parameter names are in small letters. -/
def withParam (m : MediaType) (name value : String) : MediaType :=
  { m with params := m.params.insert (Text.lower name) value }

def json : MediaType := ofParts "application" "json"

def protobuf : MediaType := ofParts "application" "x-protobuf"

def textPlain : MediaType := ofParts "text" "plain"

def textPlainUtf8 : MediaType := textPlain.withParam "charset" "utf-8"

def octetStream : MediaType := ofParts "application" "octet-stream"

def any : MediaType := ofParts "*" "*"

/-- Record the parameter written as `name=value`; one written otherwise, or named `q`, is
left out.  Quotation marks around a value are dropped. -/
def addParam (m : MediaType) (text : List Char) : MediaType :=
  match Text.splitOnce '=' (Text.trim text) with
  | none => m
  | some (name, value) =>
    let name := Text.lower (String.ofList (Text.trim name))
    if name = "q" then m
    else
      let value := Text.trimWhile (· == '"') (Text.trim value)
      { m with params := m.params.insert name (String.ofList value) }

/-- Read a media type: `type/subtype` and parameters behind semicolons. -/
def parse (s : String) : Option MediaType :=
  match Text.splitOn ';' (Text.trim s.toList) with
  | [] => none
  | essence :: params =>
    match Text.splitOnce '/' (Text.trim essence) with
    | none => none
    | some (mainType, subtype) =>
      let mainType := Text.trim mainType
      let subtype := Text.trim subtype
      if mainType.isEmpty || subtype.isEmpty then none
      else
        some (params.foldl addParam
          (ofParts (String.ofList mainType) (String.ofList subtype)))

/-- Read a comma-separated list and keep its well-formed entries. -/
def parseList (s : String) : List MediaType := (Text.parts ',' s).filterMap parse

def ofFormat? (format : String) : Option MediaType :=
  match Text.lower format with
  | "json" => some json
  | "protobuf" => some protobuf
  | "proto" => some protobuf
  | _ => none

/-- Whether the range covers every type. -/
def isAnyType (m : MediaType) : Bool := m.mainType == "*"

/-- Whether the range covers every subtype, or every subtype with a suffix. -/
def isAnySubtype (m : MediaType) : Bool :=
  m.subtype == "*" || (Text.stripStart ['*', '+'] m.subtype.toList).isSome

/-- Whether several types are meant. -/
def isRange (m : MediaType) : Bool := m.isAnyType || m.isAnySubtype

/-- What follows the last `+` of the subtype. -/
def suffix (m : MediaType) : Option String :=
  (Text.splitLast '+' m.subtype.toList).map fun (_, suffix) => String.ofList suffix

/-- Whether one of two types could stand for the other. -/
def isCompatibleWith (a b : MediaType) : Bool :=
  if a.isAnyType || b.isAnyType then true
  else if a.mainType != b.mainType then false
  else if a.subtype == b.subtype then true
  else if a.isAnySubtype || b.isAnySubtype then
    a.subtype == "*" || b.subtype == "*" || (a.suffix.isSome && a.suffix == b.suffix)
  else false

/-- Whether the first type, read as a range, covers the second. -/
def includes (a b : MediaType) : Bool :=
  if a.isAnyType then true
  else if a.mainType != b.mainType then false
  else if a.subtype == b.subtype || a.subtype == "*" then true
  else
    match Text.stripStart ['*', '+'] a.subtype.toList with
    | some suffix => b.suffix == some (String.ofList suffix)
    | none => false

/-- Equality of type and subtype. -/
def sameEssence (a b : MediaType) : Bool := a.mainType == b.mainType && a.subtype == b.subtype

/-- How few types are meant: 3 for a single type, 0 for every type. -/
def specificity (m : MediaType) : Nat :=
  (if m.isAnyType then 0 else 2) + (if m.isAnySubtype then 0 else 1)

def charset (m : MediaType) : Option String := m.params.get? "charset"

/-- `type/subtype`. -/
def essence (m : MediaType) : String := m.mainType ++ "/" ++ m.subtype

/-- The form a header carries: the essence, then the parameters in order of their names. -/
def header (m : MediaType) : String :=
  m.params.foldl (fun text (name, value) => text ++ ";" ++ name ++ "=" ++ value) m.essence

end MediaType

end RestDispatch
