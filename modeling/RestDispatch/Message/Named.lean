import RestDispatch.Message.Wire
import RestDispatch.Type.Basic

/-!
# Messages with a name and a number

The message type with a string in field 1 and a signed 32-bit integer in field 2.  Fields
that are missing have the empty string and zero, of several fields of one number the last
counts, and fields of other numbers are skipped.
-/

namespace RestDispatch.Message

/-- A name and a number. -/
structure Named where
  name : String := ""
  id : Int := 0
  deriving DecidableEq, Repr

/-- Take in one field; a field of the wrong kind, or a name that is not UTF-8, is none. -/
def Named.merge (m : Named) (f : Field) : Option Named :=
  match f.number, f.content with
  | 1, .bytes bs => (Text.string? bs).map fun name => { m with name }
  | 1, _ => none
  | 2, .varint n => some { m with id := lowInt32 n }
  | 2, _ => none
  | _, _ => some m

def Named.decode (bs : Bytes) : Option Named := do
  (← fields bs).foldlM Named.merge {}

def Named.encode (m : Named) : Bytes := encodeBytes 1 (Text.bytes m.name) ++ encodeInt 2 m.id

/-- The fault of bytes that are no message. -/
def malformed : Error :=
  .deserialization "failed to decode Protobuf message: malformed field"

def Named.ofFields (fields : Fields) : Named where
  name :=
    match fields.lookup "name" with
    | some (.string s) => s
    | _ => ""
  id :=
    match fields.lookup "id" with
    | some (.int n) => n
    | _ => 0

def Named.toFields (m : Named) : Fields := [("name", .string m.name), ("id", .int m.id)]

/-- The codec of registered types with these two fields. -/
def Named.codec (fullName schema : String) : MessageCodec where
  fullName := fullName
  schema := schema
  decode bs :=
    match Named.decode bs with
    | some m => .ok m.toFields
    | none => .error malformed
  encode fields := .ok (Named.ofFields fields).encode

/-- The codec of registered types without fields. -/
def emptyCodec (fullName schema : String) : MessageCodec where
  fullName := fullName
  schema := schema
  decode bs :=
    match fields bs with
    | some _ => .ok []
    | none => .error malformed
  encode _ := .ok []

/-- The schema file of a message type: the path of its package, or its own name in small
letters when it has none. -/
def schemaFile (package name : String) : String :=
  if package.isEmpty then Text.lower name ++ ".proto"
  else String.ofList (package.toList.map fun c => if c = '.' then '/' else c) ++ ".proto"

end RestDispatch.Message
