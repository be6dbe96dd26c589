import RestDispatch.Http.Headers
import RestDispatch.Json.Binding
import RestDispatch.Json.Parser
import RestDispatch.Media.MediaType
import RestDispatch.Type.Basic

/-!
# Body formats

A body format reads bodies into values of a declared type and writes values as bodies.  Any
application may bring its own; the two that come with the library are JSON and messages.  JSON
is recognised by the essence, by the suffix or by a range that covers it; messages only by their
exact media types, so that a range never selects them.
-/

namespace RestDispatch

namespace MediaType

/-- JSON, a type with the suffix `json`, or a range that covers JSON. -/
def isJson (m : MediaType) : Bool := m.isCompatibleWith json || m.suffix == some "json"

/-- The media types of messages. -/
def isProtobuf (m : MediaType) : Bool :=
  m.mainType == "application" && (m.subtype == "x-protobuf" || m.subtype == "protobuf")

end MediaType

def Ty.messageCodec? (ty : Ty) : Option MessageCodec := ty.object?.bind ObjectType.message

/-- A format of bodies. -/
structure BodyFormat where
  name : String
  /-- Whether the format writes behind what the body already holds. -/
  isStreaming : Bool := false
  /-- The media type written when only a range was asked for. -/
  ownType : MediaType
  canRead : MediaType → Ty → Bool
  canWrite : MediaType → Ty → Bool
  /-- Read a body of some media type into a value of a declared type. -/
  read : MediaType → Ty → Bytes → Except Error Value
  /-- Write a value of a declared type as a media type, and tell more about it in the headers.
  Headers that were changed before a failure stay changed. -/
  write : MediaType → Ty → Value → Headers → Except Error Bytes × Headers

namespace BodyFormat

/-- The header that names the schema file of a message. -/
def schemaHeader : String := "X-Protobuf-Schema"

def messageHeader : String := "X-Protobuf-Message"

/-- The document of a body.  A body that is not UTF-8 is refused in words of this library, as
are the faults of its text. -/
def parseJson (body : Bytes) : Except Error Json :=
  match Text.decodeUtf8 body with
  | .error _ =>
    .error (.deserialization "text is not UTF-8 at line 1 column 1")
  | .ok text =>
    match Json.parse text with
    | .ok j => .ok j
    | .error e => .error (.deserialization (e.message text))

/-- Documents of values. -/
def json (streaming : Bool) : BodyFormat where
  name := "json"
  isStreaming := streaming
  ownType := .json
  canRead m ty := m.isJson && ty.hasJsonForm
  canWrite m ty := m.isJson && ty.hasJsonForm
  read _ ty body := (parseJson body).bind (Json.toValue ty)
  write _ ty v h := ((Json.ofValue (some ty) v).map fun j => Text.encodeUtf8 j.render, h)

def notAMessage (ty : Ty) : String := ty.name ++ " is not a protobuf message"

def readMessage (ty : Ty) (body : Bytes) : Except Error Value :=
  match ty.object? with
  | some o =>
    match o.message with
    | some codec => (codec.decode body).map (.object o.name)
    | none => .error (.deserialization (notAMessage ty))
  | none => .error (.deserialization (notAMessage ty))

/-- The bytes of an instance of a registered type. -/
def encodeMessage (o : ObjectType) (codec : MessageCodec) : Value → Except Error Bytes
  | .object type fields => (o.downcast type fields).bind codec.encode
  | v => .error (.serialization ("cannot write " ++ v.kind ++ " as protobuf"))

/-- Write a message, and once it is encoded, tell which one it is. -/
def writeMessage (ty : Ty) (v : Value) (h : Headers) : Except Error Bytes × Headers :=
  match ty.object? with
  | some o =>
    match o.message with
    | some codec =>
      match encodeMessage o codec v with
      | .ok bs =>
        (.ok bs, (h.insert schemaHeader codec.schema).insert messageHeader codec.fullName)
      | .error e => (.error e, h)
    | none => (.error (.serialization (notAMessage ty)), h)
  | none => (.error (.serialization (notAMessage ty)), h)

/-- Messages of registered types. -/
def protobuf : BodyFormat where
  name := "protobuf"
  ownType := .protobuf
  canRead m ty := m.isProtobuf && ty.messageCodec?.isSome
  canWrite m ty := m.isProtobuf && ty.messageCodec?.isSome
  read _ := readMessage
  write _ := writeMessage

/-- JSON, streaming or not, and messages. -/
inductive IsBuiltIn : BodyFormat → Prop
  | json (streaming : Bool) : IsBuiltIn (.json streaming)
  | protobuf : IsBuiltIn .protobuf

end BodyFormat

/-- The formats of a deployment, for each direction in the order in which they are tried, and
those that serializer classes construct.  A class that constructs none is abstract. -/
structure FormatTable where
  readers : List BodyFormat := []
  writers : List BodyFormat := []
  classes : List (String × BodyFormat) := []

namespace FormatTable

def empty : FormatTable := {}

/-- Add a format for both directions. -/
def register (t : FormatTable) (f : BodyFormat) : FormatTable :=
  { t with readers := t.readers ++ [f], writers := t.writers ++ [f] }

def registerReader (t : FormatTable) (f : BodyFormat) : FormatTable :=
  { t with readers := t.readers ++ [f] }

def registerWriter (t : FormatTable) (f : BodyFormat) : FormatTable :=
  { t with writers := t.writers ++ [f] }

/-- JSON and messages. -/
def standard : FormatTable := (empty.register (.json false)).register .protobuf

def reader? (t : FormatTable) (m : MediaType) (ty : Ty) : Option BodyFormat :=
  t.readers.find? (·.canRead m ty)

def writer? (t : FormatTable) (m : MediaType) (ty : Ty) : Option BodyFormat :=
  t.writers.find? (·.canWrite m ty)

/-- What the constructor of a class makes. -/
def instance? (t : FormatTable) (c : FormatClass) : Option BodyFormat := t.classes.lookup c.name

def isAbstract (t : FormatTable) (c : FormatClass) : Bool := (t.instance? c).isNone

def classListing (t : FormatTable) (c : FormatClass) : String :=
  recordListing "SerializerClass"
    [("name", Text.quoted c.name), ("abstract", boolText (t.isAbstract c))]

def listing (t : FormatTable) : String :=
  recordListing "Serializers"
    [("request", Text.quotedList (t.readers.map BodyFormat.name)),
      ("response", Text.quotedList (t.writers.map BodyFormat.name))]

end FormatTable

end RestDispatch
