import RestDispatch.Body.Format
import RestDispatch.Handler.Exchange
import RestDispatch.Handler.Parameter
import RestDispatch.Http.Request
import RestDispatch.Media.Accept
import RestDispatch.Number.Shortest
import RestDispatch.Options.Basic

/-!
# Writing results

How the result of a handler becomes the body of its response is settled when the handler
is deployed.  A handler without a declared type writes nothing; a format named by its
method or class is always used; scalars and bytes are written as they are; everything else
is written by the first format that suits what the client asks for.  A null writes an empty
body.
-/

namespace RestDispatch

/-- A body and the media type it is of. -/
structure PlainBody where
  content : Bytes
  type : MediaType
  deriving DecidableEq, Repr

namespace PlainBody

/-- Floats are written without exponent and, when integral, without a point. -/
def layout : Number.Layout where
  positionalFrom := none
  positionalTo := none
  pointZero := false
  plusSign := false
  tieUp := true

def ofText (s : String) : PlainBody := ⟨Text.bytes s, .textPlainUtf8⟩

def ofValue? : Value → Option PlainBody
  | .bytes bs => some ⟨bs, .octetStream⟩
  | .string s => some (ofText s)
  | .bool b => some (ofText (boolText b))
  | .char c => some (ofText (String.singleton c))
  | .int n => some (ofText (Number.integerText n))
  | .uint n => some (ofText (Number.integerText n))
  | .float x => some (ofText (Number.text layout x))
  | _ => none

end PlainBody

/-- How results are written. -/
inductive ResultWriter
  | empty
  /-- Texts, scalars and bytes as they are. -/
  | plain
  | fixed (ty : Ty) (format : BodyFormat)
  /-- By a format that the request asks for, perhaps with a parameter. -/
  | negotiated (ty : Ty) (formats : FormatTable) (parameter? : Option String)

namespace ResultWriter

def fixedFormat? (m : HandlerMethod) : Option FormatClass :=
  match m.annotations.responseSerializer? with
  | some c => some c
  | none => m.declaring.annotations.responseSerializer?

def of (m : HandlerMethod) (returns : Option Ty) (formats : FormatTable) (options : Options) :
    Except Error ResultWriter :=
  match returns with
  | none => .ok .empty
  | some ty =>
    match fixedFormat? m with
    | some c =>
      match formats.instance? c with
      | some format => .ok (.fixed ty format)
      | none => .error (.configuration (.abstractResponseFormat c.name m.qualifiedName))
    | none =>
      if ty.isScalar || ty.isBytes then .ok .plain
      else .ok (.negotiated ty formats options.serialize.formatParameter?)

def sendAs {σ : Type} (m : MediaType) (bs : Bytes) : Handling σ Unit := do
  .respond (·.setHeader "Content-Type" m.header)
  .tryRespond (·.send bs)

/-- Commit an empty body. -/
def sendNothing {σ : Type} : Handling σ Unit := .tryRespond (·.send [])

/-- Commit a value in a format.  A streaming format writes behind what the response already
holds, any other in place of it. -/
def sendFormatted {σ : Type} (f : BodyFormat) (m : MediaType) (ty : Ty) (v : Value) :
    Handling σ Unit := do
  let bs ← .withHeaders (f.write m ty v)
  if f.isStreaming then
    .respond fun r => (r.write bs).setHeader "Content-Type" m.header
    .tryRespond Response.commit
  else sendAs m bs

/-- The media types to try, the most preferred first: the one that the parameter names,
then those of the route that the client accepts, and where the route names none, those of
the accept header or else JSON. -/
def candidates (parameter? : Option String) (r : Request) : List MediaType :=
  let asked := ((parameter?.bind r.param?).bind MediaType.ofFormat?).toList
  asked ++
    match r.attributes.mediaTypes? Attributes.compatibleTypes with
    | some (m :: rest) => m :: rest
    | _ =>
      match r.header? "Accept" with
      | some header => (Accept.parse header).acceptable
      | none => [.json]

def choose? (formats : FormatTable) (ty : Ty) (candidates : List MediaType) :
    Option (MediaType × BodyFormat) :=
  candidates.findSome? fun m => (formats.writer? m ty).map fun f => (m, f)

/-- The media type written for a candidate: a range gives way to the format's own type. -/
def writtenType (f : BodyFormat) (m : MediaType) : MediaType :=
  if m.isRange then f.ownType else m

def write {σ : Type} (w : ResultWriter) (v : Value) (r : Request) : Handling σ Unit :=
  match w with
  | .empty => sendNothing
  | .plain =>
    if v.isNull then sendNothing
    else
      match PlainBody.ofValue? v with
      | some body => sendAs body.type body.content
      | none => throw (.serialization ("cannot write " ++ v.kind ++ " as plain text"))
  | .fixed ty f => if v.isNull then sendNothing else sendFormatted f f.ownType ty v
  | .negotiated ty formats parameter? =>
    if v.isNull then sendNothing
    else
      match choose? formats ty (candidates parameter? r) with
      | some (m, f) => do
        let m := writtenType f m
        .report
          { level := .trace
            message := "writing response"
            fields := [("serializer", f.name), ("media_type", m.header)] }
        sendFormatted f m ty v
      | none =>
        throw (.notAcceptable ("no serializer can write " ++ ty.name ++ " as " ++
          (r.header? "Accept").getD "application/json"))

end ResultWriter

end RestDispatch
