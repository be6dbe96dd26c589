import RestDispatch.Binding.Lookup
import RestDispatch.Body.Format
import RestDispatch.Http.Request

/-!
# Binders

A binder takes one argument from a request.  It is chosen and built when a handler is
deployed, so what it does to a request is plain data: which source it reads, what it looks
up there and how it converts what it finds.
-/

namespace RestDispatch

/-- A place in a request where values have names. -/
inductive Source
  | path
  | query
  | header
  | cookie
  | cookieObject
  | matrix (segment : Option String)
  deriving DecidableEq, Repr

namespace Source

/-- The word for a source in diagnostics. -/
def kind : Source → String
  | .path => "path variable"
  | .query => "request parameter"
  | .header => "header"
  | .cookie => "cookie"
  | .cookieObject => "cookie"
  | .matrix _ => "matrix variable"

def matrixHits (m : MatrixVariables) (name : String) : List (String × List String) :=
  m.segments.filterMap fun (segment, keys) =>
    (keys.get? name).map fun values => (segment, values)

/-- What a request carries under a name.  A matrix variable that is not restricted to a
segment must not occur in several. -/
def carried (r : Request) (name : String) : Source → Except Error (Option Carried)
  | .path => .ok ((r.pathVariable? name).map .single)
  | .query => .ok ((r.params? name).map .multiple)
  | .header =>
    let values := r.headers.getAll name
    .ok (if values.isEmpty then none else some (.multiple values))
  | .cookie => .ok ((r.cookie? name).map fun c => .single c.value)
  | .cookieObject => .ok ((r.cookie? name).map fun c => .value (.cookie c))
  | .matrix (some segment) =>
    .ok ((r.matrix.segment? segment).bind fun keys => (keys.get? name).map .multiple)
  | .matrix none =>
    match matrixHits r.matrix name with
    | [] => .ok none
    | [(_, values)] => .ok (some (.multiple values))
    | hits => .error (.ambiguousMatrixVariable name (hits.map (·.1)))

end Source

/-- A place in a request that can be read as a whole. -/
inductive EntrySource
  | path
  | query
  | header
  | matrix (segment : Option String)
  deriving DecidableEq, Repr

namespace EntrySource

/-- Add the values of one segment behind those of the same keys. -/
def addSegment (entries : Dictionary (List String)) (segment : MatrixSegment) :
    Dictionary (List String) :=
  segment.foldl (fun d (key, values) => d.modify key fun old => old.getD [] ++ values) entries

/-- The entries of a source, in the order in which they are read. -/
def entries (r : Request) : EntrySource → List (String × List String)
  | .path => r.pathListing.map fun (name, value) => (name, [value])
  | .query => r.queryListing
  | .header => r.headers.names.map fun name => (name, r.headers.getAll name)
  | .matrix segment =>
    (r.matrix.segments.filter fun (name, _) => segment.all (· == name)).foldl
      (fun d (_, keys) => addSegment d keys) []

end EntrySource

/-- How the entries of a source become a map: all values of a name, or the first one. -/
structure MapConversion where
  multiple : Bool
  conversion : Conversion

namespace MapConversion

def of (ty : Ty) (p : Param) : Except Error MapConversion :=
  match ty.mapValue? with
  | none => .error (.configuration (.notAMap ty.name p.describe))
  | some value =>
    match Conversion.of value with
    | .ok c => .ok ⟨ty.isMultiValueMap, c⟩
    | .error e => .error (.configuration (.unsupportedMapValue p.describe e.message))

def addEntry (m : MapConversion) (map : Dictionary Value) (entry : String × List String) :
    Except Error (Dictionary Value) :=
  let (name, values) := entry
  if m.multiple then (m.conversion.convertAll values).map fun v => map.insert name v
  else if map.contains name then .ok map
  else
    match values with
    | [] => .ok map
    | first :: _ => (m.conversion.convert first).map fun v => map.insert name v

def build (m : MapConversion) (entries : List (String × List String)) : Except Error Value :=
  (entries.foldlM m.addEntry []).map .map

end MapConversion

/-- How a body is read: the name it is reported under, its type and its formats. -/
structure BodyBinding where
  name : String
  ty : Ty
  required : Bool
  formats : FormatTable
  /-- The request parameter that overrides the type of the body. -/
  formatParameter : Option String

namespace BodyBinding

/-- A null body is a failure where one is required. -/
def check (name : String) (required : Bool) (v : Value) : Except Error Value :=
  if v.isNull && required then .error (.missingValue "request body" name) else .ok v

def mediaType? (b : BodyBinding) (r : Request) : Option MediaType :=
  ((b.formatParameter.bind r.param?).bind MediaType.ofFormat?) <|> r.contentType?

def isText (m : Option MediaType) : Bool := m.all (·.sameEssence .textPlain)

def readText (name : String) (c : Conversion) (body : Bytes) : Except Error Value :=
  if body.isEmpty then .ok .null
  else
    match Text.decodeUtf8 body with
    | .ok text => c.convert (String.ofList text)
    | .error fault =>
      .error (.badRequest ("request body of '" ++ name ++ "' is not UTF-8: " ++ fault.message))

def readFormat (b : BodyBinding) (m : MediaType) (body : Bytes) : Except Error Value :=
  match b.formats.reader? m b.ty with
  | some f => f.read m b.ty body
  | none =>
    .error (.unsupportedMediaType
      ("content type '" ++ m.header ++ "' not supported for '" ++ b.name ++ "'"))

def read (b : BodyBinding) (r : Request) : Except Error Value := do
  let m := b.mediaType? r
  let v ←
    match Conversion.of? b.ty, isText m with
    | some c, true => readText b.name c r.body
    | _, _ =>
      if r.body.isEmpty then .ok .null else b.readFormat (m.getD .textPlain) r.body
  check b.name b.required v

end BodyBinding

/-- A body that one format reads whatever its media type. -/
structure FixedBodyBinding where
  name : String
  ty : Ty
  required : Bool
  format : BodyFormat

def FixedBodyBinding.read (b : FixedBodyBinding) (r : Request) : Except Error Value := do
  let v ←
    if r.body.isEmpty then .ok .null
    else b.format.read (r.contentType?.getD .any) b.ty r.body
  BodyBinding.check b.name b.required v

mutual

/-- How one argument is taken from a request. -/
inductive Binder
  | named (source : Source) (lookup : Lookup) (conversion : Option Conversion)
  | entries (source : EntrySource) (conversion : MapConversion)
  | headers
  | cookies (distinct : Bool)
  | body (b : BodyBinding)
  | fixedBody (b : FixedBodyBinding)
  | bean (b : BeanBinding)
  /-- A binder brought along by the application. -/
  | custom (f : Request → Except Error Value)

/-- How an instance of a bean type is made and filled. -/
structure BeanBinding where
  name : String
  initial : List (String × Value)
  fields : List FieldBinding

/-- How one field of a bean is filled. -/
structure FieldBinding where
  name : String
  setter : Setter
  binder : Binder

end

mutual

/-- Take an argument from a request. -/
def Binder.resolve (r : Request) : Binder → Except Error Value
  | .named source lookup conversion =>
    match source.carried r lookup.name with
    | .ok carried => lookup.resolve source.kind conversion carried
    | .error e => .error e
  | .entries source conversion => conversion.build (source.entries r)
  | .headers => .ok (.headers r.headers)
  | .cookies true => .ok (Value.ofItems (r.cookies.map .cookie))
  | .cookies false => .ok (.list (r.cookies.map .cookie))
  | .body b => b.read r
  | .fixedBody b => b.read r
  | .bean b => BeanBinding.instantiate r b
  | .custom f => f r

def BeanBinding.instantiate (r : Request) : BeanBinding → Except Error Value
  | ⟨name, initial, fields⟩ => (fillFields r fields initial).map (.object name)

def fillFields (r : Request) : List FieldBinding → Fields → Except Error Fields
  | [], content => .ok content
  | field :: rest, content => do
    let content ← fillField r field content
    fillFields r rest content

/-- Fill one field, unless it resolves to null. -/
def fillField (r : Request) : FieldBinding → Fields → Except Error Fields
  | ⟨_, setter, binder⟩, content =>
    match Binder.resolve r binder with
    | .ok .null => .ok content
    | .ok v => setter.apply content v
    | .error e => .error e

end

end RestDispatch
