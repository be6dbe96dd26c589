import RestDispatch.Conversion
import RestDispatch.Description.Values
import RestDispatch.Handler.Parameter
import RestDispatch.Scenario.Recording

/-!
# Descriptions of types, annotations and parameters

A type is described by its name, or by an object that names its wrapper and describes
what is wrapped; a recording bean is described by its number and its fields.
-/

namespace RestDispatch.Description

section

variable [Vocabulary]

def readAnnotation? (j : Json) : Option Annotation :=
  let named : NamedValue := ⟨j.getText "name", j.getFlagOr "required" true, j.getText? "default"⟩
  match j.getText "a" with
  | "request_param" => some (.requestParam named)
  | "request_header" => some (.requestHeader named)
  | "cookie_value" => some (.cookieValue named)
  | "path_variable" => some (.pathVariable named)
  | "matrix_variable" => some (.matrixVariable named (j.getText? "path_var"))
  | "request_body" => some (.requestBody named.required)
  | "request_bean" => some .requestBean
  | "query_bean" => some .queryBean
  | "query_name" => some (.queryName named.name)
  | "request_serializer" => some (.requestSerializer (Vocabulary.formatClass (j.getText "class")))
  | "response_serializer" => some (.responseSerializer (Vocabulary.formatClass (j.getText "class")))
  | "response_status" => some (.responseStatus (j.getNat "status"))
  | _ => none

def readAnnotations (j : Json) (name : String) : Annotations :=
  (j.getItems name).filterMap readAnnotation?

/-- The type that the setter of a recorded field takes. -/
def readArgumentType : String → HostType
  | "u8" => .integer .u8
  | "u32" => .integer .u32
  | "i32" => .integer .i32
  | "string" => .string
  | "bool" => .bool
  | "f64" => .double
  | "vec_string" => .list .string
  | _ => .value

/-- The type of a name; an unknown name stands for strings. -/
def readTypeName : String → Ty
  | "bool" => .bool
  | "char" => .char
  | "i8" => .integer .i8
  | "i16" => .integer .i16
  | "i32" => .integer .i32
  | "i64" => .integer .i64
  | "u8" => .integer .u8
  | "u16" => .integer .u16
  | "u32" => .integer .u32
  | "u64" => .integer .u64
  | "f32" => .single
  | "f64" => .double
  | "bytes" => .bytes
  | "cookie" => .cookie
  | "headers" => .headers
  | word => (Vocabulary.types.lookup word).getD .string

/-- The ways of writing a recorded field. -/
def readAccess : String → Access
  | "setter" => .setter
  | "both" => .both
  | _ => .direct

/-- The type of a description of at most `depth` levels. -/
def readTyIn : Nat → Json → Ty
  | 0, _ => .string
  | depth + 1, j =>
    let inner (name : String) : Ty := readTyIn depth (j.member name)
    match j with
    | .string name => readTypeName name
    | j =>
      if j.has "optional" then .optional (inner "optional")
      else if j.has "list" then .list (inner "list")
      else if j.has "set" then .set (inner "set")
      else if j.has "array" then .array (inner "array")
      else if j.has "map" then .map (inner "map")
      else if j.has "bean" then
        .object (recordingBean (Vocabulary.beanName (j.getNat "bean"))
          (j.getFlagOr "constructor" true)
          ((j.getItems "fields").map fun f =>
            { name := f.getText "name"
              ty := readTyIn depth (f.member "ty")
              argument := readArgumentType (f.getText "as")
              access := readAccess (f.getText "access")
              annotations := readAnnotations f "annotations" }))
      else .string

def readTy (j : Json) : Ty := readTyIn Json.maxDepth j

/-- The type in a member. -/
def readTyOf (j : Json) (name : String) : Ty := readTy (j.member name)

/-- The type in a member that may be missing. -/
def readTyOf? (j : Json) (name : String) : Option Ty :=
  if (j.member name).isNull then none else some (readTyOf j name)

def readMethod (j : Json) : HandlerMethod where
  name := (j.getText? "method").getD "m"
  annotations := readAnnotations j "method_annotations"
  declaring := ⟨(j.getText? "class").getD "C", readAnnotations j "class_annotations"⟩

def readParam (j : Json) : Param where
  name := j.getText "name"
  ty := readTyOf j "ty"
  index := j.getNat "index"
  annotations := readAnnotations j "annotations"
  owner :=
    match j.getText? "bean" with
    | some bean => .bean bean
    | none => .method (readMethod j)

end

def ofMessageNames (o : ObjectType) : Json :=
  .ofOption (fun m => .ofTexts [m.fullName, m.schema]) o.message

/-- The fields of a bean type, with the number of their annotations. -/
def ofBean (b : BeanType) : Json :=
  .ofMembers [("name", .string b.name), ("constructor", .bool b.initial.isSome),
    ("fields", .array (b.fields.map fun f =>
      .array [.string f.name, .string f.ty.name, .integer f.annotations.length]))]

def ofObjectType (o : ObjectType) : Json :=
  .ofMembers [("name", .string o.name), ("json", .bool o.json.isSome),
    ("protobuf", ofMessageNames o), ("bean", .ofOption ofBean o.bean)]

/-- Everything that is asked of the shape of a type. -/
def ofTy (t : Ty) : List (String × Json) :=
  let name (t : Option Ty) : Json := .ofOption (fun t => .string t.name) t
  [("collection", .bool t.isCollection), ("convertible", .bool (Conversion.supports t)),
    ("debug", .string t.listing), ("display", .string t.name), ("element", name t.element?),
    ("map", .bool t.isMap), ("map_value", name t.mapValue?),
    ("multi_value_map", .bool t.isMultiValueMap), ("object", .ofOption ofObjectType t.object?),
    ("optional", .bool t.isOptional), ("scalar", .bool t.isScalar), ("text", .bool t.isText),
    ("unwrapped", .string t.unwrap.name)]

def ofNamed (v : NamedValue) : Json :=
  .array [.string v.name, .bool v.required, .ofOption .string v.default?]

/-- A serializer class: its name, whether it constructs a format, and its listed form. -/
def ofFormatClass (formats : FormatTable) (c : FormatClass) : Json :=
  .array [.string c.name, .bool (!formats.isAbstract c), .string (formats.classListing c)]

/-- Everything that is asked of a list of annotations. -/
def ofAnnotations (formats : FormatTable) (as : Annotations) : List (String × Json) :=
  [("count", .integer as.length), ("empty", .bool as.isEmpty),
    ("request_param", .ofOption ofNamed as.requestParam?),
    ("request_header", .ofOption ofNamed as.requestHeader?),
    ("cookie_value", .ofOption ofNamed as.cookieValue?),
    ("path_variable", .ofOption ofNamed as.pathVariable?),
    ("matrix_variable", .ofOption
      (fun (v, segment) => .array [ofNamed v, .ofOption .string segment]) as.matrixVariable?),
    ("request_body", .ofOption .bool as.requestBody?), ("request_bean", .bool as.hasRequestBean),
    ("query_bean", .bool as.hasQueryBean), ("query_name", .ofOption .string as.queryName?),
    ("request_serializer", .ofOption (ofFormatClass formats) as.requestSerializer?),
    ("response_serializer", .ofOption (ofFormatClass formats) as.responseSerializer?),
    ("response_status", .ofOption (fun n => .integer n) as.responseStatus?)]

section

variable [Vocabulary]

/-- Add the format of a word to a table, for both directions or for one; any other word adds
nothing. -/
def addFormat (t : FormatTable) (word : String) : FormatTable :=
  match Vocabulary.formats.lookup word, word with
  | some f, _ => t.register f
  | none, "json-read" => t.registerReader (.json false)
  | none, "json-write" => t.registerWriter (.json false)
  | none, _ => t

/-- The table of the named formats, the standard one when none are named. -/
def readFormats (j : Json) : FormatTable :=
  if j.has "serializers" then (j.getTexts "serializers").foldl addFormat Vocabulary.emptyFormats
  else Vocabulary.standardFormats

end

end RestDispatch.Description
