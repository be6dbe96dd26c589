import RestDispatch.Annotation
import RestDispatch.Json.Document
import RestDispatch.Type.Integer

/-!
# Types of parameters, fields and results

A type is described once, when its handler is registered, and everything that is decided
at deployment is decided on this description.  Registered types bring their own codecs:
a reading of texts, of JSON documents or of messages, and a table of fields for types that
are bound field by field.  Two registered types are equal when their names are.
-/

namespace RestDispatch

/-- A registered type read from a text. -/
structure ParsedType where
  name : String
  parse : List Char → Except String Fields

def ParsedType.listing (p : ParsedType) : String := "ParsedType(" ++ Text.quoted p.name ++ ")"

/-- The JSON form of a registered type.  An instance may have no document. -/
structure JsonCodec where
  decode : Json → Except Error Fields
  encode : Fields → Except Error Json

/-- The message form of a registered type, with the names under which messages are
announced. -/
structure MessageCodec where
  fullName : String
  schema : String
  decode : Bytes → Except Error Fields
  encode : Fields → Except Error Bytes

/-- A way to put a value into a field of an instance. -/
structure Setter where
  apply : Fields → Value → Except Error Fields

mutual

/-- The type of a parameter, a field or a result. -/
inductive Ty
  | string
  | bool
  | char
  | integer (t : IntegerType)
  | single
  | double
  | bytes
  | optional (t : Ty)
  | list (t : Ty)
  | set (t : Ty)
  | array (t : Ty)
  /-- Maps with string keys; a map to collections holds several values of a key. -/
  | map (t : Ty)
  | cookie
  | headers
  | parsed (p : ParsedType)
  | object (o : ObjectType)

/-- A registered type. -/
structure ObjectType where
  name : String
  json : Option JsonCodec
  message : Option MessageCodec
  bean : Option BeanType

/-- A registered type that is bound field by field, starting from `initial`. -/
structure BeanType where
  name : String
  initial : Option (List (String × Value))
  fields : List BeanField

/-- A field of such a type, written directly or through a setter method. -/
structure BeanField where
  name : String
  ty : Ty
  annotations : Annotations
  direct : Option Setter
  setter : Option Setter

end

instance : Inhabited Ty := ⟨.string⟩

def ObjectType.listing (o : ObjectType) : String :=
  recordListing "ObjectType"
    [("name", Text.quoted o.name), ("json", boolText o.json.isSome),
      ("protobuf", boolText o.message.isSome), ("bean", boolText o.bean.isSome)]

namespace Ty

def name : Ty → String
  | .string => "String"
  | .bool => "bool"
  | .char => "char"
  | .integer t => t.name
  | .single => "f32"
  | .double => "f64"
  | .bytes => "Bytes"
  | .optional t => "Option<" ++ t.name ++ ">"
  | .list t => "Vec<" ++ t.name ++ ">"
  | .set t => "HashSet<" ++ t.name ++ ">"
  | .array t => "[" ++ t.name ++ "]"
  | .map t => "Map<String, " ++ t.name ++ ">"
  | .cookie => "Cookie"
  | .headers => "HeaderMap"
  | .parsed p => p.name
  | .object o => o.name

def listing : Ty → String
  | .string => "Str"
  | .bool => "Bool"
  | .char => "Char"
  | .integer t => Text.upper t.name
  | .single => "F32"
  | .double => "F64"
  | .bytes => "Bytes"
  | .optional t => "Optional(" ++ t.listing ++ ")"
  | .list t => "List(" ++ t.listing ++ ")"
  | .set t => "Set(" ++ t.listing ++ ")"
  | .array t => "Array(" ++ t.listing ++ ")"
  | .map t => "Map(" ++ t.listing ++ ")"
  | .cookie => "Cookie"
  | .headers => "Headers"
  | .parsed p => "Parsed(" ++ p.listing ++ ")"
  | .object o => "Object(" ++ o.listing ++ ")"

/-- Equality of types. -/
def same : Ty → Ty → Bool
  | .string, .string => true
  | .bool, .bool => true
  | .char, .char => true
  | .integer a, .integer b => a == b
  | .single, .single => true
  | .double, .double => true
  | .bytes, .bytes => true
  | .optional a, .optional b => a.same b
  | .list a, .list b => a.same b
  | .set a, .set b => a.same b
  | .array a, .array b => a.same b
  | .map a, .map b => a.same b
  | .cookie, .cookie => true
  | .headers, .headers => true
  | .parsed a, .parsed b => a.name == b.name
  | .object a, .object b => a.name == b.name
  | _, _ => false

def unwrap : Ty → Ty
  | .optional t => t.unwrap
  | t => t

def isOptional : Ty → Bool
  | .optional _ => true
  | _ => false

/-- Whether values of the type, absence aside, are read from and written as one text. -/
def isScalar : Ty → Bool
  | .string => true
  | .bool => true
  | .char => true
  | .integer _ => true
  | .single => true
  | .double => true
  | .parsed _ => true
  | .optional t => t.isScalar
  | _ => false

def element? : Ty → Option Ty
  | .list t => some t
  | .set t => some t
  | .array t => some t
  | .optional t => t.element?
  | _ => none

def isCollection (t : Ty) : Bool := t.element?.isSome

def mapValue? : Ty → Option Ty
  | .map t => some t
  | .optional t => t.mapValue?
  | _ => none

def isMap (t : Ty) : Bool := t.mapValue?.isSome

def isMultiValueMap (t : Ty) : Bool := t.mapValue?.any isCollection

/-- The registered type behind optional wrappers. -/
def object? : Ty → Option ObjectType
  | .object o => some o
  | .optional t => t.object?
  | _ => none

def isText : Ty → Bool
  | .string => true
  | .optional t => t.isText
  | _ => false

def isBytes : Ty → Bool
  | .bytes => true
  | .optional t => t.isBytes
  | _ => false

end Ty

/-- The instance of a registered type, when the instance is of that type. -/
def ObjectType.downcast (o : ObjectType) (type : String) (fields : Fields) :
    Except Error Fields :=
  if type = o.name then .ok fields else .error (.typeMismatch o.name type)

end RestDispatch
