import RestDispatch.Value.Listing

/-!
# Annotations

Declarative metadata on classes, methods, parameters and bean fields.  A list of
annotations keeps the order of declaration, and of several annotations of one kind the
first counts.  Serializers are named by class, and classes are equal when their names are.
-/

namespace RestDispatch

/-- A serializer class named by an annotation.  What its constructor makes is known where
the annotation is read. -/
structure FormatClass where
  name : String
  deriving BEq, DecidableEq, Repr

/-- Name, required flag and default literal of a value looked up by name.  An empty name
stands for the name of the parameter. -/
structure NamedValue where
  name : String
  required : Bool
  default? : Option String
  deriving DecidableEq, Repr

/-- Metadata on a class, method, parameter or field. -/
inductive Annotation
  | requestParam (value : NamedValue)
  | requestHeader (value : NamedValue)
  | cookieValue (value : NamedValue)
  | pathVariable (value : NamedValue)
  | matrixVariable (value : NamedValue) (segment : Option String)
  | requestBody (required : Bool)
  | requestBean
  | queryBean
  /-- Another name for a query bean field. -/
  | queryName (name : String)
  | requestSerializer (format : FormatClass)
  | responseSerializer (format : FormatClass)
  | responseStatus (code : Nat)
  deriving BEq, Repr

/-- Annotations in order of declaration. -/
abbrev Annotations := List Annotation

namespace Annotations

def requestParam? (as : Annotations) : Option NamedValue :=
  as.findSome? fun
    | .requestParam v => some v
    | _ => none

def requestHeader? (as : Annotations) : Option NamedValue :=
  as.findSome? fun
    | .requestHeader v => some v
    | _ => none

def cookieValue? (as : Annotations) : Option NamedValue :=
  as.findSome? fun
    | .cookieValue v => some v
    | _ => none

def pathVariable? (as : Annotations) : Option NamedValue :=
  as.findSome? fun
    | .pathVariable v => some v
    | _ => none

def matrixVariable? (as : Annotations) : Option (NamedValue × Option String) :=
  as.findSome? fun
    | .matrixVariable v segment => some (v, segment)
    | _ => none

def requestBody? (as : Annotations) : Option Bool :=
  as.findSome? fun
    | .requestBody required => some required
    | _ => none

def hasRequestBean (as : Annotations) : Bool :=
  as.any fun
    | .requestBean => true
    | _ => false

def hasQueryBean (as : Annotations) : Bool :=
  as.any fun
    | .queryBean => true
    | _ => false

def queryName? (as : Annotations) : Option String :=
  as.findSome? fun
    | .queryName name => some name
    | _ => none

def requestSerializer? (as : Annotations) : Option FormatClass :=
  as.findSome? fun
    | .requestSerializer c => some c
    | _ => none

def responseSerializer? (as : Annotations) : Option FormatClass :=
  as.findSome? fun
    | .responseSerializer c => some c
    | _ => none

def responseStatus? (as : Annotations) : Option Nat :=
  as.findSome? fun
    | .responseStatus code => some code
    | _ => none

end Annotations

end RestDispatch
