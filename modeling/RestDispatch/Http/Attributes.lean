import RestDispatch.Dictionary
import RestDispatch.Media.MediaType

/-!
# Request attributes

Named data that predicates, interceptors and binders share while a request is handled.
Reading an attribute as data of another kind finds nothing.
-/

namespace RestDispatch

/-- The data of an attribute. -/
inductive Attribute
  | text (s : String)
  | number (n : Int)
  | mediaTypes (types : List MediaType)
  deriving DecidableEq, Repr

abbrev Attributes := Dictionary Attribute

namespace Attributes

/-- The name under which the media types of a route that the client accepts are kept, the
most preferred first. -/
def compatibleTypes : String := "restlight.compatible-media-types"

def text? (as : Attributes) (name : String) : Option String :=
  match as.get? name with
  | some (.text s) => some s
  | _ => none

def number? (as : Attributes) (name : String) : Option Int :=
  match as.get? name with
  | some (.number n) => some n
  | _ => none

def mediaTypes? (as : Attributes) (name : String) : Option (List MediaType) :=
  match as.get? name with
  | some (.mediaTypes types) => some types
  | _ => none

end Attributes

end RestDispatch
