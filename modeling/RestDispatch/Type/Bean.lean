import RestDispatch.Type.Basic
import RestDispatch.Value.Host

/-!
# Declaring bean types

The fields of a bean type are declared one after the other.  Declaring a name again keeps
the first declaration's place, type and annotations and only replaces the way the field is
written.
-/

namespace RestDispatch

namespace BeanType

def declare (name : String) (initial : Option Fields) : BeanType := ⟨name, initial, []⟩

/-- Change the first field of a name; a new field goes behind the others. -/
def updateField (name : String) (ty : Ty) (update : BeanField → BeanField) :
    List BeanField → List BeanField
  | [] => [update ⟨name, ty, [], none, none⟩]
  | f :: rest =>
    if f.name = name then update f :: rest else f :: updateField name ty update rest

/-- Declare a field that is written directly. -/
def field (b : BeanType) (name : String) (ty : Ty) (set : Setter) : BeanType :=
  { b with fields := updateField name ty (fun f => { f with direct := some set }) b.fields }

/-- Declare a setter method, which is used instead of direct access. -/
def setter (b : BeanType) (name : String) (ty : Ty) (set : Setter) : BeanType :=
  { b with fields := updateField name ty (fun f => { f with setter := some set }) b.fields }

def annotateFirst (name : String) (a : Annotation) : List BeanField → List BeanField
  | [] => []
  | f :: rest =>
    if f.name = name then { f with annotations := f.annotations ++ [a] } :: rest
    else f :: annotateFirst name a rest

/-- Annotate a declared field; an undeclared name has no effect. -/
def annotate (b : BeanType) (name : String) (a : Annotation) : BeanType :=
  { b with fields := annotateFirst name a b.fields }

end BeanType

def Setter.typed (t : HostType) (store : Fields → t.Carrier → Fields) : Setter where
  apply fields v := (t.extract v).map (store fields)

end RestDispatch
