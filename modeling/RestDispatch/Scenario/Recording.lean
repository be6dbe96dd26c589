import RestDispatch.Type.Bean

/-!
# Recording beans

Bean types whose instances record which of their fields were set, by which way, and to what.
-/

namespace RestDispatch

/-- The ways of writing a field that a declaration may register. -/
inductive Access
  | direct
  | setter
  | both
  deriving DecidableEq, Repr

/-- A declared field of a recording bean: its type and the type its setter takes. -/
structure RecordedField where
  name : String
  ty : Ty
  argument : HostType
  access : Access
  annotations : Annotations

namespace RecordedField

/-- Put down which field was set, by which way, and to what. -/
def record (field way : String) (t : HostType) : Setter :=
  Setter.typed t fun fields x => fields ++ [(field, .list [.string way, t.embed x])]

def declareIn (b : BeanType) (f : RecordedField) : BeanType :=
  let direct (b : BeanType) := b.field f.name f.ty (record f.name "direct" f.argument)
  let setter (b : BeanType) := b.setter f.name f.ty (record f.name "setter" f.argument)
  let b :=
    match f.access with
    | .direct => direct b
    | .setter => setter b
    | .both => setter (direct b)
  f.annotations.foldl (fun b a => b.annotate f.name a) b

end RecordedField

def recordingBean (name : String) (constructible : Bool) (fields : List RecordedField) :
    ObjectType :=
  let bean := BeanType.declare name (if constructible then some [] else none)
  ⟨name, none, none, some (fields.foldl (fun b f => f.declareIn b) bean)⟩

end RestDispatch
