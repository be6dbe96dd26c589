import RestDispatch.Type.Basic

/-!
# Parameters of handlers and fields of beans

A parameter belongs to a handler method, which belongs to a class, or it is a field of a
bean.  An annotation that a parameter lacks may be inherited: the method's counts before
the class's, and a bean field inherits nothing.
-/

namespace RestDispatch

/-- A class of handler methods. -/
structure HandlerClass where
  name : String
  annotations : Annotations := []
  deriving BEq, Repr

/-- A handler method. -/
structure HandlerMethod where
  name : String
  annotations : Annotations := []
  declaring : HandlerClass
  deriving BEq, Repr

def HandlerMethod.qualifiedName (m : HandlerMethod) : String :=
  m.declaring.name ++ "::" ++ m.name

/-- Who declares a parameter. -/
inductive ParamOwner
  | method (m : HandlerMethod)
  | bean (name : String)
  deriving BEq, Repr

/-- A parameter of a handler or a field of a bean. -/
structure Param where
  name : String
  ty : Ty
  index : Nat
  annotations : Annotations
  owner : ParamOwner

namespace Param

def method? (p : Param) : Option HandlerMethod :=
  match p.owner with
  | .method m => some m
  | .bean _ => none

/-- An annotation of the parameter, else of its method, else of its class. -/
def inherited? {α : Type} (p : Param) (find : Annotations → Option α) : Option α :=
  match find p.annotations, p.method? with
  | some a, _ => some a
  | none, none => none
  | none, some m =>
    match find m.annotations with
    | some a => some a
    | none => find m.declaring.annotations

/-- The name of a parameter in diagnostics. -/
def describe (p : Param) : String :=
  match p.owner with
  | .method m => m.qualifiedName ++ "#" ++ p.name
  | .bean name => name ++ "." ++ p.name

def same (p q : Param) : Bool :=
  p.name == q.name && p.ty.same q.ty && p.index == q.index && p.annotations == q.annotations &&
    p.owner == q.owner

end Param

end RestDispatch
