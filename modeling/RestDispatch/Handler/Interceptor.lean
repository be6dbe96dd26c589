import RestDispatch.Handler.Exchange
import RestDispatch.Handler.Parameter
import RestDispatch.Route.Condition
import RestDispatch.StableSort

/-!
# Interceptors

An interceptor has hooks that run before a handler, behind it, and when the request is
done.  Whether it applies is settled when a handler is deployed, or asked of every request
when it depends on the path or on the request itself.  The interceptors that apply run in
ascending order, and equal orders in the order of registration.
-/

namespace RestDispatch

/-- When an interceptor applies. -/
inductive InterceptorPredicate
  | always
  | never
  | route (holds : HandlerMethod → RouteCondition → Bool)
  | paths (includes excludes : List String)
  | request (holds : Request → Bool)

def InterceptorPredicate.listing : InterceptorPredicate → String
  | .always => "Always"
  | .never => "Never"
  | .route _ => "Route(..)"
  | .paths includes excludes =>
    recordListing "Paths"
      [("includes", Text.quotedList includes), ("excludes", Text.quotedList excludes)]
  | .request _ => "Request(..)"

/-- Hooks around the invocation of a handler. -/
structure Interceptor (σ : Type) where
  name : String
  order : Int := 0
  predicate : InterceptorPredicate := .always
  /-- Runs before the handler, and tells whether to go on. -/
  before : HandlerMethod → Request → Handling σ Bool := fun _ _ => pure true
  /-- Runs behind the handler, when it succeeded. -/
  after : HandlerMethod → Request → Handling σ Unit := fun _ _ => pure ()
  /-- Runs at the end of a request that went past `before`, with its failure. -/
  atEnd : HandlerMethod → Request → Option Error → Handling σ Unit := fun _ _ _ => pure ()

/-- What is asked of every request. -/
inductive RequestTest
  | paths (includes excludes : List PathPattern)
  | request (holds : Request → Bool)

namespace RequestTest

def passes (r : Request) (matrix : Bool) : RequestTest → Bool
  | .paths includes excludes =>
    (includes.isEmpty || includes.any fun p => (p.matchPath? r.path matrix).isSome) &&
      !excludes.any fun p => (p.matchPath? r.path matrix).isSome
  | .request holds => holds r

end RequestTest

/-- An interceptor with its place among those that are registered. -/
structure InterceptorEntry (σ : Type) where
  place : Nat
  interceptor : Interceptor σ

/-- Whether one entry runs before another. -/
def InterceptorEntry.precedes {σ : Type} (a b : InterceptorEntry σ) : Bool :=
  a.interceptor.order < b.interceptor.order ||
    (a.interceptor.order == b.interceptor.order && a.place < b.place)

/-- The interceptors bound to one route. -/
structure InterceptorMatcher (σ : Type) where
  /-- Those that always apply, in the order in which they run. -/
  fixed : List (InterceptorEntry σ) := []
  /-- Those that a request decides on, in the order in which they run. -/
  dynamic : List (InterceptorEntry σ × RequestTest) := []
  matrix : Bool

namespace InterceptorMatcher

section

variable {σ : Type}

def add (matcher : InterceptorMatcher σ) (m : HandlerMethod) (c : RouteCondition)
    (entry : InterceptorEntry σ) : Except Error (InterceptorMatcher σ) :=
  let fixed := { matcher with fixed := matcher.fixed ++ [entry] }
  let dynamic (test : RequestTest) :=
    { matcher with dynamic := matcher.dynamic ++ [(entry, test)] }
  match entry.interceptor.predicate with
  | .always => .ok fixed
  | .never => .ok matcher
  | .route holds => .ok (if holds m c then fixed else matcher)
  | .paths includes excludes => do
    let includes ← includes.mapM PathPattern.parse
    let excludes ← excludes.mapM PathPattern.parse
    return dynamic (.paths includes excludes)
  | .request holds => .ok (dynamic (.request holds))

def number (interceptors : List (Interceptor σ)) : List (InterceptorEntry σ) :=
  interceptors.zipIdx.map fun (i, place) => ⟨place, i⟩

def bind (interceptors : List (Interceptor σ)) (m : HandlerMethod) (c : RouteCondition)
    (matrix : Bool) : Except Error (InterceptorMatcher σ) := do
  let start : InterceptorMatcher σ := { matrix := matrix }
  let matcher ← (number interceptors).foldlM (fun matcher entry => matcher.add m c entry) start
  return { matcher with
    fixed := stableSort InterceptorEntry.precedes matcher.fixed
    dynamic := stableSort (fun a b => a.1.precedes b.1) matcher.dynamic }

/-- The report on bound interceptors. -/
def event (matcher : InterceptorMatcher σ) (m : HandlerMethod) : Event where
  level := .debug
  message := "interceptors bound"
  fields := [("handler", m.qualifiedName), ("fixed", toString matcher.fixed.length),
    ("dynamic", toString matcher.dynamic.length)]

def isEmpty (matcher : InterceptorMatcher σ) : Bool :=
  matcher.fixed.isEmpty && matcher.dynamic.isEmpty

/-- A step that works in the buffer that all matchers share. -/
abbrev Gathering (σ : Type) := StateM (List (InterceptorEntry σ))

/-- Gather the interceptors that apply to a request, in the order in which they run.  The
buffer is cleared first and left empty. -/
def gather (matcher : InterceptorMatcher σ) (r : Request) :
    Gathering σ (List (Interceptor σ)) := do
  set ([] : List (InterceptorEntry σ))
  modify (· ++ matcher.fixed)
  let chosen := matcher.dynamic.filter fun (_, test) => test.passes r matcher.matrix
  modify (· ++ chosen.map (·.1))
  modify (stableSort InterceptorEntry.precedes)
  let entries ← getModify fun _ => []
  return entries.map (·.interceptor)

/-- The interceptors that apply to a request: those that are ready, when no request decides
on any, and else what is gathered in the buffer. -/
def matchingIn (matcher : InterceptorMatcher σ) (r : Request) :
    Gathering σ (List (Interceptor σ)) :=
  if matcher.dynamic.isEmpty then return matcher.fixed.map (·.interceptor)
  else matcher.gather r

/-- The interceptors that apply to a request, in the order in which they run, gathered in a
buffer of their own. -/
def matching (matcher : InterceptorMatcher σ) (r : Request) : List (Interceptor σ) :=
  ((matcher.matchingIn r).run []).1

def listing (matcher : InterceptorMatcher σ) : String :=
  recordListing "InterceptorMatcher"
    [("fixed", toString matcher.fixed.length), ("dynamic", toString matcher.dynamic.length)]

end

end InterceptorMatcher

end RestDispatch
