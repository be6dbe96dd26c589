import RestDispatch.Http.Request
import RestDispatch.Media.Accept
import RestDispatch.Route.Expression
import RestDispatch.Route.Pattern
import RestDispatch.StableSort

/-!
# Route conditions

A route takes a request when one of its patterns matches the path and the method, the
headers, the query parameters, the type of the body and the types the client accepts all
fit.  The tests run in that order, and the first that fails says why the route did not
take the request.
-/

namespace RestDispatch

/-- What a route was declared with. -/
structure RouteSpec where
  paths : List String := []
  methods : List Method := []
  consumes : List String := []
  produces : List String := []
  headers : List String := []
  params : List String := []
  deriving DecidableEq, Repr

/-- A condition on requests.  The patterns are the most specific first; a list without
entries restricts nothing. -/
structure RouteCondition where
  patterns : List PathPattern
  methods : List Method
  consumes : List MediaType
  produces : List MediaType
  headers : List Expression
  params : List Expression

/-- Why a route did not take a request, from the farthest miss to the nearest. -/
inductive Mismatch
  | path
  | method
  | headers
  | params
  | consumes
  | produces
  deriving DecidableEq, Repr

/-- How near a miss was. -/
def Mismatch.nearness : Mismatch → Nat
  | .path => 0
  | .method => 1
  | .headers => 2
  | .params => 3
  | .consumes => 4
  | .produces => 5

def Mismatch.nearer (a b : Mismatch) : Mismatch := if a.nearness < b.nearness then b else a

/-- A route that took a request: the values of its variables and the declared types that
the client accepts. -/
structure RouteMatch where
  path : PathMatch
  produces : List MediaType
  deriving DecidableEq, Repr

namespace RouteCondition

def readMediaType (s : String) : Except Error MediaType :=
  match MediaType.parse s with
  | some m => .ok m
  | none => .error (.configuration (.invalidMediaType s))

def build (spec : RouteSpec) : Except Error RouteCondition := do
  if spec.paths.isEmpty then throw (.configuration .noPathPattern)
  let patterns ← spec.paths.mapM PathPattern.parse
  let consumes ← spec.consumes.mapM readMediaType
  let produces ← spec.produces.mapM readMediaType
  let headers ← spec.headers.mapM Expression.parse
  let params ← spec.params.mapM Expression.parse
  return {
    patterns := stableSort (fun p q => p.rank < q.rank) patterns
    methods := spec.methods.eraseDups
    consumes, produces, headers, params }

/-- The variables that some pattern declares, each once. -/
def pathVariables (c : RouteCondition) : List String :=
  (c.patterns.flatMap PathPattern.variableNames).eraseDups

/-- What the most specific matching pattern makes of a path. -/
def matchPath? (c : RouteCondition) (path : String) (matrix : Bool) : Option PathMatch :=
  c.patterns.findSome? (·.matchPath? path matrix)

def allowsMethod (c : RouteCondition) (m : Method) : Bool :=
  c.methods.isEmpty || c.methods.contains m

/-- Whether the type of the body is covered by a declared type; a body of unknown type
always is. -/
def allowsContent (c : RouteCondition) (type : Option MediaType) : Bool :=
  c.consumes.isEmpty || type.all fun type => c.consumes.any (·.includes type)

/-- The declared types that the client accepts, by descending quality; all of them when
the client says nothing, and none at all if no type is acceptable. -/
def compatible? (produces : List MediaType) (accept : Option String) :
    Option (List MediaType) :=
  match produces, accept with
  | [], _ => some []
  | produces, none => some produces
  | produces, some header =>
    let accept := Accept.parse header
    let rated := (produces.map fun m => (accept.qualityFor m, m)).filter fun (q, _) =>
      Binary.zero.lt q
    if rated.isEmpty then none
    else some ((stableSort (fun a b => b.1.lt a.1) rated).map (·.2))

def evaluate (c : RouteCondition) (r : Request) (matrix : Bool) : Except Mismatch RouteMatch :=
  match c.matchPath? r.path matrix with
  | none => .error .path
  | some path =>
    if !c.allowsMethod r.method then .error .method
    else if !(c.headers.all fun e => e.test (r.header? e.name)) then .error .headers
    else if !(c.params.all fun e => e.test (r.param? e.name)) then .error .params
    else if !c.allowsContent r.contentType? then .error .consumes
    else
      match compatible? c.produces (r.header? "Accept") with
      | none => .error .produces
      | some produces => .ok ⟨path, produces⟩

def mediaOverlap (as bs : List MediaType) : Bool :=
  as.isEmpty || bs.isEmpty || as.any fun a => bs.any a.isCompatibleWith

def methodsOverlap (as bs : List Method) : Bool :=
  as.isEmpty || bs.isEmpty || as.any bs.contains

/-- Whether some request may satisfy both of two conditions. -/
def mayBeAmbiguousWith (c d : RouteCondition) : Bool :=
  (c.patterns.any fun p => d.patterns.any p.mayOverlap) &&
    methodsOverlap c.methods d.methods && mediaOverlap c.consumes d.consumes &&
    mediaOverlap c.produces d.produces &&
    !Expression.anyContradiction c.headers d.headers &&
    !Expression.anyContradiction c.params d.params

/-- The number of restrictions besides path and method; a list of types counts once. -/
def restrictions (c : RouteCondition) : Int :=
  c.headers.length + c.params.length + min c.consumes.length 1 + min c.produces.length 1

/-- The rank of the most specific pattern, then more restrictions, then the presence of
methods.  A condition without patterns comes before all others. -/
def rank (c : RouteCondition) : Rank :=
  (c.patterns.head?.map PathPattern.rank).getD [-1] ++
    [-c.restrictions, if c.methods.isEmpty then 1 else 0]

/-- The methods and patterns of a condition, a star standing for any method. -/
def describe (c : RouteCondition) : String :=
  let methods :=
    if c.methods.isEmpty then "*" else Text.join "," (c.methods.map Method.name)
  methods ++ " " ++ Text.join " | " (c.patterns.map PathPattern.text)

end RouteCondition

end RestDispatch
