import RestDispatch.Event
import RestDispatch.Route.Condition

/-!
# Route tables

The routes of a deployment, the most specific first and equally specific ones in the order
in which they were added.  A route that may take the same requests as an earlier one is
reported, or refused where ambiguity is not allowed.  When no route takes a request, the
nearest miss decides which failure is answered.
-/

namespace RestDispatch

/-- How a table treats ambiguity and matrix parameters. -/
structure RouteOptions where
  rejectAmbiguous : Bool := false
  useMatrix : Bool := true
  deriving DecidableEq, Repr

/-- A condition and the handler it leads to, which has a name. -/
structure Route (η : Type) where
  condition : RouteCondition
  name : String
  handler : η

/-- Routes in the order in which they are tried. -/
structure RouteTable (η : Type) where
  options : RouteOptions := {}
  routes : List (Route η) := []

namespace RouteTable

variable {η : Type}

/-- The routes of a table that may take the same requests as a condition. -/
def rivals (t : RouteTable η) (c : RouteCondition) : List (Route η) :=
  t.routes.filter fun route => c.mayBeAmbiguousWith route.condition

/-- The place of a condition: in front of the first route of greater rank. -/
def position (t : RouteTable η) (c : RouteCondition) : Nat :=
  (t.routes.takeWhile fun route => !decide (c.rank < route.condition.rank)).length

def add (t : RouteTable η) (route : Route η) : Except Error (RouteTable η) :=
  match t.options.rejectAmbiguous, t.rivals route.condition with
  | true, rival :: _ =>
    .error (.configuration (.ambiguousRoute route.condition.describe route.name
      rival.condition.describe rival.name))
  | _, _ =>
    .ok { t with routes := t.routes.insertIdx (t.position route.condition) route }

/-- The report on one ambiguity. -/
def rivalEvent (c : RouteCondition) (rival : Route η) : Event where
  level := .warn
  message := "ambiguous routes, the more specific one wins"
  fields := [("route", c.describe), ("existing", rival.condition.describe)]

def addEvents (t : RouteTable η) (route : Route η) : List Event :=
  match t.options.rejectAmbiguous, t.rivals route.condition with
  | true, _ :: _ => []
  | _, rivals =>
    rivals.map (rivalEvent route.condition) ++
      [{ level := .debug
         message := "route registered"
         fields := [("route", route.condition.describe), ("handler", route.name),
           ("position", toString (t.position route.condition))] }]

/-- The methods of the routes whose patterns match a path, each once, in table order. -/
def allowedMethods (t : RouteTable η) (path : String) : List Method :=
  ((t.routes.filter fun route =>
      (route.condition.matchPath? path t.options.useMatrix).isSome).flatMap
    (·.condition.methods)).eraseDups

def refusal (t : RouteTable η) (r : Request) (nearest : Option Mismatch) : Error :=
  let target := r.method.name ++ " " ++ r.path
  match nearest with
  | some .method =>
    .methodNotAllowed (Text.join ", " ((t.allowedMethods r.path).map Method.name))
  | some .consumes =>
    .unsupportedMediaType
      (target ++ " does not accept " ++ (r.header? "Content-Type").getD "")
  | some .produces =>
    .notAcceptable (target ++ " cannot produce " ++ (r.header? "Accept").getD "")
  | _ => .routeNotFound target

/-- The first route that takes a request, or else the nearest miss. -/
def search (matrix : Bool) (r : Request) :
    List (Route η) → Except (Option Mismatch) (Route η × RouteMatch)
  | [] => .error none
  | route :: rest =>
    match route.condition.evaluate r matrix with
    | .ok found => .ok (route, found)
    | .error miss =>
      match search matrix r rest with
      | .ok found => .ok found
      | .error none => .error (some miss)
      | .error (some other) => .error (some (miss.nearer other))

def find (t : RouteTable η) (r : Request) : Except Error (Route η × RouteMatch) :=
  match search t.options.useMatrix r t.routes with
  | .ok found => .ok found
  | .error nearest => .error (t.refusal r nearest)

end RouteTable

/-- Give a request the variables and the acceptable types found by its route, in place of
those it came with.  The variables come in a new map. -/
def Request.bindRoute (r : Request) (found : RouteMatch) : Request :=
  { r with
    pathVariables := found.path.captured
    matrix := found.path.matrix
    attributes :=
      if found.produces.isEmpty then r.attributes.erase Attributes.compatibleTypes
      else r.attributes.insert Attributes.compatibleTypes (.mediaTypes found.produces)
    orders := r.orders.rebind }

end RestDispatch
