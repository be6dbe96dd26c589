import RestDispatch.Http.Attributes
import RestDispatch.Http.Cookie
import RestDispatch.Http.Headers
import RestDispatch.Http.MatrixVariables
import RestDispatch.Http.Method
import RestDispatch.Text.Percent

/-!
# Requests

A request with its body read, as routes and binders see it.  The query string is taken
apart once; cookies are those of the cookie headers, in order.  Path and matrix variables
are those of the route that took the request.
-/

namespace RestDispatch

/-- The orders in which the hash maps of a request list their keys.  The map of the query
parameters is made with the request, that of the path variables by each route anew. -/
structure KeyOrders where
  query : KeyOrder := {}
  /-- The order of the path variables at hand, and of those yet to be made for the request. -/
  path : Nat → KeyOrder := fun _ => {}

/-- The orders behind a new map of path variables. -/
def KeyOrders.rebind (o : KeyOrders) : KeyOrders := { o with path := fun n => o.path (n + 1) }

/-- A request. -/
structure Request where
  method : Method
  /-- The path as it was sent, matrix variables included. -/
  path : String
  query : String
  queryParams : Dictionary (List String)
  headers : Headers
  cookies : List Cookie
  body : Bytes
  pathVariables : Dictionary String
  matrix : MatrixVariables
  attributes : Attributes
  orders : KeyOrders := {}

namespace Request

/-- Add the pair of one part of a query string; a part without `=` has an empty value. -/
def addQueryPart (params : Dictionary (List String)) (part : List Char) :
    Dictionary (List String) :=
  if part.isEmpty then params
  else
    let (key, value) := (Text.splitOnce '=' part).getD (part, [])
    params.modify (Text.decodeFormComponent (String.ofList key)) fun values =>
      values.getD [] ++ [Text.decodeFormComponent (String.ofList value)]

/-- The pairs of a query string, the values of a key in their order. -/
def parseQuery (query : String) : Dictionary (List String) :=
  (Text.splitOn '&' query.toList).foldl addQueryPart []

/-- A request without headers and body for a path and an optional query string. -/
def ofUri (method : Method) (uri : String) : Request :=
  let (path, query) :=
    match Text.splitOnce '?' uri.toList with
    | some (path, query) => (String.ofList path, String.ofList query)
    | none => (uri, "")
  { method, path, query
    queryParams := parseQuery query
    headers := .empty
    cookies := []
    body := []
    pathVariables := []
    matrix := .empty
    attributes := [] }

/-- Add a header; a cookie header adds its cookies. -/
def addHeader (r : Request) (name value : String) : Request :=
  let cookies := if Text.sameName name "cookie" then Cookie.parse value else []
  { r with headers := r.headers.append name value, cookies := r.cookies ++ cookies }

def addCookie (r : Request) (name value : String) : Request :=
  r.addHeader "Cookie" (name ++ "=" ++ value)

def addPathVariable (r : Request) (name value : String) : Request :=
  { r with pathVariables := r.pathVariables.insert name value }

def addMatrixVariable (r : Request) (segment key value : String) : Request :=
  { r with matrix := r.matrix.insert segment key value }

def setAttribute (r : Request) (name : String) (value : Attribute) : Request :=
  { r with attributes := r.attributes.insert name value }

def header? (r : Request) (name : String) : Option String := r.headers.get? name

/-- The media type of the body, when it is well formed. -/
def contentType? (r : Request) : Option MediaType :=
  (r.header? "Content-Type").bind MediaType.parse

def params? (r : Request) (name : String) : Option (List String) := r.queryParams.get? name

def param? (r : Request) (name : String) : Option String := (r.params? name).bind List.head?

def cookie? (r : Request) (name : String) : Option Cookie :=
  r.cookies.find? fun c => c.name == name

def pathVariable? (r : Request) (name : String) : Option String := r.pathVariables.get? name

/-- The query parameters as their map lists them. -/
def queryListing (r : Request) : List (String × List String) := r.queryParams.listed r.orders.query

/-- The path variables as their map lists them. -/
def pathListing (r : Request) : List (String × String) := r.pathVariables.listed (r.orders.path 0)

end Request

end RestDispatch
