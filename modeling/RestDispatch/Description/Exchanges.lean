import RestDispatch.Description.Values
import RestDispatch.Http.Request
import RestDispatch.Http.Response
import RestDispatch.Route.Condition

/-!
# Descriptions of requests, responses and routes

A request is described by its method, its address and what is added to it, in a fixed
order.  A method that does not exist makes a description unusable.
-/

namespace RestDispatch.Description

def readMethodName (s : String) : Except String Method :=
  match Method.ofName? s with
  | some m => .ok m
  | none => .error ("unknown method '" ++ s ++ "'")

def addHeader? (r : Request) (name : String) (value : Option String) : Request :=
  (value.map (r.addHeader name)).getD r

def addMatrixTriple (r : Request) (j : Json) : Request :=
  match j.asTexts with
  | [segment, key, value] => r.addMatrixVariable segment key value
  | _ => r

def readRequest (j : Json) : Except String Request := do
  let method ← readMethodName ((j.getText? "method").getD "GET")
  let r := Request.ofUri method ((j.getText? "uri").getD "/")
  let r := (j.getPairs "headers").foldl (fun r (name, value) => r.addHeader name value) r
  let r := addHeader? r "Content-Type" (j.getText? "content_type")
  let r := addHeader? r "Accept" (j.getText? "accept")
  let r := (j.getPairs "cookies").foldl (fun r (name, value) => r.addCookie name value) r
  let r := (j.getPairs "path_variables").foldl (fun r (n, v) => r.addPathVariable n v) r
  let r := (j.getItems "matrix").foldl addMatrixTriple r
  let r :=
    if j.has "compatible" then
      r.setAttribute Attributes.compatibleTypes
        (.mediaTypes ((j.getTexts "compatible").filterMap MediaType.parse))
    else r
  return { r with body := Json.readBytes (j.member "body") }

def readRoute (j : Json) : Except String RouteSpec := do
  let methods ← (j.getTexts "methods").mapM readMethodName
  return {
    paths := j.getTexts "paths"
    methods
    consumes := j.getTexts "consumes"
    produces := j.getTexts "produces"
    headers := j.getTexts "headers"
    params := j.getTexts "params" }

def ofMediaTypes (types : List MediaType) : Json := .ofTexts (types.map MediaType.header)

def ofSegment (s : MatrixSegment) : Json :=
  .array (s.map fun (k, vs) => .array [.string k, .ofTexts vs])

def ofMatrix (m : MatrixVariables) : Json :=
  .array (m.segments.map fun (name, s) => .array [.string name, ofSegment s])

/-- What a path gave to the variables of a pattern. -/
def ofPathMatch (m : PathMatch) : List (String × Json) :=
  [("variables", .ofTextPairs m.captured), ("matrix", ofMatrix m.matrix)]

def ofResponse (r : Response) : Json :=
  .ofMembers [("status", .integer r.status), ("headers", .ofTextPairs r.headers.entries),
    ("body", .ofBytes r.body), ("committed", .bool r.committed)]

/-- Everything that is asked of a request, and what each probed name finds in it. -/
def ofRequest (r : Request) (probes : List String) : Json :=
  let probe (name : String) : Json :=
    .ofMembers [("param", .ofOption .string (r.param? name)),
      ("params", .ofOption .ofTexts (r.params? name)),
      ("header", .ofOption .string (r.header? name)),
      ("cookie", .ofOption (fun c => .string c.value) (r.cookie? name)),
      ("path_variable", .ofOption .string (r.pathVariable? name))]
  .ofMembers [("method", .string r.method.name), ("path", .string r.path),
    ("query", .string r.query),
    ("params", .array (r.queryParams.map fun (k, vs) => .array [.string k, .ofTexts vs])),
    ("headers", .ofTextPairs r.headers.entries),
    ("cookies", .ofTextPairs (r.cookies.map fun c => (c.name, c.value))),
    ("content_type", .ofOption (fun m => .string m.header) r.contentType?),
    ("path_variables", .ofTextPairs r.pathVariables), ("matrix", ofMatrix r.matrix),
    ("body", .ofBytes r.body), ("stream_eq", .bool true), ("probe", .array (probes.map probe))]

def mismatchName : Mismatch → String
  | .path => "Path"
  | .method => "Method"
  | .headers => "Headers"
  | .params => "Params"
  | .consumes => "Consumes"
  | .produces => "Produces"

def ofExpression : Expression → Json
  | .present name => .ofMembers [("present", .string name)]
  | .absent name => .ofMembers [("absent", .string name)]
  | .equals name value => .ofMembers [("equals", .ofTexts [name, value])]
  | .notEquals name value => .ofMembers [("not_equals", .ofTexts [name, value])]

def ofCondition (c : RouteCondition) (requests : List Request) (matrix : Bool) : Json :=
  let answer (r : Request) : Json :=
    match c.evaluate r matrix with
    | .ok found => .ofMembers (ofPathMatch found.path ++ [("produces", ofMediaTypes found.produces)])
    | .error miss => .ofMembers [("mismatch", .string (mismatchName miss))]
  .ofMembers [("display", .string c.describe), ("methods", .ofTexts (c.methods.map Method.name)),
    ("patterns", .ofTexts (c.patterns.map PathPattern.text)),
    ("consumes", ofMediaTypes c.consumes), ("produces", ofMediaTypes c.produces),
    ("variables", .ofTexts c.pathVariables), ("requests", .array (requests.map answer))]

end RestDispatch.Description
