import RestDispatch.Description.Bindings
import RestDispatch.Description.Exchanges
import RestDispatch.Dispatch.Deployment
import RestDispatch.Scenario.Scripted

/-!
# Descriptions of scenarios

Scripted interceptors, advices and handlers are described by what they do; journals,
routes and events by what happened.
-/

namespace RestDispatch.Description

section

variable [Vocabulary]

/-- The bytes in a member that may be missing. -/
def readBytes? (j : Json) (name : String) : Option Bytes :=
  if j.has name then some (j.member name).readBytes else none

/-- The error in a member that may be missing. -/
def readError? (j : Json) (name : String) : Option Error :=
  if (j.member name).isNull then none else some (readError (j.member name))

def readHook (j : Json) : HookScript where
  header? :=
    match (j.member "header").asTexts with
    | [name, value] => some (name, value)
    | _ => none
  status? := if (j.member "status").isNull then none else some (j.getNat "status")
  write? := readBytes? j "write"
  send? := readBytes? j "send"
  error? := readError? j "error"

/-- Whether interceptors bound to the route that takes every path apply to a request. -/
def anyMatches (interceptors : List (Interceptor Journal)) (r : Request) : Bool :=
  match RouteCondition.build { paths := ["/**"] } with
  | .error _ => false
  | .ok c =>
    match InterceptorMatcher.bind interceptors ⟨"nested", [], ⟨"Nested", []⟩⟩ c true with
    | .error _ => false
    | .ok matcher => !(matcher.matching r).isEmpty

mutual

/-- The predicate of a description of at most `depth` levels. -/
def readPredicate : Nat → Json → InterceptorPredicate
  | 0, _ => .always
  | depth + 1, j =>
    match j with
    | .null => .always
    | .string "never" => .never
    | j =>
      if j.has "route_prefix" then
        .route fun _ c => c.patterns.any fun p => p.text.startsWith (j.getText "route_prefix")
      else if j.has "handler" then .route fun m _ => m.qualifiedName == j.getText "handler"
      else if j.has "header" then .request fun r => r.headers.contains (j.getText "header")
      else if j.has "nested" then
        let nested := (j.getItems "nested").map (readInterceptorIn depth)
        .request (anyMatches nested)
      else if j.has "includes" || j.has "excludes" then
        .paths (j.getTexts "includes") (j.getTexts "excludes")
      else .always

/-- The interceptor of a description of at most `depth` levels. -/
def readInterceptorIn : Nat → Json → Interceptor Journal
  | 0, j => { name := j.getText "name" }
  | depth + 1, j =>
    if j.getFlag "plain" then { name := Vocabulary.plainInterceptor }
    else
      let script : InterceptorScript :=
        { name := j.getText "name"
          order := j.getInt "order"
          predicate := readPredicate depth (j.member "predicate")
          before := readHook (j.member "pre")
          proceeds := (j.member "pre").getFlagOr "proceed" true
          after := readHook (j.member "post")
          atEnd := readHook (j.member "after") }
      script.interceptor

end

def readInterceptor (j : Json) : Interceptor Journal := readInterceptorIn Json.maxDepth j

/-- A value in a member that may be missing, null being a value. -/
def readValue? (j : Json) (name : String) : Option Value :=
  if j.has name then some (readValue (j.member name)) else none

def readAdvice (j : Json) : Advice Journal :=
  let script : AdviceScript :=
    { name := j.getText "name"
      onlyWith? := j.getText? "only_param"
      error? := readError? j "error"
      send? := readBytes? j "send"
      short? := readValue? j "short"
      args? := if j.has "args" then some ((j.getItems "args").map readValue) else none
      result? := readValue? j "result" }
  script.advice

/-- The way of handing an outcome over that a word stands for. -/
def readPromise : String → Promise
  | "future" => .future
  | "receiver" => .receiver
  | "receiver_later" => .receiver
  | "receiver_dropped" => .receiverDropped
  | "task" => .task
  | "task_aborted" => .taskAborted
  | "deferred_now" => .deferredNow
  | "deferred_later" => .deferredLater
  | "deferred_dropped" => .deferredDropped
  | _ => .plain

def readResult (j : Json) : ResultScript :=
  if j.has "error" then .error (readError (j.member "error"))
  else if j.has "arg" then .argument (j.getNat "arg")
  else .value (readValue (j.member "value"))

/-- The way in which a described handler hands its outcome over. -/
def readDelivery (j : Json) : Delivery :=
  match (j.getText? "mode").getD "sync" with
  | "sync" => .sync
  | "async" => .async
  | mode => .promise (readPromise mode)

def readDeclaration (j : Json) : Except String (Declaration Journal) := do
  let route ← readRoute (j.member "route")
  let result := j.member "result"
  return {
    method := readMethod j
    route := route
    params := (j.getItems "params").map fun p =>
      ⟨p.getText "name", readTyOf p "ty", readAnnotations p "annotations"⟩
    returns := readTyOf? j "returns"
    invoker :=
      if result.isNull then none
      else some (scriptedInvoker (readResult result) (readDelivery result)) }

/-- The answer that tells the kind of a failure and the path of its request, under the
status of a teapot. -/
def teapot : FailureAnswer Journal := fun e r x =>
  let x := x.respond ({ · with status := 418 })
  match x.response.send (Text.bytes (errorKind e ++ " " ++ r.path)) with
  | .ok response => x.respond fun _ => response
  | .error _ => x

/-- An entry of a journal; `error` shows a failure. -/
def ofJournalEntry (error : Error → Json) : JournalEntry → Json
  | .before interceptor handler => .ofTexts ["pre", interceptor, handler]
  | .after interceptor committed =>
    .array [.string "post", .string interceptor, .bool committed]
  | .atEnd interceptor status error? =>
    .array [.string "after", .string interceptor, .integer status, .ofOption error error?]
  | .enter advice method arguments =>
    .array [.string "enter", .string advice, .string method, .integer arguments]
  | .leave advice outcome =>
    .array [.string "leave", .string advice,
      match outcome with
      | .ok v => ofValue v
      | .error e => error e]
  | .call args => .array [.string "call", .array (ofValues args)]
  | .fired label => .ofTexts [label]
  | .completed first second => .array [.string "set", .bool first, .bool second]

/-- An event; `text` shows the text of a field. -/
def ofEvent (text : String → String) (e : Event) : Json :=
  .array [.string e.level.name, .string e.message,
    .ofTextPairs (e.fields.map fun (name, value) => (name, text value))]

def ofTableRoute (route : Route (RouteHandler Journal)) : Json :=
  .array [.string route.condition.describe, .string route.name,
    .array (route.handler.params.map fun (p, binder) =>
      .array [.string p.describe, .string p.ty.name, .bool binder.isSome])]

/-- What a request was found to be by the route that takes it. -/
def ofFound (route : Route (RouteHandler Journal)) (found : RouteMatch) : Json :=
  .ofMembers
    ([("route", Json.string route.condition.describe), ("handler", .string route.name),
        ("produces", ofMediaTypes found.produces)] ++ ofPathMatch found.path)

/-- What a request has been told by its route. -/
def ofBoundRequest (r : Request) : List (String × Json) :=
  [("variables", .ofTextPairs r.pathVariables), ("matrix", ofMatrix r.matrix),
    ("compatible", .ofOption ofMediaTypes (r.attributes.mediaTypes? Attributes.compatibleTypes))]

end

end RestDispatch.Description
