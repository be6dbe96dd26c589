import RestDispatch.Binding.Binder
import RestDispatch.Handler.Advice
import RestDispatch.Handler.Interceptor
import RestDispatch.Handler.ResultWriter
import RestDispatch.Handler.Returned

/-!
# The pipeline of a handler

A request runs through a handler in fixed stages.  First the arguments are bound.  Then the
interceptors run in order until one stops the request or fails; when none does, the advices
run around the handler, the interceptors run behind it in reverse order, and the result is
written unless the response has been committed already.  At the end, every interceptor
whose first hook came through is told the outcome, in reverse order; what fails there is
reported and changes nothing.
-/

namespace RestDispatch

/-- How an application method is called: it is given the arguments and may change the data
that the application shares. -/
abbrev Invoker (σ : Type) := Args → ExceptT Error (StateM σ) (Returned σ)

/-- A deployed handler. -/
structure RouteHandler (σ : Type) where
  method : HandlerMethod
  /-- The parameters, with what binds them; one that nothing binds receives null. -/
  params : List (Param × Option Binder)
  interceptors : InterceptorMatcher σ
  advices : List (Advice σ)
  invoker : Invoker σ
  /-- Whether null is a failure when it comes later. -/
  requiresValue : Bool
  status? : Option Nat
  writer : ResultWriter

/-- The stages that are reported while a handler runs. -/
inductive Stage
  | resolvingArgs
  | invoking
  | syncResult
  | asyncPending
  | postHandling
  | completing
  | terminal
  deriving DecidableEq, Repr

def Stage.name : Stage → String
  | .resolvingArgs => "ResolvingArgs"
  | .invoking => "Invoking"
  | .syncResult => "SyncResult"
  | .asyncPending => "AsyncPending"
  | .postHandling => "PostHandling"
  | .completing => "Completing"
  | .terminal => "Terminal"

namespace RouteHandler

section

variable {σ : Type}

def stageEvent (h : RouteHandler σ) (stage : Stage) : Event where
  level := .trace
  message := "pipeline"
  fields := [("handler", h.method.name), ("state", stage.name)]

/-- The report on what the application method returned. -/
def returnedEvent (h : RouteHandler σ) (returned : Returned σ) : Event where
  level := .trace
  message := "handler returned"
  fields := [("handler", h.method.qualifiedName),
    ("state", (if returned.isAsync then Stage.asyncPending else Stage.syncResult).name)]

def stoppedEvent (h : RouteHandler σ) (i : Interceptor σ) : Event where
  level := .debug
  message := "request stopped by interceptor"
  fields := [("handler", h.method.name), ("interceptor", i.name)]

def endFailureEvent (h : RouteHandler σ) (i : Interceptor σ) (e : Error) : Event where
  level := .warn
  message := "after_completion failed"
  fields := [("handler", h.method.name), ("interceptor", i.name), ("error", e.message)]

def arguments (h : RouteHandler σ) (r : Request) : Except Error Args :=
  h.params.mapM fun (_, binder) =>
    match binder with
    | some b => b.resolve r
    | none => .ok .null

/-- Call the application method and wait for its value. -/
def call (h : RouteHandler σ) (args : Args) : Handling σ Value := do
  let returned ← .lift (← .application (h.invoker args).run)
  .report (h.returnedEvent returned)
  let v ← .lift (← .application returned.resolve)
  if returned.isAsync && h.requiresValue && v.isNull then
    throw (.nullResult h.method.qualifiedName)
  return v

/-- Run the hooks in front of the handler.  The first list holds the interceptors whose
hooks came through; the outcome is there when the handler is not to run. -/
def runBefore (h : RouteHandler σ) (r : Request) :
    List (Interceptor σ) → Handling σ (List (Interceptor σ) × Option (Except Error Unit))
  | [] => return ([], none)
  | i :: rest => do
    match ← .attempt (i.before h.method r) with
    | .ok true =>
      let (entered, outcome) ← runBefore h r rest
      return (i :: entered, outcome)
    | .ok false =>
      .report (h.stoppedEvent i)
      return ([i], some (.ok ()))
    | .error e => return ([], some (.error e))

/-- Run the hooks behind the handler, up to the first that fails. -/
def runAfter (h : RouteHandler σ) (r : Request) (interceptors : List (Interceptor σ)) :
    Handling σ Unit :=
  interceptors.reverse.forM fun i => i.after h.method r

def runAtEnd (h : RouteHandler σ) (r : Request) (error? : Option Error)
    (entered : List (Interceptor σ)) : Handling σ Unit :=
  entered.reverse.forM fun i => do
    match ← .attempt (i.atEnd h.method r error?) with
    | .ok () => pure ()
    | .error e => .report (h.endFailureEvent i e)

/-- Write a result, unless the response has been committed. -/
def writeResult (h : RouteHandler σ) (r : Request) (v : Value) : Handling σ Unit := do
  if !(← .response).committed then
    if let some status := h.status? then .respond ({ · with status := status })
    h.writer.write v r

/-- Run the handler in its advices, the hooks behind it, and the writer. -/
def invoke (h : RouteHandler σ) (r : Request) (interceptors : List (Interceptor σ))
    (args : Args) : Handling σ Unit := do
  .report (h.stageEvent .invoking)
  let v ← Advice.chain h.method r h.call 0 h.advices args
  .report (h.stageEvent .postHandling)
  h.runAfter r interceptors
  h.writeResult r v

def failure? : Except Error Unit → Option Error
  | .ok () => none
  | .error e => some e

def handle (h : RouteHandler σ) (r : Request) : Handling σ Unit := do
  .report (h.stageEvent .resolvingArgs)
  let args ← .lift (h.arguments r)
  let interceptors := h.interceptors.matching r
  let (entered, outcome) ← h.runBefore r interceptors
  let result ←
    match outcome with
    | some result => pure result
    | none => .attempt (h.invoke r interceptors args)
  .report (h.stageEvent .completing)
  h.runAtEnd r (failure? result) entered
  .report (h.stageEvent .terminal)
  .lift result

def paramListing (p : Param × Option Binder) : String :=
  recordListing "ResolvableParam"
    [("param", Text.quoted p.1.name), ("resolved", boolText p.2.isSome)]

def listing (h : RouteHandler σ) : String :=
  recordListing "RouteHandler"
    [("method", Text.quoted h.method.qualifiedName),
      ("params", Text.bracketed (h.params.map paramListing)),
      ("interceptors", h.interceptors.listing), ("advices", toString h.advices.length)]

end

end RouteHandler

end RestDispatch
