import RestDispatch.Binding.Factory
import RestDispatch.Dispatch.Router

/-!
# Deployments

A deployment collects handlers for a router.  Deploying a handler builds its route, binds
its parameters, its writer and its interceptors, and adds the route to the table; a handler
sees what was registered before it.  A handler that cannot be deployed leaves the table as
it was, but the bean bindings that were built for it stay.
-/

namespace RestDispatch

/-- A parameter as a handler declares it. -/
structure ParamDeclaration where
  name : String
  ty : Ty
  annotations : Annotations := []

/-- A handler to be deployed. -/
structure Declaration (σ : Type) where
  method : HandlerMethod
  route : RouteSpec
  params : List ParamDeclaration := []
  returns : Option Ty := none
  invoker : Option (Invoker σ)

/-- What handlers are deployed into. -/
structure Deployment (σ : Type) where
  options : Options := {}
  registry : Registry := .standard
  formats : FormatTable := .standard
  beans : BeanCache := []
  interceptors : List (Interceptor σ) := []
  advices : List (Advice σ) := []
  router : Router σ := {}

/-- What deploying a handler led to. -/
structure Deployed (σ : Type) where
  deployment : Deployment σ
  outcome : Except Error Unit
  events : List Event

namespace Deployment

section

variable {σ : Type}

def ofOptions (options : Options) : Deployment σ where
  options := options
  router := { table := { options := options.route } }

/-- The surroundings in which the parameters of a route are bound. -/
def context (d : Deployment σ) (c : RouteCondition) : BindingContext where
  formats := d.formats
  options := d.options
  registry := d.registry
  declared := some c.pathVariables

def bindParams (ctx : BindingContext) (m : HandlerMethod) (index : Nat) :
    List ParamDeclaration → Deploying (List (Param × Option Binder))
  | [] => return []
  | p :: rest => do
    let param : Param := ⟨p.name, p.ty, index, p.annotations, .method m⟩
    let binder ← Binding.bind ctx param
    return (param, binder) :: (← bindParams ctx m (index + 1) rest)

/-- The condition of a route; a fault in it names the handler. -/
def condition (h : Declaration σ) : Except Error RouteCondition :=
  match RouteCondition.build h.route with
  | .ok c => .ok c
  | .error e => .error (.configuration (.invalidRoute h.method.qualifiedName e.message))

def status? (m : HandlerMethod) : Option Nat :=
  match m.annotations.responseStatus? with
  | some code => some code
  | none => m.declaring.annotations.responseStatus?

/-- The report on a handler whose parts are bound. -/
def event (c : RouteCondition) (m : HandlerMethod) (params : Nat) : Event where
  level := .debug
  message := "deploying handler"
  fields := [("route", c.describe), ("handler", m.qualifiedName), ("params", toString params)]

def buildRoute (d : Deployment σ) (h : Declaration σ) :
    Deploying (Route (RouteHandler σ)) := do
  let m := h.method
  match h.invoker with
  | none => throw (.configuration (.noInvoker m.qualifiedName))
  | some invoker =>
    let c ← .lift (condition h)
    let params ← bindParams (d.context c) m 0 h.params
    let writer ← .lift (ResultWriter.of m h.returns d.formats d.options)
    let interceptors ←
      .lift (InterceptorMatcher.bind d.interceptors m c d.options.route.useMatrix)
    .report (interceptors.event m)
    .report (event c m params.length)
    return {
      condition := c
      name := m.qualifiedName
      handler := {
        method := m
        params := params
        interceptors := interceptors
        advices := d.advices
        invoker := invoker
        requiresValue := h.returns.any fun ty => !ty.isOptional
        status? := status? m
        writer := writer } }

def deploy (d : Deployment σ) (h : Declaration σ) : Deployed σ :=
  let (built, state) := (d.buildRoute h).run.run { beans := d.beans }
  let d := { d with beans := state.beans }
  match built with
  | .error e => ⟨d, .error e, state.events⟩
  | .ok route =>
    let events := state.events ++ d.router.table.addEvents route
    match d.router.table.add route with
    | .error e => ⟨d, .error e, events⟩
    | .ok table => ⟨{ d with router := { d.router with table := table } }, .ok (), events⟩

def finishedEvent (d : Deployment σ) : Event where
  level := .info
  message := "deployment complete"
  fields := [("routes", toString d.router.table.routes.length)]

def listing (d : Deployment σ) : String :=
  recordListing "Deployment"
    [("options", d.options.listing), ("resolvers", d.registry.listing),
      ("interceptors", toString d.interceptors.length), ("advices", toString d.advices.length),
      ("router", d.router.listing)]

end

end Deployment

end RestDispatch
