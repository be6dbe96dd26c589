import RestDispatch.Dispatch.FailureAnswer
import RestDispatch.Handler.Pipeline
import RestDispatch.Options.Basic

/-!
# Routers

A router finds the handler for a request, gives the request what its route found in it,
lets the handler run and answers a failure.
-/

namespace RestDispatch

/-- The routes of a deployment and how their failures are answered. -/
structure Router (σ : Type) where
  table : RouteTable (RouteHandler σ) := {}
  answer : FailureAnswer σ := .standard

namespace Router

section

variable {σ : Type}

def receive (router : Router σ) (r : Request) : Except Error (RouteHandler σ × Request) :=
  (router.table.find r).map fun (route, found) => (route.handler, r.bindRoute found)

/-- The request as its handler sees it, or as it came when no route takes it. -/
def bound (router : Router σ) (r : Request) : Request :=
  match router.receive r with
  | .ok (_, r) => r
  | .error _ => r

/-- Handle a request and leave its failure unanswered. -/
def tryDispatch (router : Router σ) (r : Request) : Handling σ Unit := do
  let (handler, r) ← .lift (router.receive r)
  handler.handle r

/-- Handle a request and answer its failure. -/
def dispatch (router : Router σ) (r : Request) (x : Exchange σ) : Exchange σ :=
  let (result, x) := (router.tryDispatch r).runOn x
  match result with
  | .ok () => x
  | .error e => router.answer e (router.bound r) x

def listing (router : Router σ) : String :=
  recordListing "Router"
    [("routes", toString router.table.routes.length),
      ("options", router.table.options.listing)]

end

end Router

end RestDispatch
