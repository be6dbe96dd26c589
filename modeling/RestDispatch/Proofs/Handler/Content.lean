import RestDispatch.Proofs.Binding.Listing
import RestDispatch.Proofs.Handler.Transcript

/-!
# Handlers and the content of requests

A handler whose hooks, advices and own binders do not depend on the orders in which the maps of
a request list their keys treats requests of equal content alike, once it has bound the same
arguments.
-/

namespace RestDispatch

variable {σ : Type}

/-- The hooks of an interceptor do not depend on the orders of the maps of requests. -/
structure Interceptor.ReadsContent (i : Interceptor σ) : Prop where
  before : ∀ m, Request.ReadsContent (i.before m)
  after : ∀ m, Request.ReadsContent (i.after m)
  atEnd : ∀ m e?, Request.ReadsContent (i.atEnd m · e?)

/-- Nothing that the application brought along for a handler depends on these orders. -/
structure RouteHandler.ReadsContent (h : RouteHandler σ) : Prop where
  binders : ∀ p ∈ h.params, ∀ b, p.2 = some b → b.ReadsContent
  /-- Requests that decide on interceptors. -/
  tests : ∀ entry ∈ h.interceptors.dynamic, ∀ holds, entry.2 = .request holds →
    Request.ReadsContent holds
  hooks : ∀ r, ∀ i ∈ h.interceptors.matching r, i.ReadsContent
  advices : ∀ advice ∈ h.advices, ∀ m, Request.ReadsContent (advice m)

namespace RouteHandler

variable {h : RouteHandler σ}

section

variable {b b' : Request}

/-- A parameter is bound to a map of which two entries are refused. -/
def RefusesEither (h : RouteHandler σ) (b : Request) (e e' : Error) : Prop :=
  ∃ p ∈ h.params, ∃ binder, p.2 = some binder ∧ binder.RefusesEither b e e'

end

end RouteHandler

end RestDispatch
