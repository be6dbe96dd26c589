import RestDispatch.Handler.Exchange
import RestDispatch.Handler.Parameter
import RestDispatch.Http.Request

/-!
# Advices

An advice stands around the invocation of a handler.  It is given the arguments and the
rest of the chain, and may replace the arguments, run the rest or not, answer with a value
of its own, write the response, or fail.  Chains nest: the first advice is outermost, and
the handler is innermost.
-/

namespace RestDispatch

abbrev Advice (σ : Type) :=
  HandlerMethod → Request → Args → (Args → Handling σ Value) → Handling σ Value

namespace Advice

/-- The report on one advice of a chain. -/
def stepEvent (index : Nat) : Event where
  level := .trace
  message := "executing advice"
  fields := [("advice_index", toString index)]

/-- The report on the end of a chain. -/
def endEvent (m : HandlerMethod) : Event where
  level := .trace
  message := "advice chain complete, invoking handler"
  fields := [("handler", m.name)]

/-- Run advices, the first of which has the given index, around an invocation. -/
def chain {σ : Type} (m : HandlerMethod) (r : Request) (invoke : Args → Handling σ Value) :
    Nat → List (Advice σ) → Args → Handling σ Value
  | _, [], args => do
    .report (endEvent m)
    invoke args
  | index, advice :: rest, args => do
    .report (stepEvent index)
    advice m r args (chain m r invoke (index + 1) rest)

end Advice

end RestDispatch
