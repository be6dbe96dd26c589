import RestDispatch.Handler.Exchange
import RestDispatch.Http.Request
import RestDispatch.Media.MediaType

/-!
# Answers to failures

What becomes of a request that failed.  A client is told the sentence of its own fault; of
a fault of the server it is told no more than the name of the status, and the sentence is
reported.  A response that has been committed stays as it is.
-/

namespace RestDispatch

abbrev FailureAnswer (σ : Type) := Error → Request → Exchange σ → Exchange σ

namespace FailureAnswer

def event (e : Error) (r : Request) : Event :=
  if e.isServerError then
    { level := .error
      message := "request failed"
      fields := [("method", r.method.name), ("path", r.path), ("error", e.message)] }
  else
    { level := .debug
      message := "request rejected"
      fields := [("method", r.method.name), ("path", r.path),
        ("status", toString e.namedStatus.code), ("error", e.message)] }

/-- The report on a failure behind a committed response. -/
def lateEvent (r : Request) : Event where
  level := .warn
  message := "error after response was committed"
  fields := [("path", r.path)]

/-- What a client is told. -/
def text (e : Error) : String :=
  if e.isServerError then e.namedStatus.reason else e.message

def head (e : Error) (r : Response) : Response :=
  let r := { r with status := e.statusCode }
  let r := r.setHeader "Content-Type" MediaType.textPlainUtf8.header
  match e with
  | .methodNotAllowed allowed => r.setHeader "Allow" allowed
  | _ => r

/-- The answer of a deployment that sets no other. -/
def standard {σ : Type} : FailureAnswer σ := fun e r x =>
  let x := x.report (event e r)
  if x.response.committed then x.report (lateEvent r)
  else
    x.respond fun response =>
      { head e response with body := Text.bytes (text e), committed := true }

end FailureAnswer

end RestDispatch
