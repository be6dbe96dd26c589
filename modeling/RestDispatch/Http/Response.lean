import RestDispatch.Error
import RestDispatch.Http.Headers
import RestDispatch.Text.Utf8

/-!
# Responses

The response being made for one request.  Its body is pending until a result is sent or
the pending body is committed, which happens at most once.
-/

namespace RestDispatch

/-- A response. -/
structure Response where
  status : Nat := 200
  headers : Headers := .empty
  body : Bytes := []
  committed : Bool := false
  deriving DecidableEq, Repr

namespace Response

def setHeader (r : Response) (name value : String) : Response :=
  { r with headers := r.headers.insert name value }

def appendHeader (r : Response) (name value : String) : Response :=
  { r with headers := r.headers.append name value }

/-- Append to the pending body. -/
def write (r : Response) (bs : Bytes) : Response := { r with body := r.body ++ bs }

/-- The failure of a second result. -/
def alreadyCommitted : Error := .internal "response already committed"

/-- Commit a body in place of what is pending. -/
def send (r : Response) (bs : Bytes) : Except Error Response :=
  if r.committed then .error alreadyCommitted else .ok { r with body := bs, committed := true }

/-- Commit the pending body. -/
def commit (r : Response) : Except Error Response :=
  if r.committed then .error alreadyCommitted else .ok { r with committed := true }

/-- Take the body out, for who sends it. -/
def takeBody (r : Response) : Bytes × Response := (r.body, { r with body := [] })

end Response

end RestDispatch
