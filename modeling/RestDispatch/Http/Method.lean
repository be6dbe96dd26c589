import RestDispatch.Text.Basic

/-!
# Request methods
-/

namespace RestDispatch

/-- The methods a request may have. -/
inductive Method
  | get
  | post
  | put
  | delete
  | patch
  | head
  | options
  deriving DecidableEq, Repr

namespace Method

/-- The methods in the order in which they are tried by `ofName?`. -/
def all : List Method := [.get, .post, .put, .delete, .patch, .head, .options]

/-- The name on the request line. -/
def name : Method → String
  | .get => "GET"
  | .post => "POST"
  | .put => "PUT"
  | .delete => "DELETE"
  | .patch => "PATCH"
  | .head => "HEAD"
  | .options => "OPTIONS"

def ofName? (s : String) : Option Method := all.find? fun m => m.name == Text.upper s

end Method

end RestDispatch
