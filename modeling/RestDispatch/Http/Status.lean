import RestDispatch.Number.Shortest

/-!
# Status codes

A response may carry any numeric status.  The codes the dispatcher itself reasons about
have a name and a reason phrase.
-/

namespace RestDispatch

/-- The status codes with a name. -/
inductive Status
  | ok
  | created
  | accepted
  | noContent
  | badRequest
  | unauthorized
  | forbidden
  | notFound
  | methodNotAllowed
  | notAcceptable
  | conflict
  | unsupportedMediaType
  | unprocessableEntity
  | internalServerError
  | notImplemented
  | serviceUnavailable
  deriving DecidableEq, Repr

namespace Status

def all : List Status :=
  [.ok, .created, .accepted, .noContent, .badRequest, .unauthorized, .forbidden, .notFound,
    .methodNotAllowed, .notAcceptable, .conflict, .unsupportedMediaType,
    .unprocessableEntity, .internalServerError, .notImplemented, .serviceUnavailable]

def code : Status → Nat
  | .ok => 200
  | .created => 201
  | .accepted => 202
  | .noContent => 204
  | .badRequest => 400
  | .unauthorized => 401
  | .forbidden => 403
  | .notFound => 404
  | .methodNotAllowed => 405
  | .notAcceptable => 406
  | .conflict => 409
  | .unsupportedMediaType => 415
  | .unprocessableEntity => 422
  | .internalServerError => 500
  | .notImplemented => 501
  | .serviceUnavailable => 503

def reason : Status → String
  | .ok => "OK"
  | .created => "Created"
  | .accepted => "Accepted"
  | .noContent => "No Content"
  | .badRequest => "Bad Request"
  | .unauthorized => "Unauthorized"
  | .forbidden => "Forbidden"
  | .notFound => "Not Found"
  | .methodNotAllowed => "Method Not Allowed"
  | .notAcceptable => "Not Acceptable"
  | .conflict => "Conflict"
  | .unsupportedMediaType => "Unsupported Media Type"
  | .unprocessableEntity => "Unprocessable Entity"
  | .internalServerError => "Internal Server Error"
  | .notImplemented => "Not Implemented"
  | .serviceUnavailable => "Service Unavailable"

def ofCode? (code : Nat) : Option Status := all.find? fun s => s.code == code

def isClientCode (code : Nat) : Bool := 400 ≤ code && code < 500

def isServerCode (code : Nat) : Bool := 500 ≤ code && code < 600

/-- The code and the reason phrase. -/
def line (s : Status) : String := Number.integerText s.code ++ " " ++ s.reason

end Status

end RestDispatch
