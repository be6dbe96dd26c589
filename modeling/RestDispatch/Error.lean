import RestDispatch.Http.Status
import RestDispatch.Text.Quoted

/-!
# Errors

Every failure belongs to one of three groups: configuration faults end the deployment of
a handler, client errors arise while a request is matched and bound and answer with a 4xx
status, and server errors arise while a handler runs or its result is written.  The
wording of each failure is given here and nowhere else.
-/

namespace RestDispatch

/-- Why a handler, a route or a set of options cannot be put into service.  A `reason`
is the message of the fault underneath. -/
inductive ConfigurationFault
  /-- Any other reason, in the words of who gives it. -/
  | other (text : String)
  | noPathPattern
  | malformedSegment (segment : String)
  | invalidRegex (name reason : String)
  | unnamedVariable (segment : String)
  | repeatedVariable (name pattern : String)
  | invalidExpression (expression : String)
  | invalidMediaType (text : String)
  | invalidRoute (handler reason : String)
  | ambiguousRoute (route handler existing existingHandler : String)
  | noInvoker (handler : String)
  | noTextForm (type : String)
  | unboundParameter (parameter source reason : String)
  | unnamedParameter (type parameter : String)
  | invalidDefault (literal parameter reason : String)
  | inconvertibleDefault (literal type parameter : String)
  | notAMap (type parameter : String)
  | unsupportedMapValue (parameter reason : String)
  | namedMap (parameter name : String)
  | undeclaredVariable (parameter name : String)
  | abstractRequestFormat (format parameter : String)
  | abstractResponseFormat (format handler : String)
  | noBeanConstructor (bean : String)
  | notABean (parameter type : String)
  | malformedOptions (reason : String)
  | emptyFormatParameter
  | notABoolean (key text : String)
  | unknownLogLevel (text : String)
  | unknownLogFormat (text : String)
  | invalidLogFilter (directives reason : String)
  | subscriberInstalled (reason : String)
  deriving DecidableEq, Repr

def ConfigurationFault.message : ConfigurationFault → String
  | .other text => text
  | .noPathPattern => "route has no path pattern"
  | .malformedSegment segment => "malformed path segment '" ++ segment ++ "'"
  | .invalidRegex name reason =>
    "invalid regex for path variable '" ++ name ++ "': " ++ reason
  | .unnamedVariable segment => "unnamed path variable in '" ++ segment ++ "'"
  | .repeatedVariable name pattern =>
    "path variable '" ++ name ++ "' declared twice in '" ++ pattern ++ "'"
  | .invalidExpression expression => "invalid condition expression '" ++ expression ++ "'"
  | .invalidMediaType text => "invalid media type '" ++ text ++ "'"
  | .invalidRoute handler reason => "invalid route on " ++ handler ++ ": " ++ reason
  | .ambiguousRoute route handler existing existingHandler =>
    "route " ++ route ++ " (" ++ handler ++ ") is ambiguous with " ++ existing ++
      " (" ++ existingHandler ++ ")"
  | .noInvoker handler => "handler " ++ handler ++ " has no invoker"
  | .noTextForm type => "no string conversion available for type " ++ type
  | .unboundParameter parameter source reason =>
    "cannot bind " ++ parameter ++ " from " ++ source ++ ": " ++ reason
  | .unnamedParameter type parameter =>
    "name for argument of type " ++ type ++ " not specified on " ++ parameter
  | .invalidDefault literal parameter reason =>
    "invalid default value '" ++ literal ++ "' for " ++ parameter ++ ": " ++ reason
  | .inconvertibleDefault literal type parameter =>
    "default value '" ++ literal ++ "' cannot be converted to " ++ type ++ " on " ++ parameter
  | .notAMap type parameter => type ++ " is not a map on " ++ parameter
  | .unsupportedMapValue parameter reason =>
    "unsupported map value type on " ++ parameter ++ ": " ++ reason
  | .namedMap parameter name =>
    "request parameter map " ++ parameter ++ " must not be named '" ++ name ++ "'"
  | .undeclaredVariable parameter name =>
    "matrix variable " ++ parameter ++ " refers to path variable '" ++ name ++
      "' which the route does not declare"
  | .abstractRequestFormat format parameter =>
    "request serializer " ++ format ++ " on " ++ parameter ++ " cannot be instantiated"
  | .abstractResponseFormat format handler =>
    "response serializer " ++ format ++ " on " ++ handler ++ " cannot be instantiated"
  | .noBeanConstructor bean =>
    bean ++ " has no zero-argument constructor and cannot be bound"
  | .notABean parameter type =>
    parameter ++ " of type " ++ type ++ " is not a registered bean type"
  | .malformedOptions reason => "invalid options: " ++ reason
  | .emptyFormatParameter =>
    "serialize.negotiation is enabled but serialize.negotiation_param is empty"
  | .notABoolean key text => key ++ " must be a boolean, got '" ++ text ++ "'"
  | .unknownLogLevel text => "unknown log level '" ++ text ++ "'"
  | .unknownLogFormat text => "unknown log format '" ++ text ++ "'"
  | .invalidLogFilter directives reason =>
    "invalid log filter '" ++ directives ++ "': " ++ reason
  | .subscriberInstalled reason => "cannot install log subscriber: " ++ reason

/-- Every failure of deployment, binding, matching, invocation and writing. -/
inductive Error
  | configuration (fault : ConfigurationFault)
  | missingValue (source name : String)
  | ambiguousMatrixVariable (name : String) (segments : List String)
  | badRequest (reason : String)
  | deserialization (reason : String)
  | unsupportedMediaType (reason : String)
  | notAcceptable (reason : String)
  | routeNotFound (target : String)
  | methodNotAllowed (allowed : String)
  /-- Any status a handler wants to answer with. -/
  | status (code : Nat) (text : String)
  | serialization (reason : String)
  | nullResult (handler : String)
  | typeMismatch (expected found : String)
  | internal (reason : String)
  | io (reason : String)
  deriving DecidableEq, Repr

namespace Error

/-- The sentence a failure is reported with. -/
def message : Error → String
  | .configuration fault => "Invalid configuration: " ++ fault.message
  | .missingValue source name => "Missing required " ++ source ++ " '" ++ name ++ "'"
  | .ambiguousMatrixVariable name segments =>
    "Ambiguous matrix variable '" ++ name ++ "': found in path segments " ++
      Text.quotedList segments ++ ", specify the path variable to read it from"
  | .badRequest reason => "Bad Request: " ++ reason
  | .deserialization reason => "Deserialization error: " ++ reason
  | .unsupportedMediaType reason => "Unsupported Media Type: " ++ reason
  | .notAcceptable reason => "Not Acceptable: " ++ reason
  | .routeNotFound target => "Route not found: " ++ target
  | .methodNotAllowed allowed => "Method not allowed: " ++ allowed
  | .status _ text => text
  | .serialization reason => "Serialization error: " ++ reason
  | .nullResult handler => "Async handler completed without a value for '" ++ handler ++ "'"
  | .typeMismatch expected found =>
    "Type mismatch: expected " ++ expected ++ ", found " ++ found
  | .internal reason => "Internal server error: " ++ reason
  | .io reason => "IO error: " ++ reason

/-- The status a failure answers with.  A configuration fault met by a request counts as
a fault of the server. -/
def statusCode : Error → Nat
  | .missingValue .. => Status.badRequest.code
  | .ambiguousMatrixVariable .. => Status.badRequest.code
  | .badRequest _ => Status.badRequest.code
  | .deserialization _ => Status.badRequest.code
  | .unsupportedMediaType _ => Status.unsupportedMediaType.code
  | .notAcceptable _ => Status.notAcceptable.code
  | .routeNotFound _ => Status.notFound.code
  | .methodNotAllowed _ => Status.methodNotAllowed.code
  | .status code _ => code
  | _ => Status.internalServerError.code

/-- The named status of a failure; a code without a name counts as an internal error. -/
def namedStatus (e : Error) : Status :=
  (Status.ofCode? e.statusCode).getD .internalServerError

def isClientError (e : Error) : Bool := Status.isClientCode e.statusCode

def isServerError (e : Error) : Bool := Status.isServerCode e.statusCode

def isConfiguration : Error → Bool
  | .configuration _ => true
  | _ => false

/-- The failure of who cannot say more than a sentence about a configuration. -/
def config (text : String) : Error := .configuration (.other text)

end Error

end RestDispatch
