import RestDispatch.Description.Members
import RestDispatch.Error

/-!
# Descriptions of errors

An error is described by the word for its kind and its message.
-/

namespace RestDispatch.Description

def errorKind : Error → String
  | .configuration _ => "Configuration"
  | .missingValue _ _ => "MissingRequiredValue"
  | .ambiguousMatrixVariable _ _ => "AmbiguousMatrixVariable"
  | .badRequest _ => "BadRequest"
  | .deserialization _ => "Deserialization"
  | .unsupportedMediaType _ => "UnsupportedMediaType"
  | .notAcceptable _ => "NotAcceptable"
  | .routeNotFound _ => "RouteNotFound"
  | .methodNotAllowed _ => "MethodNotAllowed"
  | .status _ _ => "Status"
  | .serialization _ => "Serialization"
  | .nullResult _ => "NullAsyncResult"
  | .typeMismatch _ _ => "TypeMismatch"
  | .internal _ => "Internal"
  | .io _ => "Io"

/-- The error of a description; an unknown kind stands for an internal error. -/
def readError (j : Json) : Error :=
  let message := j.getText "message"
  match j.getText "kind" with
  | "Configuration" => .config message
  | "MissingRequiredValue" => .missingValue (j.getText "source_kind") (j.getText "name")
  | "AmbiguousMatrixVariable" => .ambiguousMatrixVariable (j.getText "name") (j.getTexts "segments")
  | "BadRequest" => .badRequest message
  | "Deserialization" => .deserialization message
  | "UnsupportedMediaType" => .unsupportedMediaType message
  | "NotAcceptable" => .notAcceptable message
  | "RouteNotFound" => .routeNotFound message
  | "MethodNotAllowed" => .methodNotAllowed message
  | "Status" => .status (j.getNat "status") message
  | "Serialization" => .serialization message
  | "NullAsyncResult" => .nullResult message
  | "TypeMismatch" => .typeMismatch (j.getText "expected") (j.getText "found")
  | "Io" => .io message
  | _ => .internal message

end RestDispatch.Description
