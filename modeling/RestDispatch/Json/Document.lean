import RestDispatch.Dictionary
import RestDispatch.Number.Binary

/-!
# JSON documents

A document keeps integers apart from the other numbers: an integer of at most 64 bits is
exact, every other number is a double.  The fields of an object are in order of their
names, and of a repeated name the last field counts.
-/

namespace RestDispatch

/-- A JSON document. -/
inductive Json
  | null
  | bool (b : Bool)
  /-- An integer between the least signed and the greatest unsigned 64-bit integer. -/
  | integer (n : Int)
  /-- A number that is not such an integer; it is finite. -/
  | number (x : Double)
  | string (s : String)
  | array (items : List Json)
  | object (fields : List (String × Json))
  deriving Inhabited, Repr

namespace Json

def isNull : Json → Bool
  | .null => true
  | _ => false

/-- The word for a document in diagnostics. -/
def kind : Json → String
  | .null => "null"
  | .bool _ => "boolean"
  | .integer _ => "number"
  | .number _ => "number"
  | .string _ => "string"
  | .array _ => "array"
  | .object _ => "object"

def string? : Json → Option String
  | .string s => some s
  | _ => none

def integer? : Json → Option Int
  | .integer n => some n
  | _ => none

/-- The double of a number, an integer being rounded. -/
def double? : Json → Option Double
  | .integer n => some (Binary.ofInt n)
  | .number x => some x
  | _ => none

def field? (j : Json) (name : String) : Option Json :=
  match j with
  | .object fields => Dictionary.get? fields name
  | _ => none

end Json

end RestDispatch
