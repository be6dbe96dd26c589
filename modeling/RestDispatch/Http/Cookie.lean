import RestDispatch.Text.Percent

/-!
# Cookies
-/

namespace RestDispatch

/-- A cookie of a request. -/
structure Cookie where
  name : String
  value : String
  deriving DecidableEq, Repr

namespace Cookie

/-- Read one `name=value` pair; a pair without a name is none.  Quotation marks around
the value are dropped and the value is percent-decoded. -/
def parsePair (pair : List Char) : Option Cookie :=
  match Text.splitOnce '=' (Text.trim pair) with
  | none => none
  | some (name, value) =>
    let name := Text.trim name
    if name.isEmpty then none
    else
      let value := Text.trimWhile (· == '"') (Text.trim value)
      some ⟨String.ofList name, Text.decodeComponent (String.ofList value)⟩

/-- The cookies of one `Cookie` header. -/
def parse (header : String) : List Cookie :=
  (Text.splitOn ';' header.toList).filterMap parsePair

/-- The cookies of several `Cookie` headers. -/
def parseAll (headers : List String) : List Cookie := headers.flatMap parse

end Cookie

end RestDispatch
