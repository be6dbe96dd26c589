import RestDispatch.Body.Format
import RestDispatch.Description.Members

/-!
# Vocabularies

What an application registers has no description of its own: its types, formats and hooks are
described by words, and a vocabulary tells what the words stand for.
-/

namespace RestDispatch

/-- What the words of descriptions stand for in an application. -/
class Vocabulary where
  types : List (String × Ty)
  /-- The name of the recording bean of a number. -/
  beanName : Nat → String
  formats : List (String × BodyFormat)
  /-- The serializer classes, each with the format that it constructs. -/
  classes : List (String × String × BodyFormat)
  /-- The class that any other word stands for. -/
  abstractClass : String
  /-- The name of the interceptor without a script. -/
  plainInterceptor : String
  /-- The instance that a description with one member stands for. -/
  readInstance : Json → Value
  /-- The word for an instance, and the description of its content. -/
  ofInstance : String → Fields → Option (String × Json)

namespace Vocabulary

variable [Vocabulary]

def formatClass (word : String) : FormatClass :=
  ⟨((classes.lookup word).map (·.1)).getD abstractClass⟩

/-- What the serializer classes construct, by name. -/
def constructed : List (String × BodyFormat) := classes.map (·.2)

/-- A deployment's formats before any is registered. -/
def emptyFormats : FormatTable := { classes := constructed }

def standardFormats : FormatTable := { FormatTable.standard with classes := constructed }

end Vocabulary

end RestDispatch
