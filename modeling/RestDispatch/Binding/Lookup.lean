import RestDispatch.Conversion
import RestDispatch.Handler.Parameter

/-!
# Named values

Query parameters, headers, cookies, path and matrix variables are all looked up by a name
under the same rules.  A value that is missing, or that converts to null, is absent; an
absent value is the default where there is one, a failure where the value is required, and
null otherwise.  Where there is a default, an empty text counts as missing too.
-/

namespace RestDispatch

/-- What is looked up: a name, whether it is required, and its converted default. -/
structure Lookup where
  name : String
  required : Bool
  default? : Option Value := none
  deriving Repr

/-- A value as a request carries it. -/
inductive Carried
  | single (text : String)
  | multiple (texts : List String)
  /-- A value that needs no conversion. -/
  | value (v : Value)
  deriving Repr

def Carried.isBlank : Carried → Bool
  | .single text => text.isEmpty
  | .multiple texts => texts.all String.isEmpty
  | .value v => v.isNull

namespace Lookup

def convertDefault (literal : String) (p : Param) : Option Conversion → Except Error Value
  | some c =>
    match c.convert literal with
    | .ok v => .ok v
    | .error e => .error (.configuration (.invalidDefault literal p.describe e.message))
  | none => .error (.configuration (.inconvertibleDefault literal p.ty.name p.describe))

/-- The lookup an annotation asks for.  An empty name stands for the name of the parameter,
and a parameter of optional type is never required. -/
def ofAnnotation (v : NamedValue) (p : Param) (c : Option Conversion) : Except Error Lookup := do
  let name := if v.name.isEmpty then p.name else v.name
  if name.isEmpty then throw (.configuration (.unnamedParameter p.ty.name p.describe))
  let default? ←
    match v.default? with
    | none => .ok none
    | some literal => (convertDefault literal p c).map some
  return { name, required := v.required && !p.ty.isOptional, default? }

def absent (l : Lookup) (kind : String) : Except Error Value :=
  match l.default? with
  | some v => .ok v
  | none => if l.required then .error (.missingValue kind l.name) else .ok .null

/-- Convert what is carried; without a conversion texts stay as they are. -/
def convertRaw (c : Option Conversion) (carried : Carried) : Except Error Value :=
  match carried, c with
  | .value v, _ => .ok v
  | .single text, some c => c.convert text
  | .multiple texts, some c => c.convertAll texts
  | .single text, none => .ok (.string text)
  | .multiple texts, none => .ok (.list (texts.map .string))

/-- Convert what is carried; a failure names the value it concerns. -/
def convert (l : Lookup) (kind : String) (c : Option Conversion) (carried : Carried) :
    Except Error Value :=
  match convertRaw c carried with
  | .error (.badRequest reason) =>
    .error (.badRequest ("invalid " ++ kind ++ " '" ++ l.name ++ "': " ++ reason))
  | result => result

/-- The value of what is carried under the name. -/
def present (l : Lookup) (kind : String) (c : Option Conversion) (carried : Carried) :
    Except Error Value :=
  if l.default?.isSome && carried.isBlank then l.absent kind
  else
    match l.convert kind c carried with
    | .ok .null => l.absent kind
    | result => result

/-- The value of what a source of some kind carries, if anything, under the name. -/
def resolve (l : Lookup) (kind : String) (c : Option Conversion) (carried : Option Carried) :
    Except Error Value :=
  match carried with
  | none => l.absent kind
  | some (.multiple []) => l.absent kind
  | some carried => l.present kind c carried

end Lookup

end RestDispatch
