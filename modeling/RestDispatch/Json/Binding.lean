import RestDispatch.Json.Printer
import RestDispatch.Type.Basic

/-!
# Documents and values

A parsed document is shaped into a value of the declared type, and a value is turned back
into a document with the declared type to find the codecs of registered types.  Null is a
value of every type.  A string is read from any document: one that is not a string becomes
its own text.
-/

namespace RestDispatch

def Ty.hasJsonForm : Ty → Bool
  | .optional t => t.hasJsonForm
  | .list t => t.hasJsonForm
  | .set t => t.hasJsonForm
  | .array t => t.hasJsonForm
  | .map t => t.hasJsonForm
  | .object o => o.json.isSome
  | .bytes => false
  | .headers => false
  | .parsed _ => false
  | _ => true

namespace Json

/-- The fault of a document that does not fit a type. -/
def misfit {α : Type} (j : Json) (ty : Ty) : Except Error α :=
  .error (.deserialization ("cannot read " ++ j.kind ++ " as " ++ ty.name))

/-- Apply a reading to every item, in order. -/
def readAll (read : Json → Except Error Value) : List Json → Except Error (List Value)
  | [] => .ok []
  | j :: js => do
    let v ← read j
    let vs ← readAll read js
    return v :: vs

/-- Apply a reading to the value of every field, in order. -/
def readEntries (read : Json → Except Error Value) :
    List (String × Json) → Except Error (List (String × Value))
  | [] => .ok []
  | (k, j) :: rest => do
    let v ← read j
    let vs ← readEntries read rest
    return (k, v) :: vs

def items? : Json → Option (List Json)
  | .array items => some items
  | _ => none

def readInteger (t : IntegerType) (j : Json) : Option Value :=
  match j.integer? with
  | some n =>
    if t.range.contains n then some (if t.isSigned then .int n else .uint n.toNat) else none
  | none => none

/-- A string document of one character. -/
def readChar (j : Json) : Option Value :=
  match j.string?.map String.toList with
  | some [c] => some (.char c)
  | _ => none

/-- A cookie document: an object with the two strings `name` and `value`. -/
def readCookie (j : Json) : Option Value := do
  let name ← (← j.field? "name").string?
  let value ← (← j.field? "value").string?
  return .cookie ⟨name, value⟩

/-- A value, or the fault of a document without it. -/
def orMisfit (j : Json) (ty : Ty) (v : Option Value) : Except Error Value :=
  match v with
  | some v => .ok v
  | none => j.misfit ty

/-- Shape a document into a value of a type. -/
def toValue (ty : Ty) (j : Json) : Except Error Value :=
  if j.isNull then .ok .null
  else
    match ty with
    | .optional t => toValue t j
    | .string =>
      match j with
      | .string s => .ok (.string s)
      | j => .ok (.string j.text)
    | .bool =>
      match j with
      | .bool b => .ok (.bool b)
      | j => j.misfit ty
    | .char => j.orMisfit ty j.readChar
    | .integer t => j.orMisfit ty (j.readInteger t)
    | .single => j.orMisfit ty (j.double?.map .float)
    | .double => j.orMisfit ty (j.double?.map .float)
    | .list t =>
      match j.items? with
      | some items => (readAll (toValue t) items).map .list
      | none => j.misfit ty
    | .array t =>
      match j.items? with
      | some items => (readAll (toValue t) items).map .list
      | none => j.misfit ty
    | .set t =>
      match j.items? with
      | some items => (readAll (toValue t) items).map .ofItems
      | none => j.misfit ty
    | .map t =>
      match j with
      | .object fields => (readEntries (toValue t) fields).map .map
      | j => j.misfit ty
    | .cookie => j.orMisfit ty j.readCookie
    | .object o =>
      match o.json with
      | some codec => (codec.decode j).map (.object o.name)
      | none => .error (.deserialization (o.name ++ " has no JSON mapping"))
    | .bytes => j.misfit ty
    | .headers => j.misfit ty
    | .parsed _ => j.misfit ty

/-- The document of a double; NaNs and infinities have none but null. -/
def ofDouble (x : Double) : Json := if x.isFinite then .number x else .null

/-- The document of headers: an object from names to lists of values. -/
def ofHeaders (h : Headers) : Json :=
  .object (Dictionary.ofPairs
    (h.names.map fun name => (name, .array ((h.getAll name).map .string))))

/-- The document of an instance, when the declared type registers a codec that has one for it. -/
def ofObject (ty : Option Ty) (type : String) (fields : Fields) : Except Error Json :=
  match ty.bind Ty.object? with
  | some o =>
    match o.json with
    | some codec => (o.downcast type fields).bind codec.encode
    | none => .error (.serialization (type ++ " has no JSON mapping"))
  | none => .error (.serialization (type ++ " has no JSON mapping"))

mutual

/-- The document of a value whose declared type may be known. -/
def ofValue (ty : Option Ty) : Value → Except Error Json
  | .null => .ok .null
  | .string s => .ok (.string s)
  | .bool b => .ok (.bool b)
  | .char c => .ok (.string (String.ofList [c]))
  | .int n => .ok (.integer n)
  | .uint n => .ok (.integer n)
  | .float x => .ok (ofDouble x)
  | .bytes bs => .ok (.array (bs.map fun b => .integer b.toNat))
  | .list items => (ofItems (ty.bind Ty.element?) items).map .array
  | .set items => (ofItems (ty.bind Ty.element?) items).map .array
  | .map entries => (ofEntries (ty.bind Ty.mapValue?) entries).map .object
  | .cookie c => .ok (.object [("name", .string c.name), ("value", .string c.value)])
  | .headers h => .ok (ofHeaders h)
  | .object type fields => ofObject ty type fields

def ofItems (ty : Option Ty) : List Value → Except Error (List Json)
  | [] => .ok []
  | v :: vs => do
    let j ← ofValue ty v
    let js ← ofItems ty vs
    return j :: js

def ofEntries (ty : Option Ty) : List (String × Value) → Except Error (List (String × Json))
  | [] => .ok []
  | (k, v) :: rest => do
    let j ← ofValue ty v
    let js ← ofEntries ty rest
    return (k, j) :: js

end

end Json

end RestDispatch
