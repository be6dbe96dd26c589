import RestDispatch.Options.Basic

/-!
# Options in variables

Environment variables overlay the options one after the other.  A variable counts when its
name starts with the name of the library in capitals; what follows may be in letters of
either case.
-/

namespace RestDispatch

def variableStart : String := "RESTLIGHT_"

/-- The truth value of a word, blanks around it aside. -/
def readWord (key text : String) : Except Error Bool :=
  let word := Text.lower (Text.trimmed text)
  if ["true", "1", "yes", "on"].contains word then .ok true
  else if ["false", "0", "no", "off"].contains word then .ok false
  else .error (.configuration (.notABoolean key word))

namespace Options

def withVariable (o : Options) (key text : String) : Except Error Options :=
  match Text.stripStart variableStart.toList key.toList with
  | none => .ok o
  | some rest =>
    match Text.upper (String.ofList rest) with
    | "SERIALIZE_NEGOTIATION" =>
      (readWord key text).map fun b => { o with serialize := { o.serialize with negotiation := b } }
    | "SERIALIZE_NEGOTIATION_PARAM" =>
      .ok { o with serialize := { o.serialize with parameter := Text.trimmed text } }
    | "ROUTE_REJECT_AMBIGUOUS_ROUTES" =>
      (readWord key text).map fun b => { o with route := { o.route with rejectAmbiguous := b } }
    | "ROUTE_USE_MATRIX_VARIABLES" =>
      (readWord key text).map fun b => { o with route := { o.route with useMatrix := b } }
    | _ => .ok o

/-- Overlay variables in order; the outcome must be able to work. -/
def withVariables (o : Options) (vars : List (String × String)) : Except Error Options := do
  let o ← vars.foldlM (fun o (key, text) => o.withVariable key text) o
  o.validate
  return o

end Options

/-- The variables of an environment in which some names are set one after the other: a name
set again keeps its place. -/
def environment (settings : List (String × String)) : List (String × String) :=
  settings.foldl (fun vars (key, text) =>
    if vars.any (·.1 == key) then vars.map fun v => if v.1 == key then (key, text) else v
    else vars ++ [(key, text)]) []

end RestDispatch
