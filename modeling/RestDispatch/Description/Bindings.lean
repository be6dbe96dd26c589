import RestDispatch.Binding.Factory
import RestDispatch.Description.Errors
import RestDispatch.Description.Types

/-!
# Descriptions of bindings

The options of a deployment, the factories an application brings along, and what a source
carries under a name.
-/

namespace RestDispatch.Description

def readOptions (j : Json) : Options where
  serialize :=
    { negotiation := j.getFlag "negotiation"
      parameter := (j.getText? "negotiation_param").getD "format" }
  route :=
    { rejectAmbiguous := j.getFlag "reject_ambiguous_routes"
      useMatrix := j.getFlagOr "use_matrix_variables" true }

def ofOptions (o : Options) : List (String × Json) :=
  [("negotiation", .bool o.serialize.negotiation),
    ("negotiation_param", .string o.serialize.parameter),
    ("reject_ambiguous_routes", .bool o.route.rejectAmbiguous),
    ("use_matrix_variables", .bool o.route.useMatrix)]

section

variable [Vocabulary]

def readOutcome (j : Json) : Except Error Value :=
  if j.has "error" then .error (readError (j.member "error")) else .ok (readValue j)

/-- A factory for the parameters of one name, which binds them to a fixed outcome or
refuses them. -/
def readFactory (j : Json) : BinderFactory :=
  let name := j.getText "param"
  let outcome := readOutcome (j.member "value")
  let order := if j.getFlag "default_order" then BinderFactory.defaultOrder else j.getInt "order"
  .custom order (fun p => p.name == name) fun _ =>
    if j.has "deploy_error" then .error (readError (j.member "deploy_error"))
    else .ok fun _ => outcome

def readBuiltIn : String → BinderFactory
  | "path" => .path
  | "matrix" => .matrix
  | "param" => .query
  | "unannotated" => .unannotated
  | "header" => .header
  | "cookie" => .cookie
  | "fixed" => .fixedBody
  | "body" => .body
  | _ => .bean

/-- The surroundings in which a described parameter is bound. -/
def readContext (j : Json) : BindingContext where
  formats := readFormats j
  options := readOptions (j.member "options")
  registry :=
    (j.getItems "resolvers").foldl (fun registry f => registry.register (readFactory f))
      (if j.getText "registry" == "empty" then [] else .standard)
  declared := if (j.member "declared").isNull then none else some (j.getTexts "declared")

def readCarried (name : String) (j : Json) : Except Error (Option Carried) :=
  if j.has "single" then .ok (some (.single (j.getText "single")))
  else if j.has "multi" then .ok (some (.multiple (j.getTexts "multi")))
  else if j.has "value" then .ok (some (.value (readValue (j.member "value"))))
  else if j.has "error" then .error (readError (j.member "error"))
  else if j.getFlag "echo_name" then .ok (some (.single name))
  else .ok none

/-- A lookup: its name, whether it is required, and its default. -/
def ofLookup (l : Lookup) : Json :=
  .array [.string l.name, .bool l.required, .ofOption ofValue l.default?, .bool l.default?.isSome]

end

end RestDispatch.Description
