import RestDispatch.Error
import RestDispatch.Route.Table
import RestDispatch.Value.Listing

/-!
# Deployment options

Whether a request parameter may choose the format of bodies and which parameter that is,
and how the route table treats ambiguity and matrix parameters.
-/

namespace RestDispatch

/-- How the format of bodies is negotiated. -/
structure SerializeOptions where
  negotiation : Bool := false
  parameter : String := "format"
  deriving DecidableEq, Repr

/-- The parameter that chooses the format, where one may. -/
def SerializeOptions.formatParameter? (o : SerializeOptions) : Option String :=
  if o.negotiation then some o.parameter else none

/-- The options of a deployment. -/
structure Options where
  serialize : SerializeOptions := {}
  route : RouteOptions := {}
  deriving DecidableEq, Repr

/-- Negotiation needs the name of a parameter. -/
def Options.validate (o : Options) : Except Error Unit :=
  if o.serialize.negotiation && o.serialize.parameter.isEmpty then
    .error (.configuration .emptyFormatParameter)
  else .ok ()

def SerializeOptions.listing (o : SerializeOptions) : String :=
  recordListing "SerializeOptions"
    [("negotiation", boolText o.negotiation), ("negotiation_param", Text.quoted o.parameter)]

def RouteOptions.listing (o : RouteOptions) : String :=
  recordListing "RouteOptions"
    [("reject_ambiguous_routes", boolText o.rejectAmbiguous),
      ("use_matrix_variables", boolText o.useMatrix)]

def Options.listing (o : Options) : String :=
  recordListing "RestlightOptions"
    [("serialize", o.serialize.listing), ("route", o.route.listing)]

end RestDispatch
