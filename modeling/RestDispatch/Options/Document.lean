import RestDispatch.Json.Printer
import RestDispatch.Json.Record
import RestDispatch.Options.Basic

/-!
# Options as documents

Options are read from a JSON record of two records.  Their own text names every option, in
the order of declaration.
-/

namespace RestDispatch

def SerializeOptions.fields : List (Json.RecordField SerializeOptions) :=
  [Json.flagField "negotiation" ({ · with negotiation := · }),
    Json.textField "negotiation_param" ({ · with parameter := · })]

def RouteOptions.fields : List (Json.RecordField RouteOptions) :=
  [Json.flagField "reject_ambiguous_routes" ({ · with rejectAmbiguous := · }),
    Json.flagField "use_matrix_variables" ({ · with useMatrix := · })]

namespace Options

/-- The fields of the options; each part starts from its defaults. -/
def fields : List (Json.RecordField Options) :=
  [⟨"serialize", fun o cs => do
      let (part, rest) ← Json.readRecord SerializeOptions.fields {} cs
      return ({ o with serialize := part }, rest)⟩,
    ⟨"route", fun o cs => do
      let (part, rest) ← Json.readRecord RouteOptions.fields {} cs
      return ({ o with route := part }, rest)⟩]

def parse (text : String) : Except Error Options :=
  match Json.parseWhole (Json.readRecord fields {}) text.toList with
  | .ok options => .ok options
  | .error e => .error (.configuration (.malformedOptions (e.message text.toList)))

def objectText (members : List (String × List Char)) : List Char :=
  '\x7b' ::
    (Text.joinWith [','] (members.map fun (name, text) => Json.quote name ++ ':' :: text) ++
      ['\x7d'])

def text (o : Options) : String :=
  let flag (b : Bool) : List Char := (Json.bool b).render
  String.ofList <| objectText
    [("serialize", objectText
        [("negotiation", flag o.serialize.negotiation),
          ("negotiation_param", Json.quote o.serialize.parameter)]),
      ("route", objectText
        [("reject_ambiguous_routes", flag o.route.rejectAmbiguous),
          ("use_matrix_variables", flag o.route.useMatrix)])]

end Options

end RestDispatch
