import RestDispatch.Error
import RestDispatch.Text.Basic

/-!
# Value expressions

A condition on the value of a header or of a query parameter: that it is present or
absent, or that it is or is not equal to a text.
-/

namespace RestDispatch

/-- A condition on a named value. -/
inductive Expression
  | present (name : String)
  | absent (name : String)
  | equals (name value : String)
  | notEquals (name value : String)
  deriving DecidableEq, Repr

namespace Expression

def name : Expression → String
  | .present n => n
  | .absent n => n
  | .equals n _ => n
  | .notEquals n _ => n

/-- The expression of a trimmed text, which may lack a name. -/
def read (cs : List Char) : Expression :=
  let text (cs : List Char) := String.ofList (Text.trim cs)
  match Text.splitOnPair '!' '=' cs with
  | some (name, value) => .notEquals (text name) (text value)
  | none =>
    match Text.splitOnce '=' cs with
    | some (name, value) => .equals (text name) (text value)
    | none =>
      match cs with
      | '!' :: name => .absent (text name)
      | name => .present (String.ofList name)

/-- Read `name`, `!name`, `name=value` or `name!=value`. -/
def parse (s : String) : Except Error Expression :=
  let cs := Text.trim s.toList
  let e := read cs
  if e.name = "" then .error (.configuration (.invalidExpression (String.ofList cs))) else .ok e

/-- Whether a value, if there is one, satisfies a condition. -/
def test (value : Option String) : Expression → Bool
  | .present _ => value.isSome
  | .absent _ => value.isNone
  | .equals _ expected => value == some expected
  | .notEquals _ expected => value != some expected

/-- Whether no value satisfies both of two conditions on one name. -/
def contradicts (e f : Expression) : Bool :=
  e.name == f.name &&
    match e, f with
    | .present _, .absent _ => true
    | .absent _, .present _ => true
    | .absent _, .equals _ _ => true
    | .equals _ _, .absent _ => true
    | .equals _ a, .equals _ b => a != b
    | .equals _ a, .notEquals _ b => a == b
    | .notEquals _ b, .equals _ a => a == b
    | _, _ => false

/-- Whether a condition of one list contradicts one of another. -/
def anyContradiction (es fs : List Expression) : Bool := es.any fun e => fs.any e.contradicts

end Expression

end RestDispatch
