import RestDispatch.Json.Document
import RestDispatch.Text.Utf8

/-!
# Members of descriptions

Values, types, requests and whole deployments can be described by JSON documents.  A
description may leave members out: a missing member, or one of another kind, stands for
the empty text, the empty list, zero or false.
-/

namespace RestDispatch.Json

/-- The object of some members; of a repeated name the last one counts. -/
def ofMembers (members : List (String × Json)) : Json := .object (Dictionary.ofPairs members)

def ofTexts (texts : List String) : Json := .array (texts.map .string)

def ofTextPairs (pairs : List (String × String)) : Json :=
  .array (pairs.map fun (a, b) => ofTexts [a, b])

/-- The document of data that may be missing. -/
def ofOption {α : Type} (f : α → Json) (x : Option α) : Json := (x.map f).getD .null

/-- The member of a name, null when there is none. -/
def member (j : Json) (name : String) : Json := (j.field? name).getD .null

def has (j : Json) (name : String) : Bool := (j.field? name).isSome

/-- The text of a document. -/
def asText (j : Json) : String := j.string?.getD ""

def asItems : Json → List Json
  | .array items => items
  | _ => []

/-- The integer of a document. -/
def asInt (j : Json) : Int := j.integer?.getD 0

def asTexts (j : Json) : List String := j.asItems.map asText

def getText? (j : Json) (name : String) : Option String := (j.member name).string?

def getText (j : Json) (name : String) : String := (j.member name).asText

def getItems (j : Json) (name : String) : List Json := (j.member name).asItems

def getTexts (j : Json) (name : String) : List String := (j.member name).asTexts

def getInt (j : Json) (name : String) : Int := (j.member name).asInt

def getNat (j : Json) (name : String) : Nat := (j.getInt name).toNat

/-- A truth value, with the one that a missing member stands for. -/
def getFlagOr (j : Json) (name : String) (default : Bool) : Bool :=
  match j.member name with
  | .bool b => b
  | _ => default

def getFlag (j : Json) (name : String) : Bool := j.getFlagOr name false

/-- The pairs of texts in an array of arrays. -/
def getPairs (j : Json) (name : String) : List (String × String) :=
  (j.getItems name).filterMap fun pair =>
    match pair.asTexts with
    | [a, b] => some (a, b)
    | _ => none

end RestDispatch.Json
