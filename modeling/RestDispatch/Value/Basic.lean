import RestDispatch.Error
import RestDispatch.Http.Cookie
import RestDispatch.Http.Headers
import RestDispatch.Number.Binary
import RestDispatch.Dictionary

/-!
# Values

A value is what a parameter is bound to and what a handler returns.  Signed and unsigned
integers stay apart, sets keep the order in which their elements came, maps are in key
order, and an instance of a registered type is its type name and the values of its fields.

Instances have an identity: two values made at different places never share one, so `same`
tells them apart even when their fields agree.
-/

namespace RestDispatch

/-- A resolved argument or a result. -/
inductive Value
  | null
  | string (s : String)
  | bool (b : Bool)
  | char (c : Char)
  | int (n : Int)
  | uint (n : Nat)
  | float (x : Double)
  | bytes (bs : Bytes)
  | list (items : List Value)
  /-- Distinct values in the order in which they came. -/
  | set (items : List Value)
  | map (entries : List (String × Value))
  | cookie (c : Cookie)
  | headers (h : Headers)
  /-- An instance of a registered type. -/
  | object (type : String) (fields : List (String × Value))
  deriving Inhabited, Repr

/-- The content of an instance of a registered type. -/
abbrev Fields := List (String × Value)

namespace Value

def isNull : Value → Bool
  | .null => true
  | _ => false

def string? : Value → Option String
  | .string s => some s
  | _ => none

/-- The word for a value in diagnostics. -/
def kind : Value → String
  | .null => "null"
  | .string _ => "string"
  | .bool _ => "bool"
  | .char _ => "char"
  | .int _ => "integer"
  | .uint _ => "unsigned integer"
  | .float _ => "float"
  | .bytes _ => "bytes"
  | .list _ => "list"
  | .set _ => "set"
  | .map _ => "map"
  | .cookie _ => "cookie"
  | .headers _ => "headers"
  | .object type _ => type

mutual

/-- Equality of values.  Numbers compare as numbers, so a NaN differs from itself;
instances are equal only when `shared` says that both sides hold the same ones. -/
def sameWith (shared : Bool) : Value → Value → Bool
  | .null, .null => true
  | .string a, .string b => a == b
  | .bool a, .bool b => a == b
  | .char a, .char b => a == b
  | .int a, .int b => a == b
  | .uint a, .uint b => a == b
  | .float a, .float b => a.same b
  | .bytes a, .bytes b => a == b
  | .list a, .list b => sameItems shared a b
  | .set a, .set b => sameItems shared a b
  | .map a, .map b => sameEntries shared a b
  | .cookie a, .cookie b => a == b
  | .headers a, .headers b => a == b
  | .object _ _, .object _ _ => shared
  | _, _ => false

def sameItems (shared : Bool) : List Value → List Value → Bool
  | [], [] => true
  | a :: as, b :: bs => sameWith shared a b && sameItems shared as bs
  | _, _ => false

def sameEntries (shared : Bool) : List (String × Value) → List (String × Value) → Bool
  | [], [] => true
  | (k, a) :: as, (l, b) :: bs => k == l && sameWith shared a b && sameEntries shared as bs
  | _, _ => false

end

/-- Equality of two values made at different places. -/
def same (a b : Value) : Bool := sameWith false a b

/-- Equality of a value with itself, false only for the NaNs in it. -/
def isReflexive (a : Value) : Bool := sameWith true a a

/-- The items without those equal to an earlier one. -/
def distinct (items : List Value) : List Value :=
  items.foldl (fun kept v => if kept.any (·.same v) then kept else kept ++ [v]) []

def ofItems (items : List Value) : Value := .set (distinct items)

end Value

/-- Resolved arguments in the order of the parameters. -/
abbrev Args := List Value

namespace Args

/-- The argument at an index and the arguments with null in its place. -/
def take (args : Args) (index : Nat) : Except Error Value × Args :=
  match args[index]? with
  | some v => (.ok v, args.set index .null)
  | none => (.error (.internal ("no argument at index " ++ toString index)), args)

end Args

end RestDispatch
