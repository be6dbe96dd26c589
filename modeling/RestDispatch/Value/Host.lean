import RestDispatch.Type.Basic

/-!
# Typed extraction

A handler works with typed data.  Each type it may ask for has a carrier, a way to embed
the carrier into values and a way to extract it from a value.  Extraction accepts either
kind of integer as long as the number fits, a character where a string is asked for, and a
list where a set is; everything else is a mismatch that names both sides.
-/

namespace RestDispatch

/-- A type of data that values can be extracted into. -/
inductive HostType
  | value
  | string
  | bool
  | char
  | integer (t : IntegerType)
  /-- Sizes: unsigned integers of 64 bits. -/
  | size
  | single
  | double
  | bytes
  | cookie
  | headers
  /-- Instances of a registered type. -/
  | object (type : String)
  | option (t : HostType)
  | list (t : HostType)
  | set (t : HostType)
  | map (t : HostType)
  /-- Maps without order. -/
  | table (t : HostType)
  deriving DecidableEq, Repr

abbrev Bounded (r : IntegerRange) := { n : Int // r.contains n = true }

namespace HostType

def sizeRange : IntegerRange := IntegerType.range .u64

abbrev Carrier : HostType → Type
  | .value => Value
  | .string => String
  | .bool => Bool
  | .char => Char
  | .integer t => Bounded t.range
  | .size => Bounded sizeRange
  | .single => Single
  | .double => Double
  | .bytes => Bytes
  | .cookie => Cookie
  | .headers => Headers
  | .object _ => Fields
  | .option t => Option t.Carrier
  | .list t => List t.Carrier
  | .set t => List t.Carrier
  | .map t => Dictionary t.Carrier
  | .table t => Dictionary t.Carrier

def name : HostType → String
  | .value => "restlight_core::value::Value"
  | .string => "alloc::string::String"
  | .bool => "bool"
  | .char => "char"
  | .integer t => t.name
  | .size => "usize"
  | .single => "f32"
  | .double => "f64"
  | .bytes => "bytes::bytes::Bytes"
  | .cookie => "restlight_core::http::Cookie"
  | .headers => "restlight_core::headers::HeaderMap"
  | .object type => "alloc::sync::Arc<" ++ type ++ ">"
  | .option t => "core::option::Option<" ++ t.name ++ ">"
  | .list t => "alloc::vec::Vec<" ++ t.name ++ ">"
  | .set t => "std::collections::hash::set::HashSet<" ++ t.name ++ ">"
  | .map t =>
    "alloc::collections::btree::map::BTreeMap<alloc::string::String, " ++ t.name ++ ">"
  | .table t => "std::collections::hash::map::HashMap<alloc::string::String, " ++ t.name ++ ">"

/-- The value of some data. -/
def embed : (t : HostType) → t.Carrier → Value
  | .value, v => v
  | .string, s => .string s
  | .bool, b => .bool b
  | .char, c => .char c
  | .integer t, n => if t.isSigned then .int n.val else .uint n.val.toNat
  | .size, n => .uint n.val.toNat
  | .single, x => .float x.convert
  | .double, x => .float x
  | .bytes, bs => .bytes bs
  | .cookie, c => .cookie c
  | .headers, h => .headers h
  | .object type, fields => .object type fields
  | .option t, x => (x.map t.embed).getD .null
  | .list t, xs => .list (xs.map t.embed)
  | .set t, xs => .set (xs.map t.embed)
  | .map t, d => .map (d.map fun (k, x) => (k, t.embed x))
  | .table t, d => .map (d.map fun (k, x) => (k, t.embed x))

def mismatch {α : Type} (t : HostType) (v : Value) : Except Error α :=
  .error (.typeMismatch t.name v.kind)

/-- An integer of either kind, when it lies in a range. -/
def extractInteger (t : HostType) (r : IntegerRange) (v : Value) : Except Error (Bounded r) :=
  match v with
  | .int n => if h : r.contains n = true then .ok ⟨n, h⟩ else t.mismatch v
  | .uint n => if h : r.contains n = true then .ok ⟨n, h⟩ else t.mismatch v
  | v => t.mismatch v

/-- A double, integers being rounded. -/
def extractDouble (v : Value) : Except Error Double :=
  match v with
  | .float x => .ok x
  | .int n => .ok (Binary.ofInt n)
  | .uint n => .ok (Binary.ofInt n)
  | v => double.mismatch v

/-- Extract each item of a list, in order. -/
def extractAll {α : Type} (extract : Value → Except Error α) :
    List Value → Except Error (List α)
  | [] => .ok []
  | v :: vs => do
    let x ← extract v
    let xs ← extractAll extract vs
    return x :: xs

def extractEntries {α : Type} (extract : Value → Except Error α) :
    List (String × Value) → Except Error (Dictionary α)
  | [] => .ok []
  | (k, v) :: rest => do
    let x ← extract v
    let xs ← extractEntries extract rest
    return (k, x) :: xs

/-- The items without those that embed like an earlier one. -/
def distinctBy {α : Type} (embed : α → Value) (items : List α) : List α :=
  items.foldl
    (fun kept x => if kept.any fun y => (embed y).same (embed x) then kept else kept ++ [x]) []

def extract : (t : HostType) → Value → Except Error t.Carrier
  | .value, v => .ok v
  | .string, .string s => .ok s
  | .string, .char c => .ok (String.ofList [c])
  | .bool, .bool b => .ok b
  | .char, .char c => .ok c
  | .integer t, v => extractInteger (.integer t) t.range v
  | .size, v => extractInteger .size sizeRange v
  | .single, v => (extractDouble v).map Binary.convert
  | .double, v => extractDouble v
  | .bytes, .bytes bs => .ok bs
  | .bytes, .string s => .ok (Text.bytes s)
  | .cookie, .cookie c => .ok c
  | .headers, .headers h => .ok h
  | .object type, .object found fields =>
    if found = type then .ok fields else .error (.typeMismatch type found)
  | .option _, .null => .ok none
  | .option t, v => (t.extract v).map some
  | .list t, .list items => extractAll t.extract items
  | .list t, .set items => extractAll t.extract items
  | .set t, .list items => (extractAll t.extract items).map (distinctBy t.embed)
  | .set t, .set items => (extractAll t.extract items).map (distinctBy t.embed)
  | .map t, .map entries => extractEntries t.extract entries
  | .table t, .map entries => extractEntries t.extract entries
  | t, v => t.mismatch v

end HostType

end RestDispatch
