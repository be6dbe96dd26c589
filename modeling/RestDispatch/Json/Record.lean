import RestDispatch.Json.Parser

/-!
# Reading records

A record with fixed fields is read straight from a text: from an object by the names of
its fields, or from an array by their order.  Fields that are left out keep their values;
a name that comes twice is a fault.  The document of an unknown name is skipped: only its
grammar counts, so it may nest to any depth and hold numbers and escapes that stand for
nothing.
-/

namespace RestDispatch.Json

/-- Skip a string behind its opening quotation mark. -/
def skipString : Rest → Except SyntaxError Rest
  | [] => faultAt [] .endOfText
  | '"' :: rest => .ok rest
  | '\\' :: 'u' :: a :: b :: c :: d :: rest =>
    if (hexUnit a b c d).isSome then skipString rest else faultAt rest .malformedString
  | '\\' :: c :: rest =>
    if (simpleEscape c).isSome then skipString rest else faultAt rest .malformedString
  | c :: rest =>
    if c.toNat < 0x20 || c == '\\' then faultAt rest .malformedString else skipString rest

def skipDigits (cs : Rest) : Except SyntaxError Rest :=
  let (count, rest) := countDigits cs
  if count = 0 then faultAt rest .malformedNumber else .ok rest

def skipExponent : Rest → Except SyntaxError Rest
  | c :: rest =>
    if c == 'e' || c == 'E' then
      match rest with
      | '+' :: rest => skipDigits rest
      | '-' :: rest => skipDigits rest
      | rest => skipDigits rest
    else .ok (c :: rest)
  | [] => .ok []

def skipNumber (cs : Rest) : Except SyntaxError Rest := do
  let rest ←
    match cs with
    | '0' :: rest =>
      if rest.head?.any Char.isDigit then faultAt rest .malformedNumber else .ok rest
    | cs => skipDigits cs
  match rest with
  | '.' :: rest => skipExponent (← skipDigits rest)
  | rest => skipExponent rest

def skipName (cs : Rest) : Except SyntaxError Rest :=
  match skipSpace cs with
  | '"' :: rest => do
    match skipSpace (← skipString rest) with
    | ':' :: rest => return rest
    | rest => faultAt rest .unexpected
  | rest => faultAt rest .unexpected

/-- Skip the items up to a closing bracket; the text starts at an item. -/
def skipItems (item : Rest → Except SyntaxError Rest) (close : Char) :
    Nat → Rest → Except SyntaxError Rest
  | 0, cs => faultAt cs .endOfText
  | fuel + 1, cs => do
    match skipSpace (← item cs) with
    | c :: rest =>
      if c == ',' then skipItems item close fuel rest
      else if c == close then return rest
      else faultAt rest .unexpected
    | [] => faultAt [] .endOfText

def skipInside (item : Rest → Except SyntaxError Rest) (close : Char) (cs : Rest) :
    Except SyntaxError Rest :=
  match skipSpace cs with
  | [] => faultAt [] .endOfText
  | c :: rest =>
    if c == close then .ok rest else skipItems item close (rest.length + 1) (c :: rest)

/-- Skip one document that nests at most `depth` levels. -/
def skipValue : Nat → Rest → Except SyntaxError Rest
  | depth, cs =>
    match skipSpace cs with
    | [] => faultAt [] .endOfText
    | 'n' :: 'u' :: 'l' :: 'l' :: rest => .ok rest
    | 't' :: 'r' :: 'u' :: 'e' :: rest => .ok rest
    | 'f' :: 'a' :: 'l' :: 's' :: 'e' :: rest => .ok rest
    | '"' :: rest => skipString rest
    | '-' :: rest => skipNumber rest
    | '[' :: rest =>
      match depth with
      | 0 => faultAt rest .tooDeep
      | depth + 1 => skipInside (skipValue depth) ']' rest
    | '\x7b' :: rest =>
      match depth with
      | 0 => faultAt rest .tooDeep
      | depth + 1 =>
        skipInside (fun cs => (skipName cs).bind (skipValue depth)) '\x7d' rest
    | c :: rest => if c.isDigit then skipNumber (c :: rest) else faultAt rest .unexpected

/-- Skip one document of any depth. -/
def skip (cs : Rest) : Except SyntaxError Rest := skipValue cs.length cs

def readFlag : Reader Bool := fun cs =>
  match skipSpace cs with
  | 't' :: 'r' :: 'u' :: 'e' :: rest => .ok (true, rest)
  | 'f' :: 'a' :: 'l' :: 's' :: 'e' :: rest => .ok (false, rest)
  | rest => faultAt rest .unexpected

def readText : Reader String := fun cs =>
  match skipSpace cs with
  | '"' :: rest => readString [] rest
  | rest => faultAt rest .unexpected

/-- A field of a record: its name, and how the record changes when it is read. -/
structure RecordField (α : Type) where
  name : String
  read : α → Reader α

section

variable {α : Type}

/-- Read the items of an array as the fields in order; the text starts behind an item, or
behind the opening bracket when `atStart` holds. -/
def readPositions (atStart : Bool) : List (RecordField α) → α → Reader α
  | fields, record, cs =>
    match skipSpace cs with
    | ']' :: rest => .ok (record, rest)
    | [] => faultAt [] .endOfText
    | c :: rest =>
      match fields with
      | [] => faultAt rest .unexpected
      | field :: fields =>
        if atStart then do
          let (record, rest) ← field.read record (c :: rest)
          readPositions false fields record rest
        else if c == ',' then do
          let (record, rest) ← field.read record rest
          readPositions false fields record rest
        else faultAt rest .unexpected

def readMember (fields : List (RecordField α)) (name : String) (record : α) : Reader α :=
  fun cs =>
    match fields.find? (·.name == name) with
    | some field => field.read record cs
    | none => (skip cs).map fun rest => (record, rest)

/-- Read the fields of an object; the text starts at a name, and `left` holds the fields
that have not come yet out of `fields`. -/
def readNames (fields left : List (RecordField α)) : Nat → α → Reader α
  | 0, _, cs => faultAt cs .endOfText
  | fuel + 1, record, cs => do
    match skipSpace cs with
    | '"' :: rest =>
      let (name, rest) ← readString [] rest
      if fields.any (·.name == name) && !left.any (·.name == name) then
        faultAt rest .repeatedField
      else
        match skipSpace rest with
        | ':' :: rest =>
          let (record, rest) ← readMember fields name record rest
          match skipSpace rest with
          | ',' :: rest => readNames fields (left.filter (·.name != name)) fuel record rest
          | '\x7d' :: rest => return (record, rest)
          | rest => faultAt rest .unexpected
        | rest => faultAt rest .unexpected
    | rest => faultAt rest .unexpected

/-- Read a record that starts out as `record`. -/
def readRecord (fields : List (RecordField α)) (record : α) : Reader α := fun cs =>
  match skipSpace cs with
  | '[' :: rest => readPositions true fields record rest
  | '\x7b' :: rest =>
    match skipSpace rest with
    | '\x7d' :: rest => .ok (record, rest)
    | rest => readNames fields fields (rest.length + 1) record rest
  | rest => faultAt rest .unexpected

/-- A field that holds a truth value. -/
def flagField (name : String) (set : α → Bool → α) : RecordField α :=
  ⟨name, fun record cs => do
    let (b, rest) ← readFlag cs
    return (set record b, rest)⟩

def textField (name : String) (set : α → String → α) : RecordField α :=
  ⟨name, fun record cs => do
    let (s, rest) ← readText cs
    return (set record s, rest)⟩

end

end RestDispatch.Json
