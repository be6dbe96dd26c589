import RestDispatch.Json.Document
import RestDispatch.Number.Reading

/-!
# Reading JSON

A document nests at most 127 arrays and objects, so reading recurses on the number of
levels left, and inside one array or object on the number of characters.  A number keeps
as many leading digits as fit 64 bits; a number that is not such an integer is that
integer, as a double, times or divided by a power of ten, which rounds twice.  A fault
tells how many characters were left unread, which gives its line and column.
-/

namespace RestDispatch.Json

/-- Why a text is not a JSON document. -/
inductive Fault
  | endOfText
  | unexpected
  | malformedNumber
  | numberOutOfRange
  | malformedString
  | tooDeep
  | repeatedField
  | trailing
  deriving DecidableEq, Repr

/-- What a message says of a fault.  The words are this library's own: which texts are
refused, and where, is that of the JSON reader in use, its wording of the reason is not. -/
def Fault.words : Fault → String
  | .endOfText => "unexpected end of document"
  | .unexpected => "unexpected character"
  | .malformedNumber => "malformed number"
  | .numberOutOfRange => "number out of range"
  | .malformedString => "malformed string"
  | .tooDeep => "too many nested arrays and objects"
  | .repeatedField => "repeated field"
  | .trailing => "trailing characters"

/-- A fault and how many characters follow it. -/
structure SyntaxError where
  fault : Fault
  remaining : Nat
  deriving DecidableEq, Repr

/-- Text left to read. -/
abbrev Rest := List Char

/-- What a reader returns: a result and the unread text, or a fault. -/
abbrev Reader (α : Type) := Rest → Except SyntaxError (α × Rest)

def faultAt {α : Type} (rest : Rest) (fault : Fault) : Except SyntaxError α :=
  .error ⟨fault, rest.length⟩

/-- Space, tab, line feed and carriage return. -/
def isSpace (c : Char) : Bool := c == ' ' || c == '\n' || c == '\t' || c == '\r'

def skipSpace (cs : Rest) : Rest := cs.dropWhile isSpace

/-- The value of a hexadecimal digit. -/
def hexValue (c : Char) : Option Nat :=
  if '0' ≤ c && c ≤ '9' then some (c.toNat - '0'.toNat)
  else if 'a' ≤ c && c ≤ 'f' then some (c.toNat - 'a'.toNat + 10)
  else if 'A' ≤ c && c ≤ 'F' then some (c.toNat - 'A'.toNat + 10)
  else none

/-- The unit of four hexadecimal digits. -/
def hexUnit (a b c d : Char) : Option Nat := do
  return ((← hexValue a) * 16 + (← hexValue b)) * 256 + (← hexValue c) * 16 + (← hexValue d)

def simpleEscape : Char → Option Char
  | '"' => some '"'
  | '\\' => some '\\'
  | '/' => some '/'
  | 'b' => some '\x08'
  | 'f' => some '\x0c'
  | 'n' => some '\n'
  | 'r' => some '\r'
  | 't' => some '\t'
  | _ => none

def isHighSurrogate (n : Nat) : Bool := 0xD800 ≤ n && n ≤ 0xDBFF

def isLowSurrogate (n : Nat) : Bool := 0xDC00 ≤ n && n ≤ 0xDFFF

/-- Read a string behind its opening quotation mark; `acc` holds its characters so far,
last first. -/
def readString (acc : List Char) : Reader String
  | [] => faultAt [] .endOfText
  | '"' :: rest => .ok (String.ofList acc.reverse, rest)
  | '\\' :: 'u' :: a :: b :: c :: d :: rest =>
    match hexUnit a b c d with
    | none => faultAt rest .malformedString
    | some n =>
      if isLowSurrogate n then faultAt rest .malformedString
      else if isHighSurrogate n then
        match rest with
        | '\\' :: 'u' :: e :: f :: g :: h :: rest' =>
          match hexUnit e f g h with
          | some m =>
            if isLowSurrogate m then
              readString (Char.ofNat (0x10000 + (n - 0xD800) * 1024 + (m - 0xDC00)) :: acc) rest'
            else faultAt rest .malformedString
          | none => faultAt rest .malformedString
        | _ => faultAt rest .malformedString
      else readString (Char.ofNat n :: acc) rest
  | '\\' :: c :: rest =>
    match simpleEscape c with
    | some e => readString (e :: acc) rest
    | none => faultAt rest .malformedString
  | c :: rest =>
    if c.toNat < 0x20 || c == '\\' then faultAt rest .malformedString
    else readString (c :: acc) rest

/-- The greatest integer a number's digits are collected into. -/
def digitLimit : Nat := Nat.pow 2 64 - 1

def digitValue (c : Char) : Nat := c.toNat - '0'.toNat

/-- Collect digits while the number they form stays within the limit. -/
def collectDigits (m count : Nat) : Rest → Nat × Nat × Rest
  | [] => (m, count, [])
  | c :: rest =>
    if c.isDigit && m * 10 + digitValue c ≤ digitLimit then
      collectDigits (m * 10 + digitValue c) (count + 1) rest
    else (m, count, c :: rest)

/-- How many digits stand in front, and what follows them. -/
def countDigits (cs : Rest) : Nat × Rest :=
  ((cs.takeWhile Char.isDigit).length, cs.dropWhile Char.isDigit)

/-- `x` divided by `10 ^ n`.  Past the greatest power of ten the quotient is taken in
steps, the second of which reaches zero for every number below `2 ^ 64`. -/
def divideByPower (x : Double) (n : Nat) : Double :=
  if n ≤ 308 then x.div (Number.ofDecimal false 1 n)
  else
    let x := x.div (Number.ofDecimal false 1 308)
    if n - 308 ≤ 308 then x.div (Number.ofDecimal false 1 (n - 308 : Nat)) else Binary.zero

/-- The double `m * 10 ^ e`, or none when it is too large. -/
def scale (negative : Bool) (m : Nat) (e : Int) : Option Double :=
  let x : Double := Binary.ofInt m
  let scaled : Option Double :=
    if m = 0 then some x
    else if 308 < e then none
    else if 0 ≤ e then
      let y := x.mul (Number.ofDecimal false 1 e)
      if y.isInfinite then none else some y
    else some (divideByPower x (-e).toNat)
  scaled.map fun y => if negative then y.negate else y

/-- The exponents that fit 32 bits; beyond, a number is zero or out of range. -/
def exponentLimit : Nat := Nat.pow 2 31 - 1

def finishNumber (negative : Bool) (m : Nat) (e : Int) (rest : Rest) :
    Except SyntaxError (Json × Rest) :=
  match scale negative m e with
  | some x => .ok (.number x, rest)
  | none => faultAt rest .numberOutOfRange

/-- Read an exponent behind its letter and finish the number. -/
def readExponent (negative : Bool) (m : Nat) (e : Int) (cs : Rest) :
    Except SyntaxError (Json × Rest) :=
  let (down, cs) : Bool × Rest :=
    match cs with
    | '+' :: cs => (false, cs)
    | '-' :: cs => (true, cs)
    | cs => (false, cs)
  let (value, count, rest) := Number.takeDigits 0 0 cs
  if count = 0 then faultAt cs .malformedNumber
  else if exponentLimit < value then
    if m != 0 && !down then faultAt rest .numberOutOfRange
    else .ok (.number (Binary.withSign negative 0), rest)
  else finishNumber negative m (if down then e - value else e + value) rest

/-- Read an exponent if there is one and finish the number. -/
def readTail (negative : Bool) (m : Nat) (e : Int) : Reader Json
  | 'e' :: cs => readExponent negative m e cs
  | 'E' :: cs => readExponent negative m e cs
  | cs => finishNumber negative m e cs

/-- Read the digits behind a decimal point; those beyond the limit do not count. -/
def readFraction (negative : Bool) (m : Nat) (e : Int) (cs : Rest) :
    Except SyntaxError (Json × Rest) :=
  let (m, count, rest) := collectDigits m 0 cs
  let (skipped, rest) := countDigits rest
  if count + skipped = 0 then faultAt rest .malformedNumber
  else readTail negative m (e - count) rest

/-- Read what follows the whole part `m` of a number, `skipped` digits of which did not
count. -/
def readNumberTail (negative : Bool) (m skipped : Nat) : Reader Json
  | '.' :: cs => readFraction negative m skipped cs
  | cs =>
    let isInteger : Bool :=
      skipped == 0 && cs.head?.all (fun c => c != 'e' && c != 'E') &&
        (!negative || (m != 0 && m ≤ Nat.pow 2 63))
    if isInteger then .ok (.integer (if negative then -(m : Int) else m), cs)
    else readTail negative m skipped cs

def readNumber (negative : Bool) : Reader Json
  | [] => faultAt [] .endOfText
  | '0' :: cs =>
    if cs.head?.any Char.isDigit then faultAt cs .malformedNumber
    else readNumberTail negative 0 0 cs
  | c :: cs =>
    if c.isDigit then
      let (m, _, rest) := collectDigits 0 0 (c :: cs)
      let (skipped, rest) := countDigits rest
      readNumberTail negative m skipped rest
    else faultAt cs .malformedNumber

/-- Read the items of an array; the text starts at an item. -/
def readItems (value : Reader Json) (acc : List Json) : Nat → Reader Json
  | 0, cs => faultAt cs .endOfText
  | fuel + 1, cs => do
    let (item, cs) ← value cs
    match skipSpace cs with
    | ',' :: cs => readItems value (item :: acc) fuel cs
    | ']' :: cs => return (.array (item :: acc).reverse, cs)
    | [] => faultAt [] .endOfText
    | cs => faultAt cs .unexpected

/-- Read the fields of an object; the text starts at a name. -/
def readFields (value : Reader Json) (acc : Dictionary Json) : Nat → Reader Json
  | 0, cs => faultAt cs .endOfText
  | fuel + 1, cs => do
    match skipSpace cs with
    | '"' :: cs =>
      let (name, cs) ← readString [] cs
      match skipSpace cs with
      | ':' :: cs =>
        let (item, cs) ← value cs
        let acc := acc.insert name item
        match skipSpace cs with
        | ',' :: cs => readFields value acc fuel cs
        | '\x7d' :: cs => return (.object acc, cs)
        | [] => faultAt [] .endOfText
        | cs => faultAt cs .unexpected
      | [] => faultAt [] .endOfText
      | cs => faultAt cs .unexpected
    | [] => faultAt [] .endOfText
    | cs => faultAt cs .unexpected

/-- Read one document with at most `depth` more levels of arrays and objects. -/
def readValue : Nat → Reader Json
  | depth, cs =>
    match skipSpace cs with
    | [] => faultAt [] .endOfText
    | 'n' :: 'u' :: 'l' :: 'l' :: rest => .ok (.null, rest)
    | 't' :: 'r' :: 'u' :: 'e' :: rest => .ok (.bool true, rest)
    | 'f' :: 'a' :: 'l' :: 's' :: 'e' :: rest => .ok (.bool false, rest)
    | '"' :: rest => do
      let (s, rest) ← readString [] rest
      return (.string s, rest)
    | '-' :: rest => readNumber true rest
    | '[' :: rest =>
      match depth with
      | 0 => faultAt rest .tooDeep
      | depth + 1 =>
        match skipSpace rest with
        | ']' :: rest => .ok (.array [], rest)
        | rest => readItems (readValue depth) [] (rest.length + 1) rest
    | '\x7b' :: rest =>
      match depth with
      | 0 => faultAt rest .tooDeep
      | depth + 1 =>
        match skipSpace rest with
        | '\x7d' :: rest => .ok (.object [], rest)
        | rest => readFields (readValue depth) [] (rest.length + 1) rest
    | c :: rest => if c.isDigit then readNumber false (c :: rest) else faultAt rest .unexpected

/-- How many arrays and objects may lie inside one another. -/
def maxDepth : Nat := 127

/-- Read a text that holds what a reader reads, white space and nothing else. -/
def parseWhole {α : Type} (read : Reader α) (cs : List Char) : Except SyntaxError α := do
  let (result, rest) ← read cs
  match skipSpace rest with
  | [] => return result
  | rest => faultAt rest .trailing

/-- Read a text that holds one document. -/
def parse (cs : List Char) : Except SyntaxError Json := parseWhole (readValue maxDepth) cs

/-- The fault with its line and column in a text. -/
def SyntaxError.message (e : SyntaxError) (text : List Char) : String :=
  let read := text.take (text.length - e.remaining)
  let column := (read.reverse.takeWhile (· != '\n')).length
  e.fault.words ++ " at line " ++ toString (read.count '\n' + 1) ++
    " column " ++ toString column

end RestDispatch.Json
