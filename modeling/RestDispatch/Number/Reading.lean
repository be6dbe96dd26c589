import RestDispatch.Text.Basic
import RestDispatch.Number.Binary

/-!
# Reading numbers

Integers are read digit by digit and stay inside the bounds of their target at every
step, so the first digit that leaves them is what a failure reports.  Floating-point
numbers are an optional sign and either `inf`, `infinity` or `nan` in any case, or
decimal digits with at most one point and an optional exponent; the nearest number of
the format is taken in one rounding.
-/

namespace RestDispatch

/-- An integer type: its name, its least and its greatest value. -/
structure IntegerRange where
  least : Int
  greatest : Int
  deriving DecidableEq, Repr

/-- Why a text is not an integer of a range. -/
inductive IntegerFault
  | empty
  | invalidDigit
  | tooLarge
  | tooSmall
  deriving DecidableEq, Repr

/-- The sentence that reports a fault. -/
def IntegerFault.message : IntegerFault → String
  | .empty => "cannot parse integer from empty string"
  | .invalidDigit => "invalid digit found in string"
  | .tooLarge => "number too large to fit in target type"
  | .tooSmall => "number too small to fit in target type"

namespace IntegerRange

/-- Whether an integer lies between the bounds. -/
def contains (r : IntegerRange) (n : Int) : Bool := r.least ≤ n && n ≤ r.greatest

/-- Whether the range has negative members; only then a text may begin with `-`. -/
def isSigned (r : IntegerRange) : Bool := r.least < 0

def readDigits (r : IntegerRange) (negative : Bool) (value : Int) :
    List Char → Except IntegerFault Int
  | [] => .ok value
  | c :: cs =>
    if c.isDigit then
      let digit : Int := (c.toNat - '0'.toNat : Nat)
      let value := if negative then value * 10 - digit else value * 10 + digit
      if r.greatest < value then .error .tooLarge
      else if value < r.least then .error .tooSmall
      else readDigits r negative value cs
    else .error .invalidDigit

/-- Read an integer: an optional sign and at least one digit. -/
def read (r : IntegerRange) : List Char → Except IntegerFault Int
  | [] => .error .empty
  | ['+'] => .error .invalidDigit
  | ['-'] => .error .invalidDigit
  | '+' :: cs => readDigits r false 0 cs
  | '-' :: cs => if r.isSigned then readDigits r true 0 cs else .error .invalidDigit
  | cs => readDigits r false 0 cs

end IntegerRange

namespace Number

/-- A run of decimal digits read into `value`; `count` digits so far. -/
def takeDigits (value count : Nat) : List Char → Nat × Nat × List Char
  | [] => (value, count, [])
  | c :: cs =>
    if c.isDigit then takeDigits (value * 10 + (c.toNat - '0'.toNat)) (count + 1) cs
    else (value, count, c :: cs)

/-- The number nearest to `m * 10 ^ e`.  Far outside the range of both formats the
answer is zero or infinity, and the power is not computed. -/
def ofDecimal {f : BinaryFormat} (negative : Bool) (m : Nat) (e : Int) : Binary f :=
  if m = 0 then Binary.withSign negative 0
  else if 310 < e + (m.log2 * 3 / 10 : Nat) then Binary.infinity negative
  else if e + (m.log2 / 3 + 1 : Nat) < -330 then Binary.withSign negative 0
  else if 0 ≤ e then Binary.ofRatio negative (m * Nat.pow 10 e.toNat) 1
  else Binary.ofRatio negative m (Nat.pow 10 (-e).toNat)

/-- A decimal exponent: nothing, or `e` with an optional sign and digits to the end. -/
def readExponent : List Char → Option Int
  | [] => some 0
  | c :: cs =>
    if c = 'e' || c = 'E' then
      let (negative, cs) :=
        match cs with
        | '+' :: cs => (false, cs)
        | '-' :: cs => (true, cs)
        | cs => (false, cs)
      match takeDigits 0 0 cs with
      | (value, _ + 1, []) => some (if negative then -(value : Int) else value)
      | _ => none
    else none

/-- An unsigned number: `inf`, `infinity`, `nan`, or digits around at most one point. -/
def readUnsigned {f : BinaryFormat} (negative : Bool) (cs : List Char) : Option (Binary f) :=
  let word := String.ofList (cs.map Char.toLower)
  if word = "inf" || word = "infinity" then some (Binary.infinity negative)
  else if word = "nan" then some (if negative then Binary.nan.negate else Binary.nan)
  else
    let (whole, wholeCount, rest) := takeDigits 0 0 cs
    let (m, fractionCount, rest) :=
      match rest with
      | '.' :: rest => takeDigits whole 0 rest
      | rest => (whole, 0, rest)
    if wholeCount + fractionCount = 0 then none
    else (readExponent rest).map fun e => ofDecimal negative m (e - fractionCount)

def readBinary {f : BinaryFormat} : List Char → Option (Binary f)
  | '+' :: cs => readUnsigned false cs
  | '-' :: cs => readUnsigned true cs
  | cs => readUnsigned false cs

end Number

end RestDispatch
