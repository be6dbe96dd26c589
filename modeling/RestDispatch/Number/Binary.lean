/-!
# Binary floating point

Numbers of the two binary interchange formats, kept as their bit patterns.  A finite
pattern stands for an integer times a power of two, so rounding, comparison and the two
operations that reading a decimal needs are exact integer arithmetic followed by one
rounding to the nearest pattern, halves going to the even neighbour.
-/

namespace RestDispatch

/-- A binary interchange format: significant bits, the hidden one included, and the
width of the exponent field. -/
structure BinaryFormat where
  precision : Nat
  exponentBits : Nat
  deriving DecidableEq, Repr

namespace BinaryFormat

/-- Eight bytes, 53 significant bits. -/
def double : BinaryFormat := ⟨53, 11⟩

/-- Four bytes, 24 significant bits. -/
def single : BinaryFormat := ⟨24, 8⟩

/-- The weight of the lowest exponent-field bit. -/
def fieldUnit (f : BinaryFormat) : Nat := Nat.pow 2 (f.precision - 1)

/-- The exponent field of infinities and NaNs. -/
def topField (f : BinaryFormat) : Nat := Nat.pow 2 f.exponentBits - 1

/-- The weight of the sign bit. -/
def signUnit (f : BinaryFormat) : Nat := Nat.pow 2 (f.precision - 1 + f.exponentBits)

/-- The pattern of positive infinity; a larger one without sign is a NaN. -/
def infinityBits (f : BinaryFormat) : Nat := f.topField * f.fieldUnit

def leastExponent (f : BinaryFormat) : Int :=
  3 - (Nat.pow 2 (f.exponentBits - 1) : Nat) - f.precision

end BinaryFormat

/-- A number of format `f`, given by its bit pattern. -/
structure Binary (f : BinaryFormat) where
  bits : Nat
  deriving DecidableEq, Repr

/-- The numbers that values and documents carry. -/
abbrev Double := Binary .double

abbrev Single := Binary .single

/-- What a bit pattern stands for. -/
inductive Reading
  | nan
  | infinite (negative : Bool)
  /-- The number `m * 2 ^ e`, negated when `negative`. -/
  | finite (negative : Bool) (m : Nat) (e : Int)
  deriving DecidableEq, Repr

namespace Binary

variable {f : BinaryFormat}

/-- The pattern without its sign bit. -/
def magnitude (x : Binary f) : Nat := x.bits % f.signUnit

/-- Whether the sign bit is set. -/
def isNegative (x : Binary f) : Bool := f.signUnit ≤ x.bits

/-- Whether the pattern is a NaN. -/
def isNaN (x : Binary f) : Bool := f.infinityBits < x.magnitude

def isInfinite (x : Binary f) : Bool := x.magnitude == f.infinityBits

def isFinite (x : Binary f) : Bool := x.magnitude < f.infinityBits

def withSign (negative : Bool) (magnitude : Nat) : Binary f :=
  ⟨if negative then f.signUnit + magnitude else magnitude⟩

def zero : Binary f := ⟨0⟩

def infinity (negative : Bool) : Binary f := withSign negative f.infinityBits

/-- The quiet NaN without payload. -/
def nan : Binary f := ⟨f.infinityBits + f.fieldUnit / 2⟩

/-- Change the sign. -/
def negate (x : Binary f) : Binary f := withSign (!x.isNegative) x.magnitude

/-- Take a pattern apart. -/
def reading (x : Binary f) : Reading :=
  let field := x.magnitude / f.fieldUnit
  let fraction := x.magnitude % f.fieldUnit
  if x.isNaN then .nan
  else if field = f.topField then .infinite x.isNegative
  else if field = 0 then .finite x.isNegative fraction f.leastExponent
  else .finite x.isNegative (fraction + f.fieldUnit) (f.leastExponent + (field - 1 : Nat))

/-- The quotient rounded to the nearest integer, a half to the even neighbour. -/
def roundHalfEven (num den : Nat) : Nat :=
  let q := num / den
  let r := num % den
  if 2 * r < den then q
  else if den < 2 * r then q + 1
  else if q % 2 = 0 then q else q + 1

/-- The greatest `e` with `2 ^ e ≤ num / den`, for a positive quotient. -/
def floorLog (num den : Nat) : Int :=
  let guess : Int := (num.log2 : Int) - den.log2
  let reached : Bool :=
    if 0 ≤ guess then den * Nat.pow 2 guess.toNat ≤ num else den ≤ num * Nat.pow 2 (-guess).toNat
  if reached then guess else guess - 1

/-- The number nearest to `num / den`, negated when `negative`.  The exponent field and
the fraction are one integer, so a fraction that rounds up to the next power of two
carries into the field, and past the last field lies infinity. -/
def ofRatio (negative : Bool) (num den : Nat) : Binary f :=
  if num = 0 then withSign negative 0
  else
    let unit : Int := max (floorLog num den - (f.precision - 1 : Nat)) f.leastExponent
    let m :=
      if 0 ≤ unit then roundHalfEven num (den * Nat.pow 2 unit.toNat)
      else roundHalfEven (num * Nat.pow 2 (-unit).toNat) den
    let bits := (unit - f.leastExponent).toNat * f.fieldUnit + m
    withSign negative (min bits f.infinityBits)

/-- The number nearest to `m * 2 ^ e`. -/
def ofScaled (negative : Bool) (m : Nat) (e : Int) : Binary f :=
  if 0 ≤ e then ofRatio negative (m * Nat.pow 2 e.toNat) 1
  else ofRatio negative m (Nat.pow 2 (-e).toNat)

/-- The number nearest to an integer. -/
def ofInt (n : Int) : Binary f := ofRatio (n < 0) n.natAbs 1

def convert {g : BinaryFormat} (x : Binary f) : Binary g :=
  match x.reading with
  | .nan => nan
  | .infinite negative => infinity negative
  | .finite negative m e => ofScaled negative m e

/-- The product of two finite numbers, rounded. -/
def mul (x y : Binary f) : Binary f :=
  match x.reading, y.reading with
  | .finite a m e, .finite b n d => ofScaled (a != b) (m * n) (e + d)
  | _, _ => nan

/-- The quotient of two finite numbers, rounded; the divisor is not zero. -/
def div (x y : Binary f) : Binary f :=
  match x.reading, y.reading with
  | .finite a m e, .finite b n d =>
    let k := e - d
    if 0 ≤ k then ofRatio (a != b) (m * Nat.pow 2 k.toNat) n
    else ofRatio (a != b) m (n * Nat.pow 2 (-k).toNat)
  | _, _ => nan

/-- The place of a number in the order of numbers: both zeros are at 0, a NaN nowhere. -/
def place? (x : Binary f) : Option Int :=
  if x.isNaN then none
  else some (if x.isNegative then -(x.magnitude : Int) else x.magnitude)

/-- `x < y`; false when either side is a NaN. -/
def lt (x y : Binary f) : Bool :=
  match x.place?, y.place? with
  | some a, some b => a < b
  | _, _ => false

/-- `x ≤ y`; false when either side is a NaN. -/
def le (x y : Binary f) : Bool :=
  match x.place?, y.place? with
  | some a, some b => a ≤ b
  | _, _ => false

/-- Numerical equality: the zeros are equal, a NaN equals nothing. -/
def same (x y : Binary f) : Bool :=
  match x.place?, y.place? with
  | some a, some b => a == b
  | _, _ => false

/-- Replace numbers outside the interval from `low` to `high` by its nearer end; a NaN
stays. -/
def clamp (x low high : Binary f) : Binary f :=
  let x := if x.lt low then low else x
  if high.lt x then high else x

end Binary

end RestDispatch
