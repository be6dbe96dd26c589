import RestDispatch.Number.Binary

/-!
# Shortest decimal texts

The decimal text of a floating-point number has the fewest digits that read back to the
same number, and of those the nearest to it.  The search runs over decimal grids of one,
two and more digits in exact integer arithmetic; only the number's two neighbours on a
grid can lie inside the interval of reals that round to it.  How the digits are laid out
(where an exponent appears, what follows an integral value) is a record of its own.
-/

namespace RestDispatch.Number

def digits (n : Nat) : List Char := Nat.toDigits 10 n

def integerText (n : Int) : String :=
  String.ofList (if n < 0 then '-' :: digits n.natAbs else digits n.natAbs)

/-- The exponent of the leading decimal digit of `num / den`, for quotients above
`10 ^ -400`. -/
def leadingExponent (num den : Nat) : Int :=
  ((digits (num * Nat.pow 10 400 / den)).length : Int) - 401

/-- A decimal number `digits * 10 ^ exponent`. -/
structure Decimal where
  digits : Nat
  exponent : Int
  deriving DecidableEq, Repr

/-- The interval of reals that round to `m * 2 ^ e`, with the unit `2 ^ (e - 2)`: the
number is at `4 * m`, the ends belong to the interval when `m` is even, and below a power
of two the lower half is half as wide. -/
structure Interval where
  low : Nat
  center : Nat
  high : Nat
  closed : Bool

/-- The interval around `m * 2 ^ e` in format `f`. -/
def interval (f : BinaryFormat) (m : Nat) (e : Int) : Interval where
  low := if m = f.fieldUnit ∧ f.leastExponent < e then 4 * m - 1 else 4 * m - 2
  center := 4 * m
  high := 4 * m + 2
  closed := m % 2 = 0

/-- Whether the real `num / den` lies in an interval whose unit is one. -/
def Interval.contains (i : Interval) (num den : Nat) : Bool :=
  if i.closed then i.low * den ≤ num && num ≤ i.high * den
  else i.low * den < num && num < i.high * den

/-- The neighbours of the number on the grid `10 ^ g`; the one to take, if any lies in
the interval.  `scaleNum / scaleDen` is `10 ^ g` in units of the interval. -/
def candidate (i : Interval) (tieUp : Bool) (scaleNum scaleDen : Nat) : Option Nat :=
  let below := i.center * scaleDen / scaleNum
  let inBelow := below != 0 && i.contains (below * scaleNum) scaleDen
  let inAbove := i.contains ((below + 1) * scaleNum) scaleDen
  match inBelow, inAbove with
  | true, false => some below
  | false, true => some (below + 1)
  | false, false => none
  | true, true =>
    let twice := 2 * i.center * scaleDen
    let middle := (2 * below + 1) * scaleNum
    if twice < middle then some below
    else if middle < twice then some (below + 1)
    else if tieUp || below % 2 = 1 then some (below + 1)
    else some below

/-- Search the grids with `count`, `count + 1`, … digits. -/
def searchGrids (i : Interval) (tieUp : Bool) (unit lead : Int) : Nat → Nat → Option Decimal
  | 0, _ => none
  | fuel + 1, count =>
    let g : Int := lead + 1 - count
    let binary : Int := -unit
    let scaleNum := Nat.pow 10 g.toNat * Nat.pow 2 binary.toNat
    let scaleDen := Nat.pow 10 (-g).toNat * Nat.pow 2 (-binary).toNat
    match candidate i tieUp scaleNum scaleDen with
    | some d => some (if d % 10 = 0 then ⟨d / 10, g + 1⟩ else ⟨d, g⟩)
    | none => searchGrids i tieUp unit lead fuel (count + 1)

/-- The shortest decimal that rounds to `m * 2 ^ e`, for positive `m`. -/
def shortest (f : BinaryFormat) (tieUp : Bool) (m : Nat) (e : Int) : Decimal :=
  let lead := leadingExponent (m * Nat.pow 2 e.toNat) (Nat.pow 2 (-e).toNat)
  (searchGrids (interval f m e) tieUp (e - 2) lead 20 1).getD ⟨0, 0⟩

/-- The decisions of a text form of numbers. -/
structure Layout where
  positionalFrom : Option Int
  positionalTo : Option Int
  /-- Whether an integral value written without exponent ends in `.0`. -/
  pointZero : Bool
  /-- Whether an exponent that is not negative carries a `+`. -/
  plusSign : Bool
  /-- Whether of two equally near candidates the greater is taken, or the even one. -/
  tieUp : Bool

/-- The digits with the point `shift` places from their right end. -/
def positional (layout : Layout) (ds : List Char) (shift : Int) : List Char :=
  let tail := if layout.pointZero then ['.', '0'] else []
  if 0 ≤ shift then ds ++ List.replicate shift.toNat '0' ++ tail
  else
    let places := (-shift).toNat
    if places < ds.length then
      ds.take (ds.length - places) ++ '.' :: ds.drop (ds.length - places)
    else '0' :: '.' :: List.replicate (places - ds.length) '0' ++ ds

/-- One digit, a point and the others, and an exponent. -/
def scientific (layout : Layout) (ds : List Char) (lead : Int) : List Char :=
  let fraction := ds.drop 1
  let mantissa := ds.take 1 ++ if fraction.isEmpty then [] else '.' :: fraction
  let sign := if lead < 0 then ['-'] else if layout.plusSign then ['+'] else []
  mantissa ++ 'e' :: sign ++ digits lead.natAbs

/-- The text of a decimal whose digits do not end in zero. -/
def Decimal.text (layout : Layout) (d : Decimal) : List Char :=
  let ds := Number.digits d.digits
  let lead : Int := d.exponent + ds.length - 1
  if layout.positionalFrom.all (· ≤ lead) && layout.positionalTo.all (lead ≤ ·) then
    positional layout ds d.exponent
  else scientific layout ds lead

def text (layout : Layout) {f : BinaryFormat} (x : Binary f) : String :=
  match x.reading with
  | .nan => "NaN"
  | .infinite negative => if negative then "-inf" else "inf"
  | .finite negative m e =>
    let body :=
      if m = 0 then if layout.pointZero then ['0', '.', '0'] else ['0']
      else (shortest f layout.tieUp m e).text layout
    String.ofList (if negative then '-' :: body else body)

end RestDispatch.Number
