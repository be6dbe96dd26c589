import RestDispatch.Text.Basic

/-!
# Sets of characters

A set of code points is an increasing list of bounds at which membership changes, the
first bound being the first member.  A code point is a member when an odd number of
bounds does not exceed it.  Two sets are combined by walking through both lists of bounds
together, with a bound of the result wherever the combined membership changes.
-/

namespace RestDispatch.Text

/-- A set of code points, given by the places where membership begins and ends. -/
structure CharRanges where
  bounds : Array Nat
  deriving DecidableEq, Repr

/-- How many of the bounds from `low` up to `low + span` do not exceed `n`, by
halving. -/
def CharRanges.countBelow (s : CharRanges) (n : Nat) : Nat → Nat → Nat → Nat
  | 0, low, _ => low
  | fuel + 1, low, high =>
    if low < high then
      let middle := (low + high) / 2
      if h : middle < s.bounds.size then
        if s.bounds[middle] ≤ n then s.countBelow n fuel (middle + 1) high
        else s.countBelow n fuel low middle
      else low
    else low

/-- Whether a character belongs to the set. -/
def CharRanges.contains (s : CharRanges) (c : Char) : Bool :=
  s.countBelow c.toNat 32 0 s.bounds.size % 2 == 1

/-- Put a bound in front of others if membership changes there. -/
def boundIf (changes : Bool) (bound : Nat) (bounds : List Nat) : List Nat :=
  if changes then bound :: bounds else bounds

/-- The bounds of the code points where `f` holds of the memberships in two sets; `a` and
`b` are the memberships in front of the bounds that are left, of which there are at most
as many as the first argument. -/
def mergeBounds (f : Bool → Bool → Bool) : Nat → Bool → Bool → List Nat → List Nat → List Nat
  | 0, _, _, _, _ => []
  | _, _, _, [], [] => []
  | n + 1, a, b, x :: xs, [] => boundIf (f a b != f (!a) b) x (mergeBounds f n (!a) b xs [])
  | n + 1, a, b, [], y :: ys => boundIf (f a b != f a (!b)) y (mergeBounds f n a (!b) [] ys)
  | n + 1, a, b, x :: xs, y :: ys =>
    if x < y then boundIf (f a b != f (!a) b) x (mergeBounds f n (!a) b xs (y :: ys))
    else if y < x then boundIf (f a b != f a (!b)) y (mergeBounds f n a (!b) (x :: xs) ys)
    else boundIf (f a b != f (!a) (!b)) x (mergeBounds f n (!a) (!b) xs ys)

namespace CharRanges

/-- The code points where `f` holds of the memberships in two sets; `f` fails where both
fail. -/
def combine (f : Bool → Bool → Bool) (s t : CharRanges) : CharRanges where
  bounds := (mergeBounds f (s.bounds.size + t.bounds.size) false false s.bounds.toList
    t.bounds.toList).toArray

instance : EmptyCollection CharRanges := ⟨⟨#[]⟩⟩

instance : Union CharRanges := ⟨combine (· || ·)⟩

instance : Inter CharRanges := ⟨combine (· && ·)⟩

instance : SDiff CharRanges := ⟨combine (· && !·)⟩

def unions (sets : List CharRanges) : CharRanges := sets.foldl (· ∪ ·) ∅

/-- The code points of exactly one of two sets. -/
def symmDiff (s t : CharRanges) : CharRanges := combine (· != ·) s t

/-- The set of the code points from `first` to `last`. -/
def interval (first last : Nat) : CharRanges := ⟨#[first, last + 1]⟩

def single (c : Char) : CharRanges := interval c.toNat c.toNat

/-- All code points. -/
def all : CharRanges := interval 0 0x10FFFF

/-- The code points outside a set. -/
def compl (s : CharRanges) : CharRanges := all \ s

/-- Pair the bounds where intervals begin with those where they end, the last interval going
on to the last code point. -/
def pairBounds : List Nat → List (Nat × Nat)
  | [] => []
  | [first] => [(first, 0x10FFFF)]
  | first :: stop :: bounds => (first, stop - 1) :: pairBounds bounds

/-- The first and last code points of the intervals of a set. -/
def intervals (s : CharRanges) : List (Nat × Nat) := pairBounds s.bounds.toList

/-- The code points of a set in increasing order. -/
def members (s : CharRanges) : List Nat :=
  s.intervals.flatMap fun (first, last) => List.range' first (last + 1 - first)

end CharRanges

def decimal (digits : List Char) : Nat :=
  digits.foldl (fun n c => n * 10 + (c.toNat - '0'.toNat)) 0

/-- The sums of the first one, two, three and more numbers, added to `start`. -/
def partialSums (start : Nat) : List Nat → List Nat
  | [] => []
  | n :: ns => (start + n) :: partialSums (start + n) ns

/-- The parts of a text between its blanks. -/
def words (cs : List Char) : List (List Char) :=
  (cs.splitBy fun a b => isBlank a == isBlank b).filter fun part => !part.any isBlank

/-- The set that a text lists by distances in decimal digits with blanks between: how many
code points to leave out, how many to take, how many to leave out again, and so on. -/
def CharRanges.ofText (text : String) : CharRanges where
  bounds := (partialSums 0 ((words text.toList).map decimal)).toArray

/-- The bounds of the numbers in an increasing list; `stop` is the bound behind the numbers
in front. -/
def boundsOfSorted (stop : Option Nat) : List Nat → List Nat
  | [] => stop.toList
  | n :: ns =>
    if stop = some n ∨ stop = some (n + 1) then boundsOfSorted (some (n + 1)) ns
    else stop.toList ++ n :: boundsOfSorted (some (n + 1)) ns

/-- The set of some code points. -/
def CharRanges.ofMembers (members : List Nat) : CharRanges where
  bounds := (boundsOfSorted none (members.mergeSort (· ≤ ·))).toArray

end RestDispatch.Text
