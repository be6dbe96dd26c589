import RestDispatch.Regex.Basic
import RestDispatch.Text.Utf8
import Std.Data.HashMap

/-!
# The size of a compiled expression

A regular expression is refused when the automaton made of it would take too much memory.
There are two automata, which read the bytes of a text forwards and backwards.  Every state
takes thirty-two bytes.  A state with several ways to go on takes four bytes more for each
of them, or eight where they depend on the byte that is read.  The forward automaton has two
more states for each group, and shares the states of a class that go on in the same way; the
backward automaton shares only what the encodings of a class begin with.
-/

namespace RestDispatch.Regex

abbrev ByteInterval := UInt8 × UInt8

/-- Where an interval of code points must be cut because the encodings of its members are
not the combinations of some intervals of bytes: between encodings of different lengths, and
where the higher bits change while the lower bits do not run through all values. -/
def cut? (first last : Nat) : Option Nat :=
  match [0x80, 0x800, 0x10000].find? fun n => first < n && n ≤ last with
  | some n => some n
  | none =>
    if last < 0x80 then none
    else
      [0x40, 0x1000, 0x40000].findSome? fun unit =>
        if first / unit = last / unit then none
        else if first % unit ≠ 0 then some ((first / unit + 1) * unit)
        else if (last + 1) % unit ≠ 0 then some (last / unit * unit)
        else none

/-- The encodings of the code points from `first` to `last`, as combinations of intervals of
bytes, cut at most as often as the first argument says. -/
def encodings : Nat → Nat → Nat → List (List ByteInterval)
  | 0, first, last =>
    [(Text.encodeChar (Char.ofNat first)).zip (Text.encodeChar (Char.ofNat last))]
  | fuel + 1, first, last =>
    match cut? first last with
    | some n => encodings fuel first (n - 1) ++ encodings fuel n last
    | none => [(Text.encodeChar (Char.ofNat first)).zip (Text.encodeChar (Char.ofNat last))]

def classEncodings (s : CharClass) : List (List ByteInterval) :=
  (s \ .interval 0xD800 0xDFFF : CharClass).intervals.flatMap fun (first, last) =>
    encodings 16 first last

/-- How many intervals of a list come behind what it has in common with another one. -/
def newIntervals : List ByteInterval → List ByteInterval → Nat
  | a :: as, b :: bs => if a == b then newIntervals as bs else (b :: bs).length
  | _, bs => bs.length

/-- The bytes of the backward states for some encodings, of which `last` is the one in
front. -/
def backwardBytes (last : List ByteInterval) : List (List ByteInterval) → Nat
  | [] => 64
  | e :: es => 4 + 32 * newIntervals last e + backwardBytes e es

/-- The states made so far, by what they read and where that leads, and their bytes. -/
structure SharedStates where
  numbers : Std.HashMap (List (ByteInterval × Nat)) Nat := ∅
  bytes : Nat := 32

/-- The state that reads the rest of one of some encodings, found or made; state zero is
behind all of them.  An encoding has at most as many bytes as the first argument. -/
def sharedState : Nat → List (List ByteInterval) → StateM SharedStates Nat
  | 0, _ => pure 0
  | fuel + 1, encodings => do
    if encodings.all List.isEmpty then return 0
    let groups := encodings.splitBy fun a b => a.head? == b.head?
    let ways ← groups.filterMapM fun group => do
      match group.head?.bind List.head? with
      | some interval => return some (interval, ← sharedState fuel (group.map List.tail))
      | none => return none
    let made ← get
    match made.numbers[ways]? with
    | some number => return number
    | none =>
      let number := made.numbers.size + 1
      set ({ numbers := made.numbers.insert ways number,
             bytes := made.bytes + 32 + 8 * ways.length } : SharedStates)
      return number

/-- The bytes of the states of a class in both directions. -/
def classBytes (s : CharClass) : Nat × Nat :=
  match s.intervals with
  | [(first, last)] =>
    if first = last then
      let size := 32 * (Text.encodeChar (Char.ofNat first)).length
      (size, size)
    else if last < 0x80 then (72, 72)
    else several s
  | intervals =>
    if intervals.all (·.2 < 0x80) then
      let size := 64 + 8 * intervals.length
      (size, size)
    else several s
where
  several (s : CharClass) : Nat × Nat :=
    let encodings := classEncodings s
    (((sharedState 5 encodings).run {}).2.bytes, backwardBytes [] encodings)

/-- The bytes of the states of a repetition, where those of what is repeated take `size`
bytes; `matchesEmpty` tells whether that may match the empty text. -/
def repeatedBytes (size : Nat) (matchesEmpty : Bool) (least : Nat) : Option Nat → Nat
  | none =>
    if 0 < least then least * size + 40 else if matchesEmpty then size + 112 else size + 40
  | some most =>
    if most = least then least * size
    else if least = 0 ∧ most = 1 then size + 72
    else max 32 (least * size) + 32 + (most - least) * (size + 40)

/-- The bytes of the states of an expression, where `ofClass` tells those of a class and
`perGroup` those that a group adds.  An expression `among` others is one of several
alternatives, which take four bytes each and have their first and last state in common. -/
def stateBytes (ofClass : CharClass → Nat) (perGroup : Nat) (among : Bool) : Regex → Nat
  | .either a b =>
    (if among then 0 else 64) + a.stateBytes ofClass perGroup true +
      b.stateBytes ofClass perGroup true
  | .empty => (if among then 4 else 0) + 32
  | .look _ => (if among then 4 else 0) + 32
  | .char s => (if among then 4 else 0) + ofClass s
  | .seq a b =>
    (if among then 4 else 0) + a.stateBytes ofClass perGroup false +
      b.stateBytes ofClass perGroup false
  | .repeated a least most =>
    (if among then 4 else 0) +
      repeatedBytes (a.stateBytes ofClass perGroup false) a.matchesEmpty least most
  | .group a => (if among then 4 else 0) + perGroup + a.stateBytes ofClass perGroup false

/-- The bytes of the larger automaton of an expression.  Around it, the forward automaton
has a first and a last state and the two of the whole match, and the backward automaton a
first and a last state. -/
def compiledBytes (r : Regex) : Nat :=
  max (128 + r.stateBytes (fun s => (classBytes s).1) 64 false)
    (64 + r.stateBytes (fun s => (classBytes s).2) 0 false)

/-- The greatest size of an automaton in bytes. -/
def sizeLimit : Nat := 10 * Nat.pow 2 20

end RestDispatch.Regex
