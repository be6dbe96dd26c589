import RestDispatch.Regex.CharClass

/-!
# Regular expressions

A regular expression describes a set of texts.  A match is a step from one position in a
text to a later one, so an expression is a relation between positions, and matching
computes the image of a set of positions under it.  Positions count characters from the
start of the text.
-/

namespace RestDispatch

/-- A condition on a position that consumes nothing. -/
inductive Look
  | textStart
  | textEnd
  | lineStart
  | lineEnd
  /-- The same where a carriage return ends lines as well. -/
  | returnLineStart
  | returnLineEnd
  | wordEdge (word : CharClass)
  | noWordEdge (word : CharClass)
  | wordStart (word : CharClass)
  | wordEnd (word : CharClass)
  | noWordBefore (word : CharClass)
  | noWordAfter (word : CharClass)

/-- A regular expression. -/
inductive Regex
  | empty
  | look (l : Look)
  | char (s : CharClass)
  | seq (a b : Regex)
  | either (a b : Regex)
  /-- `a` at least `least` times and at most `most` times, or without a limit. -/
  | repeated (a : Regex) (least : Nat) (most : Option Nat)
  /-- `a` in parentheses that make it a part of its own of a match. -/
  | group (a : Regex)

/-- Whether a condition holds between two neighbours. -/
def Look.holds (before after : Option Char) : Look → Bool
  | .textStart => before.isNone
  | .textEnd => after.isNone
  | .lineStart => before.isNone || before == some '\n'
  | .lineEnd => after.isNone || after == some '\n'
  | .returnLineStart =>
    before.isNone || before == some '\n' || (before == some '\r' && after != some '\n')
  | .returnLineEnd =>
    after.isNone || after == some '\r' || (after == some '\n' && before != some '\r')
  | .wordEdge word => before.any word.contains != after.any word.contains
  | .noWordEdge word => before.any word.contains == after.any word.contains
  | .wordStart word => !before.any word.contains && after.any word.contains
  | .wordEnd word => before.any word.contains && !after.any word.contains
  | .noWordBefore word => !before.any word.contains
  | .noWordAfter word => !after.any word.contains

namespace Regex

/-- A set of positions, position `i` being a member when bit `i` is set. -/
abbrev Positions := Nat

/-- The positions below `n` that satisfy `p`. -/
def positions (p : Nat → Bool) : Nat → Positions
  | 0 => 0
  | n + 1 => positions p n ||| if p n then 1 <<< n else 0

/-- Apply `f` at most `n` times, and no further once nothing changes. -/
def iterate (f : Positions → Positions) : Nat → Positions → Positions
  | 0, ps => ps
  | n + 1, ps =>
    let next := f ps
    if next = ps then ps else iterate f n next

/-- The positions where a condition holds. -/
def lookPositions (l : Look) (text : Array Char) : Positions :=
  positions (fun i => l.holds (if i = 0 then none else text[i - 1]?) text[i]?)
    (text.size + 1)

def charPositions (s : CharClass) (text : Array Char) : Positions :=
  positions (fun i => text[i]?.any s.contains) text.size

/-- The positions behind the matches of an expression that begin at given positions.

A text of `n` characters has `n + 1` positions, so more than that many rounds of a
repetition reach nothing new. -/
def ends (text : Array Char) : Regex → Positions → Positions
  | .empty, ps => ps
  | .look l, ps => ps &&& lookPositions l text
  | .char s, ps => (ps &&& charPositions s text) <<< 1
  | .seq a b, ps => b.ends text (a.ends text ps)
  | .either a b, ps => a.ends text ps ||| b.ends text ps
  | .repeated a least most, ps =>
    let rounds := text.size + 1
    let start := iterate (a.ends text) (min least rounds) ps
    let extra :=
      match most with
      | none => rounds
      | some most => min (most - least) rounds
    iterate (fun ps => ps ||| a.ends text ps) extra start
  | .group a, ps => a.ends text ps

def matchesEmpty : Regex → Bool
  | .empty => true
  | .look _ => true
  | .char _ => false
  | .seq a b => a.matchesEmpty && b.matchesEmpty
  | .either a b => a.matchesEmpty || b.matchesEmpty
  | .repeated a least _ => least == 0 || a.matchesEmpty
  | .group a => a.matchesEmpty

def matchesOnlyEmpty : Regex → Bool
  | .empty => true
  | .look _ => true
  | .char _ => false
  | .seq a b => a.matchesOnlyEmpty && b.matchesOnlyEmpty
  | .either a b => a.matchesOnlyEmpty && b.matchesOnlyEmpty
  | .repeated a _ _ => a.matchesOnlyEmpty
  | .group a => a.matchesOnlyEmpty

/-! Expressions in their simplest form. -/

/-- One expression behind another. -/
def andThen (a b : Regex) : Regex :=
  match a, b with
  | .empty, b => b
  | a, .empty => a
  | a, b => .seq a b

/-- A repetition.  What matches only the empty text need not be repeated. -/
def times (a : Regex) (least : Nat) (most : Option Nat) : Regex :=
  let (least, most) :=
    if a.matchesOnlyEmpty then (min least 1, some (min (most.getD 1) 1)) else (least, most)
  match least, most with
  | 0, some 0 => .empty
  | 1, some 1 => a
  | least, most => .repeated a least most

def class? : Regex → Option CharClass
  | .char s => some s
  | _ => none

def isSingle (s : CharClass) : Bool :=
  match s.intervals with
  | [(first, last)] => first == last
  | _ => false

/-- Alternatives in order.  Single characters make one class together, and so do classes
of several characters. -/
def anyOf (alternatives : List Regex) : Regex :=
  let classes := alternatives.filterMap class?
  if classes.length = alternatives.length ∧ (classes.all isSingle ∨ !classes.any isSingle) then
    .char (.unions classes)
  else
    match alternatives with
    | [] => .empty
    | first :: others => others.foldl .either first

/-- Whether an expression matches some part of a text. -/
def isMatch (r : Regex) (s : String) : Bool :=
  let text := s.toList.toArray
  r.ends text (positions (fun _ => true) (text.size + 1)) != 0

end Regex

end RestDispatch
