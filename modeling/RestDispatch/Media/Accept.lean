import RestDispatch.Media.MediaType
import RestDispatch.Number.Reading
import RestDispatch.StableSort

/-!
# Accept headers

An `Accept` header lists media ranges with a quality from 0 to 1.  Entries are kept in
order of preference: higher quality first, then narrower ranges, then header order.  The
quality of a type is that of the first entry compatible with it, and a quality of zero
refuses the type.
-/

namespace RestDispatch

/-- The quality of an entry that names none. -/
def Single.one : Single := ⟨0x3f800000⟩

/-- One entry of an `Accept` header. -/
structure MediaRange where
  type : MediaType
  quality : Single
  deriving DecidableEq, Repr

/-- An `Accept` header, most preferred entry first. -/
structure Accept where
  entries : List MediaRange := []
  deriving DecidableEq, Repr

namespace Accept

/-- The header that accepts every type. -/
def any : Accept := ⟨[⟨.any, .one⟩]⟩

/-- The first parameter written as `name=value` whose name is `q`. -/
def qualityText? (params : List (List Char)) : Option (List Char) :=
  params.findSome? fun param =>
    match Text.splitOnce '=' (Text.trim param) with
    | some (name, value) =>
      if Text.sameName (String.ofList (Text.trim name)) "q" then some (Text.trim value)
      else none
    | none => none

/-- The quality an entry asks for: 1 unless its `q` parameter is a number, and never
outside the interval from 0 to 1. -/
def qualityOf (entry : List Char) : Single :=
  let asked := (qualityText? ((Text.splitOn ';' entry).drop 1)).bind Number.readBinary
  (asked.getD Single.one).clamp Binary.zero Single.one

/-- Read one entry; a malformed one is none. -/
def parseEntry (entry : List Char) : Option MediaRange :=
  let entry := Text.trim entry
  if entry.isEmpty then none
  else (MediaType.parse (String.ofList entry)).map fun m => ⟨m, qualityOf entry⟩

/-- Whether `a` is preferred to `b`. -/
def precedes (a b : MediaRange) : Bool :=
  if b.quality.lt a.quality then true
  else if a.quality.lt b.quality then false
  else b.type.specificity < a.type.specificity

/-- Read a header.  A quality may be written as nan, and then `precedes` is no order: this sort
returns all the same, where one that checks its comparison may panic instead, from 21 entries
on.  Of such headers only the entries are meant, not that they are sorted. -/
def parse (header : String) : Accept :=
  ⟨stableSort precedes ((Text.splitOn ',' header.toList).filterMap parseEntry)⟩

/-- The quality of the first entry compatible with a type, and zero without one. -/
def qualityFor (a : Accept) (m : MediaType) : Single :=
  ((a.entries.find? fun e => e.type.isCompatibleWith m).map (·.quality)).getD Binary.zero

/-- Whether a type has a positive quality. -/
def accepts (a : Accept) (m : MediaType) : Bool := Binary.zero.lt (a.qualityFor m)

/-- The most preferred entry. -/
def preferred? (a : Accept) : Option MediaType := a.entries.head?.map (·.type)

/-- The entries of positive quality, most preferred first. -/
def acceptable (a : Accept) : List MediaType :=
  (a.entries.filter fun e => Binary.zero.lt e.quality).map (·.type)

/-- A candidate with the two figures it is compared by. -/
structure Candidate where
  type : MediaType
  quality : Single
  specificity : Nat

def Candidate.beats (c best : Candidate) : Bool :=
  best.quality.lt c.quality ||
    (c.quality.same best.quality && best.specificity < c.specificity)

/-- The best of the available types: highest quality, then greatest specificity, then
first in the list; types of quality zero do not take part. -/
def negotiate (a : Accept) (available : List MediaType) : Option MediaType :=
  let step (best : Option Candidate) (m : MediaType) : Option Candidate :=
    let c : Candidate := ⟨m, a.qualityFor m, m.specificity⟩
    if c.quality.le Binary.zero then best
    else
      match best with
      | none => some c
      | some b => if c.beats b then some c else some b
  (available.foldl step none).map (·.type)

end Accept

end RestDispatch
