import RestDispatch.StableSort

/-!
# Dictionaries

A dictionary is a list of pairs in strictly increasing order of their keys, so equal
dictionaries are equal lists and the order in which answers list them is the order of
keys by code points.  A hash map has the content of a dictionary, and lists it in an order of
its own.
-/

namespace RestDispatch

/-- Pairs of a key and a value, in increasing order of keys. -/
abbrev Dictionary (α : Type) := List (String × α)

namespace Dictionary

variable {α : Type}

def get? (d : Dictionary α) (key : String) : Option α := d.lookup key

def contains (d : Dictionary α) (key : String) : Bool := (d.get? key).isSome

/-- Give a key the value `f` makes of its present value, if any. -/
def modify (key : String) (f : Option α → α) : Dictionary α → Dictionary α
  | [] => [(key, f none)]
  | (k, v) :: rest =>
    if key = k then (k, f (some v)) :: rest
    else if key < k then (key, f none) :: (k, v) :: rest
    else (k, v) :: modify key f rest

/-- Give a key a value, replacing its present value. -/
def insert (d : Dictionary α) (key : String) (value : α) : Dictionary α :=
  d.modify key fun _ => value

def erase (d : Dictionary α) (key : String) : Dictionary α := d.filter (·.1 != key)

/-- The dictionary of a list of pairs; of two pairs with one key the later counts. -/
def ofPairs (pairs : List (String × α)) : Dictionary α :=
  pairs.foldl (fun d (k, v) => d.insert k v) []

/-- The keys in increasing order. -/
def keys (d : Dictionary α) : List String := d.map (·.1)

end Dictionary

/-- The order in which a hash map lists its keys: those of lower rank come first.  It is drawn
when the map is made, so maps of equal content may list it differently. -/
structure KeyOrder where
  rank : String → Nat := fun _ => 0

/-- What a hash map of some content lists. -/
def Dictionary.listed {α : Type} (d : Dictionary α) (order : KeyOrder) : List (String × α) :=
  stableSort (fun a b => order.rank a.1 < order.rank b.1) d

end RestDispatch
