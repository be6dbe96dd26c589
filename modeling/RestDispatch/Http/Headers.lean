import RestDispatch.Text.Quoted

/-!
# Headers

An ordered multimap from names to values.  Names compare up to the case of ASCII letters,
keep the spelling they arrived with, and may repeat; a lookup sees the entries in arrival
order.
-/

namespace RestDispatch

/-- Header fields in arrival order. -/
structure Headers where
  entries : List (String × String) := []
  deriving DecidableEq, Repr

namespace Headers

def empty : Headers := ⟨[]⟩

/-- How many entries there are, repeated names counted each time. -/
def size (h : Headers) : Nat := h.entries.length

/-- The values of a name, in arrival order. -/
def getAll (h : Headers) (name : String) : List String :=
  (h.entries.filter fun e => Text.sameName e.1 name).map (·.2)

def get? (h : Headers) (name : String) : Option String := (h.getAll name).head?

def contains (h : Headers) (name : String) : Bool := (h.get? name).isSome

/-- Add a value behind all entries. -/
def append (h : Headers) (name value : String) : Headers := ⟨h.entries ++ [(name, value)]⟩

/-- The entries of all other names. -/
def without (h : Headers) (name : String) : Headers :=
  ⟨h.entries.filter fun e => !Text.sameName e.1 name⟩

/-- Replace the values of a name by one value behind all entries. -/
def insert (h : Headers) (name value : String) : Headers := (h.without name).append name value

/-- How many entries `without` leaves out. -/
def countOf (h : Headers) (name : String) : Nat := (h.getAll name).length

/-- Every name once, in the spelling of its first entry. -/
def names (h : Headers) : List String :=
  h.entries.foldl
    (fun seen e => if seen.any (Text.sameName · e.1) then seen else seen ++ [e.1]) []

/-- The fields as quoted lines between brackets. -/
def listing (h : Headers) : String :=
  Text.quotedList (h.entries.map fun e => e.1 ++ ": " ++ e.2)

end Headers

end RestDispatch
