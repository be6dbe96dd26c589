import RestDispatch.Dictionary

/-!
# Matrix variables

The parameters written behind a path segment (`/cars/vw;color=red`), grouped by the path
variable bound to that segment.  Segments are in path order; the keys of a segment are in
order; the values of a key are in the order in which they were written.
-/

namespace RestDispatch

abbrev MatrixSegment := Dictionary (List String)

/-- Matrix variables by path variable, in path order. -/
structure MatrixVariables where
  segments : List (String × MatrixSegment) := []
  deriving DecidableEq, Repr

namespace MatrixVariables

def empty : MatrixVariables := ⟨[]⟩

def addValue (segment : MatrixSegment) (key value : String) : MatrixSegment :=
  segment.modify key fun present => present.getD [] ++ [value]

/-- Add a value to the segment named first; a new segment goes behind the others. -/
def insertInto (name key value : String) :
    List (String × MatrixSegment) → List (String × MatrixSegment)
  | [] => [(name, addValue [] key value)]
  | (n, segment) :: rest =>
    if n = name then (n, addValue segment key value) :: rest
    else (n, segment) :: insertInto name key value rest

/-- Add `key=value` to the segment of a path variable. -/
def insert (m : MatrixVariables) (name key value : String) : MatrixVariables :=
  ⟨insertInto name key value m.segments⟩

def segment? (m : MatrixVariables) (name : String) : Option MatrixSegment :=
  m.segments.lookup name

def isEmpty (m : MatrixVariables) : Bool := m.segments.isEmpty

end MatrixVariables

end RestDispatch
