import RestDispatch.Error
import RestDispatch.Http.MatrixVariables
import RestDispatch.Regex.Parser
import RestDispatch.Text.Percent

/-!
# Path patterns

A pattern is a sequence of segments: a literal takes exactly one equal part of a path, a
variable one part that its constraint accepts, `*` any one part and `**` any number of
parts.  Empty parts of a path do not count.  Matrix parameters follow the first semicolon
of a part; where they are used they take no part in matching and are recorded under the
variable that takes their part.

Overlap of two patterns is judged by their segments alone, and errs on the side of
overlapping: two constraints are never compared with each other.
-/

namespace RestDispatch

/-- A constraint on the value of a path variable, with the text it was written as. -/
structure Constraint where
  source : String
  accepts : String → Bool

/-- A segment of a pattern. -/
inductive PathSegment
  | literal (text : String)
  | capture (name : String) (constraint : Option Constraint)
  /-- `*`, exactly one part. -/
  | one
  /-- `**`, any number of parts. -/
  | many

/-- A part of a path, and the matrix parameters behind its first semicolon. -/
structure PathPart where
  text : String
  params : Option String := none
  deriving DecidableEq, Repr

namespace PathSegment

/-- The constraint written behind the colon of a variable. -/
def parseConstraint (name source : List Char) : Except Error Constraint :=
  match Regex.parse ("^(?:".toList ++ source ++ ")$".toList) with
  | .ok r => .ok ⟨String.ofList source, r.isMatch⟩
  | .error fault =>
    .error (.configuration (.invalidRegex (String.ofList name) fault.message))

/-- The variable written between braces; `raw` is the segment as a whole. -/
def parseCapture (raw inner : List Char) : Except Error PathSegment := do
  let (name, constraint) ←
    match Text.splitOnce ':' inner with
    | some (name, source) => (parseConstraint name source).map fun c => (name, some c)
    | none => .ok (inner, none)
  let name := Text.trim name
  if name.isEmpty then .error (.configuration (.unnamedVariable (String.ofList raw)))
  else .ok (.capture (String.ofList name) constraint)

def parse (raw : List Char) : Except Error PathSegment :=
  if raw = ['*'] then .ok .one
  else if raw = ['*', '*'] then .ok .many
  else
    match (Text.stripStart ['\x7b'] raw).bind (Text.stripEnd ['\x7d']) with
    | some inner => parseCapture raw inner
    | none =>
      if raw.contains '\x7b' || raw.contains '\x7d' then
        .error (.configuration (.malformedSegment (String.ofList raw)))
      else .ok (.literal (String.ofList raw))

/-- The variable a segment binds. -/
def name? : PathSegment → Option String
  | .capture name _ => some name
  | _ => none

def isLiteral : PathSegment → Bool
  | .literal _ => true
  | _ => false

/-- Whether a segment takes a part of a path; `**` takes each of its parts. -/
def accepts (text : String) : PathSegment → Bool
  | .literal lit => lit == text
  | .capture _ constraint => constraint.all (·.accepts text)
  | .one => true
  | .many => true

/-- Whether some part may be taken by both of two segments. -/
def mayShare : PathSegment → PathSegment → Bool
  | .literal a, .literal b => a == b
  | .literal a, other => other.accepts a
  | other, .literal b => other.accepts b
  | _, _ => true

end PathSegment

/-- What a path gives to the variables of a pattern. -/
structure PathMatch where
  captured : Dictionary String := []
  matrix : MatrixVariables := .empty
  deriving DecidableEq, Repr

/-- A pattern: its text and its segments. -/
structure PathPattern where
  text : String
  segments : List PathSegment

/-- A key by which patterns and routes are ordered: keys compare lexicographically, the
smaller key comes first. -/
abbrev Rank := List Int

namespace PathPattern

/-- Read the segments of a pattern in order.  No name may be declared twice; `pattern` is
the pattern as it was given. -/
def parseSegments (pattern : String) (names : List String) :
    List (List Char) → Except Error (List PathSegment)
  | [] => .ok []
  | raw :: rest => do
    let segment ← PathSegment.parse raw
    match segment.name? with
    | some name =>
      if names.contains name then
        .error (.configuration (.repeatedVariable name pattern))
      else return segment :: (← parseSegments pattern (name :: names) rest)
    | none => return segment :: (← parseSegments pattern names rest)

/-- Read a pattern.  Blanks around it are dropped, and its text begins with a slash. -/
def parse (pattern : String) : Except Error PathPattern := do
  let trimmed := Text.trim pattern.toList
  let raws := (Text.splitOn '/' trimmed).filter (!·.isEmpty)
  let segments ← parseSegments pattern [] raws
  let text := if trimmed.head? = some '/' then trimmed else '/' :: trimmed
  return ⟨String.ofList text, segments⟩

/-- The declared variables in order. -/
def variableNames (p : PathPattern) : List String := p.segments.filterMap PathSegment.name?

def isLiteral (p : PathPattern) : Bool := p.segments.all PathSegment.isLiteral

/-- A part of a path, its matrix parameters cut off where they are used. -/
def cutPart (matrix : Bool) (part : List Char) : PathPart :=
  match matrix, Text.splitOnce ';' part with
  | true, some (text, params) => ⟨String.ofList text, some (String.ofList params)⟩
  | _, _ => ⟨String.ofList part, none⟩

def cutPath (matrix : Bool) (path : String) : List PathPart :=
  ((Text.splitOn '/' path.toList).filter (!·.isEmpty)).map (cutPart matrix)

/-- Which variable took which part. -/
abbrev Bindings := List (String × PathPart)

/-- Try a search behind no skipped part, then behind one, and so on.  What a failed attempt
bound is dropped before the next one. -/
def searchBehind (search : List PathPart → Bindings → Bool × Bindings) (bindings : Bindings) :
    List PathPart → Bool × Bindings
  | [] =>
    match search [] bindings with
    | (true, found) => (true, found)
    | (false, left) => (false, left.take bindings.length)
  | part :: parts =>
    match search (part :: parts) bindings with
    | (true, found) => (true, found)
    | (false, left) => searchBehind search (left.take bindings.length) parts

/-- Align segments with parts, each `**` taking as few parts as it can.  All attempts share
one list of bindings: a variable adds to it before the segments behind it are tried, and a
failed search may leave in it what it bound. -/
def search : List PathSegment → List PathPart → Bindings → Bool × Bindings
  | [], parts, bindings => (parts.isEmpty, bindings)
  | .many :: segments, parts, bindings => searchBehind (search segments) bindings parts
  | segment :: segments, parts, bindings =>
    match parts with
    | [] => (false, bindings)
    | part :: parts =>
      if segment.accepts part.text then
        search segments parts
          (bindings ++ (segment.name?.map fun name => (name, part)).toList)
      else (false, bindings)

/-- Record one `key=value,value` parameter of the part taken by a variable. -/
def recordParameter (name : String) (m : MatrixVariables) (pair : List Char) :
    MatrixVariables :=
  let (key, values) := (Text.splitOnce '=' pair).getD (pair, [])
  let key := Text.trim key
  if key.isEmpty then m
  else
    (Text.splitOn ',' values).foldl
      (fun m value =>
        m.insert name (String.ofList key) (Text.decodeComponent (String.ofList value))) m

def recordMatrix (m : MatrixVariables) (name params : String) : MatrixVariables :=
  ((Text.splitOn ';' params.toList).filter (!·.isEmpty)).foldl (recordParameter name) m

/-- Give a variable the decoded text of its part. -/
def bind (m : PathMatch) : String × PathPart → PathMatch
  | (name, part) =>
    { captured := m.captured.insert name (Text.decodeComponent part.text)
      matrix := (part.params.map (recordMatrix m.matrix name)).getD m.matrix }

def matchPath? (p : PathPattern) (path : String) (matrix : Bool) : Option PathMatch :=
  match search p.segments (cutPath matrix path) [] with
  | (true, bindings) => some (bindings.foldl bind {})
  | (false, _) => none

def count (p : PathPattern) (test : PathSegment → Bool) : Int := p.segments.countP test

/-- The more specific of two patterns has the smaller rank: fewer `**`, then fewer `*`,
more literals, fewer variables, and more segments. -/
def rank (p : PathPattern) : Rank :=
  [p.count (fun | .many => true | _ => false), p.count (fun | .one => true | _ => false),
    -p.count PathSegment.isLiteral, p.count (fun s => s.name?.isSome), -p.segments.length]

/-- Whether both of two sequences of segments may align with the same parts. -/
def overlap : List PathSegment → List PathSegment → Bool
  | [], [] => true
  | .many :: as, [] => overlap as []
  | .many :: as, b :: bs => overlap as (b :: bs) || overlap (.many :: as) bs
  | [], .many :: bs => overlap [] bs
  | a :: as, .many :: bs => overlap (a :: as) bs || overlap as (.many :: bs)
  | [], _ :: _ => false
  | _ :: _, [] => false
  | a :: as, b :: bs => a.mayShare b && overlap as bs
termination_by as bs => as.length + bs.length

def mayOverlap (p q : PathPattern) : Bool := overlap p.segments q.segments

end PathPattern

end RestDispatch
