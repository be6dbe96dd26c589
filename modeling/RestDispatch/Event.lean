/-!
# Events

What the library reports while it deploys and dispatches: a level, a message and named
texts in a fixed order.  A listener that asks for a level hears the events of that level
and of every more severe one.
-/

namespace RestDispatch

/-- The levels of events, the most severe first. -/
inductive Level
  | error
  | warn
  | info
  | debug
  | trace
  deriving DecidableEq, Repr

/-- How far a level is from the most severe one. -/
def Level.verbosity : Level → Nat
  | .error => 0
  | .warn => 1
  | .info => 2
  | .debug => 3
  | .trace => 4

def Level.name : Level → String
  | .error => "error"
  | .warn => "warn"
  | .info => "info"
  | .debug => "debug"
  | .trace => "trace"

/-- A reported event. -/
structure Event where
  level : Level
  message : String
  fields : List (String × String) := []
  deriving DecidableEq, Repr

def Event.isHeardAt (e : Event) (level : Level) : Bool := e.level.verbosity ≤ level.verbosity

end RestDispatch
