import RestDispatch.Handler.Deferred
import RestDispatch.Value.Listing

/-!
# What handlers return

A handler returns its value at once or promises one.  However it is promised, waiting turns
it into one value or one failure, so that nothing behind the handler sees the difference.
`σ` is the data that handlers share: what is run while a result is waited for may change it.
-/

namespace RestDispatch

/-- What a handler returned. -/
inductive Returned (σ : Type)
  /-- A finished value. -/
  | value (v : Value)
  /-- A computation, run when it is waited for. -/
  | future (run : StateM σ (Except Error Value))
  /-- A channel, with what comes through it, if anything does. -/
  | receiver (answer : StateM σ (Option (Except Error Value)))
  /-- A task of its own, which may fail to finish. -/
  | task (run : StateM σ (Except String (Except Error Value)))
  /-- A deferred result, and what others do with it before they release it. -/
  | deferred (d : Deferred) (others : StateT Deferred (StateM σ) Unit)

namespace Returned

variable {σ : Type}

/-- Whether the value is promised. -/
def isAsync : Returned σ → Bool
  | .value _ => false
  | _ => true

def waitFor (d : Deferred) (others : StateT Deferred (StateM σ) Unit) :
    StateM σ (Except Error Value) := do
  let (i, d) := d.wait
  match d.poll i with
  | some (.ready result, _) => return result
  | _ =>
    let (_, d) ← others.run d
    match d.abandon.poll i with
    | some (.ready result, _) => return result
    | _ => return .error Deferred.dropped

/-- Wait for the value. -/
def resolve : Returned σ → StateM σ (Except Error Value)
  | .value v => return .ok v
  | .future run => run
  | .receiver answer => do
    match ← answer with
    | some result => return result
    | none => return .error (.internal "async result sender dropped")
  | .task run => do
    match ← run with
    | .ok result => return result
    | .error reason => return .error (.internal ("handler task failed: " ++ reason))
  | .deferred d others => waitFor d others

def listing : Returned σ → String
  | .value v => "Value(" ++ v.listing ++ ")"
  | .future _ => "Future"
  | .receiver _ => "Receiver"
  | .task _ => "Task"
  | .deferred d _ => "Deferred(" ++ boolText d.isCompleted ++ ")"

end Returned

end RestDispatch
