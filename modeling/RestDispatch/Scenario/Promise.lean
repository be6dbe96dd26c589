import RestDispatch.Scenario.Journal

/-!
# Promised results

One outcome can be handed over in many ways: at once, through a channel, by a task or by a
deferred result, before or after someone waits for it, or never.
-/

namespace RestDispatch

/-- How an outcome is handed over. -/
inductive Promise
  /-- A value at once; a failure by a computation. -/
  | plain
  | future
  | receiver
  | receiverDropped
  | task
  | taskAborted
  | deferredNow
  | deferredLater
  | deferredDropped
  deriving DecidableEq, Repr

namespace Promise

/-- The listener of every deferred result. -/
def label : String := "completed"

/-- Complete a deferred result, and write down which listeners run. -/
def complete (result : Except Error Value) : StateT Deferred (StateM Journal) Bool := do
  let d ← get
  let (first, completed) := d.complete result
  set completed
  for label in completed.fired.drop d.fired.length do
    Journal.write (.fired label)
  return first

def completeTwice (result : Except Error Value) : StateT Deferred (StateM Journal) Unit := do
  let first ← complete result
  let second ← complete (.ok (.string "again"))
  Journal.write (.completed first second)

/-- Hand an outcome over. -/
def deliver (result : Except Error Value) : Promise → StateM Journal (Returned Journal)
  | .plain =>
    match result with
    | .ok v => return .value v
    | .error e => return .future (return .error e)
  | .future => return .future (return result)
  | .receiver => return .receiver (return some result)
  | .receiverDropped => return .receiver (return none)
  | .task => return .task (return .ok result)
  | .taskAborted => return .task (return .error "task was cancelled")
  | .deferredNow => do
    let (_, d) ← (completeTwice result).run (Deferred.listen {} label)
    return .deferred d (pure ())
  | .deferredLater => return .deferred (Deferred.listen {} label) (completeTwice result)
  | .deferredDropped => return .deferred (Deferred.listen {} label) (pure ())

end Promise

end RestDispatch
