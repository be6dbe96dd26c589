import RestDispatch.Value.Basic

/-!
# Deferred results

A deferred result is completed once, by whoever holds a handle on it, and given out once.
Completing it again changes nothing.  A result that nobody waits for is kept; a waiter takes
the place of an earlier one, which is left without an answer, as is the last one when every
handle is released.  Listeners run once each: those registered before the completion run
when it happens, in the order of registration, and a later one runs at once.

Calls are taken one after the other, each as a whole, and listeners do not call back.
-/

namespace RestDispatch

/-- What has become of a deferred result. -/
inductive DeferredPhase
  | pending (waiter? : Option Nat)
  /-- Completed, and kept for who comes to wait. -/
  | kept (result : Except Error Value)
  /-- Completed, and given out. -/
  | spent

/-- What has become of one wait for a deferred result. -/
inductive Waiter
  | waiting
  | answered (result : Except Error Value)
  /-- Nobody is left who could answer. -/
  | abandoned
  /-- The answer has been taken, or is not wanted any more. -/
  | finished

/-- What a waiter is told when it asks. -/
inductive Poll
  | pending
  | ready (result : Except Error Value)
  | finished

/-- A deferred result.  Listeners go by their labels. -/
structure Deferred where
  phase : DeferredPhase := .pending none
  handles : Nat := 1
  listeners : List String := []
  /-- The listeners that have run, in order. -/
  fired : List String := []
  waiters : List Waiter := []

namespace Deferred

/-- The failure of a wait that nobody answers any more. -/
def dropped : Error := .internal "deferred result dropped without a value"

/-- The failure of a wait for a result that has been given out. -/
def consumed : Error := .internal "deferred result already consumed"

def isCompleted (d : Deferred) : Bool :=
  match d.phase with
  | .pending _ => false
  | _ => true

def settle (waiters : List Waiter) (waiter? : Option Nat) (outcome : Waiter) : List Waiter :=
  match waiter? with
  | none => waiters
  | some i =>
    waiters.modify i fun
      | .waiting => outcome
      | w => w

def complete (d : Deferred) (result : Except Error Value) : Bool × Deferred :=
  match d.phase with
  | .pending waiter? =>
    (true,
      { d with
        phase := if waiter?.isSome then .spent else .kept result
        waiters := settle d.waiters waiter? (.answered result)
        listeners := []
        fired := d.fired ++ d.listeners })
  | _ => (false, d)

def listen (d : Deferred) (label : String) : Deferred :=
  if d.isCompleted then { d with fired := d.fired ++ [label] }
  else { d with listeners := d.listeners ++ [label] }

/-- Begin to wait; the waiter is known by its number. -/
def wait (d : Deferred) : Nat × Deferred :=
  let i := d.waiters.length
  match d.phase with
  | .pending waiter? =>
    (i,
      { d with
        phase := .pending (some i)
        waiters := settle d.waiters waiter? .abandoned ++ [.waiting] })
  | .kept result =>
    (i, { d with phase := .spent, waiters := d.waiters ++ [.answered result] })
  | .spent => (i, { d with waiters := d.waiters ++ [.answered (.error consumed)] })

/-- Ask for a waiter's answer, which is taken when it is there. -/
def poll (d : Deferred) (i : Nat) : Option (Poll × Deferred) :=
  let taken : Deferred := { d with waiters := d.waiters.set i .finished }
  match d.waiters[i]? with
  | none => none
  | some .waiting => some (.pending, d)
  | some (.answered result) => some (.ready result, taken)
  | some .abandoned => some (.ready (.error dropped), taken)
  | some .finished => some (.finished, d)

/-- Give up a wait. -/
def forget (d : Deferred) (i : Nat) : Deferred :=
  { d with waiters := d.waiters.set i .finished }

def share (d : Deferred) : Deferred := { d with handles := d.handles + 1 }

/-- Leave who waits without an answer. -/
def abandon (d : Deferred) : Deferred :=
  match d.phase with
  | .pending waiter? =>
    { d with
      phase := .pending none
      handles := 0
      listeners := []
      waiters := settle d.waiters waiter? .abandoned }
  | _ => { d with handles := 0 }

def release (d : Deferred) : Deferred :=
  if d.handles ≤ 1 then d.abandon else { d with handles := d.handles - 1 }

end Deferred

end RestDispatch
