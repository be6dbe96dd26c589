import RestDispatch.Handler.Pipeline
import RestDispatch.Scenario.Promise

/-!
# Scripted hooks and handlers

Interceptors, advices and handlers that follow a script and write a journal.
-/

namespace RestDispatch

/-- What a hook does, in this order. -/
structure HookScript where
  header? : Option (String × String) := none
  status? : Option Nat := none
  /-- Bytes appended to the pending body. -/
  write? : Option Bytes := none
  /-- A body sent as the result. -/
  send? : Option Bytes := none
  error? : Option Error := none

/-- Write into the journal of a request. -/
def journal (e : JournalEntry) : Handling Journal Unit := .application (Journal.write e)

def HookScript.run (s : HookScript) : Handling Journal Unit := do
  if let some (name, value) := s.header? then .respond (·.setHeader name value)
  if let some status := s.status? then .respond ({ · with status := status })
  if let some bs := s.write? then .respond (·.write bs)
  if let some bs := s.send? then .tryRespond (·.send bs)
  if let some e := s.error? then throw e

/-- The scripts of an interceptor. -/
structure InterceptorScript where
  name : String
  order : Int := 0
  predicate : InterceptorPredicate := .always
  before : HookScript := {}
  /-- Whether the request goes on behind the first hook. -/
  proceeds : Bool := true
  after : HookScript := {}
  atEnd : HookScript := {}

def InterceptorScript.interceptor (s : InterceptorScript) : Interceptor Journal where
  name := s.name
  order := s.order
  predicate := s.predicate
  before m _ := do
    journal (.before s.name m.qualifiedName)
    s.before.run
    return s.proceeds
  after _ _ := do
    journal (.after s.name (← .response).committed)
    s.after.run
  atEnd _ _ error? := do
    journal (.atEnd s.name (← .response).status error?)
    s.atEnd.run

/-- The script of an advice. -/
structure AdviceScript where
  name : String
  /-- A query parameter without which the advice does nothing. -/
  onlyWith? : Option String := none
  error? : Option Error := none
  send? : Option Bytes := none
  /-- A value answered in place of running the rest. -/
  short? : Option Value := none
  args? : Option Args := none
  /-- A value that takes the place of every outcome of the rest. -/
  result? : Option Value := none

def AdviceScript.run (s : AdviceScript) (args : Args) (rest : Args → Handling Journal Value) :
    Handling Journal Value := do
  if let some e := s.error? then throw e
  if let some bs := s.send? then .tryRespond (·.send bs)
  match s.short? with
  | some v => return v
  | none =>
    let outcome ← .attempt (rest (s.args?.getD args))
    journal (.leave s.name outcome)
    match s.result? with
    | some v => return v
    | none => .lift outcome

def AdviceScript.advice (s : AdviceScript) : Advice Journal := fun m r args rest => do
  journal (.enter s.name m.name args.length)
  if s.onlyWith?.any fun name => (r.param? name).isNone then rest args
  else s.run args rest

/-- What a scripted handler makes of its arguments. -/
inductive ResultScript
  | error (e : Error)
  | argument (index : Nat)
  | value (v : Value)

def ResultScript.outcome (args : Args) : ResultScript → Except Error Value
  | .error e => .error e
  | .argument index => (args.take index).1
  | .value v => .ok v

/-- How a scripted handler hands its outcome over. -/
inductive Delivery
  | sync
  /-- It returns a computation that does everything. -/
  | async
  | promise (p : Promise)

/-- The handler that follows a script. -/
def scriptedInvoker (s : ResultScript) : Delivery → Invoker Journal
  | .sync => fun args => do
    Journal.write (.call args)
    match s.outcome args with
    | .ok v => return .value v
    | .error e => throw e
  | .async => fun args =>
    return .future do
      Journal.write (.call args)
      return s.outcome args
  | .promise p => fun args => do
    Journal.write (.call args)
    p.deliver (s.outcome args)

end RestDispatch
