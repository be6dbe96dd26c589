import RestDispatch.Event
import RestDispatch.Http.Response

/-!
# Exchanges

What changes while one request is handled: the response, the events so far, and the data
that handlers and hooks share.  A step of handling may fail, and what it changed before it
failed stays.
-/

namespace RestDispatch

/-- The state of handling a request; `shared` belongs to the application. -/
structure Exchange (σ : Type) where
  response : Response := {}
  events : List Event := []
  shared : σ

namespace Exchange

variable {σ : Type}

def report (x : Exchange σ) (e : Event) : Exchange σ := { x with events := x.events ++ [e] }

def respond (x : Exchange σ) (f : Response → Response) : Exchange σ :=
  { x with response := f x.response }

end Exchange

/-- A step of handling a request. -/
abbrev Handling (σ : Type) := ExceptT Error (StateM (Exchange σ))

namespace Handling

section

variable {σ α : Type}

/-- A step that changes nothing. -/
def lift : Except Error α → Handling σ α
  | .ok a => pure a
  | .error e => throw e

def report (e : Event) : Handling σ Unit := modify (·.report e)

def response : Handling σ Response := return (← get).response

def respond (f : Response → Response) : Handling σ Unit := modify (·.respond f)

/-- Change the response, or fail and leave it as it is. -/
def tryRespond (f : Response → Except Error Response) : Handling σ Unit := do
  match f (← response) with
  | .ok r => respond fun _ => r
  | .error e => throw e

/-- A step that may change the headers of the response, also when it fails. -/
def withHeaders (step : Headers → Except Error α × Headers) : Handling σ α := do
  let (result, headers) := step (← response).headers
  respond ({ · with headers := headers })
  lift result

def application (step : StateM σ α) : Handling σ α :=
  modifyGet fun x =>
    let (a, shared) := step.run x.shared
    (a, { x with shared := shared })

/-- Run a step and give its outcome, which is not a failure of the whole. -/
def attempt (step : Handling σ α) : Handling σ (Except Error α) :=
  ExceptT.lift step.run

/-- The outcome of a step and the state behind it. -/
def runOn (step : Handling σ α) (x : Exchange σ) : Except Error α × Exchange σ :=
  step.run.run x

@[simp] theorem runOn_pure (a : α) (x : Exchange σ) :
    runOn (pure a) x = (.ok a, x) := rfl

@[simp] theorem runOn_throw (e : Error) (x : Exchange σ) :
    runOn (throw e : Handling σ α) x = (.error e, x) := rfl

/-- What follows a step runs on the state behind it, and does not run behind a failure. -/
theorem runOn_bind {β : Type} (step : Handling σ α) (next : α → Handling σ β)
    (x : Exchange σ) :
    runOn (step >>= next) x =
      match runOn step x with
      | (.ok a, y) => runOn (next a) y
      | (.error e, y) => (.error e, y) := by
  change (match step.run.run x with | (r, y) => (ExceptT.bindCont next r).run y) = _
  unfold runOn
  rcases step.run.run x with ⟨r, y⟩
  cases r <;> rfl

@[simp] theorem runOn_map {β : Type} (f : α → β) (step : Handling σ α) (x : Exchange σ) :
    runOn (f <$> step) x = ((runOn step x).1.map f, (runOn step x).2) := by
  rw [map_eq_pure_bind, runOn_bind]
  rcases runOn step x with ⟨_ | _, y⟩ <;> rfl

@[simp] theorem runOn_lift (r : Except Error α) (x : Exchange σ) :
    runOn (lift r) x = (r, x) := by
  cases r <;> rfl

@[simp] theorem runOn_report (e : Event) (x : Exchange σ) :
    runOn (report e) x = (.ok (), x.report e) := rfl

@[simp] theorem runOn_response (x : Exchange σ) :
    runOn response x = (.ok x.response, x) := rfl

@[simp] theorem runOn_respond (f : Response → Response) (x : Exchange σ) :
    runOn (respond f) x = (.ok (), x.respond f) := rfl

/-- A refused change leaves the response as it is. -/
theorem runOn_tryRespond (f : Response → Except Error Response) (x : Exchange σ) :
    runOn (tryRespond f) x =
      match f x.response with
      | .ok r => (.ok (), x.respond fun _ => r)
      | .error e => (.error e, x) := by
  simp only [tryRespond, runOn_bind, runOn_response]
  cases f x.response <;> simp

@[simp] theorem runOn_withHeaders (step : Headers → Except Error α × Headers)
    (x : Exchange σ) :
    runOn (withHeaders step) x =
      ((step x.response.headers).1,
        x.respond ({ · with headers := (step x.response.headers).2 })) := by
  simp [withHeaders, runOn_bind]

@[simp] theorem runOn_application (step : StateM σ α) (x : Exchange σ) :
    runOn (application step) x =
      (.ok (step.run x.shared).1, { x with shared := (step.run x.shared).2 }) := rfl

/-- An attempt never fails, and keeps what the step changed. -/
@[simp] theorem runOn_attempt (step : Handling σ α) (x : Exchange σ) :
    runOn (attempt step) x = (.ok (runOn step x).1, (runOn step x).2) := rfl

end

end Handling

end RestDispatch
