import Mathlib.Order.Defs.Unbundled
import RestDispatch.Handler.Pipeline

/-!
# What steps do to a response

A step respects a relation when the responses in front of it and behind it are related,
whether it fails or not.  A chain of advices respects what its advices respect, as the chain
and the call of the handler leave the response alone.

The relation that matters is that a commitment is never taken back.  No operation on a
response does, so hooks that change a response by its operations respect it.  In the other
direction, whatever writes a result without failing has committed the response.
-/

namespace RestDispatch

variable {σ α β : Type}

namespace Handling

/-- Whatever a step does to the response is within a relation. -/
def Respects (R : Response → Response → Prop) (step : Handling σ α) : Prop :=
  ∀ x : Exchange σ, R x.response (step.runOn x).2.response

/-- A step that succeeds leaves the response committed. -/
def Commits (step : Handling σ α) : Prop :=
  ∀ (x y : Exchange σ) (a : α), step.runOn x = (.ok a, y) → y.response.committed = true

section

variable {R : Response → Response → Prop}

section

variable [Std.Refl R]

theorem respects_pure (a : α) : (pure a : Handling σ α).Respects R :=
  fun x => Std.Refl.refl x.response

theorem respects_throw (e : Error) : (throw e : Handling σ α).Respects R :=
  fun x => Std.Refl.refl x.response

theorem respects_lift (result : Except Error α) : (lift result : Handling σ α).Respects R := by
  intro x
  rw [runOn_lift]
  exact Std.Refl.refl x.response

theorem respects_report (e : Event) : (report e : Handling σ Unit).Respects R :=
  fun x => Std.Refl.refl x.response

theorem respects_application (step : StateM σ α) : (application step).Respects R :=
  fun x => Std.Refl.refl x.response

theorem respects_tryRespond {f : Response → Except Error Response}
    (hf : ∀ a b, f a = .ok b → R a b) : (tryRespond f : Handling σ Unit).Respects R := by
  intro x
  rw [runOn_tryRespond]
  cases hresult : f x.response with
  | ok b => exact hf x.response b hresult
  | error e => exact Std.Refl.refl x.response

end

theorem respects_respond {f : Response → Response} (hf : ∀ a, R a (f a)) :
    (respond f : Handling σ Unit).Respects R :=
  fun x => hf x.response

theorem Respects.bind [IsTrans Response R] {step : Handling σ α} {next : α → Handling σ β}
    (h : step.Respects R) (hnext : ∀ a, (next a).Respects R) : (step >>= next).Respects R := by
  intro x
  have hstep := h x
  rw [runOn_bind]
  rcases hrun : step.runOn x with ⟨result, y⟩
  rw [hrun] at hstep
  cases result with
  | error e => exact hstep
  | ok a => exact IsTrans.trans _ _ _ hstep (hnext a y)

end

theorem commits_throw (e : Error) : (throw e : Handling σ α).Commits := by
  intro x y a hrun
  simp at hrun

theorem commits_tryRespond {f : Response → Except Error Response}
    (hf : ∀ a b, f a = .ok b → b.committed = true) :
    (tryRespond f : Handling σ Unit).Commits := by
  intro x y a hrun
  rw [runOn_tryRespond] at hrun
  cases hresult : f x.response with
  | error e => simp [hresult] at hrun
  | ok b =>
    rw [hresult] at hrun
    cases hrun
    exact hf x.response b hresult

theorem headers_of_tryRespond {f : Response → Except Error Response}
    (hf : ∀ a b, f a = .ok b → b.headers = a.headers) {x y : Exchange σ} {a : Unit}
    (hrun : (tryRespond f).runOn x = (.ok a, y)) :
    y.response.headers = x.response.headers := by
  rw [runOn_tryRespond] at hrun
  split at hrun
  next b hresult =>
    cases hrun
    exact hf x.response b hresult
  next => cases hrun

/-- What runs last decides whether a sequence commits. -/
theorem commits_bind {step : Handling σ α} {next : α → Handling σ β}
    (hnext : ∀ a, (next a).Commits) : (step >>= next).Commits := by
  intro x z b hrun
  rw [runOn_bind] at hrun
  rcases hstep : step.runOn x with ⟨result, y⟩
  rw [hstep] at hrun
  cases result with
  | error e => simp at hrun
  | ok a => exact hnext a y z b hrun

end Handling

namespace Response

/-- A commitment is not taken back. -/
def KeepsCommitment (a b : Response) : Prop := a.committed = true → b.committed = true

instance : Std.Refl KeepsCommitment := ⟨fun _ h => h⟩

instance : IsTrans Response KeepsCommitment := ⟨fun _ _ _ hab hbc h => hbc (hab h)⟩

theorem committed_of_send {a b : Response} {bs : Bytes} (h : a.send bs = .ok b) :
    b.committed = true := by
  unfold send at h
  split at h
  next => simp at h
  next =>
    cases h
    rfl

theorem committed_of_commit {a b : Response} (h : a.commit = .ok b) : b.committed = true := by
  unfold commit at h
  split at h
  next => simp at h
  next =>
    cases h
    rfl

theorem headers_of_send {a b : Response} {bs : Bytes} (h : a.send bs = .ok b) :
    b.headers = a.headers := by
  unfold send at h
  split at h
  next => cases h
  next =>
    cases h
    rfl

theorem headers_of_commit {a b : Response} (h : a.commit = .ok b) : b.headers = a.headers := by
  unfold commit at h
  split at h
  next => cases h
  next =>
    cases h
    rfl

/-- What can be done to a response. -/
inductive Operation : Response → Response → Prop
  | setStatus (a : Response) (status : Nat) : Operation a { a with status := status }
  | setHeaders (a : Response) (headers : Headers) : Operation a { a with headers := headers }
  | write (a : Response) (bs : Bytes) : Operation a (a.write bs)
  | takeBody (a : Response) : Operation a a.takeBody.2
  | send {a b : Response} {bs : Bytes} : a.send bs = .ok b → Operation a b
  | commit {a b : Response} : a.commit = .ok b → Operation a b

theorem Operation.keepsCommitment {a b : Response} (h : Operation a b) : a.KeepsCommitment b := by
  intro ha
  cases h with
  | setStatus | setHeaders | write | takeBody => exact ha
  | send hsend => exact committed_of_send hsend
  | commit hcommit => exact committed_of_commit hcommit

end Response

/-- An advice respects what it is given the rest of the chain to respect. -/
def Advice.Respects (R : Response → Response → Prop) (advice : Advice σ) : Prop :=
  ∀ (m : HandlerMethod) (r : Request) (args : Args) (rest : Args → Handling σ Value),
    (∀ args, (rest args).Respects R) → (advice m r args rest).Respects R

/-- The hooks of an interceptor respect a relation. -/
structure Interceptor.Respects (R : Response → Response → Prop) (i : Interceptor σ) : Prop where
  before : ∀ m r, (i.before m r).Respects R
  after : ∀ m r, (i.after m r).Respects R
  atEnd : ∀ m r e?, (i.atEnd m r e?).Respects R

section

variable {R : Response → Response → Prop} [Std.Refl R] [IsTrans Response R]

/-- A chain does to a response what its advices do. -/
theorem Advice.respects_chain {m : HandlerMethod} {r : Request}
    {invoke : Args → Handling σ Value} (hinvoke : ∀ args, (invoke args).Respects R)
    {advices : List (Advice σ)} (hadvices : ∀ advice ∈ advices, advice.Respects R)
    (index : Nat) (args : Args) : (chain m r invoke index advices args).Respects R := by
  induction advices generalizing index args with
  | nil =>
    rw [chain]
    exact (Handling.respects_report _).bind fun _ => hinvoke args
  | cons advice rest ih =>
    have hrest (args : Args) : (chain m r invoke (index + 1) rest args).Respects R :=
      ih (fun other hother => hadvices other (List.mem_cons_of_mem advice hother)) _ args
    rw [chain]
    refine (Handling.respects_report _).bind fun _ => ?_
    exact hadvices advice List.mem_cons_self m r args _ hrest

/-- The application method is not given the response. -/
theorem RouteHandler.respects_call (h : RouteHandler σ) (args : Args) :
    (h.call args).Respects R := by
  unfold call
  refine (Handling.respects_application _).bind fun outcome => ?_
  refine (Handling.respects_lift outcome).bind fun returned => ?_
  refine (Handling.respects_report _).bind fun _ => ?_
  refine (Handling.respects_application _).bind fun awaited => ?_
  refine (Handling.respects_lift awaited).bind fun v => ?_
  split
  · exact (Handling.respects_throw _).bind fun _ => Handling.respects_pure v
  · exact (Handling.respects_pure _).bind fun _ => Handling.respects_pure v

end

/-- A result that is written to an open response is written by the writer of the handler. -/
theorem RouteHandler.exists_write_of_writeResult (h : RouteHandler σ) {r : Request} {v : Value}
    {x y : Exchange σ} {a : Unit} (hx : x.response.committed = false)
    (hrun : (h.writeResult r v).runOn x = (.ok a, y)) :
    ∃ z, (h.writer.write v r).runOn z = (.ok a, y) := by
  unfold writeResult at hrun
  rw [Handling.runOn_bind, Handling.runOn_response] at hrun
  cases hstatus : h.status? with
  | none => exact ⟨x, by simpa [hx, hstatus] using hrun⟩
  | some status => exact ⟨_, by simpa [hx, hstatus, Handling.runOn_bind] using hrun⟩

namespace ResultWriter

theorem commits_sendNothing : (sendNothing : Handling σ Unit).Commits :=
  Handling.commits_tryRespond fun _ _ => Response.committed_of_send

theorem commits_sendAs (m : MediaType) (bs : Bytes) : (sendAs m bs : Handling σ Unit).Commits :=
  Handling.commits_bind fun _ =>
    Handling.commits_tryRespond fun _ _ => Response.committed_of_send

theorem commits_sendFormatted (f : BodyFormat) (m : MediaType) (ty : Ty) (v : Value) :
    (sendFormatted f m ty v : Handling σ Unit).Commits := by
  unfold sendFormatted
  refine Handling.commits_bind fun bs => ?_
  split
  · exact Handling.commits_bind fun _ =>
      Handling.commits_tryRespond fun _ _ => Response.committed_of_commit
  · exact commits_sendAs m bs

/-- A result that is written without failing is committed, in whatever format. -/
theorem commits_write (w : ResultWriter) (v : Value) (r : Request) :
    (w.write v r : Handling σ Unit).Commits := by
  unfold write
  cases w with
  | empty => exact commits_sendNothing
  | plain =>
    dsimp only
    split
    · exact commits_sendNothing
    · split
      · exact commits_sendAs _ _
      · exact Handling.commits_throw _
  | fixed ty f =>
    dsimp only
    split
    · exact commits_sendNothing
    · exact commits_sendFormatted f f.ownType ty v
  | negotiated ty formats parameter? =>
    dsimp only
    split
    · exact commits_sendNothing
    · split
      · exact Handling.commits_bind fun _ => commits_sendFormatted _ _ ty v
      · exact Handling.commits_throw _

end ResultWriter

end RestDispatch
