import RestDispatch.Proofs.Dispatch.History
import RestDispatch.Proofs.Handler.Agreement
import RestDispatch.Proofs.Handler.DeferredRun
import RestDispatch.Proofs.Handler.Matching
import RestDispatch.Scenario.Scripted

/-!
# How a result is delivered

An application method may return its outcome at once, or something that delivers it: a
computation, a channel, a task, or a deferred result that is completed before or after someone
waits for it.  The pipeline waits in one place, so a handler does the same whichever way the
outcome comes, and everything around the method with it: advices, hooks, writer, and the data
that the application shares.

The one difference between an outcome that is returned and one that is delivered is null.
Where the declared type requires a value, a null that is delivered is a failure, while one that
is returned is written as an empty body.
-/

namespace RestDispatch

variable {σ : Type}

open Deferred in
/-- Waiting for what a method returned gives an outcome, and takes the shared data from one
state to another. -/
inductive Returned.Delivers (outcome : Except Error Value) : Returned σ → σ → σ → Prop
  | future {run : StateM σ (Except Error Value)} {s t : σ} :
      run.run s = (outcome, t) → Delivers outcome (.future run) s t
  | receiver {answer : StateM σ (Option (Except Error Value))} {s t : σ} :
      answer.run s = (some outcome, t) → Delivers outcome (.receiver answer) s t
  | task {run : StateM σ (Except String (Except Error Value))} {s t : σ} :
      run.run s = (.ok outcome, t) → Delivers outcome (.task run) s t
  /-- A deferred result that was completed before. -/
  | completed {cs : List Call} {answers : List Bool} {d : Deferred}
      {others : StateT Deferred (StateM σ) Unit} {s : σ} :
      Run cs answers d → waited cs = false → outcome? cs = some outcome →
      Delivers outcome (.deferred d others) s s
  /-- A deferred result that others complete while it is waited for. -/
  | completing {cs cs' : List Call} {answers answers' : List Bool} {d d' : Deferred}
      {others : StateT Deferred (StateM σ) Unit} {s t : σ} :
      Run cs answers d → outcome? cs = none → others.run d.wait.2 s = (((), d'), t) →
      Run (cs ++ Call.share :: Call.wait :: cs') answers' d' →
      (cs ++ Call.share :: Call.wait :: cs').countP Call.isWait ≤ 1 →
      outcome? cs' = some outcome → Delivers outcome (.deferred d others) s t

namespace Returned

variable {outcome : Except Error Value} {returned : Returned σ} {s t : σ}

theorem Delivers.isAsync (h : returned.Delivers outcome s t) : returned.isAsync = true := by
  cases h <;> rfl

/-- However an outcome is delivered, waiting gives it. -/
theorem Delivers.run_resolve (h : returned.Delivers outcome s t) :
    returned.resolve.run s = (outcome, t) := by
  cases h with
  | future hrun => exact hrun
  | @receiver answer _ _ hanswer =>
    have hanswer : answer s = (some outcome, t) := hanswer
    simp only [resolve, StateT.run, bind, StateT.bind, hanswer]
    rfl
  | @task run _ _ hrun =>
    have hrun : run s = (.ok outcome, t) := hrun
    simp only [resolve, StateT.run, bind, StateT.bind, hrun]
    rfl
  | @completed cs answers d others _ hrun hwaited houtcome =>
    have hnone : cs.countP Deferred.Call.isWait = 0 := by
      simpa [Deferred.waited, List.countP_eq_zero] using hwaited
    rw [hrun.eq_after (hnone ▸ Nat.zero_le 1)]
    exact Deferred.run_resolve_of_some hwaited houtcome _ others s
  | @completing cs cs' answers answers' d d' others _ _ hrun hnone hothers hrun' hwaits houtcome =>
    have houtcome' : Deferred.outcome? (cs ++ Deferred.Call.share :: Deferred.Call.wait :: cs') =
        some outcome := by
      rw [Deferred.outcome?_append, hnone, Option.none_or]
      exact houtcome
    have hwaited : Deferred.waited cs = false := by
      refine Deferred.waited_eq_false_of_append cs (Nat.le_trans ?_ hwaits)
      simp
    rw [hrun.eq_after (Deferred.countP_of_append hwaits)] at hothers ⊢
    rw [hrun'.eq_after hwaits] at hothers
    rw [Deferred.run_resolve_of_none hwaited (by simp [Deferred.waited]) hnone d.handles d'.handles
      hothers, houtcome', Option.getD_some]

end Returned

/-- A method that does its work at once and returns the outcome. -/
def Invoker.atOnce (work : Args → StateM σ (Except Error Value)) : Invoker σ :=
  fun args => ExceptT.mk ((Except.map Returned.value) <$> work args)

/-- A method that delivers the outcome of its work, part of which may be done before it
returns. -/
def Invoker.Promises (invoker : Invoker σ) (work : Args → StateM σ (Except Error Value)) : Prop :=
  ∀ args s, ∃ returned t, (invoker args).run.run s = (.ok returned, t) ∧
    returned.Delivers ((work args).run s).1 t ((work args).run s).2

namespace RouteHandler

variable {h : RouteHandler σ} {work : Args → StateM σ (Except Error Value)}
  {invoker invoker' : Invoker σ} {r : Request} {args : Args} {x : Exchange σ}

/-- What becomes of an outcome that is delivered: where a value is required, null is a
failure. -/
def demand (h : RouteHandler σ) : Except Error Value → Except Error Value
  | .ok v =>
    if h.requiresValue && v.isNull then .error (.nullResult h.method.qualifiedName) else .ok v
  | .error e => .error e

/-- A call ends with what waiting gives; null is held against it only when it was promised. -/
theorem runOn_call_of_returned {returned : Returned σ} {outcome : Except Error Value} {t u : σ}
    (hinvoke : (invoker args).run.run x.shared = (.ok returned, t))
    (hresolve : returned.resolve.run t = (outcome, u)) :
    ((h.calling invoker).call args).runOn x =
      (if returned.isAsync then h.demand outcome else outcome,
        { x.report (h.returnedEvent returned) with shared := u }) := by
  simp only [call, Handling.runOn_bind, Handling.runOn_application, Handling.runOn_lift,
    Handling.runOn_report, invoker_calling, returnedEvent_calling, requiresValue_calling,
    method_calling, hinvoke, Exchange.report, hresolve]
  cases outcome with
  | error e => simp [demand]
  | ok v =>
    cases returned.isAsync with
    | false => simp
    | true => cases hnull : h.requiresValue && v.isNull <;> simp [demand, hnull]

theorem runOn_call_of_error {e : Error} {t : σ}
    (hinvoke : (invoker args).run.run x.shared = (.error e, t)) :
    ((h.calling invoker).call args).runOn x = (.error e, { x with shared := t }) := by
  simp only [call, Handling.runOn_bind, Handling.runOn_application, Handling.runOn_lift,
    invoker_calling, hinvoke]

/-- The report on a result that is waited for. -/
def awaitingEvent (h : RouteHandler σ) : Event where
  level := .trace
  message := "handler returned"
  fields := [("handler", h.method.qualifiedName), ("state", Stage.asyncPending.name)]

/-- A delivered outcome is what the call of the method ends with, unless it is null where a
value is required. -/
theorem runOn_call_of_promises (hpromises : invoker.Promises work) (args : Args)
    (x : Exchange σ) : ((h.calling invoker).call args).runOn x =
      (h.demand ((work args).run x.shared).1,
        { x.report h.awaitingEvent with shared := ((work args).run x.shared).2 }) := by
  obtain ⟨returned, t, hinvoke, hdelivers⟩ := hpromises args x.shared
  rw [runOn_call_of_returned hinvoke hdelivers.run_resolve, returnedEvent, hdelivers.isAsync]
  rfl

theorem runOn_call_atOnce (work : Args → StateM σ (Except Error Value)) (args : Args)
    (x : Exchange σ) : (((h.calling (.atOnce work)).call args).runOn x).1 =
        ((work args).run x.shared).1 ∧
      (((h.calling (.atOnce work)).call args).runOn x).2.Alike
        { x with shared := ((work args).run x.shared).2 } := by
  have hinvoke : (Invoker.atOnce work args).run.run x.shared =
    (((work args).run x.shared).1.map .value, ((work args).run x.shared).2) := rfl
  rcases hwork : (work args).run x.shared with ⟨outcome, t⟩
  rw [hwork] at hinvoke
  cases outcome with
  | ok v =>
    rw [runOn_call_of_returned hinvoke rfl]
    exact ⟨rfl, rfl, rfl⟩
  | error e =>
    rw [runOn_call_of_error hinvoke]
    exact ⟨rfl, rfl, rfl⟩

/-- What the method of a handler does, when its outcome is delivered. -/
def demanded (h : RouteHandler σ) (work : Args → StateM σ (Except Error Value)) :
    Args → StateM σ (Except Error Value) :=
  fun args => h.demand <$> work args

/-- To deliver an outcome comes to the same as to return what becomes of it. -/
theorem agrees_call (hpromises : invoker.Promises work) (args : Args) :
    ((h.calling invoker).call args).Agrees
      ((h.calling (.atOnce (h.demanded work))).call args) := by
  intro x y hxy
  obtain ⟨houtcome, hstate⟩ := runOn_call_atOnce (h := h) (h.demanded work) args y
  rw [runOn_call_of_promises hpromises, houtcome, hxy.shared]
  refine ⟨rfl, Exchange.Alike.trans ?_ hstate.symm⟩
  exact ⟨hxy.response, rfl⟩

/-- Two ways to deliver an outcome make no difference at all. -/
theorem handle_eq (hpromises : invoker.Promises work) (hpromises' : invoker'.Promises work)
    (r : Request) : (h.calling invoker).handle r = (h.calling invoker').handle r := by
  have hcall : (h.calling invoker).call = (h.calling invoker').call := by
    funext args x
    exact (runOn_call_of_promises hpromises args x).trans
      (runOn_call_of_promises hpromises' args x).symm
  unfold handle invoke
  simp only [hcall, runBefore_calling]
  rfl

/-- Delivery changes nothing where no value is required, or where none is missing. -/
theorem demanded_eq
    (hnull : ∀ args s, ((work args).run s).1 = .ok .null → h.requiresValue = false) :
    h.demanded work = work := by
  funext args s
  have hdemand : h.demand ((work args).run s).1 = ((work args).run s).1 := by
    rcases houtcome : ((work args).run s).1 with e | v
    · rfl
    · rw [demand]
      cases hv : v.isNull with
      | false => rw [Bool.and_false, if_neg Bool.false_ne_true]
      | true =>
        obtain rfl : v = .null := by cases v <;> first | rfl | cases hv
        rw [hnull args s houtcome, Bool.false_and, if_neg Bool.false_ne_true]
  exact Prod.ext hdemand rfl

end RouteHandler

namespace ResultWriter

/-- However results are written, null is written as an empty body. -/
theorem write_null (w : ResultWriter) (r : Request) :
    (w.write .null r : Handling σ Unit) = sendNothing := by
  cases w <;> rfl

end ResultWriter

/-- How the outcome of a method is delivered makes no difference to a handler, and whether it is
delivered or returned makes none but for null, where the declared type is not optional. -/
structure RouteHandler.DeliversAlike (h : RouteHandler σ) (returns : Option Ty) : Prop where
  /-- All ways to deliver an outcome are the same. -/
  later : ∀ {work invoker invoker'}, Invoker.Promises invoker work →
    Invoker.Promises invoker' work → ∀ r,
      (h.calling invoker).handle r = (h.calling invoker').handle r ∧
      (h.calling invoker).RunsAlike (h.calling invoker') r
  /-- An outcome that is not null, or that may be null, is as good as returned. -/
  now : ∀ {work invoker}, Invoker.Promises invoker work →
    (∀ args s, ((work args).run s).1 = .ok .null → returns.all Ty.isOptional) → ∀ r,
      (h.calling invoker).RunsAlike (h.calling (.atOnce work)) r
  /-- A null that may not be is as good as a failure that is returned. -/
  demanded : ∀ {work invoker}, Invoker.Promises invoker work → ∀ r,
    (h.calling invoker).RunsAlike (h.calling (.atOnce (h.demanded work))) r
  nullLater : ∀ {work invoker}, Invoker.Promises invoker work →
    returns.any (fun ty => !ty.isOptional) → ∀ args x, ((work args).run x.shared).1 = .ok .null →
      (((h.calling invoker).call args).runOn x).1 = .error (.nullResult h.method.qualifiedName)
  nullNow : ∀ work args x, ((work args).run x.shared).1 = .ok .null →
    (((h.calling (.atOnce work)).call args).runOn x).1 = .ok .null
  nullWritten : ∀ r (x : Exchange σ), x.response.committed = false →
    (h.writer.write .null r).runOn x =
      (.ok (), x.respond fun response => { response with body := [], committed := true })

/-- A handler whose hooks do not read the reports does the same however its outcome comes. -/
theorem RouteHandler.deliversAlike {h : RouteHandler σ} {returns : Option Ty}
    (hhooks : h.HooksIgnoreReports)
    (hrequires : h.requiresValue = returns.any (fun ty => !ty.isOptional)) :
    h.DeliversAlike returns := by
  have hdemanded {work : Args → StateM σ (Except Error Value)} {invoker : Invoker σ}
      (hpromises : invoker.Promises work) := runsAlike_of_agrees hhooks (agrees_call hpromises)
  constructor
  case later =>
    intro work invoker invoker' hpromises hpromises' r
    refine ⟨handle_eq hpromises hpromises' r, runsAlike_of_agrees hhooks (fun args => ?_) r⟩
    exact (agrees_call hpromises args).trans (agrees_call hpromises' args).symm
  case now =>
    intro work invoker hpromises hnull r
    have hwork : h.demanded work = work := by
      refine demanded_eq fun args s houtcome => ?_
      have hoptional := hnull args s houtcome
      rw [hrequires]
      cases hreturns : returns with
      | none => rfl
      | some ty => simpa [hreturns] using hoptional
    exact hwork ▸ hdemanded hpromises r
  case demanded => exact hdemanded
  case nullLater =>
    intro work invoker hpromises hreturns args x hnull
    rw [runOn_call_of_promises hpromises, hnull, demand, hrequires, hreturns]
    rfl
  case nullNow =>
    intro work args x hnull
    rw [(runOn_call_atOnce work args x).1, hnull]
  case nullWritten =>
    intro r x hx
    rw [ResultWriter.write_null, ResultWriter.sendNothing, Handling.runOn_tryRespond,
      Response.send, hx]
    rfl

namespace Deployment

open Deploying

variable {d : Deployment σ} {decl : Declaration σ}

/-- What a handler owes to the declaration of its method and to the deployment. -/
theorem yields_buildRoute_surroundings (d : Deployment σ) (decl : Declaration σ) :
    (d.buildRoute decl).Yields fun route =>
      route.handler.requiresValue = decl.returns.any (fun ty => !ty.isOptional) ∧
      route.handler.advices = d.advices ∧
      ∃ c, InterceptorMatcher.bind d.interceptors decl.method c d.options.route.useMatrix =
        .ok route.handler.interceptors := by
  unfold buildRoute
  dsimp only
  split
  · exact yields_throw _
  · refine Yields.of_bind fun c => Yields.of_bind fun params => Yields.of_bind fun writer => ?_
    refine (yields_lift (Q := fun matcher => InterceptorMatcher.bind d.interceptors decl.method c
      d.options.route.useMatrix = .ok matcher) fun _ hbind => hbind).bind fun matcher hbind => ?_
    exact Yields.of_bind fun _ => Yields.of_bind fun _ => yields_pure ⟨rfl, rfl, c, hbind⟩

/-- The method itself plays no part in building its handler. -/
theorem buildRoute_calling (d : Deployment σ) (decl : Declaration σ)
    (invoker invoker' : Invoker σ) :
    d.buildRoute { decl with invoker := some invoker' } =
      (fun route => { route with handler := route.handler.calling invoker' }) <$>
        d.buildRoute { decl with invoker := some invoker } := by
  simp only [buildRoute, map_bind, map_pure]
  rfl

theorem exists_invoker_of_buildRoute {route : Route (RouteHandler σ)} {s s' : DeployState}
    (hroute : (d.buildRoute decl).run.run s = (.ok route, s')) :
    ∃ invoker, decl.invoker = some invoker := by
  cases hinvoker : decl.invoker with
  | none =>
    rw [buildRoute, hinvoker] at hroute
    cases hroute
  | some invoker => exact ⟨invoker, rfl⟩

/-- The same declaration with another method builds the same route with that method. -/
theorem run_buildRoute_calling {route : Route (RouteHandler σ)} {s s' : DeployState}
    (hroute : (d.buildRoute decl).run.run s = (.ok route, s')) (invoker : Invoker σ) :
    (d.buildRoute { decl with invoker := some invoker }).run.run s =
      (.ok { route with handler := route.handler.calling invoker }, s') := by
  obtain ⟨built, hbuilt⟩ := exists_invoker_of_buildRoute hroute
  have hdecl : decl = { decl with invoker := some built } := by rw [← hbuilt]
  rw [hdecl] at hroute
  rw [buildRoute_calling d decl built invoker, ExceptT.run_map, StateT.run_map, hroute]
  rfl

/-- A handler is built the same whatever its method is, and however the outcome of the method is
delivered, it does the same, with all hooks around it. -/
theorem buildRoute_deliversAlike {route : Route (RouteHandler σ)} {s s' : DeployState}
    (hroute : (d.buildRoute decl).run.run s = (.ok route, s'))
    (hinterceptors : ∀ i ∈ d.interceptors, i.IgnoresReports)
    (hadvices : ∀ advice ∈ d.advices, advice.IgnoresReports) :
    (∀ invoker, (d.buildRoute { decl with invoker := some invoker }).run.run s =
      (.ok { route with handler := route.handler.calling invoker }, s')) ∧
    route.handler.DeliversAlike decl.returns := by
  obtain ⟨hrequires, hchain, c, hbind⟩ := yields_buildRoute_surroundings d decl s s' route hroute
  have hhooks : route.handler.HooksIgnoreReports := {
    advices := hchain ▸ hadvices
    interceptors := fun r i hi =>
      hinterceptors i (InterceptorMatcher.mem_of_mem_matching hbind hi) }
  exact ⟨run_buildRoute_calling hroute, RouteHandler.deliversAlike hhooks hrequires⟩

/-- Hooks that write down what they are told. -/
def audit : Interceptor Journal where
  name := "audit"
  before m _ := do
    journal (.before "audit" m.qualifiedName)
    return true
  after _ _ := do journal (.after "audit" (← .response).committed)
  atEnd _ _ error? := do journal (.atEnd "audit" (← .response).status error?)

def timing : Advice Journal := fun m _ args rest => do
  journal (.enter "timing" m.name args.length)
  let v ← rest args
  journal (.leave "timing" (.ok v))
  return v

theorem ignoresReports_audit : audit.IgnoresReports where
  before _ _ := Handling.Agrees.bind (Handling.ignoresReports_application _) fun _ =>
    Handling.ignoresReports_pure true
  after _ _ := Handling.Agrees.bind Handling.ignoresReports_response fun _ =>
    Handling.ignoresReports_application _
  atEnd _ _ _ := Handling.Agrees.bind Handling.ignoresReports_response fun _ =>
    Handling.ignoresReports_application _

theorem ignoresReports_timing : Advice.IgnoresReports timing := fun _ _ args _ _ hrest =>
  Handling.Agrees.bind (Handling.ignoresReports_application _) fun _ =>
    (hrest args).bind fun v =>
      Handling.Agrees.bind (Handling.ignoresReports_application _) fun _ =>
        Handling.ignoresReports_pure v

def audited : Deployment Journal where
  interceptors := [audit]
  advices := [timing]

def greet : Args → StateM Journal (Except Error Value) := fun args => do
  Journal.write (.call args)
  return .ok (.string "hello")

def greeting : Declaration Journal where
  method := { name := "greet", declaring := { name := "Greetings" } }
  route := { paths := ["/greet"] }
  returns := some .string
  invoker := some (.atOnce greet)

/-- The greeting comes through a channel. -/
def greetByChannel : Invoker Journal := fun args => do
  Journal.write (.call args)
  return .receiver (return some (.ok (.string "hello")))

/-- Someone else completes the greeting while the handler waits for it. -/
def greetMeanwhile : Invoker Journal := fun args => do
  Journal.write (.call args)
  return .deferred {} (modify fun d => (d.complete (.ok (.string "hello"))).2)

theorem promises_greetByChannel : greetByChannel.Promises greet :=
  fun _ _ => ⟨_, _, rfl, .receiver rfl⟩

open Deferred in
theorem promises_greetMeanwhile : greetMeanwhile.Promises greet := by
  intro args s
  have hrun : Run [.share, .wait, .complete (.ok (.string "hello"))] [true]
      (after [.share, .wait, .complete (.ok (.string "hello"))] 1) :=
    Run.call (.complete (.ok (.string "hello")))
      (Run.call .wait (Run.call .share .start (by decide)) (by decide)) (by decide)
  exact ⟨_, _, rfl, .completing .start rfl rfl hrun (by decide) rfl⟩

theorem buildRoute_deliversAlike_greeting : ∃ route s,
    (audited.buildRoute greeting).run.run {} = (.ok route, s) ∧
    (route.handler.calling greetMeanwhile).handle (.ofUri .get "/greet") =
      (route.handler.calling greetByChannel).handle (.ofUri .get "/greet") ∧
    (route.handler.calling greetMeanwhile).RunsAlike (route.handler.calling (.atOnce greet))
      (.ofUri .get "/greet") := by
  have hok : ((audited.buildRoute greeting).run.run {}).1.isOk = true := by decide +kernel
  rcases hroute : (audited.buildRoute greeting).run.run {} with ⟨e | route, s⟩
  · rw [hroute] at hok
    cases hok
  · have halike := (buildRoute_deliversAlike hroute
      (List.forall_mem_singleton.mpr ignoresReports_audit)
      (List.forall_mem_singleton.mpr ignoresReports_timing)).2
    have hlater := halike.later promises_greetMeanwhile promises_greetByChannel
    have hnow := halike.now promises_greetMeanwhile fun args s hnull => by cases hnull
    exact ⟨route, s, rfl, (hlater _).1, hnow _⟩

end Deployment

end RestDispatch
