import RestDispatch.Dispatch.Router
import RestDispatch.Proofs.Handler.Effect
import RestDispatch.Proofs.Handler.Transcript
import RestDispatch.Proofs.Route.TableOrder

/-!
# Committed responses

A router that answers failures in the standard way ends every request with a committed
response, unless a hook in front of the handler stopped the request.  Once the hooks or the
advices have committed a response, only they can change it: the writer, the reports and the
answer to a failure leave it alone.  A failure that meets an uncommitted response is answered
with its own status and text, whatever was pending, and the answer to a fault of the server
shows nothing of its sentence.

The hooks and advices are arbitrary steps, of which only one thing is asked: that they do not
take a commitment back, as no operation on a response does.  A hook that puts a new response in
place of a committed one takes it back.  What fails at the end of a request is reported and has no
answer.
-/

namespace RestDispatch

/-- Whether a call runs hooks or advices of the application. -/
def PipelineCall.isApplication : PipelineCall → Bool
  | .before .. | .chain .. | .behind .. | .atEnd .. => true
  | .withhold | .write .. => false

/-- The hooks and advices of a handler respect a relation. -/
structure RouteHandler.Respects {σ : Type} (R : Response → Response → Prop)
    (h : RouteHandler σ) (r : Request) : Prop where
  advices : ∀ advice ∈ h.advices, advice.Respects R
  interceptors : ∀ i ∈ h.interceptors.matching r, i.Respects R

namespace RouteHandler

section

variable {σ : Type} {h : RouteHandler σ} {r : Request} {args : Args}

/-- What calls made one after the other do to a response, when those of the application are
the only ones that change it. -/
inductive ChangedBy (h : RouteHandler σ) (r : Request) (args : Args) :
    Response → List PipelineCall → Response → Prop
  | done (a : Response) : ChangedBy h r args a [] a
  | framework {a b : Response} {c : PipelineCall} {calls : List PipelineCall} :
      c.isApplication = false → ChangedBy h r args a calls b → ChangedBy h r args a (c :: calls) b
  | application {x y : Exchange σ} {b : Response} {c : PipelineCall}
      {calls : List PipelineCall} : c.isApplication = true → h.Performs r args x y c →
      ChangedBy h r args y.response calls b → ChangedBy h r args x.response (c :: calls) b

theorem respects_chain_performs {R : Response → Response → Prop} [Std.Refl R]
    [IsTrans Response R] (hadvices : ∀ advice ∈ h.advices, advice.Respects R) {x y : Exchange σ}
    {answer : Except Error Value} (hperforms : h.Performs r args x y (.chain answer)) :
    R x.response y.response := by
  have hrespects := Advice.respects_chain h.respects_call hadvices 0 args x
    (m := h.method) (r := r)
  rw [hperforms] at hrespects
  exact hrespects

theorem respects_performs {R : Response → Response → Prop} [Std.Refl R] [IsTrans Response R]
    (hR : h.Respects R r) {x y : Exchange σ} {c : PipelineCall} (hc : c.isApplication = true)
    (hperforms : h.Performs r args x y c) : R x.response y.response := by
  cases c with
  | before place answer =>
    obtain ⟨i, hi, hrun⟩ := hperforms
    have hrespects := (hR.interceptors i (List.mem_of_getElem? hi)).before h.method r x
    rw [hrun] at hrespects
    exact hrespects
  | chain answer => exact respects_chain_performs hR.advices hperforms
  | behind place answer =>
    obtain ⟨i, hi, hrun⟩ := hperforms
    have hrespects := (hR.interceptors i (List.mem_of_getElem? hi)).after h.method r x
    rw [hrun] at hrespects
    exact hrespects
  | withhold => exact absurd hc (by decide)
  | write v answer => exact Bool.noConfusion hc
  | atEnd place failure? answer =>
    obtain ⟨i, hi, hrun⟩ := hperforms
    have hrespects := (hR.interceptors i (List.mem_of_getElem? hi)).atEnd h.method r failure? x
    rw [hrun] at hrespects
    exact hrespects

open Response in
/-- From a committed response on, the application alone changes it, and it stays committed. -/
theorem Transcript.changedBy (hkeeps : h.Respects KeepsCommitment r) {x y : Exchange σ}
    {calls : List PipelineCall} (ht : Transcript h r args x calls y)
    (hx : x.response.committed = true) :
    ChangedBy h r args x.response calls y.response ∧ y.response.committed = true := by
  induction ht with
  | done x => exact ⟨.done x.response, hx⟩
  | report e _ ih => exact ih hx
  | @call x y z c calls hperforms _ ih =>
    by_cases hc : c.isApplication = true
    · have hy : y.response.committed = true := respects_performs hkeeps hc hperforms hx
      exact ⟨.application hc hperforms (ih hy).1, (ih hy).2⟩
    · cases c with
      | withhold =>
        obtain ⟨-, rfl⟩ := hperforms
        exact ⟨.framework rfl (ih hx).1, (ih hx).2⟩
      | write v answer =>
        rw [hperforms.1] at hx
        exact Bool.noConfusion hx
      | before | chain | behind | atEnd => exact absurd rfl hc

/-- A hook in front of the handler answers that the request is not to go on, when hooks run one
after the other. -/
inductive Stops (h : RouteHandler σ) (r : Request) : List (Interceptor σ) → Exchange σ → Prop
  | here {i : Interceptor σ} {rest : List (Interceptor σ)} {x y : Exchange σ} :
      (i.before h.method r).runOn x = (.ok false, y) → Stops h r (i :: rest) x
  | later {i : Interceptor σ} {rest : List (Interceptor σ)} {x y : Exchange σ} :
      (i.before h.method r).runOn x = (.ok true, y) → Stops h r rest y → Stops h r (i :: rest) x

theorem stops_of_runBefore {is entered : List (Interceptor σ)} {x y : Exchange σ}
    (hrun : (h.runBefore r is).runOn x = (.ok (entered, some (.ok ())), y)) : h.Stops r is x := by
  induction is generalizing x entered with
  | nil => simp [runBefore] at hrun
  | cons i rest ih =>
    rw [runBefore, Handling.runOn_bind, Handling.runOn_attempt] at hrun
    rcases hi : (i.before h.method r).runOn x with ⟨answer, z⟩
    rw [hi] at hrun
    cases answer with
    | error e => simp at hrun
    | ok proceeds =>
      cases proceeds with
      | false => exact .here hi
      | true =>
        simp only [Handling.runOn_bind] at hrun
        rcases hrest : (h.runBefore r rest).runOn z with ⟨e | ⟨others, outcome⟩, w⟩
        · simp [hrest] at hrun
        · simp only [hrest, Handling.runOn_pure, Prod.mk.injEq, Except.ok.injEq] at hrun
          obtain ⟨⟨-, rfl⟩, rfl⟩ := hrun
          exact .later hi (ih hrest)

theorem commits_writeResult (v : Value) : (h.writeResult r v).Commits := by
  intro x y a hrun
  cases hx : x.response.committed with
  | true =>
    unfold writeResult at hrun
    rw [Handling.runOn_bind, Handling.runOn_response] at hrun
    obtain rfl : x = y := by simpa [hx] using hrun
    exact hx
  | false =>
    obtain ⟨z, hwrite⟩ := h.exists_write_of_writeResult hx hrun
    exact h.writer.commits_write v r z y a hwrite

theorem commits_invoke (is : List (Interceptor σ)) : (h.invoke r is args).Commits :=
  Handling.commits_bind fun _ => Handling.commits_bind fun v => Handling.commits_bind fun _ =>
    Handling.commits_bind fun _ => commits_writeResult v

/-- A run as calls up to the hooks at the end, and those; a run that succeeds has committed the
response in front of the hooks at the end, unless it was stopped. -/
theorem exists_transcript (hargs : h.arguments r = .ok args) (x : Exchange σ) :
    ∃ (calls ends : List PipelineCall) (z : Exchange σ),
      Transcript h r args x calls z ∧
      Transcript h r args z ends ((h.handle r).runOn x).2 ∧
      (((h.handle r).runOn x).1 = .ok () → z.response.committed = true ∨
        h.Stops r (h.interceptors.matching r) (x.report (h.stageEvent .resolvingArgs))) := by
  obtain ⟨befores, y, hbefores, hcalls, hbefore⟩ := runBefore_transcript args
    (h.interceptors.matching r) 0 (x.report (h.stageEvent .resolvingArgs)) List.drop_zero
  have hclosing (failed? : Option Error) (z : Exchange σ) : ∃ ends w,
      Transcript h r args (z.report (h.stageEvent .completing)) ends w ∧
      (h.runAtEnd r failed? ((h.interceptors.matching r).take (befores.countP (·.isOk)))).runOn
        (z.report (h.stageEvent .completing)) = (.ok (), w) := by
    obtain ⟨answers, w, -, hends, hrun⟩ := runAtEnd_transcript args failed? _
      (z.report (h.stageEvent .completing))
      (h.placed_firstPlaced (r := r) (befores.countP (·.isOk)))
    rw [map_snd_firstPlaced (entered_le hbefores)] at hrun
    exact ⟨_, w, hends, hrun⟩
  cases hstop : befores.findSome? stopping? with
  | some outcome =>
    obtain ⟨ends, w, hends, hrun⟩ := hclosing (failure? outcome) y
    have hhandle : (h.handle r).runOn x = (outcome, w.report (h.stageEvent .terminal)) := by
      simp [handle, Handling.runOn_bind, hargs, hbefore, hstop, hrun]
    rw [hhandle]
    refine ⟨_, _, y, .report _ hcalls, .report _ (hends.append (.report _ (.done _))), ?_⟩
    rintro rfl
    rw [hstop] at hbefore
    exact .inr (stops_of_runBefore hbefore)
  | none =>
    obtain ⟨i, z, -, hinvoke, hresult⟩ := h.invoke_transcript (r := r) args y
    obtain ⟨ends, w, hends, hrun⟩ := hclosing i.failure? z
    have hhandle : (h.handle r).runOn x =
        (outcomeOf i.failure?, w.report (h.stageEvent .terminal)) := by
      simp [handle, Handling.runOn_bind, hargs, hbefore, hstop, hresult, hrun]
    rw [hhandle]
    refine ⟨_, _, z, .report _ (hcalls.append hinvoke),
      .report _ (hends.append (.report _ (.done _))), fun hok => .inl ?_⟩
    have houtcome : outcomeOf i.failure? = .ok () := hok
    rw [houtcome] at hresult
    exact commits_invoke _ y z () hresult

end

end RouteHandler

namespace FailureAnswer

theorem statusCode_head (e : Error) (a : Response) : (head e a).status = e.statusCode := by
  cases e <;> rfl

/-- The answer to a fault of the server shows its status alone. -/
theorem text_eq_of_isServerError {e e' : Error} (he : e.isServerError = true)
    (hstatus : e'.statusCode = e.statusCode) : text e' = text e := by
  have he' : e'.isServerError = true := by
    rw [Error.isServerError, hstatus]
    exact he
  rw [text, text, if_pos he, if_pos he', Error.namedStatus, Error.namedStatus, hstatus]

theorem head_eq_of_isServerError {e e' : Error} (he : e.isServerError = true)
    (hstatus : e'.statusCode = e.statusCode) (a : Response) : head e' a = head e a := by
  have hplain : ∀ f : Error, f.statusCode = e.statusCode →
      head f a = { a with status := e.statusCode }.setHeader "Content-Type"
        MediaType.textPlainUtf8.header := by
    rintro f hf
    rw [← hf]
    cases f with
    | methodNotAllowed allowed =>
      have hserver : Status.isServerCode Status.methodNotAllowed.code = true := by
        rw [Error.isServerError, ← hf] at he
        exact he
      exact absurd hserver (by decide)
    | _ => rfl
  rw [hplain e' hstatus, hplain e rfl]

section

variable {σ : Type} {e : Error} {r : Request} {x : Exchange σ}

theorem standard_of_committed (h : x.response.committed = true) :
    (standard e r x).response = x.response := by
  have hreported : (x.report (event e r)).response.committed = true := h
  rw [standard, if_pos hreported]
  rfl

theorem standard_of_not_committed (h : x.response.committed = false) :
    (standard e r x).response =
      { head e x.response with body := Text.bytes (text e), committed := true } := by
  have hreported : ¬(x.report (event e r)).response.committed = true :=
    Bool.eq_false_iff.mp h
  rw [standard, if_neg hreported]
  rfl

end

end FailureAnswer

namespace Router

variable {σ : Type}

/-- The hooks and advices for a request change the response as its operations can. -/
def KeepsCommitment (router : Router σ) (r : Request) : Prop :=
  ∀ h r', router.receive r = .ok (h, r') → h.Respects Response.KeepsCommitment r'

/-- What becomes of the response of a dispatch. -/
structure Settles (router : Router σ) (r : Request) (x : Exchange σ) : Prop where
  /-- It is committed, unless a hook in front of the handler stopped the request. -/
  committed : router.KeepsCommitment r →
    (router.dispatch r x).response.committed = true ∨
      ∃ h r', router.receive r = .ok (h, r') ∧
        h.Stops r' (h.interceptors.matching r') (x.report (h.stageEvent .resolvingArgs))
  /-- From wherever in the run it is committed on, the application alone changes it. -/
  kept : router.KeepsCommitment r →
    ∀ h r' args, router.receive r = .ok (h, r') → h.arguments r' = .ok args →
    ∃ calls, h.Transcript r' args x calls ((h.handle r').runOn x).2 ∧
      ∀ earlier later w, calls = earlier ++ later → h.Transcript r' args x earlier w →
        h.Transcript r' args w later ((h.handle r').runOn x).2 → w.response.committed = true →
          h.ChangedBy r' args w.response later (router.dispatch r x).response
  /-- In a chain, the advices alone change it. -/
  keptInChain : ∀ h r' args (R : Response → Response → Prop), router.receive r = .ok (h, r') →
    Std.Refl R → IsTrans Response R → (∀ advice ∈ h.advices, advice.Respects R) →
      ∀ w y answer, h.Performs r' args w y (.chain answer) → R w.response y.response
  /-- A failure that leaves it uncommitted gives it status, text and headers. -/
  failed : ∀ e z, (router.tryDispatch r).runOn x = (.error e, z) →
    z.response.committed = false →
      (router.dispatch r x).response =
        { status := e.statusCode
          headers := (FailureAnswer.head e z.response).headers
          body := Text.bytes (FailureAnswer.text e)
          committed := true } ∧
      (e.isServerError = true → ∀ e' r', e'.statusCode = e.statusCode →
        (FailureAnswer.standard e' r' z).response = (router.dispatch r x).response)

theorem dispatch_eq_standard {router : Router σ} (hanswer : router.answer = .standard)
    {r : Request} {x z : Exchange σ} {e : Error}
    (h : (router.tryDispatch r).runOn x = (.error e, z)) :
    router.dispatch r x = FailureAnswer.standard e (router.bound r) z := by
  simp only [dispatch, h, hanswer]

theorem dispatch_of_ok {router : Router σ} {r : Request} {x z : Exchange σ}
    (h : (router.tryDispatch r).runOn x = (.ok (), z)) : router.dispatch r x = z := by
  simp only [dispatch, h]

theorem tryDispatch_of_receive {router : Router σ} {r r' : Request} {h : RouteHandler σ}
    (hreceive : router.receive r = .ok (h, r')) (x : Exchange σ) :
    (router.tryDispatch r).runOn x = (h.handle r').runOn x := by
  simp [tryDispatch, Handling.runOn_bind, hreceive]

theorem exists_of_tryDispatch {router : Router σ} {r : Request} {x z : Exchange σ}
    (h : (router.tryDispatch r).runOn x = (.ok (), z)) :
    ∃ handler r' args, router.receive r = .ok (handler, r') ∧ handler.arguments r' = .ok args := by
  rcases hreceive : router.receive r with e | ⟨handler, r'⟩
  · simp [tryDispatch, Handling.runOn_bind, hreceive] at h
  · rw [tryDispatch_of_receive hreceive] at h
    rcases hargs : handler.arguments r' with e | args
    · simp [RouteHandler.handle, Handling.runOn_bind, hargs] at h
    · exact ⟨handler, r', args, rfl, hargs⟩

/-- A response that is committed when the handler is done stays as it is. -/
theorem response_dispatch {router : Router σ} (hanswer : router.answer = .standard)
    {r : Request} {x : Exchange σ}
    (h : ((router.tryDispatch r).runOn x).2.response.committed = true) :
    (router.dispatch r x).response = ((router.tryDispatch r).runOn x).2.response := by
  rcases hrun : (router.tryDispatch r).runOn x with ⟨e | ⟨⟩, z⟩
  · rw [hrun] at h
    rw [dispatch_eq_standard hanswer hrun]
    exact FailureAnswer.standard_of_committed h
  · rw [dispatch_of_ok hrun]

theorem committed_or_stops {router : Router σ} (hanswer : router.answer = .standard)
    {r : Request} (hkeeps : router.KeepsCommitment r) (x : Exchange σ) :
    (router.dispatch r x).response.committed = true ∨
      ∃ h r', router.receive r = .ok (h, r') ∧
        h.Stops r' (h.interceptors.matching r') (x.report (h.stageEvent .resolvingArgs)) := by
  rcases hrun : (router.tryDispatch r).runOn x with ⟨e | ⟨⟩, z⟩
  · left
    rw [dispatch_eq_standard hanswer hrun]
    by_cases hz : z.response.committed = true
    · rw [FailureAnswer.standard_of_committed hz]
      exact hz
    · rw [FailureAnswer.standard_of_not_committed (Bool.eq_false_iff.mpr hz)]
  · obtain ⟨h, r', args, hreceive, hargs⟩ := exists_of_tryDispatch hrun
    have hhandle := (tryDispatch_of_receive hreceive x).symm.trans hrun
    obtain ⟨calls, ends, w, -, hends, hcommitted⟩ := RouteHandler.exists_transcript hargs x
    rw [hhandle] at hends hcommitted
    rcases hcommitted rfl with hw | hstops
    · left
      rw [dispatch_of_ok hrun]
      exact (hends.changedBy (hkeeps h r' hreceive) hw).2
    · exact .inr ⟨h, r', hreceive, hstops⟩

/-- What the rest of a run does to a committed response is all that happens to it. -/
theorem changedBy_dispatch {router : Router σ} (hanswer : router.answer = .standard)
    {r r' : Request} (hkeeps : router.KeepsCommitment r) {h : RouteHandler σ} {args : Args}
    (hreceive : router.receive r = .ok (h, r')) {x w : Exchange σ} {later : List PipelineCall}
    (hlater : h.Transcript r' args w later ((h.handle r').runOn x).2)
    (hw : w.response.committed = true) :
    h.ChangedBy r' args w.response later (router.dispatch r x).response := by
  obtain ⟨hchanged, hcommitted⟩ := hlater.changedBy (hkeeps h r' hreceive) hw
  rw [← tryDispatch_of_receive hreceive] at hchanged hcommitted
  rw [response_dispatch hanswer hcommitted]
  exact hchanged

theorem response_dispatch_of_error {router : Router σ} (hanswer : router.answer = .standard)
    {r : Request} {x z : Exchange σ} {e : Error}
    (hrun : (router.tryDispatch r).runOn x = (.error e, z)) (hz : z.response.committed = false) :
    (router.dispatch r x).response =
      { FailureAnswer.head e z.response with
        body := Text.bytes (FailureAnswer.text e)
        committed := true } := by
  rw [dispatch_eq_standard hanswer hrun, FailureAnswer.standard_of_not_committed hz]

/-- Every request ends with a committed response unless it was stopped; what the application
has committed it alone can change; and a failure is answered with nothing but itself. -/
theorem dispatch_settles (router : Router σ) (hanswer : router.answer = .standard) (r : Request)
    (x : Exchange σ) : router.Settles r x where
  committed hkeeps := committed_or_stops hanswer hkeeps x
  kept hkeeps h r' args hreceive hargs := by
    obtain ⟨calls, ends, z, hcalls, hends, -⟩ := RouteHandler.exists_transcript hargs x
    refine ⟨calls ++ ends, hcalls.append hends, ?_⟩
    intro earlier later w _ _ hlater hw
    exact changedBy_dispatch hanswer hkeeps hreceive hlater hw
  keptInChain h r' args R _ _ _ hadvices w y answer hperforms :=
    RouteHandler.respects_chain_performs hadvices hperforms
  failed e z hrun hz := by
    rw [response_dispatch_of_error hanswer hrun hz]
    refine ⟨by simp only [FailureAnswer.statusCode_head], fun he e' r' hstatus => ?_⟩
    rw [FailureAnswer.standard_of_not_committed hz,
      FailureAnswer.text_eq_of_isServerError he hstatus,
      FailureAnswer.head_eq_of_isServerError he hstatus]

theorem receive_of_find {router : Router σ} {r : Request}
    {p : Route (RouteHandler σ) × RouteMatch} (h : router.table.find r = .ok p) :
    router.receive r = .ok (p.1.handler, r.bindRoute p.2) := by
  rw [receive, h, Except.map]

/-- What a handler receives is the request bound to its route. -/
theorem exists_of_receive {router : Router σ} {r b : Request} {h : RouteHandler σ}
    (hreceive : router.receive r = .ok (h, b)) :
    ∃ route found, router.table.find r = .ok (route, found) ∧ route.handler = h ∧
      r.bindRoute found = b := by
  cases hfind : router.table.find r with
  | error e => simp [receive, hfind, Except.map] at hreceive
  | ok p =>
    cases (receive_of_find hfind).symm.trans hreceive
    exact ⟨p.1, p.2, rfl, rfl, rfl⟩

theorem mem_of_receive {router : Router σ} {r b : Request} {h : RouteHandler σ}
    (hreceive : router.receive r = .ok (h, b)) :
    ∃ route ∈ router.table.routes, route.handler = h := by
  obtain ⟨route, found, hfind, hhandler, -⟩ := exists_of_receive hreceive
  obtain ⟨-, before, behind, hsplit, -⟩ :=
    RouteTable.search_eq_ok (RouteTable.search_of_find hfind)
  exact ⟨route, hsplit ▸ List.mem_append_right before List.mem_cons_self, hhandler⟩

/-- A hook that answers in front of the handler. -/
def early : Interceptor Unit where
  name := "early"
  before _ _ := do
    .respond (·.setHeader "Retry-After" "1")
    .tryRespond (·.send (Text.bytes "busy"))
    return true

/-- One route, with one hook. -/
def pets (hook : Interceptor Unit) (invoker : Invoker Unit) : Router Unit where
  table := {
    routes := [{
      condition := {
        patterns := [⟨"/pets", [.literal "pets"]⟩]
        methods := []
        consumes := []
        produces := []
        headers := []
        params := [] }
      name := "Pets.show"
      handler := {
        method := { name := "show", declaring := { name := "Pets" } }
        params := []
        interceptors := { fixed := [⟨0, hook⟩], matrix := true }
        advices := []
        invoker := invoker
        requiresValue := false
        status? := none
        writer := .plain } }] }

def noPets : Invoker Unit := fun _ => throw (.internal "no pets")

/-- The handler fails behind the early answer. -/
def busy : Router Unit := pets early noPets

open Handling in
theorem respects_early : early.Respects Response.KeepsCommitment where
  before _ _ := by
    have hheader : ∀ a : Response, a.KeepsCommitment (a.setHeader "Retry-After" "1") :=
      fun a => (Response.Operation.setHeaders a _).keepsCommitment
    have hsend : ∀ a b : Response, a.send (Text.bytes "busy") = .ok b → a.KeepsCommitment b :=
      fun a b hsend => (Response.Operation.send hsend).keepsCommitment
    exact (respects_respond hheader).bind fun _ =>
      (respects_tryRespond hsend).bind fun _ => respects_pure true
  after _ _ := respects_pure ()
  atEnd _ _ _ := respects_pure ()

/-- The early answer stays although the handler fails. -/
theorem dispatch_settles_busy :
    busy.answer = .standard ∧ busy.KeepsCommitment (.ofUri .get "/pets") ∧
    busy.Settles (.ofUri .get "/pets") { shared := () } ∧
    (busy.dispatch (.ofUri .get "/pets") { shared := () }).response =
      { headers := Headers.empty.insert "Retry-After" "1"
        body := Text.bytes "busy"
        committed := true } := by
  have hkeeps : busy.KeepsCommitment (.ofUri .get "/pets") := by
    intro h r' hreceive
    obtain ⟨route, hroute, rfl⟩ := mem_of_receive hreceive
    obtain rfl := List.mem_singleton.mp hroute
    refine ⟨fun advice hadvice => absurd hadvice List.not_mem_nil, fun i hi => ?_⟩
    obtain rfl := List.mem_singleton.mp hi
    exact respects_early
  exact ⟨rfl, hkeeps, dispatch_settles busy rfl _ _, by decide +kernel⟩

/-- The response of a router to a request for pets. -/
def shown (router : Router Unit) : Response :=
  (router.dispatch (.ofUri .get "/pets") { shared := () }).response

/-- At the end a hook puts a new response in place of the one there is. -/
def resetting (hook : Interceptor Unit) : Interceptor Unit :=
  { hook with atEnd := fun _ _ _ => .respond fun _ => {} }

/-- A hook that stops requests, and fails at their end. -/
def stopping : Interceptor Unit where
  name := "stopping"
  before _ _ := pure false
  atEnd _ _ _ := throw (.internal "too late")

/-- With a hook that takes commitments back, a request that none has stopped ends without one,
and the answer to a failure takes the place of what was committed.  And what fails at the end of
a request that was stopped is not answered. -/
theorem not_dispatch_settles :
    (∀ m r x, ((resetting { name := "hook" }).before m r).runOn x = (.ok true, x)) ∧
    (shown (pets (resetting { name := "hook" }) fun _ => return .value (.string "tom"))).committed =
      false ∧
    (shown busy).body = Text.bytes "busy" ∧
    (shown (pets (resetting early) noPets)).body = Text.bytes "Internal Server Error" ∧
    shown (pets stopping noPets) = {} := by
  refine ⟨fun _ _ _ => rfl, ?_⟩
  decide +kernel

end Router

end RestDispatch
