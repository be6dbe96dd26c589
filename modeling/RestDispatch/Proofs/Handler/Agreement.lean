import RestDispatch.Proofs.Handler.Transcript

/-!
# Steps that differ in their reports

Reports tell an operator what happened; nothing that handles a request is given them.  Two
steps agree when, from states that differ at most in their reports, they have the same outcome
and lead to such states.  What is put together from steps that agree agrees, so handlers that
call application methods which agree do so as a whole, whatever hooks stand around them.
-/

namespace RestDispatch

variable {σ α β : Type}

/-- Two states differ at most in their reports. -/
structure Exchange.Alike (x y : Exchange σ) : Prop where
  response : x.response = y.response
  shared : x.shared = y.shared

namespace Exchange

variable {x y z : Exchange σ}

theorem Alike.refl (x : Exchange σ) : x.Alike x := ⟨rfl, rfl⟩

theorem Alike.symm (h : x.Alike y) : y.Alike x := ⟨h.response.symm, h.shared.symm⟩

theorem Alike.trans (h : x.Alike y) (h' : y.Alike z) : x.Alike z :=
  ⟨h.response.trans h'.response, h.shared.trans h'.shared⟩

theorem Alike.report (h : x.Alike y) (e e' : Event) : (x.report e).Alike (y.report e') :=
  ⟨h.response, h.shared⟩

theorem Alike.respond (h : x.Alike y) (f : Response → Response) :
    (x.respond f).Alike (y.respond f) :=
  ⟨congrArg f h.response, h.shared⟩

end Exchange

namespace Handling

/-- Two steps differ at most in their reports, and in no way depend on earlier ones. -/
def Agrees (step step' : Handling σ α) : Prop :=
  ∀ ⦃x y : Exchange σ⦄, x.Alike y →
    (step.runOn x).1 = (step'.runOn y).1 ∧ (step.runOn x).2.Alike (step'.runOn y).2

/-- A step in no way depends on earlier reports. -/
def IgnoresReports (step : Handling σ α) : Prop := step.Agrees step

theorem Agrees.symm {step step' : Handling σ α} (h : step.Agrees step') : step'.Agrees step := by
  intro x y hxy
  obtain ⟨houtcome, hstate⟩ := h hxy.symm
  exact ⟨houtcome.symm, hstate.symm⟩

theorem Agrees.trans {step step' step'' : Handling σ α} (h : step.Agrees step')
    (h' : step'.Agrees step'') : step.Agrees step'' := by
  intro x y hxy
  obtain ⟨houtcome, hstate⟩ := h (.refl x)
  obtain ⟨houtcome', hstate'⟩ := h' hxy
  exact ⟨houtcome.trans houtcome', hstate.trans hstate'⟩

theorem ignoresReports_pure (a : α) : (pure a : Handling σ α).IgnoresReports :=
  fun _ _ hxy => ⟨rfl, hxy⟩

theorem ignoresReports_throw (e : Error) : (throw e : Handling σ α).IgnoresReports :=
  fun _ _ hxy => ⟨rfl, hxy⟩

theorem ignoresReports_lift (result : Except Error α) :
    (lift result : Handling σ α).IgnoresReports := by
  intro x y hxy
  rw [runOn_lift, runOn_lift]
  exact ⟨rfl, hxy⟩

theorem agrees_report (e e' : Event) : (report e : Handling σ Unit).Agrees (report e') :=
  fun _ _ hxy => ⟨rfl, hxy.report e e'⟩

theorem ignoresReports_response : (response : Handling σ Response).IgnoresReports :=
  fun _ _ hxy => ⟨congrArg Except.ok hxy.response, hxy⟩

theorem ignoresReports_respond (f : Response → Response) :
    (respond f : Handling σ Unit).IgnoresReports :=
  fun _ _ hxy => ⟨rfl, hxy.respond f⟩

/-- Headers are told before the outcome of a step that changes them is taken. -/
theorem ignoresReports_withHeaders (step : Headers → Except Error α × Headers) :
    (withHeaders step : Handling σ α).IgnoresReports := by
  intro x y hxy
  rw [runOn_withHeaders, runOn_withHeaders, hxy.response]
  exact ⟨rfl, hxy.respond ({ · with headers := (step y.response.headers).2 })⟩

theorem ignoresReports_tryRespond (f : Response → Except Error Response) :
    (tryRespond f : Handling σ Unit).IgnoresReports := by
  intro x y hxy
  rw [runOn_tryRespond, runOn_tryRespond, hxy.response]
  cases f y.response with
  | ok b => exact ⟨rfl, hxy.respond fun _ => b⟩
  | error e => exact ⟨rfl, hxy⟩

theorem ignoresReports_application (step : StateM σ α) :
    (application step).IgnoresReports := by
  intro x y hxy
  rw [runOn_application, runOn_application, hxy.shared]
  exact ⟨rfl, hxy.response, rfl⟩

theorem Agrees.attempt {step step' : Handling σ α} (h : step.Agrees step') :
    (attempt step).Agrees (attempt step') := by
  intro x y hxy
  rw [runOn_attempt, runOn_attempt]
  exact ⟨congrArg Except.ok (h hxy).1, (h hxy).2⟩

theorem Agrees.exists_runOn {step step' : Handling σ α} (h : step.Agrees step')
    {x x' y : Exchange σ} {outcome : Except Error α} (hx : x.Alike x')
    (hrun : step.runOn x = (outcome, y)) : ∃ y', step'.runOn x' = (outcome, y') ∧ y.Alike y' := by
  have hsteps := h hx
  rw [hrun] at hsteps
  exact ⟨(step'.runOn x').2, Prod.ext hsteps.1.symm rfl, hsteps.2⟩

/-- What follows has to agree on the values that the first step can give. -/
theorem Agrees.bind_of_runOn {step step' : Handling σ α} {next next' : α → Handling σ β}
    (h : step.Agrees step')
    (hnext : ∀ a x y, step.runOn x = (.ok a, y) → (next a).Agrees (next' a)) :
    (step >>= next).Agrees (step' >>= next') := by
  intro x y hxy
  rcases hrun : step.runOn x with ⟨outcome, z⟩
  obtain ⟨z', hrun', hz⟩ := h.exists_runOn hxy hrun
  rw [runOn_bind, runOn_bind, hrun, hrun']
  cases outcome with
  | error e => exact ⟨rfl, hz⟩
  | ok a => exact hnext a x z hrun hz

theorem Agrees.bind {step step' : Handling σ α} {next next' : α → Handling σ β}
    (h : step.Agrees step') (hnext : ∀ a, (next a).Agrees (next' a)) :
    (step >>= next).Agrees (step' >>= next') :=
  h.bind_of_runOn fun a _ _ _ => hnext a

theorem ignoresReports_forM {step : α → Handling σ Unit} {as : List α}
    (h : ∀ a ∈ as, (step a).IgnoresReports) : (as.forM step).IgnoresReports := by
  induction as with
  | nil => exact ignoresReports_pure ()
  | cons a as ih =>
    obtain ⟨hstep, hrest⟩ := List.forall_mem_cons.mp h
    exact Agrees.bind hstep fun _ => ih hrest

end Handling

open Handling

/-- An advice does not read the reports: around rests of a chain that agree it agrees with
itself. -/
def Advice.IgnoresReports (advice : Advice σ) : Prop :=
  ∀ (m : HandlerMethod) (r : Request) (args : Args) (rest rest' : Args → Handling σ Value),
    (∀ args, (rest args).Agrees (rest' args)) →
    (advice m r args rest).Agrees (advice m r args rest')

/-- No hook of an interceptor reads the reports. -/
structure Interceptor.IgnoresReports (i : Interceptor σ) : Prop where
  before : ∀ m r, (i.before m r).IgnoresReports
  after : ∀ m r, (i.after m r).IgnoresReports
  atEnd : ∀ m r error?, (i.atEnd m r error?).IgnoresReports

/-- Chains of the same advices agree when what they stand around does. -/
theorem Advice.agrees_chain {m : HandlerMethod} {r : Request}
    {invoke invoke' : Args → Handling σ Value}
    (hinvoke : ∀ args, (invoke args).Agrees (invoke' args))
    {advices : List (Advice σ)} (hadvices : ∀ advice ∈ advices, advice.IgnoresReports)
    (index : Nat) (args : Args) :
    (chain m r invoke index advices args).Agrees (chain m r invoke' index advices args) := by
  induction advices generalizing index args with
  | nil =>
    rw [chain, chain]
    exact (agrees_report _ _).bind fun _ => hinvoke args
  | cons advice rest ih =>
    obtain ⟨hadvice, hrest⟩ := List.forall_mem_cons.mp hadvices
    rw [chain, chain]
    exact (agrees_report _ _).bind fun _ => hadvice m r args _ _ fun args => ih hrest _ args

namespace ResultWriter

theorem ignoresReports_sendAs (m : MediaType) (bs : Bytes) :
    (sendAs m bs : Handling σ Unit).IgnoresReports :=
  Agrees.bind (ignoresReports_respond _) fun _ => ignoresReports_tryRespond _

theorem ignoresReports_sendFormatted (f : BodyFormat) (m : MediaType) (ty : Ty) (v : Value) :
    (sendFormatted f m ty v : Handling σ Unit).IgnoresReports := by
  unfold sendFormatted
  refine Agrees.bind (ignoresReports_withHeaders _) fun bs => ?_
  split
  · exact Agrees.bind (ignoresReports_respond _) fun _ => ignoresReports_tryRespond _
  · exact ignoresReports_sendAs m bs

theorem ignoresReports_write (w : ResultWriter) (v : Value) (r : Request) :
    (w.write v r : Handling σ Unit).IgnoresReports := by
  unfold write
  cases w with
  | empty => exact ignoresReports_tryRespond _
  | plain =>
    dsimp only
    split
    · exact ignoresReports_tryRespond _
    · split
      · exact ignoresReports_sendAs _ _
      · exact ignoresReports_throw _
  | fixed ty f =>
    dsimp only
    split
    · exact ignoresReports_tryRespond _
    · exact ignoresReports_sendFormatted f f.ownType ty v
  | negotiated ty formats parameter? =>
    dsimp only
    split
    · exact ignoresReports_tryRespond _
    · split
      · exact Agrees.bind (agrees_report _ _) fun _ => ignoresReports_sendFormatted _ _ ty v
      · exact ignoresReports_throw _

end ResultWriter

namespace RouteHandler

/-- None of the hooks of a handler reads the reports. -/
structure HooksIgnoreReports (h : RouteHandler σ) : Prop where
  advices : ∀ advice ∈ h.advices, advice.IgnoresReports
  interceptors : ∀ r, ∀ i ∈ h.interceptors.matching r, i.IgnoresReports

/-- A handler with another application method. -/
def calling (h : RouteHandler σ) (invoker : Invoker σ) : RouteHandler σ :=
  { h with invoker := invoker }

section

variable (h : RouteHandler σ) (invoker : Invoker σ)

@[simp] theorem invoker_calling : (h.calling invoker).invoker = invoker := rfl

@[simp] theorem method_calling : (h.calling invoker).method = h.method := rfl

@[simp] theorem requiresValue_calling :
    (h.calling invoker).requiresValue = h.requiresValue := rfl

@[simp] theorem returnedEvent_calling (returned : Returned σ) :
    (h.calling invoker).returnedEvent returned = h.returnedEvent returned := rfl

end

variable {h : RouteHandler σ} {r : Request}

theorem ignoresReports_runBefore {is : List (Interceptor σ)}
    (his : ∀ i ∈ is, i.IgnoresReports) : (h.runBefore r is).IgnoresReports := by
  induction is with
  | nil => exact ignoresReports_pure _
  | cons i is ih =>
    obtain ⟨hi, his⟩ := List.forall_mem_cons.mp his
    unfold runBefore
    refine Agrees.bind (Agrees.attempt (hi.before h.method r)) fun answer => ?_
    split
    · exact Agrees.bind (ih his) fun (entered, outcome) => ignoresReports_pure _
    · exact Agrees.bind (agrees_report _ _) fun _ => ignoresReports_pure _
    · exact ignoresReports_pure _

theorem ignoresReports_runAfter {is : List (Interceptor σ)}
    (his : ∀ i ∈ is, i.IgnoresReports) : (h.runAfter r is).IgnoresReports :=
  ignoresReports_forM fun i hi => (his i (List.mem_reverse.mp hi)).after h.method r

theorem ignoresReports_runAtEnd {entered : List (Interceptor σ)}
    (hentered : ∀ i ∈ entered, i.IgnoresReports) (error? : Option Error) :
    (h.runAtEnd r error? entered).IgnoresReports := by
  refine ignoresReports_forM fun i hi => ?_
  have hend := (hentered i (List.mem_reverse.mp hi)).atEnd h.method r error?
  refine Agrees.bind (Agrees.attempt hend) fun answer => ?_
  split
  · exact ignoresReports_pure _
  · exact agrees_report _ _

theorem ignoresReports_writeResult (v : Value) : (h.writeResult r v).IgnoresReports := by
  unfold writeResult
  refine Agrees.bind ignoresReports_response fun response => ?_
  split
  · split
    · exact Agrees.bind (ignoresReports_respond _) fun _ => h.writer.ignoresReports_write v r
    · exact h.writer.ignoresReports_write v r
  · exact ignoresReports_pure _

variable {invoker invoker' : Invoker σ}

theorem runBefore_calling (is : List (Interceptor σ)) :
    (h.calling invoker).runBefore r is = h.runBefore r is := by
  induction is with
  | nil => rfl
  | cons i is ih =>
    unfold runBefore
    rw [ih]
    rfl

theorem agrees_invoke (hhooks : h.HooksIgnoreReports)
    (hcall : ∀ args, ((h.calling invoker).call args).Agrees ((h.calling invoker').call args))
    (args : Args) :
    ((h.calling invoker).invoke r (h.interceptors.matching r) args).Agrees
      ((h.calling invoker').invoke r (h.interceptors.matching r) args) := by
  unfold invoke
  refine (agrees_report _ _).bind fun _ => ?_
  refine (Advice.agrees_chain hcall hhooks.advices 0 args).bind fun v => ?_
  refine (agrees_report _ _).bind fun _ => ?_
  refine (ignoresReports_runAfter (h := h) (hhooks.interceptors r)).bind fun _ => ?_
  exact ignoresReports_writeResult (h := h) v

/-- Handlers whose application methods agree do so as a whole. -/
theorem agrees_handle (hhooks : h.HooksIgnoreReports)
    (hcall : ∀ args, ((h.calling invoker).call args).Agrees ((h.calling invoker').call args)) :
    ((h.calling invoker).handle r).Agrees ((h.calling invoker').handle r) := by
  have hinterceptors := hhooks.interceptors r
  unfold handle
  simp only [runBefore_calling]
  refine (agrees_report _ _).bind fun _ => ?_
  refine Agrees.bind (ignoresReports_lift (h.arguments r)) fun args => ?_
  refine Agrees.bind_of_runOn (ignoresReports_runBefore (h := h) hinterceptors) ?_
  rintro ⟨entered, outcome⟩ x y hrun
  have hentered : ∀ i ∈ entered, i.IgnoresReports := fun i hi =>
    hinterceptors i (mem_of_runBefore (h := h) hrun i hi)
  have hend (result : Except Error Unit) :=
    (agrees_report ((h.calling invoker).stageEvent .completing)
      ((h.calling invoker').stageEvent .completing)).bind fun _ =>
      Agrees.bind (ignoresReports_runAtEnd (h := h) (r := r) hentered (failure? result)) fun _ =>
        (agrees_report ((h.calling invoker).stageEvent .terminal)
          ((h.calling invoker').stageEvent .terminal)).bind fun _ => ignoresReports_lift result
  cases outcome with
  | some result => exact Agrees.bind (ignoresReports_pure result) hend
  | none => exact Agrees.bind (agrees_invoke hhooks hcall args).attempt hend

theorem withStatus_alike {x y : Exchange σ} (hxy : x.Alike y) :
    (h.withStatus x).Alike (h.withStatus y) := by
  unfold withStatus
  split
  · exact hxy.respond _
  · exact hxy

/-- A call of a pipeline is made with the same answer when the methods agree. -/
theorem exists_performs {args : Args} (hhooks : h.HooksIgnoreReports)
    (hcall : ∀ args, ((h.calling invoker).call args).Agrees ((h.calling invoker').call args))
    {x x' y : Exchange σ} {c : PipelineCall} (hx : x.Alike x')
    (hperforms : (h.calling invoker).Performs r args x y c) :
    ∃ y', (h.calling invoker').Performs r args x' y' c ∧ y.Alike y' := by
  cases c with
  | before place answer =>
    obtain ⟨i, hi, hrun⟩ := hperforms
    have hignores := hhooks.interceptors r i (List.mem_of_getElem? hi)
    obtain ⟨y', hrun', hy⟩ := Agrees.exists_runOn (hignores.before h.method r) hx hrun
    exact ⟨y', ⟨i, hi, hrun'⟩, hy⟩
  | chain answer =>
    exact (Advice.agrees_chain hcall hhooks.advices 0 args).exists_runOn hx hperforms
  | behind place answer =>
    obtain ⟨i, hi, hrun⟩ := hperforms
    have hignores := hhooks.interceptors r i (List.mem_of_getElem? hi)
    obtain ⟨y', hrun', hy⟩ := Agrees.exists_runOn (hignores.after h.method r) hx hrun
    exact ⟨y', ⟨i, hi, hrun'⟩, hy⟩
  | withhold =>
    obtain ⟨hcommitted, rfl⟩ := hperforms
    exact ⟨x', ⟨hx.response ▸ hcommitted, rfl⟩, hx⟩
  | write v answer =>
    obtain ⟨hcommitted, hrun⟩ := hperforms
    have hignores := h.writer.ignoresReports_write (σ := σ) v r
    obtain ⟨y', hrun', hy⟩ := Agrees.exists_runOn hignores (withStatus_alike hx) hrun
    exact ⟨y', ⟨hx.response ▸ hcommitted, hrun'⟩, hy⟩
  | atEnd place failure? answer =>
    obtain ⟨i, hi, hrun⟩ := hperforms
    have hignores := hhooks.interceptors r i (List.mem_of_getElem? hi)
    obtain ⟨y', hrun', hy⟩ := Agrees.exists_runOn (hignores.atEnd h.method r failure?) hx hrun
    exact ⟨y', ⟨i, hi, hrun'⟩, hy⟩

theorem exists_transcript_of_agrees {args : Args} (hhooks : h.HooksIgnoreReports)
    (hcall : ∀ args, ((h.calling invoker).call args).Agrees ((h.calling invoker').call args))
    {x x' y : Exchange σ} {calls : List PipelineCall} (hx : x.Alike x')
    (htranscript : (h.calling invoker).Transcript r args x calls y) :
    ∃ y', (h.calling invoker').Transcript r args x' calls y' ∧ y.Alike y' := by
  induction htranscript generalizing x' with
  | done x => exact ⟨x', .done x', hx⟩
  | report e _ ih =>
    obtain ⟨y', hrest, hy⟩ := ih (hx.report e e)
    exact ⟨y', .report e hrest, hy⟩
  | call hperforms _ ih =>
    obtain ⟨z', hperforms', hz⟩ := exists_performs hhooks hcall hx hperforms
    obtain ⟨y', hrest, hy⟩ := ih hz
    exact ⟨y', .call hperforms' hrest, hy⟩

/-- Two handlers make the same of a request: from the same state they make the same calls with
the same answers, and end with the same outcome, response and shared data. -/
structure RunsAlike (h h' : RouteHandler σ) (r : Request) : Prop where
  ends : (h.handle r).Agrees (h'.handle r)
  calls : ∀ args x y calls, h.Transcript r args x calls y →
    ∃ y', h'.Transcript r args x calls y' ∧ y.Alike y'

theorem runsAlike_of_agrees (hhooks : h.HooksIgnoreReports)
    (hcall : ∀ args, ((h.calling invoker).call args).Agrees ((h.calling invoker').call args))
    (r : Request) : (h.calling invoker).RunsAlike (h.calling invoker') r where
  ends := agrees_handle hhooks hcall
  calls _ x _ _ := exists_transcript_of_agrees hhooks hcall (.refl x)

end RouteHandler

end RestDispatch
