import RestDispatch.Handler.Pipeline

/-!
# What a run of a handler calls

A run of a handler calls the hooks in front of it, its advices, the hooks behind it, the
writer and the hooks at the end.  A transcript lists these calls in the order in which they
were made, each with its answer, and leads from the exchange before the run to the exchange
behind it: every call runs on what the calls before it left, and nothing but reports of the
pipeline itself happens between two calls.

An account says for each phase which answers were given.  The main statement is that every
run whose arguments can be bound has a transcript that is given by a lawful account, and that
its outcome is the first failure of the account.  The hooks, the advices and the writer are
arbitrary: they may fail, commit the response and change the data that the application shares.
-/

namespace RestDispatch

/-- A call of the pipeline with its answer.  An interceptor is named by its place among
those that apply to the request. -/
inductive PipelineCall
  | before (place : Nat) (answer : Except Error Bool)
  | chain (answer : Except Error Value)
  | behind (place : Nat) (answer : Except Error Unit)
  /-- The response was found committed, so that nothing is written. -/
  | withhold
  | write (v : Value) (answer : Except Error Unit)
  | atEnd (place : Nat) (failure? : Option Error) (answer : Except Error Unit)

/-- The answers to `n` calls that are made in turn, up to and including the first answer
that does not let the calls go on. -/
inductive AnswersUpTo {α : Type} (goesOn : α → Prop) : Nat → List α → Prop
  | done : AnswersUpTo goesOn 0 []
  | stop {n : Nat} {a : α} : ¬goesOn a → AnswersUpTo goesOn (n + 1) [a]
  | next {n : Nat} {a : α} {answers : List α} :
      goesOn a → AnswersUpTo goesOn n answers → AnswersUpTo goesOn (n + 1) (a :: answers)

/-- The failure of an answer. -/
def errorOf? {α : Type} : Except Error α → Option Error
  | .ok _ => none
  | .error e => some e

@[simp] theorem isOk_ok {α : Type} (a : α) : (Except.ok a : Except Error α).isOk = true := rfl

@[simp] theorem isOk_error {α : Type} (e : Error) :
    (Except.error e : Except Error α).isOk = false := rfl

/-- The outcome with a failure, or without one. -/
def outcomeOf : Option Error → Except Error Unit
  | some e => .error e
  | none => .ok ()

/-- The outcome of a run that a hook in front of the handler stopped. -/
def stopping? : Except Error Bool → Option (Except Error Unit)
  | .ok true => none
  | .ok false => some (.ok ())
  | .error e => some (.error e)

/-- What became of the value of a handler. -/
inductive Writing
  /-- The response was committed already. -/
  | withheld
  | written (answer : Except Error Unit)

namespace Writing

/-- The failure of writing. -/
def failure? : Writing → Option Error
  | .withheld => none
  | .written answer => errorOf? answer

/-- The call made with the value. -/
def call (v : Value) : Writing → PipelineCall
  | .withheld => .withhold
  | .written answer => .write v answer

end Writing

/-- The answers from the advices to the writer. -/
structure InvocationAccount where
  chain : Except Error Value
  /-- The hooks behind the handler, from the last place on. -/
  behinds : List (Except Error Unit)
  writing? : Option Writing

namespace InvocationAccount

/-- The first failure of an invocation. -/
def failure? (a : InvocationAccount) : Option Error :=
  (errorOf? a.chain).or ((a.behinds.findSome? errorOf?).or (a.writing?.bind Writing.failure?))

/-- The call that ends the handling of a value. -/
def writingCalls (a : InvocationAccount) : List PipelineCall :=
  match a.chain with
  | .ok v => a.writing?.toList.map (Writing.call v)
  | .error _ => []

/-- The calls on `n` interceptors in the order in which they are made. -/
def calls (a : InvocationAccount) (n : Nat) : List PipelineCall :=
  .chain a.chain :: List.zipWith .behind (List.range n).reverse a.behinds ++ a.writingCalls

/-- What the answers of an invocation have to do with one another. -/
structure Lawful (a : InvocationAccount) (n : Nat) : Prop where
  behinds_of_ok : a.chain.isOk → AnswersUpTo (· = .ok ()) n a.behinds
  behinds_of_error : ¬a.chain.isOk → a.behinds = []
  writing : a.writing?.isSome ↔ a.chain.isOk ∧ a.behinds = List.replicate n (.ok ())

end InvocationAccount

/-- The answers of each phase of a run. -/
structure PipelineAccount where
  /-- The hooks in front of the handler, from the first place on. -/
  befores : List (Except Error Bool)
  invocation? : Option InvocationAccount
  /-- The hooks at the end, from the last place on that was entered. -/
  ends : List (Except Error Unit)

namespace PipelineAccount

/-- The first failure, those of the hooks at the end left aside. -/
def failure? (a : PipelineAccount) : Option Error :=
  (a.befores.findSome? errorOf?).or (a.invocation?.bind (·.failure?))

/-- The places whose hooks in front of the handler came through. -/
def entered (a : PipelineAccount) : List Nat :=
  (a.befores.zipIdx.filter (·.1.isOk)).map (·.2)

/-- The calls on `n` interceptors in the order in which they are made. -/
def calls (a : PipelineAccount) (n : Nat) : List PipelineCall :=
  List.zipWith .before (List.range n) a.befores ++
    a.invocation?.toList.flatMap (·.calls n) ++
    List.zipWith (fun place => .atEnd place a.failure?) a.entered.reverse a.ends

/-- What the answers of a run on `n` interceptors have to do with one another. -/
structure Lawful (a : PipelineAccount) (n : Nat) : Prop where
  befores : AnswersUpTo (· = .ok true) n a.befores
  invocation : a.invocation?.isSome ↔ a.befores = List.replicate n (.ok true)
  invoked : ∀ i ∈ a.invocation?, i.Lawful n
  ends : a.ends.length = a.entered.length

end PipelineAccount

/-- Calls that all let the next one be made are all made. -/
theorem AnswersUpTo.eq_replicate {α : Type} {good : α} {n : Nat} {answers : List α}
    (hanswers : AnswersUpTo (· = good) n answers) (hgood : ∀ a ∈ answers, a = good) :
    answers = List.replicate n good := by
  induction hanswers with
  | done => rfl
  | stop hbad => exact absurd (hgood _ (by simp)) hbad
  | next ha _ ih =>
    rw [ha, ih fun a h => hgood a (by simp [h]), List.replicate_succ]

theorem behinds_eq_replicate_iff {n : Nat} {behinds : List (Except Error Unit)}
    (hbehinds : AnswersUpTo (· = .ok ()) n behinds) :
    behinds = List.replicate n (.ok ()) ↔ behinds.findSome? errorOf? = none := by
  constructor
  · rintro rfl
    simp [List.findSome?_eq_none_iff, errorOf?]
  · intro hnone
    refine hbehinds.eq_replicate fun a ha => ?_
    have := List.findSome?_eq_none_iff.mp hnone a ha
    match a with
    | .ok () => rfl

section

variable {n : Nat} {befores : List (Except Error Bool)}

theorem befores_eq_replicate_iff (hbefores : AnswersUpTo (· = .ok true) n befores) :
    befores = List.replicate n (.ok true) ↔ befores.findSome? stopping? = none := by
  constructor
  · rintro rfl
    simp [List.findSome?_eq_none_iff, stopping?]
  · intro hnone
    refine hbefores.eq_replicate fun a ha => ?_
    have := List.findSome?_eq_none_iff.mp hnone a ha
    match a with
    | .ok true => rfl

/-- A run that a hook stopped has the failure of that hook, if it failed. -/
theorem eq_outcomeOf_of_stopping (hbefores : AnswersUpTo (· = .ok true) n befores)
    {outcome : Except Error Unit} (hstop : befores.findSome? stopping? = some outcome) :
    outcome = outcomeOf (befores.findSome? errorOf?) := by
  induction hbefores with
  | done => simp at hstop
  | @stop _ a hbad =>
    match a with
    | .ok true => exact absurd rfl hbad
    | .ok false => simpa [stopping?, errorOf?, outcomeOf] using hstop.symm
    | .error e => simpa [stopping?, errorOf?, outcomeOf] using hstop.symm
  | next ha _ ih =>
    subst ha
    have hrest := ih (by simpa [List.findSome?_cons, stopping?] using hstop)
    simpa [List.findSome?_cons, errorOf?] using hrest

/-- The places that were entered are the first ones. -/
theorem entered_eq_range' (hbefores : AnswersUpTo (· = .ok true) n befores) (place : Nat) :
    ((befores.zipIdx place).filter (·.1.isOk)).map (·.2) =
      List.range' place (befores.countP (·.isOk)) := by
  induction hbefores generalizing place with
  | done => rfl
  | @stop _ a _ => cases a <;> simp [List.filter_cons]
  | next ha _ ih =>
    subst ha
    simp [List.filter_cons, ih, List.countP_cons, List.range'_succ]

theorem entered_le (hbefores : AnswersUpTo (· = .ok true) n befores) :
    befores.countP (·.isOk) ≤ n := by
  induction hbefores with
  | done => exact Nat.le_refl 0
  | @stop _ a _ => cases a <;> simp [List.countP_cons]
  | next ha _ ih => simpa [ha, List.countP_cons] using ih

end

namespace RouteHandler

section

variable {σ : Type} (h : RouteHandler σ) (r : Request) (args : Args)

/-- The exchange as the writer finds it: with the status of the handler, if it has one. -/
def withStatus (x : Exchange σ) : Exchange σ :=
  match h.status? with
  | some status => x.respond ({ · with status := status })
  | none => x

/-- Interceptors that apply, each with its place. -/
def Placed (placed : List (Nat × Interceptor σ)) : Prop :=
  ∀ q ∈ placed, (h.interceptors.matching r)[q.1]? = some q.2

/-- A call leads from one exchange to another. -/
def Performs (x y : Exchange σ) : PipelineCall → Prop
  | .before place answer => ∃ i, (h.interceptors.matching r)[place]? = some i ∧
      (i.before h.method r).runOn x = (answer, y)
  | .chain answer =>
      (Advice.chain h.method r h.call 0 h.advices args).runOn x = (answer, y)
  | .behind place answer => ∃ i, (h.interceptors.matching r)[place]? = some i ∧
      (i.after h.method r).runOn x = (answer, y)
  | .withhold => x.response.committed = true ∧ y = x
  | .write v answer => x.response.committed = false ∧
      (h.writer.write v r).runOn (h.withStatus x) = (answer, y)
  | .atEnd place failure? answer => ∃ i, (h.interceptors.matching r)[place]? = some i ∧
      (i.atEnd h.method r failure?).runOn x = (answer, y)

/-- Calls made one after the other, with reports of the pipeline between them. -/
inductive Transcript : Exchange σ → List PipelineCall → Exchange σ → Prop
  | done (x : Exchange σ) : Transcript x [] x
  | report {x y : Exchange σ} {calls : List PipelineCall} (e : Event) :
      Transcript (x.report e) calls y → Transcript x calls y
  | call {x y z : Exchange σ} {c : PipelineCall} {calls : List PipelineCall} :
      h.Performs r args x y c → Transcript y calls z → Transcript x (c :: calls) z

variable {h r args}

theorem Transcript.append {x y z : Exchange σ} {calls more : List PipelineCall}
    (first : Transcript h r args x calls y) (second : Transcript h r args y more z) :
    Transcript h r args x (calls ++ more) z := by
  induction first with
  | done x => exact second
  | report e _ ih => exact .report e (ih second)
  | call performed _ ih => exact .call performed (ih second)

theorem Transcript.single {x y : Exchange σ} {c : PipelineCall}
    (performed : h.Performs r args x y c) : Transcript h r args x [c] y :=
  .call performed (.done y)

variable (args)

/-- The hooks in front of the handler are called up to the first that does not let the
request go on; `place` counts the interceptors before the given ones. -/
theorem runBefore_transcript (is : List (Interceptor σ)) (place : Nat) (x : Exchange σ)
    (his : (h.interceptors.matching r).drop place = is) :
    ∃ answers y, AnswersUpTo (· = .ok true) is.length answers ∧
      Transcript h r args x (List.zipWith .before (List.range' place is.length) answers) y ∧
      (h.runBefore r is).runOn x =
        (.ok (is.take (answers.countP (·.isOk)), answers.findSome? stopping?), y) := by
  induction is generalizing place x with
  | nil => exact ⟨[], x, .done, .done x, rfl⟩
  | cons i is ih =>
    have hi : (h.interceptors.matching r)[place]? = some i := by
      rw [← List.head?_drop, his]
      rfl
    have htail : (h.interceptors.matching r).drop (place + 1) = is := by
      rw [← List.drop_drop, his]
      rfl
    rcases hrun : (i.before h.method r).runOn x with ⟨answer, y⟩
    have hcall : h.Performs r args x y (.before place answer) := ⟨i, hi, hrun⟩
    match answer with
    | .ok true =>
      obtain ⟨answers, z, hanswers, htranscript, hrest⟩ := ih (place + 1) y htail
      refine ⟨.ok true :: answers, z, .next rfl hanswers, .call hcall htranscript, ?_⟩
      simp [runBefore, Handling.runOn_bind, hrun, hrest, List.findSome?_cons, stopping?,
        List.countP_cons, Except.map]
    | .ok false =>
      refine ⟨[.ok false], y.report (h.stoppedEvent i), .stop (by simp), ?_, ?_⟩
      · simpa [List.range'_succ] using Transcript.call hcall (.report (h.stoppedEvent i) (.done _))
      · simp [runBefore, Handling.runOn_bind, hrun, stopping?, List.countP_cons, Except.map]
    | .error e =>
      refine ⟨[.error e], y, .stop (by simp), ?_, ?_⟩
      · simpa [List.range'_succ] using Transcript.single hcall
      · simp [runBefore, Handling.runOn_bind, hrun, stopping?]

/-- The interceptors whose first hook came through are among those that were to run. -/
theorem mem_of_runBefore {entered : List (Interceptor σ)} {outcome : Option (Except Error Unit)}
    {x y : Exchange σ}
    (hrun : (h.runBefore r (h.interceptors.matching r)).runOn x = (.ok (entered, outcome), y)) :
    ∀ i ∈ entered, i ∈ h.interceptors.matching r := by
  obtain ⟨answers, z, -, -, htaken⟩ :=
    runBefore_transcript (h := h) (r := r) [] _ 0 x List.drop_zero
  rw [htaken] at hrun
  cases hrun
  exact fun i hi => List.mem_of_mem_take hi

/-- The hooks behind the handler are called up to the first that fails, and its failure is
the failure of all. -/
theorem runAfter_transcript (placed : List (Nat × Interceptor σ)) (x : Exchange σ)
    (hplaced : h.Placed r placed) :
    ∃ answers y, AnswersUpTo (· = .ok ()) placed.length answers ∧
      Transcript h r args x (List.zipWith .behind (placed.map (·.1)) answers) y ∧
      (h.runAfter r (placed.map (·.2)).reverse).runOn x =
        (outcomeOf (answers.findSome? errorOf?), y) := by
  simp only [runAfter, List.reverse_reverse, List.forM_eq_forM, List.forM_map]
  induction placed generalizing x with
  | nil => exact ⟨[], x, .done, .done x, rfl⟩
  | cons q placed ih =>
    rcases hrun : (q.2.after h.method r).runOn x with ⟨answer, y⟩
    have hcall : h.Performs r args x y (.behind q.1 answer) :=
      ⟨q.2, hplaced q (List.mem_cons_self ..), hrun⟩
    match answer with
    | .ok () =>
      obtain ⟨answers, z, hanswers, htranscript, hrest⟩ :=
        ih y fun p hp => hplaced p (List.mem_cons_of_mem q hp)
      refine ⟨.ok () :: answers, z, .next rfl hanswers, .call hcall htranscript, ?_⟩
      simp [Handling.runOn_bind, hrun, hrest, List.findSome?_cons, errorOf?]
    | .error e =>
      refine ⟨[.error e], y, .stop (by simp), ?_, ?_⟩
      · simpa using Transcript.single hcall
      · simp [Handling.runOn_bind, hrun, errorOf?, outcomeOf]

/-- The hooks at the end are all called, whatever they answer. -/
theorem runAtEnd_transcript (failed? : Option Error) (placed : List (Nat × Interceptor σ))
    (x : Exchange σ) (hplaced : h.Placed r placed) :
    ∃ answers y, answers.length = placed.length ∧
      Transcript h r args x
        (List.zipWith (fun place => .atEnd place failed?) (placed.map (·.1)) answers) y ∧
      (h.runAtEnd r failed? (placed.map (·.2)).reverse).runOn x = (.ok (), y) := by
  simp only [runAtEnd, List.reverse_reverse, List.forM_eq_forM, List.forM_map]
  induction placed generalizing x with
  | nil => exact ⟨[], x, rfl, .done x, rfl⟩
  | cons q placed ih =>
    rcases hrun : (q.2.atEnd h.method r failed?).runOn x with ⟨answer, y⟩
    have hcall : h.Performs r args x y (.atEnd q.1 failed? answer) :=
      ⟨q.2, hplaced q (List.mem_cons_self ..), hrun⟩
    have hrest : h.Placed r placed := fun p hp => hplaced p (List.mem_cons_of_mem q hp)
    match answer with
    | .ok () =>
      obtain ⟨answers, z, hlength, htranscript, hends⟩ := ih y hrest
      refine ⟨.ok () :: answers, z, by simp [hlength], .call hcall htranscript, ?_⟩
      simp [Handling.runOn_bind, hrun, hends]
    | .error e =>
      obtain ⟨answers, z, hlength, htranscript, hends⟩ :=
        ih (y.report (h.endFailureEvent q.2 e)) hrest
      refine ⟨.error e :: answers, z, by simp [hlength],
        .call hcall (.report (h.endFailureEvent q.2 e) htranscript), ?_⟩
      simp [Handling.runOn_bind, hrun, hends]

/-- The first `n` interceptors that apply, the last of them first, each with its place. -/
def firstPlaced (h : RouteHandler σ) (r : Request) (n : Nat) : List (Nat × Interceptor σ) :=
  ((List.range n).zip ((h.interceptors.matching r).take n)).reverse

theorem placed_firstPlaced (n : Nat) : h.Placed r (h.firstPlaced r n) := by
  intro q hq
  rw [firstPlaced, List.mem_reverse] at hq
  obtain ⟨k, hk, rfl⟩ := List.mem_iff_getElem.mp hq
  simp only [List.length_zip, List.length_range, List.length_take] at hk
  simp [List.getElem?_eq_getElem (show k < (h.interceptors.matching r).length by omega)]

section

variable {n : Nat} (hn : n ≤ (h.interceptors.matching r).length)

include hn

theorem map_fst_firstPlaced : (h.firstPlaced r n).map (·.1) = (List.range n).reverse := by
  rw [firstPlaced, List.map_reverse, List.map_fst_zip (by simp [hn])]

theorem map_snd_firstPlaced :
    ((h.firstPlaced r n).map (·.2)).reverse = (h.interceptors.matching r).take n := by
  rw [firstPlaced, List.map_reverse, List.reverse_reverse, List.map_snd_zip (by simp [hn])]

theorem length_firstPlaced : (h.firstPlaced r n).length = n := by
  simp [firstPlaced, hn]

end

/-- A value is written, unless the response is found committed. -/
theorem writeResult_transcript (v : Value) (x : Exchange σ) :
    ∃ (writing : Writing) (y : Exchange σ), Transcript h r args x [writing.call v] y ∧
      (h.writeResult r v).runOn x = (outcomeOf writing.failure?, y) := by
  by_cases hc : x.response.committed
  · refine ⟨.withheld, x, .single ⟨hc, rfl⟩, ?_⟩
    simp [writeResult, Handling.runOn_bind, hc, Writing.failure?, outcomeOf]
  · rcases hrun : (h.writer.write v r).runOn (h.withStatus x) with ⟨answer, y⟩
    refine ⟨.written answer, y, .single ⟨by simpa using hc, hrun⟩, ?_⟩
    have houtcome : outcomeOf (errorOf? answer) = answer := by
      cases answer <;> rfl
    rw [Writing.failure?, houtcome, ← hrun]
    unfold withStatus
    cases hs : h.status? <;> simp [writeResult, Handling.runOn_bind, hc, hs]

/-- The advices, the hooks behind the handler and the writer, and what they answer. -/
theorem invoke_transcript (x : Exchange σ) :
    ∃ (a : InvocationAccount) (y : Exchange σ),
      a.Lawful (h.interceptors.matching r).length ∧
      Transcript h r args x (a.calls (h.interceptors.matching r).length) y ∧
      (h.invoke r (h.interceptors.matching r) args).runOn x = (outcomeOf a.failure?, y) := by
  rcases hchain : (Advice.chain h.method r h.call 0 h.advices args).runOn
    (x.report (h.stageEvent .invoking)) with ⟨answer, y⟩
  have hcall : h.Performs r args (x.report (h.stageEvent .invoking)) y (.chain answer) := hchain
  match answer with
  | .error e =>
    refine ⟨⟨.error e, [], none⟩, y, ⟨by simp, by simp, by simp⟩, ?_, ?_⟩
    · simpa [InvocationAccount.calls, InvocationAccount.writingCalls] using
        Transcript.report (h.stageEvent .invoking) (.single hcall)
    · simp [invoke, Handling.runOn_bind, hchain, InvocationAccount.failure?, errorOf?, outcomeOf]
  | .ok v =>
    have hall := Nat.le_refl (h.interceptors.matching r).length
    obtain ⟨behinds, z, hbehinds, hcalls, hafter⟩ := runAfter_transcript args _
      (y.report (h.stageEvent .postHandling))
      (h.placed_firstPlaced (r := r) (h.interceptors.matching r).length)
    rw [length_firstPlaced hall] at hbehinds
    rw [map_fst_firstPlaced hall] at hcalls
    rw [map_snd_firstPlaced hall, List.take_length] at hafter
    have hupto : Transcript h r args x (.chain (.ok v) ::
        List.zipWith .behind (List.range (h.interceptors.matching r).length).reverse behinds) z :=
      .report (h.stageEvent .invoking) (.call hcall (.report (h.stageEvent .postHandling) hcalls))
    cases hfailed : behinds.findSome? errorOf? with
    | some e =>
      refine ⟨⟨.ok v, behinds, none⟩, z, ⟨fun _ => hbehinds, by simp, ?_⟩, ?_, ?_⟩
      · simp [behinds_eq_replicate_iff hbehinds, hfailed]
      · simpa [InvocationAccount.calls, InvocationAccount.writingCalls] using hupto
      · simp [invoke, Handling.runOn_bind, hchain, hafter, hfailed, InvocationAccount.failure?,
          errorOf?, outcomeOf]
    | none =>
      obtain ⟨writing, w, hwrite, hresult⟩ := h.writeResult_transcript args v z
      refine ⟨⟨.ok v, behinds, some writing⟩, w, ⟨fun _ => hbehinds, by simp, ?_⟩, ?_, ?_⟩
      · simp [behinds_eq_replicate_iff hbehinds, hfailed]
      · simpa [InvocationAccount.calls, InvocationAccount.writingCalls] using hupto.append hwrite
      · simp [invoke, Handling.runOn_bind, hchain, hafter, hfailed, InvocationAccount.failure?,
          errorOf?, outcomeOf, hresult]

@[simp] theorem failure?_outcomeOf (e? : Option Error) : failure? (outcomeOf e?) = e? := by
  cases e? <;> rfl

/-- The hooks at the end are called on the interceptors that were entered. -/
theorem ends_transcript (a : PipelineAccount) (x : Exchange σ)
    (hbefores : AnswersUpTo (· = .ok true) (h.interceptors.matching r).length a.befores) :
    ∃ ends y, ends.length = a.entered.length ∧
      Transcript h r args x
        (List.zipWith (fun place => .atEnd place a.failure?) a.entered.reverse ends) y ∧
      (h.runAtEnd r a.failure? ((h.interceptors.matching r).take
        (a.befores.countP (·.isOk)))).runOn x = (.ok (), y) := by
  have hle := entered_le hbefores
  have hentered : a.entered = List.range (a.befores.countP (·.isOk)) := by
    rw [List.range_eq_range']
    exact entered_eq_range' hbefores 0
  obtain ⟨ends, y, hlength, hcalls, hends⟩ :=
    runAtEnd_transcript args a.failure? _ x (h.placed_firstPlaced (r := r) _)
  rw [length_firstPlaced hle] at hlength
  rw [map_fst_firstPlaced hle] at hcalls
  rw [map_snd_firstPlaced hle] at hends
  exact ⟨ends, y, by simpa [hentered] using hlength, by rwa [hentered], hends⟩

/-- The calls of a run that binds its arguments.  The hooks in front of the handler are
called in order up to the first that stops the request or fails; the advices are entered
once if none does, and not otherwise; the hooks behind the handler are called in reverse
order, up to the first that fails, when the advices gave a value; the value is written when
none fails and the response is not committed; and the hooks at the end are called once for
each interceptor whose first hook came through, in reverse order, and are given the failure
of the run.  The outcome of the run is the first failure in the order of the calls. -/
theorem handle_transcript (h : RouteHandler σ) (r : Request) (args : Args) (x : Exchange σ)
    (hargs : h.arguments r = .ok args) :
    ∃ a : PipelineAccount, a.Lawful (h.interceptors.matching r).length ∧
      Transcript h r args x (a.calls (h.interceptors.matching r).length)
        ((h.handle r).runOn x).2 ∧
      ((h.handle r).runOn x).1 = outcomeOf a.failure? := by
  obtain ⟨befores, y, hbefores, hcalls, hbefore⟩ := runBefore_transcript args
    (h.interceptors.matching r) 0 (x.report (h.stageEvent .resolvingArgs)) List.drop_zero
  rw [← List.range_eq_range'] at hcalls
  cases hstop : befores.findSome? stopping? with
  | some outcome =>
    obtain rfl := eq_outcomeOf_of_stopping hbefores hstop
    obtain ⟨ends, z, hlength, hends, hrun⟩ := h.ends_transcript args
      ⟨befores, none, []⟩ (y.report (h.stageEvent .completing)) hbefores
    have hfailure : PipelineAccount.failure? ⟨befores, none, []⟩ =
        befores.findSome? errorOf? := by
      simp [PipelineAccount.failure?]
    rw [hfailure] at hends hrun
    have hhandle : (h.handle r).runOn x =
        (outcomeOf (befores.findSome? errorOf?), z.report (h.stageEvent .terminal)) := by
      simp [handle, Handling.runOn_bind, hargs, hbefore, hstop, hrun]
    rw [hhandle]
    refine ⟨⟨befores, none, ends⟩, ⟨hbefores, ?_, by simp, hlength⟩, ?_, ?_⟩
    · simp [befores_eq_replicate_iff hbefores, hstop]
    · simpa [PipelineAccount.calls, PipelineAccount.failure?, PipelineAccount.entered] using
        Transcript.report _ (hcalls.append (.report _ (hends.append (.report _ (.done _)))))
    · simp [PipelineAccount.failure?]
  | none =>
    obtain ⟨i, z, hlawful, hinvoke, hresult⟩ := h.invoke_transcript (r := r) args y
    obtain ⟨ends, w, hlength, hends, hrun⟩ := h.ends_transcript args
      ⟨befores, some i, []⟩ (z.report (h.stageEvent .completing)) hbefores
    have hproceed := (befores_eq_replicate_iff hbefores).mpr hstop
    have hnone : befores.findSome? errorOf? = none := by
      simp [hproceed, List.findSome?_eq_none_iff, errorOf?]
    have hfailure : PipelineAccount.failure? ⟨befores, some i, []⟩ = i.failure? := by
      simp [PipelineAccount.failure?, hnone]
    rw [hfailure] at hends hrun
    have hhandle : (h.handle r).runOn x =
        (outcomeOf i.failure?, w.report (h.stageEvent .terminal)) := by
      simp [handle, Handling.runOn_bind, hargs, hbefore, hstop, hresult, hrun]
    rw [hhandle]
    refine ⟨⟨befores, some i, ends⟩, ⟨hbefores, ?_, by simpa using hlawful, hlength⟩, ?_, ?_⟩
    · simp [hproceed]
    · simpa [PipelineAccount.calls, PipelineAccount.failure?, PipelineAccount.entered, hnone] using
        Transcript.report _ (hcalls.append (hinvoke.append
          (.report _ (hends.append (.report _ (.done _))))))
    · simp [PipelineAccount.failure?, hnone]

/-- A handler behind two interceptors, the second of which stops every request. -/
def stopped : RouteHandler Unit where
  method := { name := "show", declaring := { name := "Pets" } }
  params := []
  interceptors := {
    fixed := [⟨0, { name := "first" }⟩,
      ⟨1, { name := "second", before := fun _ _ => pure false }⟩]
    matrix := true }
  advices := []
  invoker := fun _ => pure (.value .null)
  requiresValue := false
  status? := none
  writer := .empty

theorem handle_transcript_stopped :
    stopped.arguments (.ofUri .get "/pets") = .ok [] ∧
    ∃ a : PipelineAccount, a.Lawful 2 ∧
      Transcript stopped (.ofUri .get "/pets") [] { shared := () } (a.calls 2)
        ((stopped.handle (.ofUri .get "/pets")).runOn { shared := () }).2 ∧
      ((stopped.handle (.ofUri .get "/pets")).runOn { shared := () }).1 = outcomeOf a.failure? :=
  ⟨rfl, handle_transcript stopped (.ofUri .get "/pets") [] { shared := () } rfl⟩

end

end RouteHandler

end RestDispatch
