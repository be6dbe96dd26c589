import RestDispatch.Scenario.Scripted

/-!
# Advices around a handler

An advice decides first: it answers or fails in place of the rest of its chain, or it runs the
rest once, on arguments of its choice, and makes something of the outcome.  A chain of such
advices is their nested composition around the handler, the first advice being outermost.

A run of a chain is a way in and a way out.  On the way in the advices decide, from the first on,
up to the first that does not run the rest; where every advice runs the rest, the handler is
called at the bottom, on the arguments that the last replacement left.  On the way out the
advices that ran the rest are given its outcome, the innermost first.  Each part runs on what the
parts before it left, so the response carries what they did to it in this order.

The parts are arbitrary: they may look at the request, the arguments, the response and the data
that the application shares, change what can be changed, and fail.
-/

namespace RestDispatch

variable {σ : Type}

/-- What an advice makes of the outcome of the rest. -/
abbrev Resumption (σ : Type) := Except Error Value → Handling σ Value

/-- What an advice decides in front of the rest. -/
inductive Decision (σ : Type)
  /-- To answer in place of the rest. -/
  | answer (v : Value)
  /-- To run the rest on some arguments, and what to make of its outcome. -/
  | proceed (args : Args) (resume : Resumption σ)

/-- How an advice decides.  One that fails here fails in place of the rest. -/
abbrev Entrance (σ : Type) := HandlerMethod → Request → Args → Handling σ (Decision σ)

/-- The decision that an answer or a failure in place of the rest comes from. -/
def Decision.ofAnswer : Except Error Value → Except Error (Decision σ) := Except.map .answer

/-- A part of a run of a chain with its answer. -/
inductive ChainCall (σ : Type)
  | enter (place : Nat) (args : Args) (decision : Except Error (Decision σ))
  | handler (args : Args) (answer : Except Error Value)
  | leave (place : Nat) (resume : Resumption σ) (outcome answer : Except Error Value)

/-- What a listener hears of a part. -/
inductive ChainMark
  | enter (place : Nat)
  | handler (args : Args)
  | leave (place : Nat)

def ChainCall.mark : ChainCall σ → ChainMark
  | .enter place _ _ => .enter place
  | .handler args _ => .handler args
  | .leave place _ _ _ => .leave place

/-- A run of a chain, from the outside in. -/
inductive ChainRun (σ : Type)
  /-- No advice was left. -/
  | handled (answer : Except Error Value)
  /-- The first advice answered or failed in place of the rest. -/
  | short (answer : Except Error Value)
  /-- The first advice ran the rest. -/
  | around (args : Args) (resume : Resumption σ) (inner : ChainRun σ)
      (answer : Except Error Value)

namespace ChainRun

def outcome : ChainRun σ → Except Error Value
  | .handled answer => answer
  | .short answer => answer
  | .around _ _ _ answer => answer

/-- How many advices ran the rest. -/
def depth : ChainRun σ → Nat
  | .handled _ => 0
  | .short _ => 0
  | .around _ _ inner _ => inner.depth + 1

def reachesHandler : ChainRun σ → Bool
  | .handled _ => true
  | .short _ => false
  | .around _ _ inner _ => inner.reachesHandler

/-- The arguments at the bottom of a run: those that the last replacement left. -/
def bottomArgs (args : Args) : ChainRun σ → Args
  | .handled _ => args
  | .short _ => args
  | .around args _ inner _ => inner.bottomArgs args

/-- The parts of a run in the order in which they run; `place` counts the advices further out. -/
def calls (place : Nat) (args : Args) : ChainRun σ → List (ChainCall σ)
  | .handled answer => [.handler args answer]
  | .short answer => [.enter place args (Decision.ofAnswer answer)]
  | .around next resume inner answer =>
    .enter place args (.ok (.proceed next resume)) ::
      inner.calls (place + 1) next ++ [.leave place resume inner.outcome answer]

/-- The handler is reached when all of `n` advices ran the rest, and only then. -/
structure Lawful (run : ChainRun σ) (n : Nat) : Prop where
  depth_le : run.depth ≤ n
  reaches_iff : run.reachesHandler = true ↔ run.depth = n

theorem lawful_handled (answer : Except Error Value) :
    (ChainRun.handled answer : ChainRun σ).Lawful 0 where
  depth_le := Nat.le_refl 0
  reaches_iff := by simp [reachesHandler, depth]

theorem lawful_short (answer : Except Error Value) (n : Nat) :
    (ChainRun.short answer : ChainRun σ).Lawful (n + 1) where
  depth_le := Nat.zero_le _
  reaches_iff := by simp [reachesHandler, depth]

theorem Lawful.around {inner : ChainRun σ} {n : Nat} (h : inner.Lawful n) (args : Args)
    (resume : Resumption σ) (answer : Except Error Value) :
    (ChainRun.around args resume inner answer).Lawful (n + 1) where
  depth_le := Nat.succ_le_succ h.depth_le
  reaches_iff := by simp [reachesHandler, depth, h.reaches_iff]

/-- What an advice ran is the run of a chain that is shorter by this advice. -/
theorem Lawful.exists_inner {inner : ChainRun σ} {n : Nat} {args : Args}
    {resume : Resumption σ} {answer : Except Error Value}
    (h : (ChainRun.around args resume inner answer).Lawful n) :
    ∃ k, n = k + 1 ∧ inner.Lawful k := by
  have hdepth : inner.depth + 1 ≤ n := h.depth_le
  obtain ⟨k, rfl⟩ : ∃ k, n = k + 1 := ⟨n - 1, by omega⟩
  refine ⟨k, rfl, ?_⟩
  constructor
  · omega
  · have hreaches := h.reaches_iff
    simpa [reachesHandler, depth] using hreaches

/-- The marks of a run: the advices on the way in, up to the first that does not run the rest;
the handler, if every advice ran the rest; and the same advices on the way out, save the one
that did not run the rest. -/
theorem map_mark_calls {run : ChainRun σ} {n : Nat} (h : run.Lawful n) (place : Nat)
    (args : Args) :
    (run.calls place args).map ChainCall.mark =
      (List.range' place (min (run.depth + 1) n)).map .enter ++
        (if run.depth = n then [.handler (run.bottomArgs args)] else []) ++
        (List.range' place run.depth).reverse.map .leave := by
  induction run generalizing n place args with
  | handled answer =>
    have hn : 0 = n := h.reaches_iff.mp rfl
    subst hn
    simp [calls, ChainCall.mark, depth, bottomArgs]
  | short answer =>
    have hn : 0 ≠ n := fun hzero => by simpa [reachesHandler] using h.reaches_iff.mpr hzero
    have hone : min 1 n = 1 := by omega
    simp [calls, ChainCall.mark, depth, hn, hone]
  | around next resume inner answer ih =>
    obtain ⟨k, rfl, hinner⟩ := h.exists_inner
    have hmarks := ih hinner (place + 1) next
    have hmin : min (inner.depth + 1 + 1) (k + 1) = min (inner.depth + 1) k + 1 := by omega
    simp [calls, ChainCall.mark, depth, bottomArgs, hmarks, hmin, List.range'_succ]

end ChainRun

namespace Advice

/-- The advice that decides in some way. -/
def ofEntrance (entrance : Entrance σ) : Advice σ := fun m r args rest => do
  match ← entrance m r args with
  | .answer v => return v
  | .proceed args resume => resume (← .attempt (rest args))

section

variable (m : HandlerMethod) (r : Request) (invoke : Args → Handling σ Value)

/-- An advice with a step inside. -/
def wrap (index : Nat) (advice : Advice σ) (inner : Args → Handling σ Value) (args : Args) :
    Handling σ Value := do
  .report (stepEvent index)
  advice m r args inner

/-- The handler at the bottom of a chain. -/
def innermost (args : Args) : Handling σ Value := do
  .report (endEvent m)
  invoke args

/-- Advices one inside the other around a handler, the first outermost. -/
def nested (advices : List (Advice σ)) : Args → Handling σ Value :=
  advices.zipIdx.foldr (fun (advice, index) inner => wrap m r index advice inner)
    (innermost m invoke)

theorem chain_eq_foldr (index : Nat) (advices : List (Advice σ)) :
    chain m r invoke index advices =
      (advices.zipIdx index).foldr (fun (advice, index) inner => wrap m r index advice inner)
        (innermost m invoke) := by
  induction advices generalizing index with
  | nil => rfl
  | cons advice rest ih =>
    funext args
    rw [chain, ih (index + 1), List.zipIdx_cons, List.foldr_cons]
    rfl

variable (entrances : List (Entrance σ))

/-- A part leads from one exchange to another. -/
def Performs (x y : Exchange σ) : ChainCall σ → Prop
  | .enter place args decision => ∃ entrance, entrances[place]? = some entrance ∧
      (entrance m r args).runOn (x.report (stepEvent place)) = (decision, y)
  | .handler args answer => (invoke args).runOn (x.report (endEvent m)) = (answer, y)
  | .leave _ resume outcome answer => (resume outcome).runOn x = (answer, y)

/-- Parts that run one after the other, with nothing between them. -/
inductive Transcript : Exchange σ → List (ChainCall σ) → Exchange σ → Prop
  | done (x : Exchange σ) : Transcript x [] x
  | call {x y z : Exchange σ} {c : ChainCall σ} {calls : List (ChainCall σ)} :
      Performs m r invoke entrances x y c → Transcript y calls z → Transcript x (c :: calls) z

variable {m r invoke entrances}

theorem Transcript.append {x y z : Exchange σ} {calls more : List (ChainCall σ)}
    (first : Transcript m r invoke entrances x calls y)
    (second : Transcript m r invoke entrances y more z) :
    Transcript m r invoke entrances x (calls ++ more) z := by
  induction first with
  | done x => exact second
  | call performed _ ih => exact .call performed (ih second)

theorem Transcript.single {x y : Exchange σ} {c : ChainCall σ}
    (performed : Performs m r invoke entrances x y c) :
    Transcript m r invoke entrances x [c] y :=
  .call performed (.done y)

/-- What an advice does on its way in decides what there is of the rest. -/
theorem runOn_ofEntrance (entrance : Entrance σ) (args : Args)
    (rest : Args → Handling σ Value) (x : Exchange σ) :
    (ofEntrance entrance m r args rest).runOn x =
      match (entrance m r args).runOn x with
      | (.error e, y) => (.error e, y)
      | (.ok (.answer v), y) => (.ok v, y)
      | (.ok (.proceed next resume), y) =>
        (resume ((rest next).runOn y).1).runOn ((rest next).runOn y).2 := by
  rw [ofEntrance, Handling.runOn_bind]
  rcases (entrance m r args).runOn x with ⟨e | v | ⟨next, resume⟩, y⟩
  · rfl
  · rfl
  · simp [Handling.runOn_bind]

/-- The run of what is left of a chain, `place` advices being further out. -/
theorem exists_run (rest : List (Entrance σ)) (place : Nat) (args : Args) (x : Exchange σ)
    (hrest : entrances.drop place = rest) :
    ∃ (run : ChainRun σ) (y : Exchange σ), run.Lawful rest.length ∧
      Transcript m r invoke entrances x (run.calls place args) y ∧
      (chain m r invoke place (rest.map ofEntrance) args).runOn x = (run.outcome, y) := by
  induction rest generalizing place args x with
  | nil =>
    rcases hhandler : (invoke args).runOn (x.report (endEvent m)) with ⟨answer, y⟩
    have hcall : Performs m r invoke entrances x y (.handler args answer) := hhandler
    refine ⟨.handled answer, y, ChainRun.lawful_handled answer, .single hcall, ?_⟩
    simp [chain, Handling.runOn_bind, hhandler, ChainRun.outcome]
  | cons entrance rest ih =>
    have hentrance : entrances[place]? = some entrance := by
      rw [← List.head?_drop, hrest, List.head?_cons]
    have htail : entrances.drop (place + 1) = rest := by
      rw [← List.drop_drop, hrest, List.drop_one, List.tail_cons]
    have hchain : (chain m r invoke place ((entrance :: rest).map ofEntrance) args).runOn x =
        (ofEntrance entrance m r args
          (chain m r invoke (place + 1) (rest.map ofEntrance))).runOn
            (x.report (stepEvent place)) := by
      simp [chain, Handling.runOn_bind]
    rw [hchain, runOn_ofEntrance]
    rcases hdecision : (entrance m r args).runOn (x.report (stepEvent place)) with
      ⟨e | v | ⟨next, resume⟩, y⟩
    · have hcall : Performs m r invoke entrances x y (.enter place args (.error e)) :=
        ⟨entrance, hentrance, hdecision⟩
      exact ⟨.short (.error e), y, ChainRun.lawful_short _ _, .single hcall, rfl⟩
    · have hcall : Performs m r invoke entrances x y (.enter place args (.ok (.answer v))) :=
        ⟨entrance, hentrance, hdecision⟩
      exact ⟨.short (.ok v), y, ChainRun.lawful_short _ _, .single hcall, rfl⟩
    · have hcall :
          Performs m r invoke entrances x y (.enter place args (.ok (.proceed next resume))) :=
        ⟨entrance, hentrance, hdecision⟩
      obtain ⟨inner, z, hlawful, hinside, hrun⟩ := ih (place + 1) next y htail
      rcases hresume : (resume inner.outcome).runOn z with ⟨answer, w⟩
      have hleave : Performs m r invoke entrances z w (.leave place resume inner.outcome answer) :=
        hresume
      refine ⟨.around next resume inner answer, w, hlawful.around next resume answer, ?_, ?_⟩
      · exact .call hcall (hinside.append (.single hleave))
      · simp only [hrun]
        exact hresume

/-- A chain is the nested composition of its advices, and runs in and out again.  The advices
decide in order up to the first that does not run the rest; the handler is called once if there
is none, on the arguments that were left, and not otherwise; and the advices that ran the rest
are given its outcome in reverse order.  Every part runs on what the parts before it left, and
nothing runs between two parts. -/
theorem chain_nests (m : HandlerMethod) (r : Request) (invoke : Args → Handling σ Value)
    (entrances : List (Entrance σ)) (args : Args) (x : Exchange σ) :
    chain m r invoke 0 (entrances.map ofEntrance) =
        nested m r invoke (entrances.map ofEntrance) ∧
      ∃ run : ChainRun σ, run.Lawful entrances.length ∧
        Transcript m r invoke entrances x (run.calls 0 args)
          ((nested m r invoke (entrances.map ofEntrance) args).runOn x).2 ∧
        ((nested m r invoke (entrances.map ofEntrance) args).runOn x).1 = run.outcome ∧
        (run.calls 0 args).map ChainCall.mark =
          (List.range (min (run.depth + 1) entrances.length)).map .enter ++
            (if run.depth = entrances.length then [.handler (run.bottomArgs args)] else []) ++
            (List.range run.depth).reverse.map .leave := by
  have hnested : chain m r invoke 0 (entrances.map ofEntrance) =
      nested m r invoke (entrances.map ofEntrance) :=
    chain_eq_foldr m r invoke 0 _
  obtain ⟨run, y, hlawful, hcalls, hrun⟩ :=
    @exists_run _ m r invoke entrances entrances 0 args x List.drop_zero
  rw [hnested] at hrun
  have hmarks := ChainRun.map_mark_calls hlawful 0 args
  rw [← List.range_eq_range', ← List.range_eq_range'] at hmarks
  exact ⟨hnested, run, hlawful, by rwa [hrun], by rw [hrun], hmarks⟩

end

end Advice

/-- How a scripted advice decides. -/
def AdviceScript.entrance (s : AdviceScript) : Entrance Journal := fun m r args => do
  journal (.enter s.name m.name args.length)
  if s.onlyWith?.any fun name => (r.param? name).isNone then return .proceed args .lift
  else
    if let some e := s.error? then throw e
    if let some bs := s.send? then .tryRespond (·.send bs)
    match s.short? with
    | some v => return .answer v
    | none =>
      return .proceed (s.args?.getD args) fun outcome => do
        journal (.leave s.name outcome)
        match s.result? with
        | some v => return v
        | none => .lift outcome

/-- Scripted advices run the rest at most once. -/
theorem AdviceScript.advice_eq_ofEntrance (s : AdviceScript) :
    s.advice = Advice.ofEntrance s.entrance := by
  funext m r args rest x
  change (s.advice m r args rest).runOn x = (Advice.ofEntrance s.entrance m r args rest).runOn x
  rw [Advice.runOn_ofEntrance, advice, entrance, Handling.runOn_bind, Handling.runOn_bind]
  rcases (journal (.enter s.name m.name args.length)).runOn x with ⟨e | _, y⟩
  · rfl
  · dsimp only
    split
    · simp
    · unfold run
      cases s.error? with
      | some e => simp
      | none =>
        cases s.send? with
        | none => cases s.short? <;> cases s.result? <;> simp [Handling.runOn_bind]
        | some bs =>
          simp only [Handling.runOn_bind]
          rcases (Handling.tryRespond (·.send bs) : Handling Journal Unit).runOn y with ⟨e | _, z⟩
          · rfl
          · cases s.short? <;> cases s.result? <;> simp [Handling.runOn_bind]

end RestDispatch
