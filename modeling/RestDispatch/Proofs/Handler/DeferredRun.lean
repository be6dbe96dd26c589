import RestDispatch.Handler.Returned

/-!
# Runs of a deferred result

A deferred result is used through its handles.  A call on a handle completes the result, adds
a listener, waits, or makes another handle; waiting takes the handle that it is called on, and
a handle can be released.  A run is any list of such calls on handles that are still there.

In a run with at most one wait nothing depends on how the calls are interleaved: what has
become of the result, which listeners have run and what the wait is told can be read off the
list of calls.  The first call that completes decides; listeners run once, when there is such a
call, and the wait is told its result.  Without one no listener ever runs, and the wait fails
as soon as the last handle is gone.
-/

namespace RestDispatch

namespace Deferred

/-- A call on a handle of a deferred result. -/
inductive Call
  | complete (result : Except Error Value)
  | listen (label : String)
  | wait
  | share
  | release

@[simp] def Call.completion? : Call → Option (Except Error Value)
  | .complete result => some result
  | _ => none

@[simp] def Call.label? : Call → Option String
  | .listen label => some label
  | _ => none

@[simp] def Call.isWait : Call → Bool
  | .wait => true
  | _ => false

/-- The results that calls complete with. -/
def completions (cs : List Call) : List (Except Error Value) := cs.filterMap Call.completion?

/-- The result of the first call that completes. -/
def outcome? (cs : List Call) : Option (Except Error Value) := (completions cs).head?

/-- The listeners in the order in which they were registered. -/
def labels (cs : List Call) : List String := cs.filterMap Call.label?

def waited (cs : List Call) : Bool := cs.any Call.isWait

/-- What a call does.  A wait takes its handle with it. -/
def perform (d : Deferred) : Call → Deferred
  | .complete result => (d.complete result).2
  | .listen label => d.listen label
  | .wait => d.wait.2.release
  | .share => d.share
  | .release => d.release

/-- What a call that completes answers. -/
def answer? (d : Deferred) : Call → Option Bool
  | .complete result => some (d.complete result).1
  | _ => none

/-- Calls one after the other on a new deferred result, each on a handle that is still there,
and the answers to those that complete. -/
inductive Run : List Call → List Bool → Deferred → Prop
  | start : Run [] [] {}
  | call {cs : List Call} {answers : List Bool} {d : Deferred} (c : Call) :
      Run cs answers d → 0 < d.handles →
      Run (cs ++ [c]) (answers ++ (d.answer? c).toList) (d.perform c)

/-- A deferred result that has not been completed.  Once the last handle is gone its listeners
are forgotten and who waits is left alone. -/
def pending (labels : List String) (waited : Bool) (handles : Nat) : Deferred where
  phase := .pending (if waited && 0 < handles then some 0 else none)
  handles := handles
  listeners := if handles = 0 then [] else labels
  waiters := if waited then [if 0 < handles then .waiting else .abandoned] else []

/-- A deferred result that has been completed, all of whose listeners have run. -/
def completed (result : Except Error Value) (labels : List String) (waited : Bool)
    (handles : Nat) : Deferred where
  phase := if waited then .spent else .kept result
  handles := handles
  fired := labels
  waiters := if waited then [.answered result] else []

section

variable (result : Except Error Value) (labels : List String) (waited : Bool) (handles : Nat)

theorem complete_pending : (pending labels waited (handles + 1)).complete result =
    (true, completed result labels waited (handles + 1)) := by
  cases waited <;> simp [complete, pending, completed, settle]

theorem complete_completed (other : Except Error Value) :
    (completed result labels waited handles).complete other =
      (false, completed result labels waited handles) := by
  cases waited <;> rfl

theorem listen_pending (label : String) :
    (pending labels waited (handles + 1)).listen label =
      pending (labels ++ [label]) waited (handles + 1) := by
  simp [listen, isCompleted, pending]

theorem listen_completed (label : String) :
    (completed result labels waited handles).listen label =
      completed result (labels ++ [label]) waited handles := by
  cases waited <;> rfl

theorem wait_pending : (pending labels false (handles + 1)).wait.2 =
    pending labels true (handles + 1) := by
  simp [wait, pending, settle]

theorem wait_completed : (completed result labels false handles).wait.2 =
    completed result labels true handles := rfl

theorem share_pending : (pending labels waited (handles + 1)).share =
    pending labels waited (handles + 2) := by
  simp [share, pending]

theorem share_completed : (completed result labels waited handles).share =
    completed result labels waited (handles + 1) := rfl

theorem abandon_pending : (pending labels waited handles).abandon = pending labels waited 0 := by
  cases handles with
  | zero => cases waited <;> rfl
  | succ handles => cases waited <;> simp [abandon, pending, settle]

theorem abandon_completed : (completed result labels waited handles).abandon =
    completed result labels waited 0 := by
  cases waited <;> rfl

theorem release_pending : (pending labels waited (handles + 1)).release =
    pending labels waited handles := by
  cases handles with
  | zero => exact abandon_pending labels waited 1
  | succ handles => simp [release, pending]

theorem release_completed : (completed result labels waited (handles + 1)).release =
    completed result labels waited handles := by
  cases handles with
  | zero => exact abandon_completed result labels waited 1
  | succ handles => simp [release, completed]

end

/-- The deferred result behind calls with at most one wait, when so many handles are left. -/
def after (cs : List Call) (handles : Nat) : Deferred :=
  match outcome? cs with
  | none => pending (labels cs) (waited cs) handles
  | some result => completed result (labels cs) (waited cs) handles

theorem after_of_none {cs : List Call} (h : outcome? cs = none) (handles : Nat) :
    after cs handles = pending (labels cs) (waited cs) handles := by
  rw [after, h]

theorem after_of_some {cs : List Call} {result : Except Error Value}
    (h : outcome? cs = some result) (handles : Nat) :
    after cs handles = completed result (labels cs) (waited cs) handles := by
  rw [after, h]

/-- The handles that a call leaves. -/
@[simp] def Call.handlesLeft (handles : Nat) : Call → Nat
  | .share => handles + 1
  | .wait | .release => handles - 1
  | .complete _ | .listen _ => handles

section

variable (cs : List Call) (c : Call)

theorem completions_append : completions (cs ++ [c]) = completions cs ++ c.completion?.toList := by
  cases c <;> simp [completions]

theorem outcome?_append (cs' : List Call) :
    outcome? (cs ++ cs') = (outcome? cs).or (outcome? cs') := by
  simp [outcome?, completions, List.head?_append]

theorem labels_append : labels (cs ++ [c]) = labels cs ++ c.label?.toList := by
  cases c <;> simp [labels]

theorem waited_append : waited (cs ++ [c]) = (waited cs || c.isWait) := by
  simp [waited]

theorem waited_eq_false_of_append (hwaits : (cs ++ [Call.wait]).countP Call.isWait ≤ 1) :
    waited cs = false := by
  have hnone : cs.countP Call.isWait = 0 := by simpa using hwaits
  rw [List.countP_eq_zero] at hnone
  simpa [waited] using hnone

/-- A call leads from what calls lead to, to what they lead to together with it. -/
theorem perform_after (hwaits : (cs ++ [c]).countP Call.isWait ≤ 1) (handles : Nat) :
    (after cs (handles + 1)).perform c = after (cs ++ [c]) (c.handlesLeft (handles + 1)) := by
  unfold after
  rw [outcome?_append, labels_append, waited_append]
  cases houtcome : outcome? cs with
  | none =>
    cases c with
    | complete result =>
      rw [perform, complete_pending]
      simp [outcome?, completions]
    | listen label =>
      rw [perform, listen_pending]
      simp [outcome?, completions]
    | wait =>
      rw [waited_eq_false_of_append cs hwaits, perform, wait_pending, release_pending]
      simp [outcome?, completions]
    | share =>
      rw [perform, share_pending]
      simp [outcome?, completions]
    | release =>
      rw [perform, release_pending]
      simp [outcome?, completions]
  | some first =>
    cases c with
    | complete result =>
      rw [perform, complete_completed]
      simp
    | listen label =>
      rw [perform, listen_completed]
      simp
    | wait =>
      rw [waited_eq_false_of_append cs hwaits, perform, wait_completed, release_completed]
      simp
    | share =>
      rw [perform, share_completed]
      simp
    | release =>
      rw [perform, release_completed]
      simp

end

theorem handles_after (cs : List Call) (handles : Nat) : (after cs handles).handles = handles := by
  unfold after
  split <;> rfl

theorem countP_of_append {cs cs' : List Call} (h : (cs ++ cs').countP Call.isWait ≤ 1) :
    cs.countP Call.isWait ≤ 1 :=
  Nat.le_trans (List.Sublist.countP_le (List.sublist_append_left cs cs')) h

/-- A run with at most one wait leaves what its calls lead to. -/
theorem Run.eq_after {cs : List Call} {answers : List Bool} {d : Deferred}
    (hrun : Run cs answers d) (hwaits : cs.countP Call.isWait ≤ 1) : d = after cs d.handles := by
  induction hrun with
  | start => rfl
  | @call cs answers d c _ hheld ih =>
    obtain ⟨left, hleft⟩ := Nat.exists_eq_succ_of_ne_zero (Nat.ne_of_gt hheld)
    have hstep : d.perform c = after (cs ++ [c]) (c.handlesLeft (left + 1)) := by
      rw [ih (countP_of_append hwaits), hleft]
      exact perform_after cs c hwaits left
    rw [hstep, handles_after]

/-- Only the first call that completes is answered with true. -/
theorem complete_after (cs : List Call) (handles : Nat) (result : Except Error Value) :
    ((after cs handles).complete result).1 = (outcome? cs).isNone := by
  unfold after
  cases houtcome : outcome? cs with
  | none => cases hwaited : waited cs <;> rfl
  | some first => rw [complete_completed]; rfl

/-- What a wait is told: the outcome, or that nobody is left. -/
def told (outcome? : Option (Except Error Value)) (held : Bool) : Poll :=
  match outcome? with
  | some result => .ready result
  | none => if held then .pending else .ready (.error dropped)

theorem poll_after {cs : List Call} (hwaited : waited cs = true) (handles : Nat) :
    ((after cs handles).poll 0).map Prod.fst = some (told (outcome? cs) (0 < handles)) := by
  unfold after
  cases houtcome : outcome? cs with
  | none =>
    rw [hwaited]
    by_cases hheld : 0 < handles <;> simp [poll, pending, told, hheld]
  | some result =>
    rw [hwaited]
    rfl

/-- The answers to the calls of a run that complete: the first is true, all others are false. -/
theorem Run.answers_eq {cs : List Call} {answers : List Bool} {d : Deferred}
    (hrun : Run cs answers d) (hwaits : cs.countP Call.isWait ≤ 1) :
    answers = (List.range (completions cs).length).map (· == 0) := by
  induction hrun with
  | start => rfl
  | @call cs answers d c hrun hheld ih =>
    have hbefore := countP_of_append hwaits
    rw [ih hbefore, completions_append]
    cases c with
    | complete result =>
      have hanswer : (d.complete result).1 = ((completions cs).length == 0) := by
        rw [hrun.eq_after hbefore, complete_after, outcome?]
        cases completions cs <;> rfl
      simp [answer?, hanswer, List.range_succ]
    | listen | wait | share | release => simp [answer?]

/-- What becomes of a deferred result in a run. -/
structure Settles (cs : List Call) (answers : List Bool) (d : Deferred) : Prop where
  /-- Only the first call that completes is answered with true. -/
  answers : answers = (List.range (completions cs).length).map (· == 0)
  /-- A later one changes nothing. -/
  unchanged : ∀ result, (outcome? cs).isSome → (d.complete result).2 = d
  /-- The first one runs the listeners that are there, in the order of registration. -/
  runs : ∀ result, outcome? cs = none → 0 < d.handles →
    (d.complete result).2.fired = labels cs
  /-- Behind it a listener runs at once. -/
  listens : ∀ label, (outcome? cs).isSome → (d.listen label).fired = d.fired ++ [label]
  /-- So every listener has run once, if any call completes, and otherwise none has. -/
  fired : d.fired = if (outcome? cs).isSome then labels cs else []
  /-- The wait is told the outcome, or fails when no handle is left to complete with. -/
  told : waited cs → (d.poll 0).map Prod.fst = some (told (outcome? cs) (0 < d.handles))

/-- A wait that is not answered at once ends with what it is told after the others. -/
theorem waitFor_of_pending {σ : Type} {d d' : Deferred}
    {others : StateT Deferred (StateM σ) Unit} {s t : σ} {result : Except Error Value}
    (hpoll : d.wait.2.poll d.wait.1 = some (.pending, d.wait.2))
    (hothers : others.run d.wait.2 s = (((), d'), t))
    (htold : (d'.abandon.poll d.wait.1).map Prod.fst = some (.ready result)) :
    (Returned.waitFor d others).run s = (result, t) := by
  obtain ⟨⟨told, _⟩, hlast, htold⟩ := Option.map_eq_some_iff.mp htold
  simp only at htold
  subst htold
  have hothers : others d.wait.2 s = (((), d'), t) := hothers
  simp [Returned.waitFor, hpoll, StateT.run, bind, StateT.bind, hothers, hlast]
  rfl

/-- The result of calls that have completed is there without waiting. -/
theorem run_resolve_of_some {σ : Type} {cs : List Call} {result : Except Error Value}
    (hwaited : waited cs = false) (houtcome : outcome? cs = some result) (handles : Nat)
    (others : StateT Deferred (StateM σ) Unit) (s : σ) :
    (Returned.deferred (after cs handles) others).resolve.run s = (result, s) := by
  rw [after_of_some houtcome, hwaited]
  rfl

/-- Else it is what comes of the calls that the others make meanwhile. -/
theorem run_resolve_of_none {σ : Type} {cs cs' : List Call} (hwaited : waited cs = false)
    (hwaited' : waited cs' = true) (houtcome : outcome? cs = none) (handles handles' : Nat)
    {others : StateT Deferred (StateM σ) Unit} {s t : σ}
    (hothers : others.run (after cs handles).wait.2 s = (((), after cs' handles'), t)) :
    (Returned.deferred (after cs handles) others).resolve.run s =
      ((outcome? cs').getD (.error dropped), t) := by
  have hlast : (after cs' handles').abandon = after cs' 0 := by
    unfold after
    split
    · exact abandon_pending _ _ _
    · exact abandon_completed _ _ _ _
  rw [after_of_none houtcome, hwaited] at hothers ⊢
  refine waitFor_of_pending rfl hothers ?_
  have htold := poll_after hwaited' 0
  rw [hlast]
  refine htold.trans ?_
  cases outcome? cs' <;> rfl

/-- Waiting for the result of calls without a wait gives their outcome, or what comes of the
calls that the others make meanwhile. -/
theorem resolve_after {σ : Type} {cs cs' : List Call} (hwaited : waited cs = false)
    (hwaited' : waited cs' = true) (hkept : ∀ result, outcome? cs = some result →
      outcome? cs' = some result) (handles handles' : Nat)
    {others : StateT Deferred (StateM σ) Unit} {s t : σ}
    (hothers : others.run (after cs handles).wait.2 s = (((), after cs' handles'), t)) :
    ((Returned.deferred (after cs handles) others).resolve.run s).1 =
      (outcome? cs').getD (.error dropped) := by
  cases houtcome : outcome? cs with
  | some result =>
    rw [run_resolve_of_some hwaited houtcome, hkept result houtcome, Option.getD_some]
  | none => rw [run_resolve_of_none hwaited hwaited' houtcome handles handles' hothers]

/-- A run with at most one wait goes by the first call that completes. -/
theorem Run.settles {cs : List Call} {answers : List Bool} {d : Deferred}
    (hrun : Run cs answers d) (hwaits : cs.countP Call.isWait ≤ 1) : Settles cs answers d := by
  have hanswers := hrun.answers_eq hwaits
  have hafter := hrun.eq_after hwaits
  generalize d.handles = handles at hafter
  subst hafter
  constructor
  case answers => exact hanswers
  case unchanged =>
    intro result hsome
    obtain ⟨first, houtcome⟩ := Option.isSome_iff_exists.mp hsome
    rw [after_of_some houtcome, complete_completed]
  case runs =>
    intro result houtcome hheld
    rw [handles_after] at hheld
    obtain ⟨left, hleft⟩ := Nat.exists_eq_succ_of_ne_zero (Nat.ne_of_gt hheld)
    rw [after_of_none houtcome, hleft, complete_pending]
    rfl
  case listens =>
    intro label hsome
    obtain ⟨first, houtcome⟩ := Option.isSome_iff_exists.mp hsome
    rw [after_of_some houtcome, listen_completed]
    rfl
  case fired =>
    cases houtcome : outcome? cs with
    | none => rw [after_of_none houtcome]; rfl
    | some first => rw [after_of_some houtcome]; rfl
  case told =>
    intro hwaited
    rw [handles_after]
    exact poll_after hwaited handles

/-- A run with at most one wait goes by the first call that completes.  This holds as well for
a handler that returns one more handle on the result, with all that others do before and while
it is waited for. -/
theorem run_settles {cs : List Call} {answers : List Bool} {d : Deferred}
    (hrun : Run cs answers d) (hwaits : cs.countP Call.isWait ≤ 1) :
    Settles cs answers d ∧
      ∀ {σ : Type} {others : StateT Deferred (StateM σ) Unit} {s t : σ} {d' : Deferred}
        {cs' : List Call} {answers' : List Bool},
        others.run d.wait.2 s = (((), d'), t) →
        Run (cs ++ Call.share :: Call.wait :: cs') answers' d' →
        (cs ++ Call.share :: Call.wait :: cs').countP Call.isWait ≤ 1 →
        ((Returned.deferred d others).resolve.run s).1 =
          (outcome? (cs ++ cs')).getD (.error dropped) := by
  refine ⟨hrun.settles hwaits, ?_⟩
  intro σ others s t d' cs' answers' hothers hrun' hwaits'
  have houtcome : outcome? (cs ++ Call.share :: Call.wait :: cs') = outcome? (cs ++ cs') := by
    rw [outcome?_append, outcome?_append]
    rfl
  have hwaited : waited cs = false := by
    refine waited_eq_false_of_append cs (Nat.le_trans ?_ hwaits')
    simp
  have hwaited' : waited (cs ++ Call.share :: Call.wait :: cs') = true := by simp [waited]
  have hkept : ∀ result, outcome? cs = some result →
      outcome? (cs ++ Call.share :: Call.wait :: cs') = some result := by
    intro result hfirst
    rw [outcome?_append, hfirst, Option.some_or]
  rw [hrun.eq_after hwaits] at hothers ⊢
  rw [hrun'.eq_after hwaits'] at hothers
  rw [← houtcome]
  exact resolve_after hwaited hwaited' hkept d.handles d'.handles hothers

/-- What others do while a handler waits: they complete twice, and listen in between. -/
def completedTwice : StateT Deferred (StateM Unit) Unit :=
  modify fun d =>
    (((d.complete (.ok (.bool true))).2.listen "late").complete (.ok (.bool false))).2

theorem run_settles_completed_twice :
    let early : List Call := [.listen "early"]
    let calls : List Call := early ++
      [.share, .wait, .complete (.ok (.bool true)), .listen "late", .complete (.ok (.bool false))]
    let before : Deferred := { listeners := ["early"] }
    Settles calls [true, false] (after calls 1) ∧ (after calls 1).fired = ["early", "late"] ∧
      ((Returned.deferred before completedTwice).resolve.run ()).1 = .ok (.bool true) := by
  intro early calls before
  have hearly : Run early [] before := Run.call (.listen "early") .start (by decide)
  have hcalls : Run calls [true, false] (after calls 1) :=
    Run.call (.complete (.ok (.bool false)))
      (Run.call (.listen "late")
        (Run.call (.complete (.ok (.bool true)))
          (Run.call .wait (Run.call .share hearly (by decide)) (by decide)) (by decide))
        (by decide)) (by decide)
  have hsettles := (run_settles hcalls (by decide)).1
  exact ⟨hsettles, hsettles.fired, (run_settles hearly (by decide)).2 rfl hcalls (by decide)⟩

/-- Without a call that completes, a listener never runs. -/
theorem unheard_listener :
    ¬ ∀ cs answers d, Run cs answers d → cs.countP Call.isWait ≤ 1 →
      ∀ label ∈ labels cs, d.fired.count label = 1 := by
  intro heard
  have hrun : Run [.listen "early", .release] [] { handles := 0 } :=
    Run.call .release (Run.call (.listen "early") .start (by decide)) (by decide)
  have hcount := heard _ _ _ hrun (by decide) "early" (by decide)
  exact absurd hcount (by decide)

end Deferred

end RestDispatch
