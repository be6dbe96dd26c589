import Mathlib.Data.List.Chain
import RestDispatch.Proofs.Binding.BeanCache

/-!
# The first binding that is kept stays

A program on the kept bindings asks for bindings, any number of times, and goes on as it likes
with what each call answers, failures included.  What builds a binding for a call is such a
program too.  It runs while its call is in progress, only if nothing was kept under the key of the
call, and it may ask for that very key.  What binds the parameters of a handler is a program of
this kind.

The timeline of a program has a moment for the beginning of every call, for the end of its build,
and for its own end, with what is kept then, and the moments of the build's own calls in between.
From one moment to the next nothing is added but, at the end of a call, what its build made, and
that only if nothing is kept under its key.  So what is kept grows at its end, and the rest is
read off single steps.
-/

namespace RestDispatch

/-- A program that asks for bindings and may look at all that are kept. -/
inductive BeanProgram : Type → Type 1
  | done {α : Type} (answer : Except Error α) : BeanProgram α
  | report {α : Type} (event : Event) (next : BeanProgram α) : BeanProgram α
  | look {α : Type} (next : BeanCache → BeanProgram α) : BeanProgram α
  | ask {α : Type} (key : String × BeanFlavor) (build : BeanProgram BeanBinding)
      (next : Except Error BeanBinding → BeanProgram α) : BeanProgram α

/-- What happens at a moment. -/
inductive BeanAct
  | start
  | began (key : String × BeanFlavor)
  | built (key : String × BeanFlavor) (answer : Except Error BeanBinding)
  | ended (key : String × BeanFlavor) (answer : Except Error BeanBinding)

/-- A moment of a program, with the bindings that are kept behind it. -/
structure BeanMoment where
  act : BeanAct
  beans : BeanCache

/-- The moment behind a build or a call. -/
def BeanMoment.behind (act : Except Error BeanBinding → BeanAct)
    (outcome : Except Error BeanBinding × DeployState) : BeanMoment :=
  ⟨act outcome.1, outcome.2.beans⟩

namespace BeanProgram

def run {α : Type} : BeanProgram α → Deploying α
  | .done answer => .lift answer
  | .report event next => do
    .report event
    next.run
  | .look next => do
    (next (← get).beans).run
  | .ask key build next => do
    (next (← observing (Binding.cached key build.run))).run

/-- The moments behind the start. -/
def moments {α : Type} : BeanProgram α → DeployState → List BeanMoment
  | .done _, _ => []
  | .report event next, s => next.moments { s with events := s.events ++ [event] }
  | .look next, s => (next s.beans).moments s
  | .ask key build next, s =>
    let inner :=
      match s.beans.get? key with
      | some _ => []
      | none => build.moments s ++ [.behind (.built key) (build.run.run.run s)]
    let ended := (Binding.cached key build.run).run.run s
    ⟨.began key, s.beans⟩ ::
      (inner ++ .behind (.ended key) ended :: (next ended.1).moments ended.2)

def bind {α β : Type} : BeanProgram α → (α → BeanProgram β) → BeanProgram β
  | .done (.ok a), next => next a
  | .done (.error e), _ => .done (.error e)
  | .report event rest, next => .report event (rest.bind next)
  | .look rest, next => .look fun beans => (rest beans).bind next
  | .ask key build rest, next => .ask key build fun answer => (rest answer).bind next

theorem run_bind {α β : Type} (program : BeanProgram α) (next : α → BeanProgram β) :
    (program.bind next).run = program.run >>= fun a => (next a).run := by
  induction program with
  | done answer => cases answer <;> rfl
  | report event rest ih => simp only [bind, run, ih, bind_assoc]
  | look rest ih => simp only [bind, run, ih, bind_assoc]
  | ask key build rest _ ih => simp only [bind, run, ih, bind_assoc]

theorem run_done {α : Type} (answer : Except Error α) (s : DeployState) :
    (done answer).run.run.run s = (answer, s) := by
  cases answer <;> rfl

theorem run_reports {α : Type} (events : List Event) (answer : Except Error α) (s : DeployState) :
    (events.foldr report (done answer)).run.run.run s =
      (answer, { s with events := s.events ++ events }) := by
  induction events generalizing s with
  | nil => rw [List.foldr_nil, run_done, List.append_nil]
  | cons event events ih =>
    rw [List.foldr_cons, run, Deploying.run_bind]
    exact (ih _).trans (by rw [List.append_assoc, List.singleton_append])

def timeline {α : Type} (program : BeanProgram α) (s : DeployState) : List BeanMoment :=
  ⟨.start, s.beans⟩ :: program.moments s

end BeanProgram

theorem BeanCache.get?_append_singleton (cache : BeanCache) (key key' : String × BeanFlavor)
    (b : BeanBinding) :
    BeanCache.get? (cache ++ [(key, b)]) key' =
      (cache.get? key').or (if key' = key then some b else none) := by
  rw [Deploying.get?_append]
  by_cases h : key' = key
  · rw [if_pos h, h]
    exact congrArg _ List.lookup_cons_self
  · rw [if_neg h]
    simp [BeanCache.get?, List.lookup_cons, beq_eq_false_iff_ne.mpr h]

theorem BeanCache.get?_of_isPrefix {cache cache' : BeanCache} (h : cache <+: cache')
    {key : String × BeanFlavor} {b : BeanBinding} (hkey : cache.get? key = some b) :
    cache'.get? key = some b := by
  obtain ⟨later, rfl⟩ := h
  rw [Deploying.get?_append, hkey, Option.some_or]

namespace BeanMoment

variable {m m' last : BeanMoment} {ms ms' : List BeanMoment} {key : String × BeanFlavor}

/-- No build has just ended. -/
def Settled (m : BeanMoment) : Prop := ∀ key answer, m.act ≠ .built key answer

theorem settled_start (beans : BeanCache) : Settled ⟨.start, beans⟩ := fun _ _ h => by cases h

theorem settled_began (key : String × BeanFlavor) (beans : BeanCache) :
    Settled ⟨.began key, beans⟩ := fun _ _ h => by cases h

theorem settled_ended (key : String × BeanFlavor)
    (outcome : Except Error BeanBinding × DeployState) :
    (behind (.ended key) outcome).Settled := fun _ _ h => by cases h

/-- What can come right behind a moment. -/
inductive Follows : BeanMoment → BeanMoment → Prop
  | began {m : BeanMoment} (key : String × BeanFlavor) : m.Settled →
      Follows m ⟨.began key, m.beans⟩
  | built {m : BeanMoment} (key : String × BeanFlavor) (answer : Except Error BeanBinding) :
      m.Settled → Follows m ⟨.built key answer, m.beans⟩
  | found {key : String × BeanFlavor} {beans : BeanCache} {kept : BeanBinding} :
      beans.get? key = some kept → Follows ⟨.began key, beans⟩ ⟨.ended key (.ok kept), beans⟩
  | present {key : String × BeanFlavor} {beans : BeanCache} {b kept : BeanBinding} :
      beans.get? key = some kept →
      Follows ⟨.built key (.ok b), beans⟩ ⟨.ended key (.ok kept), beans⟩
  | added {key : String × BeanFlavor} {beans : BeanCache} {b : BeanBinding} :
      beans.get? key = none →
      Follows ⟨.built key (.ok b), beans⟩ ⟨.ended key (.ok b), beans ++ [(key, b)]⟩
  | failed {key : String × BeanFlavor} {beans : BeanCache} {e : Error} :
      Follows ⟨.built key (.error e), beans⟩ ⟨.ended key (.error e), beans⟩

/-- Moments that follow one another, from one moment to another. -/
inductive Course : BeanMoment → List BeanMoment → BeanMoment → Prop
  | nil {m : BeanMoment} : Course m [] m
  | cons {m m' last : BeanMoment} {ms : List BeanMoment} : m.Follows m' → Course m' ms last →
      Course m (m' :: ms) last

theorem Course.append {mid : BeanMoment} (h : Course m ms mid) (h' : Course mid ms' last) :
    Course m (ms ++ ms') last := by
  induction h with
  | nil => exact h'
  | cons hstep _ ih => exact .cons hstep (ih h')

theorem Course.isChain (h : Course m ms last) : (m :: ms).IsChain Follows := by
  induction h with
  | nil => exact List.isChain_singleton _
  | cons hstep _ ih => exact ih.cons_cons hstep

theorem Course.forall_mem {P : BeanMoment → Prop} (h : Course m ms last)
    (hP : ∀ m m' : BeanMoment, m.Follows m' → P m') : ∀ m ∈ ms, P m := by
  induction h with
  | nil => exact List.forall_mem_nil _
  | cons hstep _ ih => exact List.forall_mem_cons.mpr ⟨hP _ _ hstep, ih⟩

/-- All that is kept stays in its place. -/
def Grows (m m' : BeanMoment) : Prop := m.beans <+: m'.beans

instance : Trans Grows Grows Grows := ⟨List.IsPrefix.trans⟩

theorem Follows.grows (h : m.Follows m') : m.Grows m' := by
  cases h with
  | began | built | found | present | failed => exact List.prefix_rfl
  | added => exact List.prefix_append _ _

theorem Course.grows (h : Course m ms last) : m.Grows last := by
  induction h with
  | nil => exact List.prefix_rfl
  | cons hstep _ ih => exact hstep.grows.trans ih

theorem Follows.get?_eq_of_ended (h : m.Follows m') {b : BeanBinding}
    (hact : m'.act = .ended key (.ok b)) : m'.beans.get? key = some b := by
  cases h with
  | began | built | failed => cases hact
  | found hkept | present hkept =>
    cases hact
    exact hkept
  | added hnone =>
    cases hact
    rw [BeanCache.get?_append_singleton, hnone, Option.none_or, if_pos rfl]

theorem Follows.eq_of_built_error (h : m.Follows m') {e : Error}
    (hact : m.act = .built key (.error e)) : m' = ⟨.ended key (.error e), m.beans⟩ := by
  cases h with
  | began _ hm | built _ _ hm => exact absurd hact (hm _ _)
  | found | present | added => cases hact
  | failed =>
    cases hact
    rfl

/-- What is kept under a key changes only when a call for it keeps what its build made. -/
theorem Follows.added_of_get?_ne (h : m.Follows m')
    (hkey : m'.beans.get? key ≠ m.beans.get? key) :
    ∃ b, m.act = .built key (.ok b) ∧ m'.act = .ended key (.ok b) := by
  cases h with
  | began | built | found | present | failed => exact absurd rfl hkey
  | @added added _ b hnone =>
    by_cases heq : key = added
    · exact ⟨b, by rw [heq], by rw [heq]⟩
    · rw [BeanCache.get?_append_singleton, if_neg heq, Option.or_none] at hkey
      exact absurd rfl hkey

end BeanMoment

/-- The first binding that is kept under a key is the one for good. -/
structure FirstWriterWins (ms : List BeanMoment) : Prop where
  stays : ms.Pairwise fun m m' => ∀ key b, m.beans.get? key = some b → m'.beans.get? key = some b
  -- of any call that ends later, one that began before included
  later : ms.Pairwise fun m m' => ∀ key b, m.beans.get? key = some b →
    ∀ b', m'.act = .ended key (.ok b') → b' = b
  returned : ∀ m ∈ ms, ∀ key b, m.act = .ended key (.ok b) → m.beans.get? key = some b
  failed : ms.IsChain fun m m' => ∀ key e, m.act = .built key (.error e) →
    m' = ⟨.ended key (.error e), m.beans⟩
  others : ms.IsChain fun m m' => ∀ key, m'.beans.get? key ≠ m.beans.get? key →
    ∃ b, m.act = .built key (.ok b) ∧ m'.act = .ended key (.ok b)

namespace BeanProgram

open BeanMoment

/-- A call that finds nothing goes on from the end of its build. -/
theorem follows_ended {s : DeployState} {key : String × BeanFlavor} (build : Deploying BeanBinding)
    (hkey : s.beans.get? key = none) :
    (behind (.built key) (build.run.run s)).Follows
      (behind (.ended key) ((Binding.cached key build).run.run s)) := by
  rw [Deploying.run_cached, hkey]
  rcases build.run.run s with ⟨e | b, t⟩
  · exact .failed
  · dsimp only [BeanCache.keepFirst]
    cases ht : t.beans.get? key with
    | some kept => exact .present ht
    | none => exact .added ht

/-- The moments of a program follow one another, and end with what the program leaves. -/
theorem course_moments {α : Type} (program : BeanProgram α) {s : DeployState} {m : BeanMoment}
    (hm : m.Settled) (hbeans : m.beans = s.beans) :
    ∃ last : BeanMoment, Course m (program.moments s) last ∧ last.Settled ∧
      last.beans = (program.run.run.run s).2.beans := by
  induction program generalizing s m with
  | done answer =>
    refine ⟨m, .nil, hm, ?_⟩
    rw [run_done, hbeans]
  | report event next ih => exact ih hm hbeans
  | look next ih => exact ih s.beans hm hbeans
  | ask key build next ihbuild ihnext =>
    have hbegan : m.Follows ⟨.began key, s.beans⟩ := hbeans ▸ .began key hm
    obtain ⟨last, hnext, hlast, hleft⟩ :=
      ihnext _ (settled_ended key ((Binding.cached key build.run).run.run s)) rfl
    refine ⟨last, .cons hbegan ?_, hlast, ?_⟩
    · cases hkey : s.beans.get? key with
      | some kept =>
        have hended : (Binding.cached key build.run).run.run s = (.ok kept, s) := by
          rw [Deploying.run_cached, hkey]
        have hfound : Follows ⟨.began key, s.beans⟩
            (behind (.ended key) ((Binding.cached key build.run).run.run s)) := by
          rw [hended]
          exact .found hkey
        exact .cons hfound hnext
      | none =>
        obtain ⟨mid, hbuild, hmid, hbuilt⟩ := ihbuild (settled_began key s.beans) rfl
        refine (hbuild.append (.cons ?_ .nil)).append (.cons (follows_ended build.run hkey) hnext)
        rw [behind, ← hbuilt]
        exact .built key _ hmid
    · rw [hleft, run, Deploying.run_bind, Deploying.run_observing]

theorem firstWriterWins_timeline {α : Type} (program : BeanProgram α) (s : DeployState) :
    FirstWriterWins (program.timeline s) := by
  obtain ⟨last, hcourse, -, -⟩ := program.course_moments (settled_start s.beans) rfl
  have hchain : (program.timeline s).IsChain Follows := hcourse.isChain
  have hreturned : ∀ m ∈ program.timeline s, ∀ key b, m.act = .ended key (.ok b) →
      m.beans.get? key = some b :=
    List.forall_mem_cons.mpr ⟨fun _ _ h => (by cases h),
      hcourse.forall_mem fun _ _ h _ _ => h.get?_eq_of_ended⟩
  have hgrows : (program.timeline s).Pairwise Grows := (hchain.imp fun _ _ h => h.grows).pairwise
  exact
  { stays := hgrows.imp fun h _ _ => BeanCache.get?_of_isPrefix h
    later := hgrows.imp_of_mem fun _ hm' h key b hkey b' hact => by
      have hkept := BeanCache.get?_of_isPrefix h hkey
      rw [hreturned _ hm' key b' hact] at hkept
      exact Option.some.inj hkept
    returned := hreturned
    failed := hchain.imp fun _ _ h _ _ => h.eq_of_built_error
    others := hchain.imp fun _ _ h _ => h.added_of_get?_ne }

-- A build that asks for its own key gets there first.
example (first second : BeanBinding) :
    ((ask ("Page", .query) (ask ("Page", .query) (done (.ok first)) fun _ => done (.ok second))
      done).run.run.run {}).1 = .ok first := by
  rfl

end BeanProgram

/-- A step does what a program on the kept bindings does. -/
def Deploying.IsProgram {α : Type} (step : Deploying α) : Prop :=
  ∃ program : BeanProgram α, program.run = step

namespace Deploying

variable {α : Type}

theorem Aside.isProgram {step : Deploying α} (h : step.Aside) : step.IsProgram := by
  obtain ⟨outcome, events, hrun⟩ := h
  exact ⟨events.foldr .report (.done outcome),
    ExceptT.ext (funext fun s => (BeanProgram.run_reports events outcome s).trans (hrun s).symm)⟩

theorem isProgram_cached {key : String × BeanFlavor} {build : Deploying BeanBinding}
    (hbuild : build.IsProgram) : (Binding.cached key build).IsProgram := by
  obtain ⟨program, rfl⟩ := hbuild
  refine ⟨.ask key program .done, ExceptT.ext (funext fun s => ?_)⟩
  change (BeanProgram.run _).run.run s = (Binding.cached key program.run).run.run s
  rw [BeanProgram.run, run_bind, run_observing]
  exact BeanProgram.run_done _ _

theorem composes_isProgram : Composes fun step => step.IsProgram where
  aside := Aside.isProgram
  bind := by
    rintro α β _ next ⟨program, rfl⟩ hnext
    choose rest hrest using hnext
    exact ⟨program.bind rest, by rw [BeanProgram.run_bind]; simp only [hrest]⟩

end Deploying

namespace Binding

/-- What binds a parameter is such a program. -/
theorem isProgram_bind (ctx : BindingContext) (p : Param) : (bind ctx p).IsProgram :=
  composes_bind Deploying.composes_isProgram fun _ _ _ _ => Deploying.isProgram_cached

/-- Binding a parameter leaves all that is kept as it is, even if it fails. -/
theorem isPrefix_bind (ctx : BindingContext) (p : Param) (s : DeployState) :
    s.beans <+: ((bind ctx p).run.run s).2.beans := by
  obtain ⟨program, hprogram⟩ := isProgram_bind ctx p
  obtain ⟨last, hcourse, -, hleft⟩ :=
    program.course_moments (BeanMoment.settled_start s.beans) rfl
  rw [← hprogram, ← hleft]
  exact hcourse.grows

end Binding

end RestDispatch
