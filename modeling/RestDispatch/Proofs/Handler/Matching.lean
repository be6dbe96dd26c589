import Mathlib.Data.List.Nodup
import RestDispatch.Handler.Interceptor
import RestDispatch.Proofs.Failure
import RestDispatch.Proofs.StableSort

/-!
# The interceptors that apply

Which interceptors apply to a request is said by their predicates, and the order in which they
run by their orders and the order of registration: they are the stable sort of those whose
predicate holds.  A matcher comes to the same in two ways.  What is settled when it is bound is
kept sorted and is all there is when no request decides on anything; otherwise it is merged
with what the request decides on, in a buffer that is used again and again.

The proof goes by the places of registration.  No two entries have the same place, so a list of
entries that is sorted by order and place is the stable sort by order of whatever it permutes.
-/

namespace RestDispatch

/-- Whether a pattern, given as a text, can be read and matches a path. -/
def PathPattern.textMatches (path : String) (matrix : Bool) (text : String) : Bool :=
  match PathPattern.parse text with
  | .ok p => (p.matchPath? path matrix).isSome
  | .error _ => false

namespace InterceptorPredicate

/-- Whether a predicate holds of a route and a request. -/
def holds (m : HandlerMethod) (c : RouteCondition) (matrix : Bool) (r : Request) :
    InterceptorPredicate → Bool
  | .always => true
  | .never => false
  | .route decides => decides m c
  | .paths includes excludes =>
    (includes.isEmpty || includes.any (PathPattern.textMatches r.path matrix)) &&
      !excludes.any (PathPattern.textMatches r.path matrix)
  | .request decides => decides r

/-- The patterns of a predicate, if it has any, can be read. -/
def Readable : InterceptorPredicate → Prop
  | .paths includes excludes =>
    (∃ patterns, includes.mapM PathPattern.parse = .ok patterns) ∧
      ∃ patterns, excludes.mapM PathPattern.parse = .ok patterns
  | _ => True

end InterceptorPredicate

/-- Patterns that were read match what their texts match. -/
theorem any_of_mapM_parse {texts : List String} {patterns : List PathPattern}
    (h : texts.mapM PathPattern.parse = .ok patterns) (path : String) (matrix : Bool) :
    patterns.any (fun p => (p.matchPath? path matrix).isSome) =
      texts.any (PathPattern.textMatches path matrix) := by
  induction texts generalizing patterns with
  | nil =>
    cases h
    rfl
  | cons text texts ih =>
    rw [List.mapM_cons] at h
    obtain ⟨p, hp, h⟩ := bind_eq_ok_iff.mp h
    obtain ⟨rest, hrest, h⟩ := bind_eq_ok_iff.mp h
    cases h
    rw [List.any_cons, List.any_cons, ih hrest, PathPattern.textMatches, hp]

theorem isEmpty_of_mapM_parse {texts : List String} {patterns : List PathPattern}
    (h : texts.mapM PathPattern.parse = .ok patterns) : patterns.isEmpty = texts.isEmpty := by
  cases texts with
  | nil =>
    cases h
    rfl
  | cons text texts =>
    rw [List.mapM_cons] at h
    obtain ⟨p, -, h⟩ := bind_eq_ok_iff.mp h
    obtain ⟨rest, -, h⟩ := bind_eq_ok_iff.mp h
    cases h
    rfl

namespace InterceptorEntry

variable {σ : Type}

theorem weakOrder_precedes : WeakOrder (precedes : InterceptorEntry σ → _ → Bool) where
  asymm a b hab := by
    simp only [precedes, Bool.or_eq_true, Bool.and_eq_true, decide_eq_true_eq, beq_iff_eq,
      Bool.or_eq_false_iff, Bool.and_eq_false_imp, decide_eq_false_iff_not] at hab ⊢
    omega
  trans a b c hab hbc := by
    simp only [precedes, Bool.or_eq_false_iff, Bool.and_eq_false_imp, decide_eq_false_iff_not,
      beq_iff_eq] at hab hbc ⊢
    omega

/-- Whether one entry runs before another wherever they were registered. -/
def outranks (a b : InterceptorEntry σ) : Bool := a.interceptor.order < b.interceptor.order

theorem weakOrder_outranks : WeakOrder (outranks : InterceptorEntry σ → _ → Bool) where
  asymm a b hab := by
    simp only [outranks, decide_eq_true_eq, decide_eq_false_iff_not] at hab ⊢
    omega
  trans a b c hab hbc := by
    simp only [outranks, decide_eq_false_iff_not] at hab hbc ⊢
    omega

theorem outranks_of_precedes {a b : InterceptorEntry σ} (h : a.precedes b = false) :
    a.outranks b = false := (Bool.or_eq_false_iff.mp h).1

/-- Of two tied entries, the one that is not preceded is not behind. -/
theorem place_le_of_tied {a b x : InterceptorEntry σ} (hprecedes : b.precedes a = false)
    (ha : tied outranks x a = true) (hb : tied outranks x b = true) : a.place ≤ b.place := by
  rw [tied_iff] at ha hb
  simp only [precedes, outranks, Bool.or_eq_false_iff, Bool.and_eq_false_imp,
    decide_eq_false_iff_not, beq_iff_eq] at hprecedes ha hb
  omega

/-- Entries by order and place are the stable sort by order alone of those that stand in the
order of their places. -/
theorem eq_mergeSort {entries registered : List (InterceptorEntry σ)}
    (hsorted : InOrder precedes entries) (hperm : entries.Perm registered)
    (hplaces : registered.Pairwise fun a b => a.place < b.place) :
    entries = registered.mergeSort fun a b => !outranks b a := by
  have hdistinct : (registered.map place).Nodup :=
    List.pairwise_map.mpr (hplaces.imp Nat.ne_of_lt)
  refine weakOrder_outranks.eq_mergeSort (hsorted.imp outranks_of_precedes) fun x => ?_
  have hentries : (entries.filter (tied outranks x)).Pairwise fun a b => a.place ≤ b.place := by
    refine List.Pairwise.imp_of_mem ?_ (hsorted.filter _)
    intro a b ha hb hab
    exact place_le_of_tied hab (List.mem_filter.mp ha).2 (List.mem_filter.mp hb).2
  have hregistered :
      (registered.filter (tied outranks x)).Pairwise fun a b => a.place ≤ b.place :=
    (hplaces.filter _).imp Nat.le_of_lt
  refine List.Perm.eq_of_pairwise ?_ hentries hregistered (hperm.filter _)
  intro a b ha hb hab hba
  have ha : a ∈ registered := hperm.mem_iff.mp (List.mem_filter.mp ha).1
  have hb : b ∈ registered := (List.mem_filter.mp hb).1
  exact List.inj_on_of_nodup_map hdistinct ha hb (Nat.le_antisymm hab hba)

end InterceptorEntry

namespace InterceptorMatcher

section

variable {σ : Type} (interceptors : List (Interceptor σ)) (m : HandlerMethod)
  (c : RouteCondition) (matrix : Bool)

/-- The interceptors whose predicate holds, in ascending order; of equal orders the one that
was registered first comes first. -/
def select (r : Request) : List (Interceptor σ) :=
  (interceptors.filter fun i => i.predicate.holds m c matrix r).mergeSort fun a b =>
    a.order ≤ b.order

/-- The entries whose predicate holds, in the order of their places. -/
def applying (r : Request) (entries : List (InterceptorEntry σ)) : List (InterceptorEntry σ) :=
  entries.filter fun e => e.interceptor.predicate.holds m c matrix r

theorem pairwise_place_number : (number interceptors).Pairwise fun a b => a.place < b.place := by
  rw [number, List.pairwise_map]
  have hplaces : (interceptors.zipIdx.map Prod.snd).Pairwise (· < ·) := by
    rw [List.zipIdx_map_snd]
    exact List.pairwise_lt_range' 1
  exact List.pairwise_map.mp hplaces

theorem map_interceptor_number : (number interceptors).map (·.interceptor) = interceptors := by
  rw [number, List.map_map]
  exact List.zipIdx_map_fst 0 interceptors

theorem map_interceptor_applying (r : Request) :
    (applying m c matrix r (number interceptors)).map (·.interceptor) =
      interceptors.filter fun i => i.predicate.holds m c matrix r := by
  conv_rhs => rw [← map_interceptor_number interceptors]
  rw [applying, List.filter_map]
  rfl

variable {interceptors m c matrix}

/-- Sorted entries that are those of the interceptors that apply are the selection. -/
theorem map_interceptor_eq_select {r : Request} {entries : List (InterceptorEntry σ)}
    (hsorted : InOrder InterceptorEntry.precedes entries)
    (hperm : entries.Perm (applying m c matrix r (number interceptors))) :
    entries.map (·.interceptor) = select interceptors m c matrix r := by
  have hplaces := (pairwise_place_number interceptors).filter fun e =>
    e.interceptor.predicate.holds m c matrix r
  rw [InterceptorEntry.eq_mergeSort hsorted hperm hplaces, select,
    ← map_interceptor_applying]
  refine List.map_mergeSort fun a _ b _ => ?_
  rw [InterceptorEntry.outranks, ← decide_not]
  exact decide_eq_decide.mpr Int.not_lt

/-- The entries of a matcher that a request leaves. -/
def candidates (matcher : InterceptorMatcher σ) (r : Request) : List (InterceptorEntry σ) :=
  matcher.fixed ++
    (matcher.dynamic.filter fun (_, test) => test.passes r matcher.matrix).map (·.1)

theorem perm_candidates_fixed (matcher : InterceptorMatcher σ) (entry : InterceptorEntry σ)
    (r : Request) : (candidates { matcher with fixed := matcher.fixed ++ [entry] } r).Perm
      (matcher.candidates r ++ [entry]) := by
  rw [candidates, candidates, List.append_assoc, List.append_assoc]
  exact List.perm_append_comm.append_left matcher.fixed

theorem candidates_dynamic (matcher : InterceptorMatcher σ) (entry : InterceptorEntry σ)
    (test : RequestTest) (r : Request) :
    candidates { matcher with dynamic := matcher.dynamic ++ [(entry, test)] } r =
      matcher.candidates r ++ if test.passes r matcher.matrix then [entry] else [] := by
  rw [candidates, candidates, List.append_assoc, List.filter_append, List.map_append]
  cases h : test.passes r matcher.matrix <;> simp [h]

/-- Adding an entry succeeds when its patterns can be read, and then it is among those that a
request leaves if its predicate holds. -/
theorem perm_candidates_add {matcher matcher' : InterceptorMatcher σ}
    {entry : InterceptorEntry σ} (h : matcher.add m c entry = .ok matcher') :
    matcher'.matrix = matcher.matrix ∧ ∀ r, (matcher'.candidates r).Perm
      (matcher.candidates r ++ applying m c matcher.matrix r [entry]) := by
  unfold add at h
  simp only [applying, List.filter_cons, List.filter_nil]
  cases hpredicate : entry.interceptor.predicate with
  | always =>
    rw [hpredicate] at h
    cases h
    exact ⟨rfl, fun r => perm_candidates_fixed matcher entry r⟩
  | never =>
    rw [hpredicate] at h
    cases h
    simp [InterceptorPredicate.holds]
  | route decides =>
    rw [hpredicate] at h
    cases hdecides : decides m c with
    | true =>
      simp only [hdecides, if_true] at h
      cases h
      refine ⟨rfl, fun r => ?_⟩
      rw [InterceptorPredicate.holds, hdecides]
      exact perm_candidates_fixed matcher entry r
    | false =>
      simp only [hdecides, Bool.false_eq_true, if_false] at h
      cases h
      simp [InterceptorPredicate.holds, hdecides]
  | paths includes excludes =>
    rw [hpredicate] at h
    obtain ⟨included, hincluded, h⟩ := bind_eq_ok_iff.mp h
    obtain ⟨excluded, hexcluded, h⟩ := bind_eq_ok_iff.mp h
    cases h
    refine ⟨rfl, fun r => List.Perm.of_eq ?_⟩
    rw [candidates_dynamic, RequestTest.passes, isEmpty_of_mapM_parse hincluded,
      any_of_mapM_parse hincluded, any_of_mapM_parse hexcluded]
    rfl
  | request decides =>
    rw [hpredicate] at h
    cases h
    exact ⟨rfl, fun r => List.Perm.of_eq (candidates_dynamic matcher entry _ r)⟩

/-- Adding fails only for patterns that cannot be read. -/
theorem exists_add_iff (matcher : InterceptorMatcher σ) (entry : InterceptorEntry σ) :
    (∃ matcher', matcher.add m c entry = .ok matcher') ↔ entry.interceptor.predicate.Readable := by
  unfold add
  cases hpredicate : entry.interceptor.predicate with
  | always | never | route | request => simp [InterceptorPredicate.Readable]
  | paths includes excludes =>
    constructor
    · rintro ⟨matcher', h⟩
      obtain ⟨included, hincluded, h⟩ := bind_eq_ok_iff.mp h
      obtain ⟨excluded, hexcluded, -⟩ := bind_eq_ok_iff.mp h
      exact ⟨⟨included, hincluded⟩, ⟨excluded, hexcluded⟩⟩
    · rintro ⟨⟨included, hincluded⟩, ⟨excluded, hexcluded⟩⟩
      exact ⟨_, bind_eq_ok_iff.mpr ⟨included, hincluded,
        bind_eq_ok_iff.mpr ⟨excluded, hexcluded, rfl⟩⟩⟩

theorem perm_candidates_foldlM {entries : List (InterceptorEntry σ)}
    {matcher matcher' : InterceptorMatcher σ}
    (h : entries.foldlM (fun matcher entry => matcher.add m c entry) matcher = .ok matcher') :
    matcher'.matrix = matcher.matrix ∧ ∀ r, (matcher'.candidates r).Perm
      (matcher.candidates r ++ applying m c matcher.matrix r entries) := by
  induction entries generalizing matcher with
  | nil =>
    cases h
    exact ⟨rfl, fun r => by simp [applying]⟩
  | cons entry entries ih =>
    rw [List.foldlM_cons] at h
    obtain ⟨next, hadd, hrest⟩ := bind_eq_ok_iff.mp h
    obtain ⟨hmatrix, hnext⟩ := perm_candidates_add hadd
    obtain ⟨hmatrix', hrest⟩ := ih hrest
    refine ⟨hmatrix'.trans hmatrix, fun r => (hrest r).trans ?_⟩
    rw [hmatrix]
    refine ((hnext r).append_right _).trans (List.Perm.of_eq ?_)
    rw [List.append_assoc, applying, applying, ← List.filter_append]
    rfl

theorem exists_foldlM_iff (entries : List (InterceptorEntry σ))
    (matcher : InterceptorMatcher σ) :
    (∃ matcher', entries.foldlM (fun matcher entry => matcher.add m c entry) matcher =
      .ok matcher') ↔ ∀ entry ∈ entries, entry.interceptor.predicate.Readable := by
  induction entries generalizing matcher with
  | nil => exact ⟨fun _ _ h => absurd h List.not_mem_nil, fun _ => ⟨matcher, rfl⟩⟩
  | cons entry entries ih =>
    rw [List.forall_mem_cons, List.foldlM_cons]
    constructor
    · rintro ⟨matcher', h⟩
      obtain ⟨next, hadd, hrest⟩ := bind_eq_ok_iff.mp h
      exact ⟨(exists_add_iff matcher entry).mp ⟨next, hadd⟩, (ih next).mp ⟨matcher', hrest⟩⟩
    · rintro ⟨hentry, hentries⟩
      obtain ⟨next, hadd⟩ := (exists_add_iff matcher entry).mpr hentry
      obtain ⟨matcher', hrest⟩ := (ih next).mpr hentries
      exact ⟨matcher', bind_eq_ok_iff.mpr ⟨next, hadd, hrest⟩⟩

/-- A matcher that is bound keeps the entries that always apply sorted, and those that a request
leaves are the ones whose predicate holds. -/
theorem sorted_bind {matcher : InterceptorMatcher σ}
    (h : bind interceptors m c matrix = .ok matcher) :
    InOrder InterceptorEntry.precedes matcher.fixed ∧ ∀ r,
      (matcher.candidates r).Perm (applying m c matrix r (number interceptors)) := by
  obtain ⟨added, hadded, h⟩ := bind_eq_ok_iff.mp h
  cases h
  obtain ⟨hmatrix, hperm⟩ := perm_candidates_foldlM hadded
  refine ⟨InterceptorEntry.weakOrder_precedes.inOrder_stableSort _, fun r => ?_⟩
  refine List.Perm.trans ?_ (hperm r)
  exact (perm_stableSort _ _).append (((perm_stableSort _ _).filter _).map _)

theorem exists_bind_iff : (∃ matcher, bind interceptors m c matrix = .ok matcher) ↔
    ∀ i ∈ interceptors, i.predicate.Readable := by
  have hnumber : (∀ entry ∈ number interceptors, entry.interceptor.predicate.Readable) ↔
      ∀ i ∈ interceptors, i.predicate.Readable := by
    conv_rhs => rw [← map_interceptor_number interceptors]
    rw [List.forall_mem_map]
  rw [← hnumber, ← exists_foldlM_iff (m := m) (c := c) (number interceptors) { matrix := matrix }]
  constructor
  · rintro ⟨matcher, h⟩
    obtain ⟨added, hadded, -⟩ := bind_eq_ok_iff.mp h
    exact ⟨added, hadded⟩
  · rintro ⟨added, hadded⟩
    exact ⟨_, bind_eq_ok_iff.mpr ⟨added, hadded, rfl⟩⟩

/-- What is gathered is what a request leaves, sorted, whatever the buffer held. -/
theorem run_gather (matcher : InterceptorMatcher σ) (r : Request)
    (buffer : List (InterceptorEntry σ)) : (matcher.gather r).run buffer =
      ((stableSort InterceptorEntry.precedes (matcher.candidates r)).map (·.interceptor), []) :=
  rfl

/-- Where no request decides, what is ready is the selection. -/
theorem map_interceptor_fixed {matcher : InterceptorMatcher σ}
    (hbind : bind interceptors m c matrix = .ok matcher) (hdynamic : matcher.dynamic = [])
    (r : Request) : matcher.fixed.map (·.interceptor) = select interceptors m c matrix r := by
  obtain ⟨hfixed, hcandidates⟩ := sorted_bind hbind
  have hperm := hcandidates r
  rw [candidates, hdynamic, List.filter_nil, List.map_nil, List.append_nil] at hperm
  exact map_interceptor_eq_select hfixed hperm

/-- Merging makes the selection, whatever the buffer held. -/
theorem run_gather_eq_select {matcher : InterceptorMatcher σ}
    (hbind : bind interceptors m c matrix = .ok matcher) (r : Request)
    (buffer : List (InterceptorEntry σ)) :
    (matcher.gather r).run buffer = (select interceptors m c matrix r, []) := by
  rw [run_gather]
  refine congrArg (·, []) (map_interceptor_eq_select ?_ ?_)
  · exact InterceptorEntry.weakOrder_precedes.inOrder_stableSort _
  · exact (perm_stableSort _ _).trans ((sorted_bind hbind).2 r)

theorem run_matchingIn {matcher : InterceptorMatcher σ}
    (hbind : bind interceptors m c matrix = .ok matcher) (r : Request)
    (buffer : List (InterceptorEntry σ)) :
    ((matcher.matchingIn r).run buffer).1 = select interceptors m c matrix r := by
  rw [matchingIn]
  split
  next hdynamic => exact map_interceptor_fixed hbind (List.isEmpty_iff.mp hdynamic) r
  next => rw [run_gather_eq_select hbind]

theorem mem_of_mem_matching {matcher : InterceptorMatcher σ}
    (hbind : bind interceptors m c matrix = .ok matcher) {r : Request} {i : Interceptor σ}
    (hi : i ∈ matcher.matching r) : i ∈ interceptors := by
  rw [matching, run_matchingIn hbind, select, List.mem_mergeSort] at hi
  exact List.mem_of_mem_filter hi

/-- What calls on any matchers leave in the buffer. -/
def leftBy (calls : List (InterceptorMatcher σ × Request)) (buffer : List (InterceptorEntry σ)) :
    List (InterceptorEntry σ) :=
  calls.foldl (fun buffer (matcher, r) => ((matcher.matchingIn r).run buffer).2) buffer

/-- A matcher makes a selection, by whichever way it takes. -/
structure Selects (matcher : InterceptorMatcher σ)
    (selected : Request → List (Interceptor σ)) : Prop where
  /-- Where no request decides, what is ready is the selection. -/
  ready : matcher.dynamic = [] → ∀ r, matcher.fixed.map (·.interceptor) = selected r
  /-- Merging makes it, whatever the buffer held, and empties the buffer. -/
  merged : ∀ r buffer, (matcher.gather r).run buffer = (selected r, [])
  matching : ∀ r, matcher.matching r = selected r
  /-- It does not depend on the calls before it, be they on this matcher or on others. -/
  later : ∀ calls buffer r, ((matcher.matchingIn r).run (leftBy calls buffer)).1 = selected r

/-- A matcher can be bound when the patterns of all predicates can be read, and then it selects
the interceptors whose predicate holds, in the order of their orders and of registration. -/
theorem bind_selects (interceptors : List (Interceptor σ)) (m : HandlerMethod)
    (c : RouteCondition) (matrix : Bool) :
    ((∃ matcher, bind interceptors m c matrix = .ok matcher) ↔
      ∀ i ∈ interceptors, i.predicate.Readable) ∧
    ∀ matcher, bind interceptors m c matrix = .ok matcher →
      matcher.Selects (select interceptors m c matrix) := by
  refine ⟨exists_bind_iff, fun matcher hbind => ?_⟩
  exact {
    ready := map_interceptor_fixed hbind
    merged := run_gather_eq_select hbind
    matching := fun r => run_matchingIn hbind r []
    later := fun calls buffer r => run_matchingIn hbind r (leftBy calls buffer) }

/-- Two that a request decides on among three that are settled before. -/
def mixed : List (Interceptor Unit) :=
  [{ name := "area", order := 5, predicate := .paths ["/orders/**"] ["/orders/{id}/raw"] },
    { name := "log", order := 5 },
    { name := "reading", order := -1, predicate := .route fun _ c => c.methods.contains .get },
    { name := "off", predicate := .never },
    { name := "posting", order := -1, predicate := .request fun r => r.method == .post }]

def orders : HandlerMethod where
  name := "orders"
  declaring := { name := "C" }

def getOrPost : RouteCondition where
  patterns := []
  methods := [.get, .post]
  consumes := []
  produces := []
  headers := []
  params := []

/-- What runs at a request that posts an order, and at one that reads it as it was sent. -/
theorem bind_selects_mixed : ∃ matcher, bind mixed orders getOrPost true = .ok matcher ∧
    matcher.Selects (select mixed orders getOrPost true) ∧
    (select mixed orders getOrPost true (.ofUri .post "/orders/7")).map (·.name) =
      ["reading", "posting", "area", "log"] ∧
    (select mixed orders getOrPost true (.ofUri .get "/orders/7/raw")).map (·.name) =
      ["reading", "log"] := by
  have hbound := bind_selects mixed orders getOrPost true
  have hreadable : ∀ i ∈ mixed, i.predicate.Readable := by
    simp only [mixed, List.forall_mem_cons, InterceptorPredicate.Readable, true_and]
    exact ⟨⟨⟨_, rfl⟩, ⟨_, rfl⟩⟩, nofun⟩
  obtain ⟨matcher, hbind⟩ := hbound.1.mpr hreadable
  have hselects := hbound.2 matcher hbind
  -- The names are those of a run, since the sort in the selection does not evaluate.
  have hruns (r : Request) (names : List String)
      (h : (bind mixed orders getOrPost true).toOption.map
        (fun matcher => (matcher.matching r).map (·.name)) = some names) :
      (select mixed orders getOrPost true r).map (·.name) = names := by
    rw [hbind] at h
    rw [← hselects.matching]
    exact Option.some.inj h
  exact ⟨matcher, hbind, hselects, hruns _ _ (by decide +kernel), hruns _ _ (by decide +kernel)⟩

end

end InterceptorMatcher

end RestDispatch
