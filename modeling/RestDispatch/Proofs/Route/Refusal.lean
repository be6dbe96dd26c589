import RestDispatch.Proofs.Route.TableOrder

/-!
# Why no route takes a request

A condition runs its tests in a fixed order and stops at the first that fails.  A request that
no route takes is refused for the nearest miss of all routes, and the methods that are offered
with a refused method come from a second look at the routes, which tests their paths alone.

The main statement says from the tests of the single routes which refusal is answered, and
that the two looks agree: the offered methods are those of the routes for the path, none of
them is the refused one, and a request with one of them instead gets past the methods.
-/

namespace RestDispatch

theorem Method.name_injective : Function.Injective Method.name := by
  intro a b
  cases a <;> cases b <;> decide

namespace Mismatch

/-- The misses in the order of the tests that lead to them. -/
def all : List Mismatch := [.path, .method, .headers, .params, .consumes, .produces]

theorem mem_take_all {test miss : Mismatch} (h : test.nearness < miss.nearness) :
    test ∈ all.take miss.nearness := by
  revert h
  cases miss <;> cases test <;> decide

theorem eq_of_nearness {a b : Mismatch} (h : a.nearness = b.nearness) : a = b := by
  revert h
  cases a <;> cases b <;> decide

theorem nearness_nearer (a b : Mismatch) :
    (a.nearer b).nearness = max a.nearness b.nearness := by
  unfold nearer
  split
  · omega
  · omega

theorem nearer_eq_or (a b : Mismatch) : a.nearer b = a ∨ a.nearer b = b := by
  unfold nearer
  split
  · exact .inr rfl
  · exact .inl rfl

end Mismatch

namespace RouteCondition

/-- The tests of a condition, each under the miss that it leads to. -/
def passes (c : RouteCondition) (r : Request) (matrix : Bool) : Mismatch → Bool
  | .path => (c.matchPath? r.path matrix).isSome
  | .method => c.allowsMethod r.method
  | .headers => c.headers.all fun e => e.test (r.header? e.name)
  | .params => c.params.all fun e => e.test (r.param? e.name)
  | .consumes => c.allowsContent r.contentType?
  | .produces => (compatible? c.produces (r.header? "Accept")).isSome

/-- A condition passes every test in front of one, and fails that one. -/
structure MissesAt (c : RouteCondition) (r : Request) (matrix : Bool) (miss : Mismatch) :
    Prop where
  failed : c.passes r matrix miss = false
  passed : ∀ test, test.nearness < miss.nearness → c.passes r matrix test = true

section

variable {c : RouteCondition} {r : Request} {matrix : Bool} {miss : Mismatch}

theorem missesAt_of_take (hfailed : c.passes r matrix miss = false)
    (hpassed : ∀ test ∈ Mismatch.all.take miss.nearness, c.passes r matrix test = true) :
    c.MissesAt r matrix miss :=
  ⟨hfailed, fun test hlt => hpassed test (Mismatch.mem_take_all hlt)⟩

theorem MissesAt.unique {other : Mismatch} (h : c.MissesAt r matrix miss)
    (hother : c.MissesAt r matrix other) : miss = other := by
  have hle {a b : Mismatch} (ha : c.MissesAt r matrix a) (hb : c.MissesAt r matrix b) :
      a.nearness ≤ b.nearness := by
    by_contra hlt
    have hpassed := ha.passed b (Nat.lt_of_not_le hlt)
    rw [hb.failed] at hpassed
    exact Bool.noConfusion hpassed
  exact Mismatch.eq_of_nearness (Nat.le_antisymm (hle h hother) (hle hother h))

/-- A condition that does not take a request answers the first test that fails. -/
theorem missesAt_of_evaluate (h : c.evaluate r matrix = .error miss) :
    c.MissesAt r matrix miss := by
  unfold evaluate at h
  split at h
  next hpath =>
    cases h
    exact missesAt_of_take (by simp [passes, hpath]) (by simp [Mismatch.nearness])
  next path hpath =>
  have hpath : c.passes r matrix .path = true := by simp [passes, hpath]
  split at h
  next hmethod =>
    cases h
    exact missesAt_of_take (by simpa [passes] using hmethod)
      (by simp [Mismatch.all, Mismatch.nearness, hpath])
  next hmethod =>
  have hmethod : c.passes r matrix .method = true := by simpa [passes] using hmethod
  split at h
  next hheaders =>
    cases h
    exact missesAt_of_take (by simpa [passes] using hheaders)
      (by simp [Mismatch.all, Mismatch.nearness, hpath, hmethod])
  next hheaders =>
  have hheaders : c.passes r matrix .headers = true := by simpa [passes] using hheaders
  split at h
  next hparams =>
    cases h
    exact missesAt_of_take (by simpa [passes] using hparams)
      (by simp [Mismatch.all, Mismatch.nearness, hpath, hmethod, hheaders])
  next hparams =>
  have hparams : c.passes r matrix .params = true := by simpa [passes] using hparams
  split at h
  next hcontent =>
    cases h
    exact missesAt_of_take (by simpa [passes] using hcontent)
      (by simp [Mismatch.all, Mismatch.nearness, hpath, hmethod, hheaders, hparams])
  next hcontent =>
  have hcontent : c.passes r matrix .consumes = true := by simpa [passes] using hcontent
  split at h
  next hproduces =>
    cases h
    exact missesAt_of_take (by simp [passes, hproduces])
      (by simp [Mismatch.all, Mismatch.nearness, hpath, hmethod, hheaders, hparams, hcontent])
  next => simp at h

theorem passes_of_evaluate {found : RouteMatch} (h : c.evaluate r matrix = .ok found)
    (test : Mismatch) : c.passes r matrix test = true := by
  obtain ⟨hpath, hmethod, hheaders, hparams, hcontent, hproduces⟩ := evaluate_eq_ok_iff.mp h
  cases test with
  | path => simp [passes, hpath]
  | method => exact hmethod
  | headers => exact hheaders
  | params => exact hparams
  | consumes => exact hcontent
  | produces => simp [passes, hproduces]

theorem evaluate_eq_error_iff :
    c.evaluate r matrix = .error miss ↔ c.MissesAt r matrix miss := by
  refine ⟨missesAt_of_evaluate, fun hmiss => ?_⟩
  rcases heval : c.evaluate r matrix with other | found
  · rw [(missesAt_of_evaluate heval).unique hmiss]
  · have hpassed := passes_of_evaluate heval miss
    rw [hmiss.failed] at hpassed
    exact Bool.noConfusion hpassed

end

end RouteCondition

theorem idxOf_lt_of_idxOf_filter_lt {α : Type} [BEq α] [LawfulBEq α] (keep : α → Bool) {a b : α}
    (ha : keep a = true) (hb : keep b = true) {all : List α}
    (h : (all.filter keep).idxOf a < (all.filter keep).idxOf b) : all.idxOf a < all.idxOf b := by
  induction all with
  | nil => simp at h
  | cons first rest ih =>
    by_cases hfirst : keep first = true
    · rw [List.filter_cons_of_pos hfirst] at h
      rw [List.idxOf_cons, List.idxOf_cons] at h ⊢
      by_cases hfa : (first == a) = true
      · simp only [hfa] at h ⊢
        by_cases hfb : (first == b) = true
        · simp [hfb] at h
        · simp [hfb]
      · by_cases hfb : (first == b) = true
        · simp [hfa, hfb] at h
        · have hrest : (rest.filter keep).idxOf a < (rest.filter keep).idxOf b := by
            simpa [hfa, hfb] using h
          have hlt := ih hrest
          simpa [hfa, hfb] using hlt
    · rw [List.filter_cons_of_neg hfirst] at h
      have hlt := ih h
      have hfa : (first == a) = false := beq_eq_false_iff_ne.mpr fun heq => hfirst (heq ▸ ha)
      have hfb : (first == b) = false := beq_eq_false_iff_ne.mpr fun heq => hfirst (heq ▸ hb)
      simpa [List.idxOf_cons, hfa, hfb] using hlt

/-- Without its repetitions a list keeps the order in which its members first appear. -/
theorem pairwise_idxOf_eraseDups {α : Type} [BEq α] [LawfulBEq α] (all : List α) :
    all.eraseDups.Pairwise fun a b => all.idxOf a < all.idxOf b := by
  match all with
  | [] => exact List.Pairwise.nil
  | first :: rest =>
    have hshorter := List.length_filter_le (fun b => !b == first) rest
    have hrest := pairwise_idxOf_eraseDups (rest.filter fun b => !b == first)
    rw [List.eraseDups_cons, List.pairwise_cons]
    have hother : ∀ b ∈ (rest.filter fun b => !b == first).eraseDups, (!b == first) = true :=
      fun b hb => (List.mem_filter.mp (List.mem_eraseDups.mp hb)).2
    have hcons : ∀ b, (!b == first) = true →
        (first :: rest).idxOf b = rest.idxOf b + 1 := by
      intro b hb
      have hne : (first == b) = false := by
        rw [Bool.not_eq_true'] at hb
        rw [BEq.comm]
        exact hb
      simp [List.idxOf_cons, hne]
    refine ⟨fun b hb => ?_, ?_⟩
    · rw [hcons b (hother b hb), List.idxOf_cons_self]
      exact Nat.succ_pos _
    · refine hrest.imp_of_mem fun {a b} ha hb hab => ?_
      rw [hcons a (hother a ha), hcons b (hother b hb)]
      have hlt := idxOf_lt_of_idxOf_filter_lt (fun b => !b == first)
        (hother a ha) (hother b hb) hab
      exact Nat.succ_lt_succ hlt
  termination_by all.length
  decreasing_by
    simp only [List.length_cons]
    omega

namespace RouteTable

variable {η : Type}

/-- The nearest of the misses of some routes. -/
structure NearestMiss (matrix : Bool) (r : Request) (routes : List (Route η))
    (miss : Mismatch) : Prop where
  missed : ∃ route ∈ routes, route.condition.MissesAt r matrix miss
  nearest : ∀ route ∈ routes, ∀ other, route.condition.MissesAt r matrix other →
    other.nearness ≤ miss.nearness

theorem NearestMiss.unique {matrix : Bool} {r : Request} {routes : List (Route η)}
    {miss other : Mismatch} (h : NearestMiss matrix r routes miss)
    (hother : NearestMiss matrix r routes other) : miss = other := by
  obtain ⟨route, hroute, hmiss⟩ := h.missed
  obtain ⟨route', hroute', hmiss'⟩ := hother.missed
  have hle := hother.nearest route hroute miss hmiss
  have hge := h.nearest route' hroute' other hmiss'
  exact Mismatch.eq_of_nearness (Nat.le_antisymm hle hge)

section

variable {matrix : Bool} {r : Request} {routes : List (Route η)}

theorem eq_nil_of_search (h : search matrix r routes = .error none) : routes = [] := by
  cases routes with
  | nil => rfl
  | cons first rest =>
    rw [search] at h
    split at h
    next => simp at h
    next =>
      split at h
      next => simp at h
      next => simp at h
      next => simp at h

/-- A search that finds no route keeps the nearest miss. -/
theorem nearestMiss_of_search {miss : Mismatch}
    (h : search matrix r routes = .error (some miss)) : NearestMiss matrix r routes miss := by
  induction routes generalizing miss with
  | nil => simp [search] at h
  | cons first rest ih =>
    rw [search] at h
    split at h
    next => simp at h
    next own hfirst =>
      have hown := RouteCondition.evaluate_eq_error_iff.mp hfirst
      split at h
      next => simp at h
      next hrest =>
        obtain rfl := eq_nil_of_search hrest
        cases h
        refine ⟨⟨first, List.mem_cons_self, hown⟩, ?_⟩
        intro route hroute other hother
        obtain rfl := List.mem_singleton.mp hroute
        exact Nat.le_of_eq (congrArg Mismatch.nearness (hother.unique hown))
      next later hrest =>
        obtain ⟨⟨route, hroute, hlater⟩, hnearest⟩ := ih hrest
        cases h
        refine ⟨?_, ?_⟩
        · rcases own.nearer_eq_or later with heq | heq
          · rw [heq]
            exact ⟨first, List.mem_cons_self, hown⟩
          · rw [heq]
            exact ⟨route, List.mem_cons_of_mem first hroute, hlater⟩
        · intro route' hroute' other hother
          rw [Mismatch.nearness_nearer]
          rcases List.mem_cons.mp hroute' with rfl | hmem
          · rw [hother.unique hown]
            exact Nat.le_max_left _ _
          · exact Nat.le_trans (hnearest route' hmem other hother) (Nat.le_max_right _ _)

end

/-- A request that no route takes is refused for the nearest miss, if there is any route. -/
theorem exists_nearest {t : RouteTable η} {r : Request} {e : Error}
    (h : t.find r = .error e) :
    ∃ nearest, e = t.refusal r nearest ∧
      ∀ miss, nearest = some miss ↔ NearestMiss t.options.useMatrix r t.routes miss := by
  unfold find at h
  split at h
  next => simp at h
  next nearest hsearch =>
    cases h
    refine ⟨nearest, rfl, fun miss => ?_⟩
    cases nearest with
    | none =>
      have hnil := eq_nil_of_search hsearch
      refine iff_of_false (by simp) fun hmiss => ?_
      obtain ⟨route, hroute, -⟩ := hmiss.missed
      simp [hnil] at hroute
    | some found =>
      have hfound := nearestMiss_of_search hsearch
      refine ⟨fun heq => Option.some.inj heq ▸ hfound, fun hmiss => ?_⟩
      rw [hfound.unique hmiss]

section

variable {t : RouteTable η} {r : Request}

/-- Some route is for the path, and each of those refuses the method. -/
def RefusesMethod (t : RouteTable η) (r : Request) : Prop :=
  (∃ route ∈ t.routes, route.condition.passes r t.options.useMatrix .path = true) ∧
    ∀ route ∈ t.routes, route.condition.passes r t.options.useMatrix .path = true →
      route.condition.passes r t.options.useMatrix .method = false

/-- Some route passes every test but that of the types of the answer. -/
def RefusesAnswer (t : RouteTable η) (r : Request) : Prop :=
  ∃ route ∈ t.routes, route.condition.MissesAt r t.options.useMatrix .produces

/-- Some route gets as far as the type of the body and refuses it, and none gets past that. -/
def RefusesContent (t : RouteTable η) (r : Request) : Prop :=
  (∃ route ∈ t.routes, route.condition.MissesAt r t.options.useMatrix .consumes) ∧
    ¬RefusesAnswer t r

theorem exists_missesAt {matrix : Bool} {route : Route η} (h : ¬Takes matrix r route) :
    ∃ miss, route.condition.MissesAt r matrix miss := by
  rcases heval : route.condition.evaluate r matrix with miss | found
  · exact ⟨miss, RouteCondition.missesAt_of_evaluate heval⟩
  · exact absurd ⟨found, heval⟩ h

theorem nearestMiss_method_iff (hnone : ∀ route ∈ t.routes, ¬Takes t.options.useMatrix r route) :
    NearestMiss t.options.useMatrix r t.routes .method ↔ t.RefusesMethod r := by
  constructor
  · rintro ⟨⟨route, hroute, hmiss⟩, hnearest⟩
    refine ⟨⟨route, hroute, hmiss.passed .path (by decide)⟩, fun other hother hpath => ?_⟩
    obtain ⟨miss, hother'⟩ := exists_missesAt (hnone other hother)
    have hle := hnearest other hother miss hother'
    cases miss with
    | path => exact absurd hpath (Bool.eq_false_iff.mp hother'.failed)
    | method => exact hother'.failed
    | headers | params | consumes | produces => exact absurd hle (by decide)
  · rintro ⟨⟨route, hroute, hpath⟩, hall⟩
    have hpassed : ∀ test, test.nearness < Mismatch.method.nearness →
        route.condition.passes r t.options.useMatrix test = true := by
      intro test hlt
      have hfirst : test.nearness = Mismatch.path.nearness := Nat.lt_one_iff.mp hlt
      rw [Mismatch.eq_of_nearness hfirst]
      exact hpath
    refine ⟨⟨route, hroute, hall route hroute hpath, hpassed⟩, ?_⟩
    intro other hother miss hmiss
    by_contra hlt
    have hlt : Mismatch.method.nearness < miss.nearness := Nat.lt_of_not_le hlt
    have hmethod := hmiss.passed .method hlt
    have hrefused := hall other hother (hmiss.passed .path (Nat.zero_lt_of_lt hlt))
    rw [hmethod] at hrefused
    exact Bool.noConfusion hrefused

theorem nearestMiss_produces_iff :
    NearestMiss t.options.useMatrix r t.routes .produces ↔ t.RefusesAnswer r := by
  refine ⟨NearestMiss.missed, fun h => ⟨h, fun _ _ other _ => ?_⟩⟩
  cases other <;> decide

theorem nearestMiss_consumes_iff :
    NearestMiss t.options.useMatrix r t.routes .consumes ↔ t.RefusesContent r := by
  constructor
  · rintro ⟨hmissed, hnearest⟩
    refine ⟨hmissed, ?_⟩
    rintro ⟨other, hother, hmiss⟩
    exact absurd (hnearest other hother .produces hmiss) (by decide)
  · rintro ⟨hmissed, hanswer⟩
    refine ⟨hmissed, fun other hother miss hmiss => ?_⟩
    cases miss with
    | path | method | headers | params | consumes => decide
    | produces => exact absurd ⟨other, hother, hmiss⟩ hanswer

theorem refusal_methodNotAllowed_iff {nearest : Option Mismatch} {text : String} :
    t.refusal r nearest = .methodNotAllowed text ↔
      nearest = some .method ∧
        text = Text.join ", " ((t.allowedMethods r.path).map Method.name) := by
  cases nearest with
  | none => simp [refusal]
  | some miss => cases miss <;> simp [refusal, eq_comm]

theorem refusal_unsupportedMediaType_iff {nearest : Option Mismatch} :
    (∃ reason, t.refusal r nearest = .unsupportedMediaType reason) ↔
      nearest = some .consumes := by
  cases nearest with
  | none => simp [refusal]
  | some miss => cases miss <;> simp [refusal]

theorem refusal_notAcceptable_iff {nearest : Option Mismatch} :
    (∃ reason, t.refusal r nearest = .notAcceptable reason) ↔ nearest = some .produces := by
  cases nearest with
  | none => simp [refusal]
  | some miss => cases miss <;> simp [refusal]

theorem refusal_routeNotFound_iff {nearest : Option Mismatch} :
    (∃ target, t.refusal r nearest = .routeNotFound target) ↔
      nearest ≠ some .method ∧ nearest ≠ some .consumes ∧ nearest ≠ some .produces := by
  cases nearest with
  | none => simp [refusal]
  | some miss => cases miss <;> simp [refusal]

theorem not_takes_of_find {e : Error} (h : t.find r = .error e) :
    ∀ route ∈ t.routes, ¬Takes t.options.useMatrix r route := by
  unfold find at h
  split at h
  next => simp at h
  next nearest hsearch => exact search_eq_error hsearch

theorem refusesMethod_of_find {text : String} (h : t.find r = .error (.methodNotAllowed text)) :
    t.RefusesMethod r ∧ text = Text.join ", " ((t.allowedMethods r.path).map Method.name) := by
  obtain ⟨nearest, heq, hnearest⟩ := exists_nearest h
  obtain ⟨hmethod, htext⟩ := refusal_methodNotAllowed_iff.mp heq.symm
  have hmiss := (hnearest .method).mp hmethod
  exact ⟨(nearestMiss_method_iff (not_takes_of_find h)).mp hmiss, htext⟩

/-- The methods that the routes for the path of a request declare, with repetitions. -/
def declaredMethods (t : RouteTable η) (r : Request) : List Method :=
  (t.routes.filter fun route => route.condition.passes r t.options.useMatrix .path).flatMap
    (·.condition.methods)

theorem allowedMethods_eq (t : RouteTable η) (r : Request) :
    t.allowedMethods r.path = (t.declaredMethods r).eraseDups := rfl

theorem mem_declaredMethods {m : Method} : m ∈ t.declaredMethods r ↔
    ∃ route ∈ t.routes, route.condition.passes r t.options.useMatrix .path = true ∧
      m ∈ route.condition.methods := by
  simp only [declaredMethods, List.mem_flatMap, List.mem_filter, and_assoc]

theorem RefusesMethod.declares (h : t.RefusesMethod r) {route : Route η}
    (hroute : route ∈ t.routes)
    (hpath : route.condition.passes r t.options.useMatrix .path = true) :
    route.condition.methods ≠ [] ∧ r.method ∉ route.condition.methods := by
  have hrefused := h.2 route hroute hpath
  simpa [RouteCondition.passes, RouteCondition.allowsMethod] using hrefused

/-- What is offered with a refused method. -/
structure Offers (t : RouteTable η) (r : Request) (methods : List Method) : Prop where
  nonempty : methods ≠ []
  distinct : (methods.map Method.name).Nodup
  declared : ∀ m, m ∈ methods ↔
    ∃ route ∈ t.routes, route.condition.passes r t.options.useMatrix .path = true ∧
      m ∈ route.condition.methods
  /-- The methods come in the order in which they first appear in the table. -/
  inOrder : methods.Pairwise fun a b =>
    (t.declaredMethods r).idxOf a < (t.declaredMethods r).idxOf b
  excludes : r.method ∉ methods
  /-- A request with an offered method instead is not refused for its method. -/
  honoured : ∀ m ∈ methods, ∀ text,
    t.find { r with method := m } ≠ .error (.methodNotAllowed text)

theorem RefusesMethod.offers (h : t.RefusesMethod r) : t.Offers r (t.allowedMethods r.path) := by
  have hmem (m : Method) : m ∈ t.allowedMethods r.path ↔
      ∃ route ∈ t.routes, route.condition.passes r t.options.useMatrix .path = true ∧
        m ∈ route.condition.methods := by
    rw [allowedMethods_eq, List.mem_eraseDups, mem_declaredMethods]
  have hinOrder := pairwise_idxOf_eraseDups (t.declaredMethods r)
  rw [← allowedMethods_eq] at hinOrder
  refine ⟨?_, ?_, hmem, hinOrder, ?_, ?_⟩
  · obtain ⟨route, hroute, hpath⟩ := h.1
    obtain ⟨m, hm⟩ := List.exists_mem_of_ne_nil _ (h.declares hroute hpath).1
    exact List.ne_nil_of_mem ((hmem m).mpr ⟨route, hroute, hpath, hm⟩)
  · have hnodup : (t.allowedMethods r.path).Nodup :=
      hinOrder.imp fun {a b} hlt heq => absurd (heq ▸ hlt) (Nat.lt_irrefl _)
    exact hnodup.map Method.name_injective
  · intro hm
    obtain ⟨route, hroute, hpath, hdeclared⟩ := (hmem r.method).mp hm
    exact (h.declares hroute hpath).2 hdeclared
  · intro m hm text hfind
    obtain ⟨route, hroute, hpath, hdeclared⟩ := (hmem m).mp hm
    have hrefused : t.RefusesMethod { r with method := m } := (refusesMethod_of_find hfind).1
    exact (hrefused.declares hroute hpath).2 hdeclared

/-- The answer to a request that no route takes. -/
structure Refused (t : RouteTable η) (r : Request) (e : Error) : Prop where
  method : (∃ text, e = .methodNotAllowed text) ↔ t.RefusesMethod r
  offered : ∀ text, e = .methodNotAllowed text →
    ∃ methods, text = Text.join ", " (methods.map Method.name) ∧ t.Offers r methods
  content : (∃ reason, e = .unsupportedMediaType reason) ↔ t.RefusesContent r
  answer : (∃ reason, e = .notAcceptable reason) ↔ t.RefusesAnswer r
  missing : (∃ target, e = .routeNotFound target) ↔
    ¬t.RefusesMethod r ∧ ¬t.RefusesContent r ∧ ¬t.RefusesAnswer r

/-- A request that no route takes is refused, and the tests of the single routes say how. -/
theorem find_refused (t : RouteTable η) (r : Request)
    (hnone : ∀ route ∈ t.routes, ¬Takes t.options.useMatrix r route) :
    ∃ e, t.find r = .error e ∧ t.Refused r e := by
  rcases hfind : t.find r with e | ⟨route, found⟩
  · obtain ⟨nearest, rfl, hnearest⟩ := exists_nearest hfind
    have hmethod := (hnearest .method).trans (nearestMiss_method_iff hnone)
    have hcontent := (hnearest .consumes).trans nearestMiss_consumes_iff
    have hanswer := (hnearest .produces).trans nearestMiss_produces_iff
    refine ⟨_, rfl, ?_, fun text htext => ?_, ?_, ?_, ?_⟩
    · rw [← hmethod]
      simp only [refusal_methodNotAllowed_iff, exists_and_left, exists_eq, and_true]
    · obtain ⟨hnear, htext⟩ := refusal_methodNotAllowed_iff.mp htext
      exact ⟨_, htext, (hmethod.mp hnear).offers⟩
    · exact refusal_unsupportedMediaType_iff.trans hcontent
    · exact refusal_notAcceptable_iff.trans hanswer
    · rw [refusal_routeNotFound_iff, ← hmethod, ← hcontent, ← hanswer]
  · obtain ⟨htakes, before, behind, hsplit, -⟩ := search_eq_ok (search_of_find hfind)
    have hroute : route ∈ t.routes := hsplit ▸ List.mem_append_right before List.mem_cons_self
    exact absurd ⟨found, htakes⟩ (hnone route hroute)

end

/-- Two routes for one path offer the methods of both, each once. -/
theorem find_refused_offering_both :
    ∃ c d, RouteCondition.build { paths := ["/a"], methods := [.get] } = .ok c ∧
      RouteCondition.build { paths := ["/a"], methods := [.put, .get] } = .ok d ∧
      let t : RouteTable Unit := fill {} [⟨c, "read", ()⟩, ⟨d, "replace", ()⟩]
      (∀ route ∈ t.routes, ¬Takes t.options.useMatrix (.ofUri .delete "/a") route) ∧
        t.find (.ofUri .delete "/a") = .error (.methodNotAllowed "GET, PUT") ∧
        t.Refused (.ofUri .delete "/a") (.methodNotAllowed "GET, PUT") := by
  have hrun : ((RouteCondition.build { paths := ["/a"], methods := [.get] }).toOption.bind
      fun c => (RouteCondition.build
        { paths := ["/a"], methods := [.put, .get] }).toOption.bind fun d =>
      match (fill {} [⟨c, "read", ()⟩, ⟨d, "replace", ()⟩]).find (.ofUri .delete "/a") with
      | .ok _ => none
      | .error e => some e) = some (.methodNotAllowed "GET, PUT") := by
    decide +kernel
  obtain ⟨c, hc, hrun⟩ := Option.bind_eq_some_iff.mp hrun
  obtain ⟨d, hd, hrun⟩ := Option.bind_eq_some_iff.mp hrun
  split at hrun
  next => simp at hrun
  next e hfind =>
  cases Option.some.inj hrun
  have hnone := not_takes_of_find hfind
  obtain ⟨e, he, hrefused⟩ := find_refused _ _ hnone
  cases hfind.symm.trans he
  exact ⟨c, d, toOption_eq_some_iff.mp hc, toOption_eq_some_iff.mp hd, hnone, hfind, hrefused⟩

end RouteTable

end RestDispatch
