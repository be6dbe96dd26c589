import RestDispatch.Route.Table
import RestDispatch.Proofs.Failure
import RestDispatch.Proofs.Route.Ambiguity

/-!
# Filling a table

A table is filled by adding routes one after the other.  A route that is refused leaves the
table as it is, and the later ones are added all the same.  Where ambiguity is refused, no two
routes of a table are ever judged ambiguous; two of them can take one request all the same,
namely one that leaves undecided which of their media types it is about.
-/

namespace RestDispatch

namespace RouteTable

variable {η : Type}

/-- What adding a route asks of a table. -/
def Admits (t : RouteTable η) (route : Route η) : Prop :=
  t.options.rejectAmbiguous = true →
    ∀ present ∈ t.routes, route.condition.mayBeAmbiguousWith present.condition = false

/-- The table with a route at its place. -/
def place (t : RouteTable η) (route : Route η) : RouteTable η :=
  { t with routes := t.routes.insertIdx (t.position route.condition) route }

/-- Add a route if it is not refused. -/
def register (t : RouteTable η) (route : Route η) : RouteTable η :=
  match t.add route with
  | .ok added => added
  | .error _ => t

/-- Add routes one after the other to an empty table. -/
def fill (options : RouteOptions) (adds : List (Route η)) : RouteTable η :=
  adds.foldl register { options }

/-- The routes of a sequence that are not refused when they are added to a table. -/
def accepted (t : RouteTable η) : List (Route η) → List (Route η)
  | [] => []
  | route :: rest =>
    match t.add route with
    | .ok added => route :: accepted added rest
    | .error _ => accepted t rest

theorem rivals_eq_nil_iff (t : RouteTable η) (c : RouteCondition) :
    t.rivals c = [] ↔ ∀ present ∈ t.routes, c.mayBeAmbiguousWith present.condition = false := by
  unfold rivals
  rw [List.filter_eq_nil_iff]
  simp only [Bool.not_eq_true]

theorem add_of_admits {t : RouteTable η} {route : Route η} (h : t.Admits route) :
    t.add route = .ok (t.place route) := by
  unfold add
  split
  next rival rest hreject hrivals =>
    rw [(t.rivals_eq_nil_iff route.condition).mpr (h hreject)] at hrivals
    exact absurd hrivals.symm (List.cons_ne_nil rival rest)
  next => rfl

theorem add_of_not_admits {t : RouteTable η} {route : Route η} (h : ¬t.Admits route) :
    ∃ e, t.add route = .error e := by
  unfold add
  split
  next rival rest hreject hrivals => exact ⟨_, rfl⟩
  next hadd =>
    refine absurd (fun hreject => ?_) h
    refine (t.rivals_eq_nil_iff route.condition).mp ?_
    rcases hrivals : t.rivals route.condition with _ | ⟨rival, rest⟩
    · rfl
    · exact (hadd rival rest hreject hrivals).elim

theorem register_of_admits {t : RouteTable η} {route : Route η} (h : t.Admits route) :
    t.register route = t.place route := by
  rw [register, add_of_admits h]

theorem register_of_not_admits {t : RouteTable η} {route : Route η} (h : ¬t.Admits route) :
    t.register route = t := by
  obtain ⟨e, he⟩ := add_of_not_admits h
  rw [register, he]

theorem options_register (t : RouteTable η) (route : Route η) :
    (t.register route).options = t.options := by
  by_cases h : t.Admits route
  · rw [register_of_admits h, place]
  · rw [register_of_not_admits h]

theorem options_foldl_register (t : RouteTable η) (adds : List (Route η)) :
    (adds.foldl register t).options = t.options := by
  induction adds generalizing t with
  | nil => rfl
  | cons route adds ih => rw [List.foldl_cons, ih, options_register]

theorem perm_place (t : RouteTable η) (route : Route η) :
    (t.place route).routes.Perm (route :: t.routes) :=
  List.perm_insertIdx route t.routes (List.takeWhile_prefix _).length_le

/-- No two of the routes are judged ambiguous. -/
def Unambiguous (routes : List (Route η)) : Prop :=
  routes.Pairwise fun a b => a.condition.mayBeAmbiguousWith b.condition = false

theorem Unambiguous.perm {routes others : List (Route η)} (h : Unambiguous routes)
    (hperm : routes.Perm others) : Unambiguous others := by
  refine (hperm.pairwise_iff fun {a b} hab => ?_).mp h
  rw [RouteCondition.mayBeAmbiguousWith_comm]
  exact hab

theorem Unambiguous.register {t : RouteTable η} (hreject : t.options.rejectAmbiguous = true)
    (h : Unambiguous t.routes) (route : Route η) : Unambiguous (t.register route).routes := by
  by_cases hadmits : t.Admits route
  · rw [register_of_admits hadmits]
    exact Unambiguous.perm (List.pairwise_cons.mpr ⟨hadmits hreject, h⟩) (t.perm_place route).symm
  · rw [register_of_not_admits hadmits]
    exact h

/-- A table that refuses ambiguity holds no routes that are judged ambiguous. -/
theorem unambiguous_fill {options : RouteOptions} (hreject : options.rejectAmbiguous = true)
    (adds : List (Route η)) : Unambiguous (fill options adds).routes := by
  have hstep (t : RouteTable η) (ht : t.options.rejectAmbiguous = true)
      (h : Unambiguous t.routes) : Unambiguous (adds.foldl register t).routes := by
    induction adds generalizing t with
    | nil => exact h
    | cons route adds ih =>
      refine ih (t.register route) ?_ (h.register ht route)
      rw [options_register]
      exact ht
  exact hstep { options } hreject List.Pairwise.nil

/-- The routes of declarations that can be read, under their names. -/
def declared (specs : List (String × RouteSpec)) : List (Route Unit) :=
  specs.filterMap fun (name, spec) =>
    (RouteCondition.build spec).toOption.map fun c => ⟨c, name, ()⟩

theorem exists_build_of_mem_declared {specs : List (String × RouteSpec)} {route : Route Unit}
    (h : route ∈ declared specs) : ∃ spec, RouteCondition.build spec = .ok route.condition := by
  obtain ⟨⟨name, spec⟩, -, hroute⟩ := List.mem_filterMap.mp h
  obtain ⟨c, hc, rfl⟩ := Option.map_eq_some_iff.mp hroute
  exact ⟨spec, toOption_eq_some_iff.mp hc⟩

open RouteCondition in
/-- Two conditions that take one request are judged ambiguous, and two routes of a table that
refuses ambiguity take none, unless the request leaves undecided between which of their media
types it chooses. -/
theorem taken_twice_ambiguous_or_undecided :
    (∀ (c d : RouteCondition) (r : Request) (matrix : Bool) (found other : RouteMatch),
      c.evaluate r matrix = .ok found → d.evaluate r matrix = .ok other →
        c.mayBeAmbiguousWith d = true ∨ Undecided c d r found other) ∧
    ∀ {η : Type} (options : RouteOptions) (adds : List (Route η)),
      options.rejectAmbiguous = true →
        (fill options adds).routes.Pairwise fun a b =>
          ∀ (r : Request) (matrix : Bool) (found other : RouteMatch),
            a.condition.evaluate r matrix = .ok found →
            b.condition.evaluate r matrix = .ok other →
            Undecided a.condition b.condition r found other := by
  refine ⟨fun c d r matrix found other hc hd => ambiguous_or_undecided hc hd, ?_⟩
  intro η options adds hreject
  refine (unambiguous_fill hreject adds).imp fun {a b} hab r matrix found other ha hb => ?_
  rcases ambiguous_or_undecided ha hb with hambiguous | hundecided
  · rw [hab] at hambiguous
    exact Bool.noConfusion hambiguous
  · exact hundecided

/-- Answers in two formats for one path, and a client that does not say which it wants. -/
theorem taken_twice_unjudged :
    ¬∀ (spec spec' : RouteSpec) (c d : RouteCondition), RouteCondition.build spec = .ok c →
      RouteCondition.build spec' = .ok d → ∀ (r : Request) (matrix : Bool)
        (found other : RouteMatch), c.evaluate r matrix = .ok found →
        d.evaluate r matrix = .ok other → c.mayBeAmbiguousWith d = true := by
  intro h
  have hrun : ((RouteCondition.build
        { paths := ["/api"], produces := ["application/json"] }).toOption.bind fun c =>
      (RouteCondition.build
        { paths := ["/api"], produces := ["application/x-protobuf"] }).toOption.bind fun d =>
      (c.evaluate (.ofUri .get "/api") true).toOption.bind fun _ =>
      (d.evaluate (.ofUri .get "/api") true).toOption.bind fun _ =>
        some (c.mayBeAmbiguousWith d)) = some false := by
    decide +kernel
  obtain ⟨c, hc, hrun⟩ := Option.bind_eq_some_iff.mp hrun
  obtain ⟨d, hd, hrun⟩ := Option.bind_eq_some_iff.mp hrun
  obtain ⟨found, hfound, hrun⟩ := Option.bind_eq_some_iff.mp hrun
  obtain ⟨other, hother, hrun⟩ := Option.bind_eq_some_iff.mp hrun
  have hjudged := h _ _ c d (toOption_eq_some_iff.mp hc) (toOption_eq_some_iff.mp hd)
    (.ofUri .get "/api") true found other (toOption_eq_some_iff.mp hfound)
    (toOption_eq_some_iff.mp hother)
  rw [hjudged] at hrun
  exact Bool.noConfusion (Option.some.inj hrun)

open RouteCondition in
/-- One variable under two names is judged ambiguous; two formats are left undecided. -/
theorem taken_twice_variables_and_formats :
    (∃ c d, build { paths := ["/users/{id}"] } = .ok c ∧
      build { paths := ["/users/{name}"] } = .ok d ∧
      ∃ found other, c.evaluate (.ofUri .get "/users/1") true = .ok found ∧
        d.evaluate (.ofUri .get "/users/1") true = .ok other ∧
        (c.mayBeAmbiguousWith d = true ∨ Undecided c d (.ofUri .get "/users/1") found other)) ∧
    ∃ c d, build { paths := ["/api"], produces := ["application/json"] } = .ok c ∧
      build { paths := ["/api"], produces := ["application/x-protobuf"] } = .ok d ∧
      ((fill { rejectAmbiguous := true } [⟨c, "json", ()⟩, ⟨d, "protobuf", ()⟩]).routes.map
        (·.name)) = ["json", "protobuf"] ∧
      (fill { rejectAmbiguous := true } [⟨c, "json", ()⟩, ⟨d, "protobuf", ()⟩]).routes.Pairwise
        fun a b => ∀ (r : Request) (matrix : Bool) (found other : RouteMatch),
          a.condition.evaluate r matrix = .ok found →
          b.condition.evaluate r matrix = .ok other →
          Undecided a.condition b.condition r found other := by
  constructor
  · have hrun : ((build { paths := ["/users/{id}"] }).toOption.bind fun c =>
        (build { paths := ["/users/{name}"] }).toOption.bind fun d =>
        (c.evaluate (.ofUri .get "/users/1") true).toOption.bind fun _ =>
        (d.evaluate (.ofUri .get "/users/1") true).toOption.bind fun _ =>
          some (c.mayBeAmbiguousWith d)) = some true := by
      decide +kernel
    obtain ⟨c, hc, hrun⟩ := Option.bind_eq_some_iff.mp hrun
    obtain ⟨d, hd, hrun⟩ := Option.bind_eq_some_iff.mp hrun
    obtain ⟨found, hfound, hrun⟩ := Option.bind_eq_some_iff.mp hrun
    obtain ⟨other, hother, hrun⟩ := Option.bind_eq_some_iff.mp hrun
    have hfound := toOption_eq_some_iff.mp hfound
    have hother := toOption_eq_some_iff.mp hother
    exact ⟨c, d, toOption_eq_some_iff.mp hc, toOption_eq_some_iff.mp hd, found, other, hfound,
      hother, taken_twice_ambiguous_or_undecided.1 c d _ _ _ _ hfound hother⟩
  · have hrun : ((build { paths := ["/api"], produces := ["application/json"] }).toOption.bind
        fun c => (build
          { paths := ["/api"], produces := ["application/x-protobuf"] }).toOption.bind fun d =>
        some ((fill { rejectAmbiguous := true }
          [⟨c, "json", ()⟩, ⟨d, "protobuf", ()⟩]).routes.map (·.name))) =
        some ["json", "protobuf"] := by
      decide +kernel
    obtain ⟨c, hc, hrun⟩ := Option.bind_eq_some_iff.mp hrun
    obtain ⟨d, hd, hrun⟩ := Option.bind_eq_some_iff.mp hrun
    exact ⟨c, d, toOption_eq_some_iff.mp hc, toOption_eq_some_iff.mp hd, Option.some.inj hrun,
      taken_twice_ambiguous_or_undecided.2 _ _ rfl⟩

end RouteTable

end RestDispatch
