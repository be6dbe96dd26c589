import Mathlib.Data.List.Nodup
import RestDispatch.Proofs.Route.Registration
import RestDispatch.Proofs.StableSort

/-!
# The order of a table

However a table is filled, its routes are the stable sort by rank of the routes that were not
refused.  So the route found for a request has the least rank of those that take it, and of
several of that rank it was added first.

Routes of different ranks make one table in whatever order they are added, as long as none is
refused.  Which routes are refused does depend on the order, but whether any is does not.
-/

namespace RestDispatch

namespace RouteTable

variable {η : Type}

/-- Whether the first of two routes is tried first in whatever order they are added. -/
def outranks (a b : Route η) : Bool := decide (a.condition.rank < b.condition.rank)

theorem weakOrder_outranks : WeakOrder (outranks : Route η → Route η → Bool) :=
  weakOrder_ascending fun route : Route η => route.condition.rank

theorem rank_eq_of_tied {a b : Route η} (h : tied outranks a b = true) :
    a.condition.rank = b.condition.rank := by
  obtain ⟨hab, hba⟩ := tied_iff.mp h
  exact List.le_antisymm (of_decide_eq_false hba) (of_decide_eq_false hab)

theorem insertIdx_append_length {α : Type} (x : α) (front back : List α) :
    (front ++ back).insertIdx front.length x = front ++ x :: back := by
  induction front with
  | nil => rw [List.nil_append, List.length_nil, List.insertIdx_zero, List.nil_append]
  | cons a front ih =>
    rw [List.cons_append, List.length_cons, List.insertIdx_succ_cons, ih, List.cons_append]

theorem routes_place (t : RouteTable η) (route : Route η) :
    (t.place route).routes =
      (t.routes.takeWhile fun other => !outranks route other) ++
        route :: t.routes.dropWhile fun other => !outranks route other := by
  have hsplit : t.routes = (t.routes.takeWhile fun other => !outranks route other) ++
      t.routes.dropWhile fun other => !outranks route other :=
    (List.takeWhile_append_dropWhile).symm
  have hinsert := insertIdx_append_length route
    (t.routes.takeWhile fun other => !outranks route other)
    (t.routes.dropWhile fun other => !outranks route other)
  rw [← hsplit] at hinsert
  exact hinsert

/-- The routes of a table are sorted, and tied ones are in the order of a given list. -/
structure Holds (t : RouteTable η) (routes : List (Route η)) : Prop where
  inOrder : InOrder outranks t.routes
  ties : ∀ z, t.routes.filter (tied outranks z) = routes.filter (tied outranks z)

theorem Holds.empty (options : RouteOptions) : Holds ({ options } : RouteTable η) [] where
  inOrder := List.Pairwise.nil
  ties _ := rfl

/-- A route that finds its place comes behind the routes held before it. -/
theorem Holds.place {t : RouteTable η} {routes : List (Route η)} (h : t.Holds routes)
    (route : Route η) : (t.place route).Holds (routes ++ [route]) where
  inOrder := by
    rw [routes_place]
    exact weakOrder_outranks.inOrder_insert h.inOrder route
  ties z := by
    rw [routes_place, weakOrder_outranks.filter_tied_insert h.inOrder route z,
      List.filter_append, List.filter_append, h.ties z]

theorem Holds.foldl_register {t : RouteTable η} {routes : List (Route η)} (h : t.Holds routes)
    (adds : List (Route η)) :
    (adds.foldl register t).Holds (routes ++ t.accepted adds) := by
  induction adds generalizing t routes with
  | nil =>
    rw [accepted, List.append_nil]
    exact h
  | cons route adds ih =>
    rw [List.foldl_cons]
    by_cases hadmits : t.Admits route
    · have hrest := ih (h.place route)
      rw [List.append_assoc, List.singleton_append] at hrest
      rw [register_of_admits hadmits, accepted, add_of_admits hadmits]
      exact hrest
    · obtain ⟨e, he⟩ := add_of_not_admits hadmits
      rw [register_of_not_admits hadmits, accepted, he]
      exact ih h

theorem Holds.eq_mergeSort {t : RouteTable η} {routes : List (Route η)} (h : t.Holds routes) :
    t.routes = routes.mergeSort fun a b => !outranks b a :=
  weakOrder_outranks.eq_mergeSort h.inOrder h.ties

/-- A condition takes a request. -/
def Takes (matrix : Bool) (r : Request) (route : Route η) : Prop :=
  ∃ found, route.condition.evaluate r matrix = .ok found

instance (matrix : Bool) (r : Request) (route : Route η) : Decidable (Takes matrix r route) :=
  match h : route.condition.evaluate r matrix with
  | .ok found => isTrue ⟨found, h⟩
  | .error _ => isFalse fun ⟨_, hfound⟩ => nomatch h.symm.trans hfound

section

variable {matrix : Bool} {r : Request} {routes : List (Route η)}

/-- A search finds the first route that takes the request. -/
theorem search_eq_ok {route : Route η} {found : RouteMatch}
    (h : search matrix r routes = .ok (route, found)) :
    route.condition.evaluate r matrix = .ok found ∧ ∃ before behind,
      routes = before ++ route :: behind ∧ ∀ other ∈ before, ¬Takes matrix r other := by
  induction routes with
  | nil => simp [search] at h
  | cons first rest ih =>
    rw [search] at h
    split at h
    next m hfirst =>
      cases h
      exact ⟨hfirst, [], rest, rfl, fun other hother => absurd hother List.not_mem_nil⟩
    next miss hfirst =>
      split at h
      next pair hrest =>
        cases h
        obtain ⟨hroute, before, behind, rfl, hbefore⟩ := ih hrest
        refine ⟨hroute, first :: before, behind, rfl, List.forall_mem_cons.mpr ⟨?_, hbefore⟩⟩
        rintro ⟨m, hm⟩
        simp [hfirst] at hm
      next => simp at h
      next => simp at h

theorem search_eq_error {nearest : Option Mismatch} (h : search matrix r routes = .error nearest) :
    ∀ route ∈ routes, ¬Takes matrix r route := by
  induction routes generalizing nearest with
  | nil => exact fun route hroute => absurd hroute List.not_mem_nil
  | cons first rest ih =>
    rw [search] at h
    split at h
    next => simp at h
    next miss hfirst =>
      refine List.forall_mem_cons.mpr ⟨?_, ?_⟩
      · rintro ⟨m, hm⟩
        simp [hfirst] at hm
      · split at h
        next => simp at h
        next hrest => exact ih hrest
        next hrest => exact ih hrest

theorem search_of_find {t : RouteTable η} {route : Route η} {found : RouteMatch}
    (h : t.find r = .ok (route, found)) :
    search t.options.useMatrix r t.routes = .ok (route, found) := by
  unfold find at h
  split at h
  next hsearch =>
    cases h
    exact hsearch
  next => simp at h

/-- The route found for a request, in the list that the routes of a table come from. -/
theorem Holds.find_eq_ok {t : RouteTable η} (h : t.Holds routes) {route : Route η}
    {found : RouteMatch} (hfind : t.find r = .ok (route, found)) :
    route.condition.evaluate r t.options.useMatrix = .ok found ∧
      ∃ earlier later, routes = earlier ++ route :: later ∧
        (∀ other ∈ earlier, Takes t.options.useMatrix r other →
          route.condition.rank < other.condition.rank) ∧
        ∀ other ∈ later, Takes t.options.useMatrix r other →
          ¬other.condition.rank < route.condition.rank := by
  obtain ⟨hroute, before, behind, hsplit, hbefore⟩ := search_eq_ok (search_of_find hfind)
  have hleast : ∀ other ∈ routes, Takes t.options.useMatrix r other →
      outranks other route = false := by
    intro other hother htakes
    have hmem : other ∈ t.routes :=
      weakOrder_outranks.mem_of_filter_tied (fun z => (h.ties z).symm) hother
    have hordered := h.inOrder
    rw [hsplit] at hmem hordered
    rcases List.mem_append.mp hmem with hfront | hback
    · exact absurd htakes (hbefore other hfront)
    · exact weakOrder_outranks.not_precedes_head (List.pairwise_append.mp hordered).2.1 hback
  have hties := h.ties route
  rw [hsplit, List.filter_append,
    List.filter_cons_of_pos (weakOrder_outranks.tied_refl route)] at hties
  obtain ⟨front, back, rfl, hfront, hback⟩ := List.filter_eq_append_iff.mp hties.symm
  obtain ⟨untied, later, rfl, huntied, -, -⟩ := List.filter_eq_cons_iff.mp hback
  refine ⟨hroute, front ++ untied, later, (List.append_assoc ..).symm, ?_, ?_⟩
  · intro other hother htakes
    have hother' : other ∈ front ++ (untied ++ route :: later) := by
      rw [← List.append_assoc]
      exact List.mem_append_left _ hother
    refine Decidable.byContradiction fun hle => ?_
    have htied : tied outranks route other = true :=
      tied_iff.mpr ⟨decide_eq_false hle, hleast other hother' htakes⟩
    rcases List.mem_append.mp hother with hmem | hmem
    · have hfilter : other ∈ front.filter (tied outranks route) :=
        List.mem_filter.mpr ⟨hmem, htied⟩
      rw [hfront] at hfilter
      exact hbefore other (List.mem_filter.mp hfilter).1 htakes
    · exact huntied other hmem htied
  · intro other hother htakes
    have hother' : other ∈ front ++ (untied ++ route :: later) :=
      List.mem_append_right _ (List.mem_append_right _ (List.mem_cons_of_mem _ hother))
    exact of_decide_eq_false (hleast other hother' htakes)

theorem Holds.find_eq_error {t : RouteTable η} (h : t.Holds routes) :
    (∃ e, t.find r = .error e) ↔ ∀ route ∈ routes, ¬Takes t.options.useMatrix r route := by
  constructor
  · rintro ⟨e, hfind⟩ route hroute
    unfold find at hfind
    split at hfind
    next => simp at hfind
    next nearest hsearch =>
      have hmem := weakOrder_outranks.mem_of_filter_tied (fun z => (h.ties z).symm) hroute
      exact search_eq_error hsearch route hmem
  · intro hnone
    rcases hfind : t.find r with e | ⟨route, found⟩
    · exact ⟨e, rfl⟩
    · obtain ⟨hroute, earlier, later, hsplit, -⟩ := h.find_eq_ok hfind
      have hmem : route ∈ routes := hsplit ▸ List.mem_append_right _ List.mem_cons_self
      exact absurd ⟨found, hroute⟩ (hnone route hmem)

end

theorem accepted_sublist (t : RouteTable η) (adds : List (Route η)) :
    (t.accepted adds).Sublist adds := by
  induction adds generalizing t with
  | nil => exact List.Sublist.slnil
  | cons route adds ih =>
    rw [accepted]
    split
    · exact (ih _).cons_cons route
    · exact (ih t).cons route

/-- A table takes all of a list of routes if none is judged ambiguous with another one or with
a route that is there, or if it refuses none. -/
theorem accepted_eq_self_iff (t : RouteTable η) (adds : List (Route η)) :
    t.accepted adds = adds ↔ (t.options.rejectAmbiguous = true →
      Unambiguous adds ∧ ∀ route ∈ adds, ∀ present ∈ t.routes,
        route.condition.mayBeAmbiguousWith present.condition = false) := by
  induction adds generalizing t with
  | nil => simp [accepted, Unambiguous]
  | cons route adds ih =>
    by_cases hadmits : t.Admits route
    · have hmem (present : Route η) :
          present ∈ (t.place route).routes ↔ present = route ∨ present ∈ t.routes :=
        (t.perm_place route).mem_iff.trans List.mem_cons
      rw [accepted, add_of_admits hadmits]
      simp only [List.cons.injEq, true_and]
      rw [ih]
      constructor
      · intro h hreject
        obtain ⟨hadds, hpresent⟩ := h hreject
        refine ⟨List.pairwise_cons.mpr ⟨fun other hother => ?_, hadds⟩,
          List.forall_mem_cons.mpr ⟨hadmits hreject, fun other hother present hp => ?_⟩⟩
        · rw [RouteCondition.mayBeAmbiguousWith_comm]
          exact hpresent other hother route ((hmem route).mpr (.inl rfl))
        · exact hpresent other hother present ((hmem present).mpr (.inr hp))
      · intro h hreject
        obtain ⟨hadds, hpresent⟩ := h hreject
        obtain ⟨hroute, hadds⟩ := List.pairwise_cons.mp hadds
        refine ⟨hadds, fun other hother present hp => ?_⟩
        rcases (hmem present).mp hp with rfl | hp
        · rw [RouteCondition.mayBeAmbiguousWith_comm]
          exact hroute other hother
        · exact hpresent other (List.mem_cons_of_mem _ hother) present hp
    · obtain ⟨e, he⟩ := add_of_not_admits hadmits
      rw [accepted, he]
      constructor
      · intro h
        have hlength := (t.accepted_sublist adds).length_le
        simp only at h
        rw [h, List.length_cons] at hlength
        omega
      · intro h
        refine absurd (fun hreject => ?_) hadmits
        exact (h hreject).2 route List.mem_cons_self

theorem accepted_empty_iff (options : RouteOptions) (adds : List (Route η)) :
    accepted { options } adds = adds ↔ (options.rejectAmbiguous = true → Unambiguous adds) := by
  rw [accepted_eq_self_iff]
  simp

theorem holds_fill (options : RouteOptions) (adds : List (Route η)) :
    (fill options adds).Holds (accepted { options } adds) :=
  (Holds.empty options).foldl_register adds

theorem options_fill (options : RouteOptions) (adds : List (Route η)) :
    (fill options adds).options = options :=
  options_foldl_register { options } adds

/-- Routes of different ranks make one table in whatever order a table holds them. -/
theorem Holds.eq_of_perm {t t' : RouteTable η} {routes others : List (Route η)}
    (h : t.Holds routes) (h' : t'.Holds others) (hperm : routes.Perm others)
    (hranks : (routes.map fun route => route.condition.rank).Nodup) : t.routes = t'.routes := by
  have hroutes : t.routes.Perm routes := h.eq_mergeSort ▸ List.mergeSort_perm ..
  have hothers : t'.routes.Perm routes :=
    (h'.eq_mergeSort ▸ List.mergeSort_perm ..).trans hperm.symm
  refine (hroutes.trans hothers.symm).eq_of_pairwise ?_ h.inOrder h'.inOrder
  intro a b ha hb hba hab
  have htied : tied outranks a b = true := tied_iff.mpr ⟨hab, hba⟩
  exact List.inj_on_of_nodup_map hranks (hroutes.mem_iff.mp ha) (hothers.mem_iff.mp hb)
    (rank_eq_of_tied htied)

/-- What adding routes one after the other comes to. -/
structure Ordered (options : RouteOptions) (adds : List (Route η)) : Prop where
  /-- The table is the stable sort by rank of what was not refused. -/
  sorted : (fill options adds).routes = (accepted { options } adds).mergeSort fun a b =>
    !decide (b.condition.rank < a.condition.rank)
  /-- A refused route leaves the table unchanged. -/
  refused : ∀ (earlier : List (Route η)) (route : Route η) (later : List (Route η)) (e : Error),
    adds = earlier ++ route :: later → (fill options earlier).add route = .error e →
      fill options (earlier ++ [route]) = fill options earlier
  /-- All routes are taken exactly if ambiguity is allowed or there is none. -/
  admitted : accepted { options } adds = adds ↔
    (options.rejectAmbiguous = true → Unambiguous adds)
  /-- The route found has the least rank, and was added first of those of this rank. -/
  found : ∀ (r : Request) (route : Route η) (m : RouteMatch),
    (fill options adds).find r = .ok (route, m) →
      route.condition.evaluate r options.useMatrix = .ok m ∧
        ∃ earlier later, accepted { options } adds = earlier ++ route :: later ∧
          (∀ other ∈ earlier, Takes options.useMatrix r other →
            route.condition.rank < other.condition.rank) ∧
          ∀ other ∈ later, Takes options.useMatrix r other →
            ¬other.condition.rank < route.condition.rank
  /-- None is found exactly if none takes the request. -/
  missed : ∀ r : Request, (∃ e, (fill options adds).find r = .error e) ↔
    ∀ route ∈ accepted { options } adds, ¬Takes options.useMatrix r route

/-- What does not depend on the order in which routes are added. -/
structure Exchangeable (options : RouteOptions) (adds others : List (Route η)) : Prop where
  admitted : accepted { options } adds = adds ↔ accepted { options } others = others
  table : (adds.map fun route => route.condition.rank).Nodup →
    accepted { options } adds = adds → fill options adds = fill options others

theorem ordered (options : RouteOptions) (adds : List (Route η)) : Ordered options adds where
  sorted := (holds_fill options adds).eq_mergeSort
  refused earlier route later e _ he := by
    unfold fill
    rw [List.foldl_append]
    change register (fill options earlier) route = fill options earlier
    rw [register, he]
  admitted := accepted_empty_iff options adds
  found r route m hfind := by
    have hfound := (holds_fill options adds).find_eq_ok hfind
    rw [options_fill] at hfound
    exact hfound
  missed r := by
    have hmissed := (holds_fill options adds).find_eq_error (r := r)
    rw [options_fill] at hmissed
    exact hmissed

theorem exchangeable (options : RouteOptions) {adds others : List (Route η)}
    (hperm : adds.Perm others) : Exchangeable options adds others := by
  have hadmitted : accepted { options } adds = adds ↔ accepted { options } others = others := by
    rw [accepted_empty_iff, accepted_empty_iff]
    exact forall_congr' fun _ => ⟨fun h => h.perm hperm, fun h => h.perm hperm.symm⟩
  refine ⟨hadmitted, fun hranks haccepted => ?_⟩
  have hholds := holds_fill options adds
  have hholds' := holds_fill options others
  rw [haccepted] at hholds
  rw [hadmitted.mp haccepted] at hholds'
  have hroutes := hholds.eq_of_perm hholds' hperm hranks
  have hoptions := (options_fill options adds).trans (options_fill options others).symm
  cases hfill : fill options adds
  cases hfill' : fill options others
  rw [hfill, hfill'] at hroutes hoptions
  cases hroutes
  cases hoptions
  rfl

/-- The order of a table, whether ambiguity is allowed or not. -/
theorem fill_ordered_and_exchangeable :
    (∀ c d : RouteCondition, c.mayBeAmbiguousWith d = d.mayBeAmbiguousWith c) ∧
    ∀ {η : Type} (options : RouteOptions) (adds : List (Route η)),
      Ordered options adds ∧
        ∀ others, adds.Perm others → Exchangeable options adds others :=
  ⟨RouteCondition.mayBeAmbiguousWith_comm,
    fun options adds => ⟨ordered options adds, fun _ hperm => exchangeable options hperm⟩⟩

/-- A literal and a variable make one table whichever is added first. -/
theorem fill_literal_and_variable :
    ∃ c d, RouteCondition.build { paths := ["/a"] } = .ok c ∧
      RouteCondition.build { paths := ["/{x}"] } = .ok d ∧
      fill {} [⟨c, "literal", ()⟩, ⟨d, "variable", ()⟩] =
        fill {} [⟨d, "variable", ()⟩, ⟨c, "literal", ()⟩] := by
  have hrun : ((RouteCondition.build { paths := ["/a"] }).toOption.bind fun c =>
      (RouteCondition.build { paths := ["/{x}"] }).toOption.bind fun d =>
        some (decide (c.rank = d.rank))) = some false := by
    decide +kernel
  obtain ⟨c, hc, hrun⟩ := Option.bind_eq_some_iff.mp hrun
  obtain ⟨d, hd, hrun⟩ := Option.bind_eq_some_iff.mp hrun
  have hranks : c.rank ≠ d.rank := of_decide_eq_false (Option.some.inj hrun)
  obtain ⟨hordered, hexchangeable⟩ := fill_ordered_and_exchangeable.2 {}
    [(⟨c, "literal", ()⟩ : Route Unit), ⟨d, "variable", ()⟩]
  have haccepted := hordered.admitted.mpr (by simp)
  exact ⟨c, d, toOption_eq_some_iff.mp hc, toOption_eq_some_iff.mp hd,
    (hexchangeable _ (List.Perm.swap ..)).table (by simp [hranks]) haccepted⟩

/-- Where ambiguity is refused, whichever of the two is added first keeps the other out. -/
theorem fill_depends_on_order :
    ¬∀ (options : RouteOptions) (adds others : List (Route Unit)), adds.Perm others →
      (adds.map fun route => route.condition.rank).Nodup →
        fill options adds = fill options others := by
  intro h
  have hrun : ((RouteCondition.build { paths := ["/a"] }).toOption.bind fun c =>
      (RouteCondition.build { paths := ["/{x}"] }).toOption.bind fun d =>
        some (decide (c.rank = d.rank),
          (fill { rejectAmbiguous := true }
            [⟨c, "literal", ()⟩, ⟨d, "variable", ()⟩]).routes.map (·.name),
          (fill { rejectAmbiguous := true }
            [⟨d, "variable", ()⟩, ⟨c, "literal", ()⟩]).routes.map (·.name))) =
      some (false, ["literal"], ["variable"]) := by
    decide +kernel
  obtain ⟨c, hc, hrun⟩ := Option.bind_eq_some_iff.mp hrun
  obtain ⟨d, hd, hrun⟩ := Option.bind_eq_some_iff.mp hrun
  simp only [Option.some.injEq, Prod.mk.injEq] at hrun
  have hranks : c.rank ≠ d.rank := of_decide_eq_false hrun.1
  have heq := h { rejectAmbiguous := true } [⟨c, "literal", ()⟩, ⟨d, "variable", ()⟩] _
    (List.Perm.swap ..) (by simp [hranks])
  rw [heq, hrun.2.2] at hrun
  exact absurd hrun.2.1 (by decide)

end RouteTable

end RestDispatch
