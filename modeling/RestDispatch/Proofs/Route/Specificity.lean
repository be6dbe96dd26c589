import RestDispatch.Proofs.Route.TableOrder

/-!
# The most specific route

A table is kept in the order of the ranks of its routes, and the rank of a route begins with
that of its most specific pattern, whether or not this is the pattern that a path matches.  So
the order of two routes follows the patterns that match a path as far as the route found
declares no other pattern that is more specific still.

The main statement says that this is all: a route that takes the request by a more specific
pattern loses only to a route that has a pattern at least as specific which the path does not
match.  In particular it never loses to a route with a single pattern.
-/

namespace RestDispatch

/-- Keys of one length compare by themselves, whatever follows them. -/
theorem Rank.append_lt_append {a b : Rank} (hlength : a.length = b.length) (h : a < b)
    (s t : Rank) : a ++ s < b ++ t := by
  induction a generalizing b with
  | nil =>
    have hnil : b = [] := List.eq_nil_of_length_eq_zero hlength.symm
    subst hnil
    exact absurd h (List.lt_irrefl [])
  | cons x a ih =>
    cases b with
    | nil => simp at hlength
    | cons y b =>
      simp only [List.length_cons, Nat.add_right_cancel_iff] at hlength
      rw [List.cons_append, List.cons_append, List.cons_lt_cons_iff]
      rcases List.cons_lt_cons_iff.mp h with hlt | ⟨heq, hrest⟩
      · exact .inl hlt
      · exact .inr ⟨heq, ih hlength hrest⟩

namespace RouteCondition

/-- No pattern of a condition is more specific than one in front of it. -/
def MostSpecificFirst (c : RouteCondition) : Prop :=
  c.patterns.Pairwise fun p q => ¬q.rank < p.rank

/-- The patterns of a declared condition are sorted. -/
theorem mostSpecificFirst_build (spec : RouteSpec) :
    ReturnsOnly MostSpecificFirst (build spec) := by
  unfold build
  extract_lets rest
  have hrest (u : PUnit) : ReturnsOnly MostSpecificFirst (rest u) := by
    apply ReturnsOnly.of_bind
    intro patterns
    have hsorted := (weakOrder_ascending PathPattern.rank).inOrder_stableSort patterns
    have hpatterns : (stableSort (fun p q => decide (p.rank < q.rank)) patterns).Pairwise
        fun p q => ¬q.rank < p.rank := hsorted.imp of_decide_eq_false
    exact ReturnsOnly.of_bind fun _ => ReturnsOnly.of_bind fun _ => ReturnsOnly.of_bind fun _ =>
      ReturnsOnly.of_bind fun _ => returnsOnly_ok hpatterns
  split
  · exact ReturnsOnly.of_bind hrest
  · exact hrest PUnit.unit

/-- A pattern by which a condition matches a path: none of those that match is more specific. -/
structure MatchesBy (c : RouteCondition) (path : String) (matrix : Bool) (p : PathPattern) :
    Prop where
  declared : p ∈ c.patterns
  matching : (p.matchPath? path matrix).isSome = true
  least : ∀ q ∈ c.patterns, (q.matchPath? path matrix).isSome = true → ¬q.rank < p.rank

section

variable {c d : RouteCondition} {path : String} {matrix : Bool} {p q : PathPattern}

theorem MostSpecificFirst.head_le (h : c.MostSpecificFirst) {best : PathPattern}
    {rest : List PathPattern} (hbest : c.patterns = best :: rest) (hq : q ∈ c.patterns) :
    ¬q.rank < best.rank := by
  unfold MostSpecificFirst at h
  rw [hbest] at h hq
  rcases List.mem_cons.mp hq with rfl | hrest
  · exact List.lt_irrefl _
  · exact List.rel_of_pairwise_cons h hrest

/-- A path is matched by the first pattern that matches it, which is the most specific. -/
theorem MostSpecificFirst.exists_matchesBy (h : c.MostSpecificFirst) {m : PathMatch}
    (hm : c.matchPath? path matrix = some m) :
    ∃ p, c.MatchesBy path matrix p ∧ p.matchPath? path matrix = some m := by
  unfold matchPath? at hm
  unfold MostSpecificFirst at h
  obtain ⟨before, p, behind, hsplit, hp, hbefore⟩ := List.findSome?_eq_some_iff.mp hm
  rw [hsplit] at h
  have hmem : p ∈ c.patterns := by simp [hsplit]
  refine ⟨p, ⟨hmem, by simp [hp], ?_⟩, hp⟩
  intro q hq hmatch
  rw [hsplit] at hq
  have hbehind := (List.pairwise_append.mp h).2.1
  rcases List.mem_append.mp hq with hfront | hback
  · have hnone := hbefore q hfront
    simp [hnone] at hmatch
  · rcases List.mem_cons.mp hback with rfl | hlater
    · exact List.lt_irrefl _
    · exact List.rel_of_pairwise_cons hbehind hlater

/-- Conditions compare by their most specific patterns first. -/
theorem rank_lt_of_head {best other : PathPattern} {rest others : List PathPattern}
    (hc : c.patterns = best :: rest) (hd : d.patterns = other :: others)
    (hlt : best.rank < other.rank) : c.rank < d.rank := by
  have hlength : best.rank.length = other.rank.length := rfl
  unfold rank
  rw [hc, hd]
  exact Rank.append_lt_append hlength hlt _ _

end

end RouteCondition

namespace RouteTable

variable {η : Type} {options : RouteOptions} {adds : List (Route η)} {r : Request}

theorem mem_of_mem_fill {route : Route η} (h : route ∈ (fill options adds).routes) :
    route ∈ adds := by
  have hholds := holds_fill options adds
  have haccepted := weakOrder_outranks.mem_of_filter_tied hholds.ties h
  exact (accepted_sublist { options } adds).subset haccepted

/-- A route that takes a request is not tried before the one that is found. -/
theorem not_rank_lt_of_find {route : Route η} {found : RouteMatch}
    (hfind : (fill options adds).find r = .ok (route, found)) {other : Route η}
    (hother : other ∈ (fill options adds).routes) (htakes : Takes options.useMatrix r other) :
    ¬other.condition.rank < route.condition.rank := by
  have hsearch := search_of_find hfind
  rw [options_fill] at hsearch
  obtain ⟨-, before, behind, hsplit, hbefore⟩ := search_eq_ok hsearch
  have hordered := (holds_fill options adds).inOrder
  rw [hsplit] at hordered hother
  rcases List.mem_append.mp hother with hfront | hback
  · exact absurd htakes (hbefore other hfront)
  · have hbehind := (List.pairwise_append.mp hordered).2.1
    exact of_decide_eq_false (weakOrder_outranks.not_precedes_head hbehind hback)

theorem mem_of_find {t : RouteTable η} {route : Route η} {found : RouteMatch}
    (hfind : t.find r = .ok (route, found)) : route ∈ t.routes := by
  obtain ⟨-, before, behind, hsplit, -⟩ := search_eq_ok (search_of_find hfind)
  simp [hsplit]

/-- The route found matches the path by its most specific matching pattern. -/
theorem exists_matchesBy_of_find
    (hadds : ∀ route ∈ adds, route.condition.MostSpecificFirst) {route : Route η}
    {found : RouteMatch} (hfind : (fill options adds).find r = .ok (route, found)) :
    ∃ p, route.condition.MatchesBy r.path options.useMatrix p ∧
      p.matchPath? r.path options.useMatrix = some found.path := by
  have hsorted := hadds route (mem_of_mem_fill (mem_of_find hfind))
  have hsearch := search_of_find hfind
  rw [options_fill] at hsearch
  have hevaluate := (search_eq_ok hsearch).1
  have hpath := (RouteCondition.evaluate_eq_ok_iff.mp hevaluate).1
  exact hsorted.exists_matchesBy hpath

/-- The route found matches the path by its most specific matching pattern.  Any other route
that takes the request by a more specific one stands behind a pattern of the route found that
is at least as specific again, and that the path does not match. -/
theorem find_most_specific (hadds : ∀ route ∈ adds, route.condition.MostSpecificFirst)
    {route : Route η} {found : RouteMatch}
    (hfind : (fill options adds).find r = .ok (route, found)) :
    (∃ p, route.condition.MatchesBy r.path options.useMatrix p ∧
      p.matchPath? r.path options.useMatrix = some found.path) ∧
    ∀ p, route.condition.MatchesBy r.path options.useMatrix p →
      ∀ other ∈ (fill options adds).routes, Takes options.useMatrix r other →
        ∀ q ∈ other.condition.patterns, (q.matchPath? r.path options.useMatrix).isSome = true →
          q.rank < p.rank →
          ∃ best ∈ route.condition.patterns, best.matchPath? r.path options.useMatrix = none ∧
            best.rank < p.rank ∧ ¬q.rank < best.rank := by
  constructor
  · exact exists_matchesBy_of_find hadds hfind
  · intro p hp other hother htakes q hq hmatch hlt
    have hothers := hadds other (mem_of_mem_fill hother)
    have hrank := not_rank_lt_of_find hfind hother htakes
    obtain ⟨best, rest, hbest⟩ := List.exists_cons_of_ne_nil (List.ne_nil_of_mem hp.declared)
    obtain ⟨first, others, hfirst⟩ := List.exists_cons_of_ne_nil (List.ne_nil_of_mem hq)
    have hmem_best : best ∈ route.condition.patterns := by simp [hbest]
    have hbest_le_first : ¬first.rank < best.rank := fun h =>
      hrank (RouteCondition.rank_lt_of_head hfirst hbest h)
    have hbest_le : ¬q.rank < best.rank :=
      List.le_trans hbest_le_first (hothers.head_le hfirst hq)
    have hbest_lt : best.rank < p.rank := List.lt_of_le_of_lt hbest_le hlt
    refine ⟨best, hmem_best, ?_, hbest_lt, hbest_le⟩
    by_contra hmatches
    exact hp.least best hmem_best (Option.isSome_iff_ne_none.mpr hmatches) hbest_lt

/-- Whether the route that is found for a request passes a check. -/
def findsSuch (t : RouteTable η) (r : Request) (check : Route η → RouteMatch → Bool) : Bool :=
  match t.find r with
  | .ok (route, found) => check route found
  | .error _ => false

theorem exists_of_findsSuch {t : RouteTable η} {check : Route η → RouteMatch → Bool}
    (h : t.findsSuch r check = true) :
    ∃ route found, t.find r = .ok (route, found) ∧ check route found = true := by
  unfold findsSuch at h
  split at h
  next route found hfind => exact ⟨route, found, hfind, h⟩
  next => exact Bool.noConfusion h

/-- Pages at a fixed path and anywhere below another one, and the items right below that. -/
def pagesAndItems : List (Route Unit) :=
  declared [("pages", { paths := ["/a", "/x/**"] }), ("items", { paths := ["/x/{y}"] })]

def item : Request := .ofUri .get "/x/1"

theorem mostSpecificFirst_pagesAndItems :
    ∀ route ∈ pagesAndItems, route.condition.MostSpecificFirst := by
  intro route hroute
  obtain ⟨spec, hbuild⟩ := exists_build_of_mem_declared hroute
  exact RouteCondition.mostSpecificFirst_build spec _ hbuild

/-- An item is among the pages, although its own route has the more specific pattern: the other
pattern of the pages is more specific still. -/
theorem find_most_specific_item :
    ∃ route found, (fill {} pagesAndItems).find item = .ok (route, found) ∧
      route.name = "pages" ∧ ∃ p, route.condition.MatchesBy item.path true p ∧
        ∀ other ∈ (fill {} pagesAndItems).routes, Takes true item other →
          ∀ q ∈ other.condition.patterns, (q.matchPath? item.path true).isSome = true →
            q.rank < p.rank →
            ∃ best ∈ route.condition.patterns, best.matchPath? item.path true = none ∧
              best.rank < p.rank ∧ ¬q.rank < best.rank := by
  have hrun : (fill {} pagesAndItems).findsSuch item (fun route _ => route.name == "pages") =
      true := by
    decide +kernel
  obtain ⟨route, found, hfind, hname⟩ := exists_of_findsSuch hrun
  obtain ⟨⟨p, hp, -⟩, hothers⟩ := find_most_specific mostSpecificFirst_pagesAndItems hfind
  exact ⟨route, found, hfind, beq_iff_eq.mp hname, p, hp, hothers p hp⟩

/-- The items are not found by their own route, by which they match more specifically. -/
theorem item_found_among_pages :
    ¬∀ adds : List (Route Unit),
      (∀ route ∈ adds, ∃ spec, RouteCondition.build spec = .ok route.condition) →
        ∀ r route found, (fill {} adds).find r = .ok (route, found) →
          ∀ p, route.condition.MatchesBy r.path true p →
            ∀ other ∈ (fill {} adds).routes, Takes true r other →
              ∀ q ∈ other.condition.patterns, (q.matchPath? r.path true).isSome = true →
                ¬q.rank < p.rank := by
  intro h
  have hrun : (fill {} pagesAndItems).findsSuch item (fun route _ =>
      route.condition.patterns.all fun p =>
        !(p.matchPath? item.path true).isSome || p.rank == [1, 0, -1, 0, -2]) = true := by
    decide +kernel
  have hitems : ((fill {} pagesAndItems).routes.any fun other =>
      decide (Takes true item other) &&
        other.condition.patterns.any fun q =>
          (q.matchPath? item.path true).isSome && decide (q.rank < [1, 0, -1, 0, -2])) =
      true := by
    decide +kernel
  obtain ⟨route, found, hfind, hranks⟩ := exists_of_findsSuch hrun
  obtain ⟨other, hother, hitems⟩ := List.any_eq_true.mp hitems
  obtain ⟨htakes, hitems⟩ := Bool.and_eq_true_iff.mp hitems
  obtain ⟨q, hq, hitems⟩ := List.any_eq_true.mp hitems
  obtain ⟨hmatch, hlt⟩ := Bool.and_eq_true_iff.mp hitems
  obtain ⟨p, hp, -⟩ := exists_matchesBy_of_find mostSpecificFirst_pagesAndItems hfind
  have hrank : p.rank = [1, 0, -1, 0, -2] := by
    have hp_rank := List.all_eq_true.mp hranks p hp.declared
    rw [hp.matching] at hp_rank
    simpa using hp_rank
  refine h pagesAndItems (fun _ hroute => exists_build_of_mem_declared hroute) item route found
    hfind p hp other hother (of_decide_eq_true htakes) q hq hmatch ?_
  rw [hrank]
  exact of_decide_eq_true hlt

end RouteTable

end RestDispatch
