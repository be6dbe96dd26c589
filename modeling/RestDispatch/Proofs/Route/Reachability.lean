import RestDispatch.Proofs.Route.Inclusion
import RestDispatch.Proofs.Route.Refusal
import RestDispatch.Proofs.Route.Specificity

/-!
# Routes on patterns that match fewer paths

A route whose pattern matches only paths of another route's pattern must be tried before that
one, or it takes no request at all.  The ranks of the two patterns decide.  Where the narrower
pattern ranks first, no request that its route could take is lost to the other one, whatever
else the table holds and in whatever order routes were added.  Where it does not, a route on the
wider pattern that asks for nothing else hides every route that is added behind it.
-/

namespace RestDispatch

theorem Rank.lt_of_append_lt_append {a b : Rank} (hlength : a.length = b.length) {s : Rank}
    (h : a ++ s < b ++ s) : a < b := by
  by_contra hle
  by_cases hgt : b < a
  · exact List.lt_asymm h (append_lt_append hlength.symm hgt s s)
  · rw [List.le_antisymm hgt hle] at h
    exact List.lt_irrefl _ h

namespace RouteCondition

/-- A condition asks for a path that the pattern matches, and for nothing else. -/
structure AsksOnly (c : RouteCondition) (p : PathPattern) : Prop where
  patterns : c.patterns = [p]
  methods : c.methods = []
  headers : c.headers = []
  params : c.params = []
  consumes : c.consumes = []
  produces : c.produces = []

namespace AsksOnly

variable {c : RouteCondition} {p : PathPattern} {r : Request} {matrix : Bool}

theorem takes_iff (h : c.AsksOnly p) :
    (∃ found, c.evaluate r matrix = .ok found) ↔ (p.matchPath? r.path matrix).isSome = true := by
  have hpath : c.matchPath? r.path matrix = p.matchPath? r.path matrix := by
    simp [matchPath?, h.patterns]
  unfold evaluate
  rw [hpath]
  cases p.matchPath? r.path matrix with
  | none => simp
  | some m =>
    simp [allowsMethod, allowsContent, compatible?, h.methods, h.headers, h.params, h.consumes,
      h.produces]

theorem rank_eq (h : c.AsksOnly p) : c.rank = p.rank ++ [0, 1] := by
  simp [rank, restrictions, h.patterns, h.methods, h.headers, h.params, h.consumes, h.produces]

end AsksOnly

end RouteCondition

namespace RouteTable

/-- A request that some route takes is not lost to one of greater rank. -/
theorem exists_find_of_takes {η : Type} {options : RouteOptions} {adds : List (Route η)}
    {r : Request} {route : Route η} (hroute : route ∈ (fill options adds).routes)
    (htakes : Takes options.useMatrix r route) :
    ∃ other found, (fill options adds).find r = .ok (other, found) ∧
      ¬route.condition.rank < other.condition.rank := by
  cases hfind : (fill options adds).find r with
  | error e =>
    have hnone := not_takes_of_find hfind route hroute
    rw [options_fill] at hnone
    exact absurd htakes hnone
  | ok result => exact ⟨result.1, result.2, rfl, not_rank_lt_of_find hfind hroute htakes⟩

/-- What ranks make of two patterns, of which one matches fewer paths than the other. -/
structure Separates (p q : PathPattern) (matrix : Bool) : Prop where
  /-- Only stars and literals put the narrower pattern first. -/
  first : p.rank < q.rank ↔ p.manies < q.manies ∨ p.manies = q.manies ∧
    (p.ones < q.ones ∨ p.ones = q.ones ∧ q.literals < p.literals)
  literals : p.Unconstrained → q.literals ≤ p.literals
  /-- Without `**`, only a narrower pattern that has more `*` is not first. -/
  plain : q.manies = 0 → p.manies = 0 ∧ (p.Unconstrained → (p.rank < q.rank ↔ p.ones ≤ q.ones))
  /-- No route on the wider pattern gets a request for the narrower one. -/
  reached : p.rank < q.rank → ∀ {η : Type} (options : RouteOptions) (adds : List (Route η)),
    options.useMatrix = matrix → ∀ route ∈ (fill options adds).routes,
      route.condition.AsksOnly p → ∀ r : Request, (p.matchPath? r.path matrix).isSome = true →
        ∃ other found, (fill options adds).find r = .ok (other, found) ∧
          other.condition.patterns ≠ [q]
  /-- Else a route on the narrower pattern is only found if none that asks for the wider one
  alone was added before it. -/
  hidden : ¬p.rank < q.rank → ∀ {η : Type} (options : RouteOptions) (adds : List (Route η)),
    options.useMatrix = matrix → ∀ (r : Request) (route : Route η) (found : RouteMatch),
      (fill options adds).find r = .ok (route, found) → route.condition.AsksOnly p →
        ∃ earlier later, accepted { options } adds = earlier ++ route :: later ∧
          ∀ other ∈ earlier, ¬other.condition.AsksOnly q

variable {η : Type} {options : RouteOptions} {adds : List (Route η)} {p q : PathPattern}
  {r : Request} {route : Route η}

theorem exists_find_ne_of_rank_lt (hlt : p.rank < q.rank)
    (hroute : route ∈ (fill options adds).routes) (hp : route.condition.AsksOnly p)
    (hpath : (p.matchPath? r.path options.useMatrix).isSome = true) :
    ∃ other found, (fill options adds).find r = .ok (other, found) ∧
      other.condition.patterns ≠ [q] := by
  obtain ⟨other, found, hfind, hrank⟩ := exists_find_of_takes hroute (hp.takes_iff.mpr hpath)
  refine ⟨other, found, hfind, ?_⟩
  intro hq
  exact hrank (RouteCondition.rank_lt_of_head hp.patterns hq hlt)

theorem exists_earlier_of_not_rank_lt (h : p.Narrower q options.useMatrix)
    (hle : ¬p.rank < q.rank) {found : RouteMatch}
    (hfind : (fill options adds).find r = .ok (route, found)) (hp : route.condition.AsksOnly p) :
    ∃ earlier later, accepted { options } adds = earlier ++ route :: later ∧
      ∀ other ∈ earlier, ¬other.condition.AsksOnly q := by
  obtain ⟨hevaluate, earlier, later, hsplit, hearlier, -⟩ :=
    (ordered options adds).found r route found hfind
  refine ⟨earlier, later, hsplit, ?_⟩
  intro other hother hq
  have hpath := h.included r.path (hp.takes_iff.mp ⟨found, hevaluate⟩)
  have hrank := hearlier other hother (hq.takes_iff.mpr hpath)
  rw [hp.rank_eq, hq.rank_eq] at hrank
  have hlength : p.rank.length = q.rank.length := rfl
  exact hle (Rank.lt_of_append_lt_append hlength hrank)

/-- Of two patterns the one that matches fewer paths is reached if it ranks first, and hidden by
the other one if it does not; stars and literals decide which. -/
theorem rank_separates {matrix : Bool} (h : p.Narrower q matrix) : Separates p q matrix := by
  have hfirst := PathPattern.rank_lt_iff h.length_takers_le
  refine ⟨hfirst, h.literals_le, ?_, ?_, ?_⟩
  · intro hq
    rw [PathPattern.manies_eq_zero_iff] at hq
    have hp := PathPattern.manies_eq_zero_iff.mpr (h.many_notMem hq)
    refine ⟨hp, ?_⟩
    intro hfree
    have hliterals := h.literals_lt hfree hq
    rw [hfirst, hp, PathPattern.manies_eq_zero_iff.mpr hq]
    omega
  · intro hlt η options adds hmatrix route hroute hp r hpath
    rw [← hmatrix] at hpath
    exact exists_find_ne_of_rank_lt hlt hroute hp hpath
  · intro hle η options adds hmatrix r route found hfind hp
    rw [← hmatrix] at h
    exact exists_earlier_of_not_rank_lt h hle hfind hp

/-- One user by name, and any user. -/
theorem rank_separates_users :
    ∃ p q, PathPattern.parse "/users/me/**" = .ok p ∧ PathPattern.parse "/users/{id}/**" = .ok q ∧
      p.Narrower q true ∧ Separates p q true := by
  have hrun : ((PathPattern.parse "/users/me/**").toOption.bind fun p =>
      (PathPattern.parse "/users/{id}/**").toOption.bind fun q =>
        some (PathPattern.seesNarrower p q true "/users/me" "/users/1")) = some true := by
    decide +kernel
  obtain ⟨p, hp, hrun⟩ := Option.bind_eq_some_iff.mp hrun
  obtain ⟨q, hq, hrun⟩ := Option.bind_eq_some_iff.mp hrun
  have hnarrower := PathPattern.Narrower.of_seesNarrower (Option.some.inj hrun)
  exact ⟨p, q, toOption_eq_some_iff.mp hp, toOption_eq_some_iff.mp hq, hnarrower,
    rank_separates hnarrower⟩

/-- What is right below a fixed path ranks behind any two parts: a star counts before a literal. -/
theorem below_ranks_behind_pair :
    ¬∀ (given given' : String) (p q : PathPattern), PathPattern.parse given = .ok p →
      PathPattern.parse given' = .ok q → (∀ matrix, p.Narrower q matrix) → p.rank < q.rank := by
  intro h
  have hrun : ((PathPattern.parse "/a/*").toOption.bind fun p =>
      (PathPattern.parse "/{x}/{y}").toOption.bind fun q =>
        some (PathPattern.seesNarrower p q true "/a/b" "/b/b",
          PathPattern.seesNarrower p q false "/a/b" "/b/b", decide (p.rank < q.rank))) =
      some (true, true, false) := by
    decide +kernel
  obtain ⟨p, hp, hrun⟩ := Option.bind_eq_some_iff.mp hrun
  obtain ⟨q, hq, hrun⟩ := Option.bind_eq_some_iff.mp hrun
  simp only [Option.some.injEq, Prod.mk.injEq] at hrun
  obtain ⟨htrue, hfalse, hrank⟩ := hrun
  have hnarrower : ∀ matrix, p.Narrower q matrix
    | true => .of_seesNarrower htrue
    | false => .of_seesNarrower hfalse
  have hlt := h _ _ p q (toOption_eq_some_iff.mp hp) (toOption_eq_some_iff.mp hq) hnarrower
  exact absurd hlt (of_decide_eq_false hrank)

end RouteTable

end RestDispatch
