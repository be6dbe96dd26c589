import RestDispatch.Proofs.Route.Refusal

/-!
# Requests with another method

A route that refuses a request for its method alone is one miss among others, and the nearest
miss decides.  So the method is refused, and the right one offered, exactly when every route for
the path refuses it.  If some route for the path allows the method, the request is refused for
what that route, or one that got further, asks besides; to offer methods would then be to offer
the one that was sent.
-/

namespace RestDispatch

namespace RouteCondition

variable {c : RouteCondition} {r : Request} {matrix : Bool} {m : Method}

/-- Only one test of a condition looks at the method. -/
theorem passes_withMethod {test : Mismatch} (htest : test ≠ .method) :
    c.passes { r with method := m } matrix test = c.passes r matrix test := by
  cases test with
  | method => exact absurd rfl htest
  | _ => rfl

/-- A condition that would take a request with another method fails for its method alone. -/
theorem missesAt_method {found : RouteMatch}
    (htaken : c.evaluate { r with method := m } matrix = .ok found)
    (hnot : ¬∃ found, c.evaluate r matrix = .ok found) :
    c.MissesAt r matrix .method ∧ m ∈ c.methods := by
  have hpasses : ∀ test, test ≠ .method → c.passes r matrix test = true := by
    intro test htest
    have hpassed := passes_of_evaluate htaken test
    rw [passes_withMethod htest] at hpassed
    exact hpassed
  have hrefused : c.passes r matrix .method = false := by
    cases hevaluate : c.evaluate r matrix with
    | ok found => exact absurd ⟨found, hevaluate⟩ hnot
    | error miss =>
      have hmiss := missesAt_of_evaluate hevaluate
      by_cases hmethod : miss = .method
      · rw [← hmethod]
        exact hmiss.failed
      · have hfailed := hmiss.failed
        rw [hpasses miss hmethod] at hfailed
        exact Bool.noConfusion hfailed
  constructor
  · constructor
    · exact hrefused
    · intro test hlt
      apply hpasses
      rintro rfl
      exact absurd hlt (Nat.lt_irrefl _)
  · have hallowed : c.allowsMethod m = true := passes_of_evaluate htaken .method
    have hnone : c.allowsMethod r.method = false := hrefused
    unfold allowsMethod at hallowed hnone
    simp_all

end RouteCondition

namespace RouteTable

variable {η : Type} {t : RouteTable η} {r : Request}

/-- Some route for the path of a request allows its method. -/
def AllowsMethod (t : RouteTable η) (r : Request) : Prop :=
  ∃ route ∈ t.routes, route.condition.passes r t.options.useMatrix .path = true ∧
    route.condition.passes r t.options.useMatrix .method = true

instance (t : RouteTable η) (r : Request) : Decidable (t.AllowsMethod r) :=
  inferInstanceAs (Decidable (∃ route ∈ t.routes,
    route.condition.passes r t.options.useMatrix .path = true ∧
      route.condition.passes r t.options.useMatrix .method = true))

/-- A request that no route takes is refused for the nearest miss. -/
theorem exists_nearestMiss (hnone : ∀ route ∈ t.routes, ¬Takes t.options.useMatrix r route)
    (hroutes : t.routes ≠ []) :
    ∃ miss, NearestMiss t.options.useMatrix r t.routes miss ∧
      t.find r = .error (t.refusal r (some miss)) := by
  unfold find
  rcases hsearch : search t.options.useMatrix r t.routes with (_ | miss) | ⟨route, found⟩
  · exact absurd (eq_nil_of_search hsearch) hroutes
  · exact ⟨miss, nearestMiss_of_search hsearch, rfl⟩
  · obtain ⟨htakes, before, behind, hsplit, -⟩ := search_eq_ok hsearch
    have hroute : route ∈ t.routes := by simp [hsplit]
    exact absurd ⟨found, htakes⟩ (hnone route hroute)

theorem refusesMethod_of_not_allowsMethod (h : ¬t.AllowsMethod r)
    (hpath : ∃ route ∈ t.routes,
      route.condition.passes r t.options.useMatrix .path = true) : t.RefusesMethod r := by
  refine ⟨hpath, ?_⟩
  intro route hroute hpasses
  by_contra hallows
  rw [Bool.not_eq_false] at hallows
  exact h ⟨route, hroute, hpasses, hallows⟩

/-- The answer to a request that no route takes, and that some would take with another method.
The method is refused, and every such method is offered, unless some route for the path allows
it; then the request is refused for the nearest miss behind the method. -/
theorem find_other_method (hnone : ∀ route ∈ t.routes, ¬Takes t.options.useMatrix r route)
    (hother : ∃ route ∈ t.routes, ∃ m, Takes t.options.useMatrix { r with method := m } route) :
    (¬t.AllowsMethod r →
      ∃ methods, t.find r = .error (.methodNotAllowed (Text.join ", " (methods.map Method.name))) ∧
        t.Offers r methods ∧ ∀ route ∈ t.routes, ∀ m,
          Takes t.options.useMatrix { r with method := m } route → m ∈ methods) ∧
    (t.AllowsMethod r →
      ∃ miss, NearestMiss t.options.useMatrix r t.routes miss ∧
        Mismatch.method.nearness < miss.nearness ∧
          t.find r = .error (t.refusal r (some miss)) ∧
            ∀ text, t.find r ≠ .error (.methodNotAllowed text)) := by
  obtain ⟨route, hroute, m, found, htakes⟩ := hother
  have hmiss := (RouteCondition.missesAt_method htakes (hnone route hroute)).1
  have hpath := hmiss.passed .path (by decide)
  obtain ⟨miss, hnearest, hfind⟩ := exists_nearestMiss hnone (List.ne_nil_of_mem hroute)
  constructor
  · intro hrefuses
    have hrefused := refusesMethod_of_not_allowsMethod hrefuses ⟨route, hroute, hpath⟩
    have hmethod := hnearest.unique ((nearestMiss_method_iff hnone).mpr hrefused)
    subst hmethod
    refine ⟨t.allowedMethods r.path, hfind, hrefused.offers, ?_⟩
    intro other hother m' ⟨found', htakes'⟩
    have hmiss' := RouteCondition.missesAt_method htakes' (hnone other hother)
    have hpath' := hmiss'.1.passed .path (by decide)
    exact (hrefused.offers.declared m').mpr ⟨other, hother, hpath', hmiss'.2⟩
  · rintro ⟨other, hother, hpath', hallows⟩
    have hle := hnearest.nearest route hroute .method hmiss
    have hne : miss ≠ .method := by
      rintro rfl
      have hrefused := ((nearestMiss_method_iff hnone).mp hnearest).2 other hother hpath'
      rw [hallows] at hrefused
      exact Bool.noConfusion hrefused
    have hlt : Mismatch.method.nearness < miss.nearness := by
      have hnearness : Mismatch.method.nearness ≠ miss.nearness := fun heq =>
        hne (Mismatch.eq_of_nearness heq).symm
      omega
    refine ⟨miss, hnearest, hlt, hfind, ?_⟩
    intro text htext
    rw [hfind, Except.error.injEq, refusal_methodNotAllowed_iff] at htext
    exact hne (Option.some.inj htext.1)

/-- A route that needs another method, and one that allows every method but needs a header. -/
def readOrVersioned : List (Route Unit) :=
  declared [("read", { paths := ["/p"], methods := [.get] }),
    ("versioned", { paths := ["/p"], headers := ["X-Version"] })]

/-- A route for reading and one for replacing. -/
def readOrReplace : List (Route Unit) :=
  declared [("read", { paths := ["/p"], methods := [.get] }),
    ("replace", { paths := ["/p"], methods := [.put, .get] })]

/-- Two routes that refuse the method offer theirs; one that allows it is missed instead. -/
theorem find_other_method_deleting :
    let r : Request := .ofUri .delete "/p"
    (let t := fill {} readOrReplace
      ∃ methods, t.find r = .error (.methodNotAllowed (Text.join ", " (methods.map Method.name))) ∧
        t.Offers r methods ∧ ∀ route ∈ t.routes, ∀ m,
          Takes t.options.useMatrix { r with method := m } route → m ∈ methods) ∧
    let t := fill {} readOrVersioned
    ∃ miss, NearestMiss t.options.useMatrix r t.routes miss ∧
      Mismatch.method.nearness < miss.nearness ∧ t.find r = .error (t.refusal r (some miss)) ∧
        ∀ text, t.find r ≠ .error (.methodNotAllowed text) := by
  intro r
  constructor
  · intro t
    have hrun : (∀ route ∈ t.routes, ¬Takes t.options.useMatrix r route) ∧
        (∃ route ∈ t.routes, Takes t.options.useMatrix { r with method := .put } route) ∧
          ¬t.AllowsMethod r := by
      decide +kernel
    obtain ⟨hnone, ⟨route, hroute, htakes⟩, hrefuses⟩ := hrun
    exact (find_other_method hnone ⟨route, hroute, .put, htakes⟩).1 hrefuses
  · intro t
    have hrun : (∀ route ∈ t.routes, ¬Takes t.options.useMatrix r route) ∧
        (∃ route ∈ t.routes, Takes t.options.useMatrix { r with method := .get } route) ∧
          t.AllowsMethod r := by
      decide +kernel
    obtain ⟨hnone, ⟨route, hroute, htakes⟩, hallows⟩ := hrun
    exact (find_other_method hnone ⟨route, hroute, .get, htakes⟩).2 hallows

/-- What could be read is not found when it is posted, although only the method differs: the
other route asks for a header. -/
theorem post_not_found :
    ¬∀ (t : RouteTable Unit) (r : Request),
      (∀ route ∈ t.routes, ¬Takes t.options.useMatrix r route) →
        (∃ route ∈ t.routes, ∃ m, Takes t.options.useMatrix { r with method := m } route) →
          ∃ text, t.find r = .error (.methodNotAllowed text) := by
  intro h
  have hrun : let t := fill {} readOrVersioned
      let r : Request := .ofUri .post "/p"
      (∀ route ∈ t.routes, ¬Takes t.options.useMatrix r route) ∧
        (∃ route ∈ t.routes, Takes t.options.useMatrix { r with method := .get } route) ∧
          (match t.find r with
            | .error (.routeNotFound _) => true
            | _ => false) = true := by
    decide +kernel
  obtain ⟨hnone, ⟨route, hroute, htakes⟩, hfound⟩ := hrun
  obtain ⟨text, htext⟩ := h _ _ hnone ⟨route, hroute, .get, htakes⟩
  rw [htext] at hfound
  exact Bool.noConfusion hfound

end RouteTable

end RestDispatch
