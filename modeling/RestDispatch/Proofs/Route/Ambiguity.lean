import RestDispatch.Route.Condition
import RestDispatch.Proofs.Media.Compatibility
import RestDispatch.Proofs.Route.Overlap

/-!
# Ambiguous conditions

Each of the six tests of a condition has a counterpart that compares two conditions without a
request.  For paths, methods, headers and parameters the comparison is cautious: what passes
both tests is never judged to be excluded.  The comparison of media types is not.  Two lists
of which no type is compatible with one of the other are kept apart, although a body without
a type passes both, and so does a client that names no type, or a range, or several types.

The main statement is that these are all requests that two conditions take without being
judged ambiguous.  The judgement itself is symmetric.
-/

namespace RestDispatch

/-- Whether some elements of two lists are related does not depend on the order of the lists. -/
theorem any_any_comm {α : Type} {p : α → α → Bool} (hp : ∀ a b, p a b = p b a)
    (as bs : List α) : (as.any fun a => bs.any (p a)) = bs.any fun b => as.any (p b) := by
  have himp (as bs : List α) (h : (as.any fun a => bs.any (p a)) = true) :
      (bs.any fun b => as.any (p b)) = true := by
    obtain ⟨a, ha, h⟩ := List.any_eq_true.mp h
    obtain ⟨b, hb, h⟩ := List.any_eq_true.mp h
    rw [hp] at h
    exact List.any_eq_true.mpr ⟨b, hb, List.any_eq_true.mpr ⟨a, ha, h⟩⟩
  exact Bool.eq_iff_iff.mpr ⟨himp as bs, himp bs as⟩

namespace Expression

theorem contradicts_comm (e f : Expression) : e.contradicts f = f.contradicts e := by
  cases e <;> cases f <;> grind [contradicts, name]

/-- A value that passes two conditions shows that they do not contradict each other. -/
theorem not_contradicts_of_test {value : Option String} {e f : Expression}
    (he : e.test value = true) (hf : f.test value = true) : e.contradicts f = false := by
  cases value <;> cases e <;> cases f <;> grind [contradicts, test]

theorem anyContradiction_comm (es fs : List Expression) :
    anyContradiction es fs = anyContradiction fs es :=
  any_any_comm contradicts_comm es fs

/-- Conditions that pass on the same values do not contradict each other. -/
theorem anyContradiction_of_tests (value : String → Option String) {es fs : List Expression}
    (hes : es.all (fun e => e.test (value e.name)) = true)
    (hfs : fs.all (fun f => f.test (value f.name)) = true) : anyContradiction es fs = false := by
  refine List.any_eq_false.mpr fun e he => ?_
  rw [Bool.not_eq_true]
  refine List.any_eq_false.mpr fun f hf => ?_
  rw [Bool.not_eq_true]
  have hetest := List.all_eq_true.mp hes e he
  have hftest := List.all_eq_true.mp hfs f hf
  by_cases hname : e.name = f.name
  · rw [← hname] at hftest
    exact not_contradicts_of_test hetest hftest
  · unfold contradicts
    rw [beq_eq_false_iff_ne.mpr hname, Bool.false_and]

end Expression

namespace RouteCondition

/-- Both lists declare types, and no type of one is compatible with one of the other. -/
structure Apart (as bs : List MediaType) : Prop where
  left : as ≠ []
  right : bs ≠ []
  incompatible : ∀ a ∈ as, ∀ b ∈ bs, a.isCompatibleWith b = false

theorem mediaOverlap_eq_false_iff (as bs : List MediaType) :
    mediaOverlap as bs = false ↔ Apart as bs := by
  unfold mediaOverlap
  constructor
  · intro h
    simp only [Bool.or_eq_false_iff, List.isEmpty_eq_false_iff, List.any_eq_false,
      Bool.not_eq_true] at h
    exact ⟨h.1.1, h.1.2, h.2⟩
  · intro h
    simp only [Bool.or_eq_false_iff, List.isEmpty_eq_false_iff, List.any_eq_false,
      Bool.not_eq_true]
    exact ⟨⟨h.left, h.right⟩, h.incompatible⟩

theorem mediaOverlap_comm (as bs : List MediaType) : mediaOverlap as bs = mediaOverlap bs as := by
  unfold mediaOverlap
  rw [any_any_comm MediaType.isCompatibleWith_comm, Bool.or_comm as.isEmpty]

theorem methodsOverlap_comm (as bs : List Method) :
    methodsOverlap as bs = methodsOverlap bs as := by
  have hany := any_any_comm (fun a b : Method => BEq.comm (a := a) (b := b)) as bs
  simp only [← List.contains_eq_any_beq] at hany
  unfold methodsOverlap
  rw [Bool.or_comm as.isEmpty]
  exact congrArg _ hany

/-- The judgement of two conditions does not depend on their order. -/
theorem mayBeAmbiguousWith_comm (c d : RouteCondition) :
    c.mayBeAmbiguousWith d = d.mayBeAmbiguousWith c := by
  unfold mayBeAmbiguousWith
  rw [any_any_comm PathPattern.mayOverlap_comm, methodsOverlap_comm,
    mediaOverlap_comm c.consumes, mediaOverlap_comm c.produces,
    Expression.anyContradiction_comm c.headers, Expression.anyContradiction_comm c.params]

section

variable {c d : RouteCondition} {r : Request} {matrix : Bool} {found other : RouteMatch}

/-- What a condition has found out about a request that it takes. -/
theorem evaluate_eq_ok_iff :
    c.evaluate r matrix = .ok found ↔
      c.matchPath? r.path matrix = some found.path ∧ c.allowsMethod r.method = true ∧
        c.headers.all (fun e => e.test (r.header? e.name)) = true ∧
        c.params.all (fun e => e.test (r.param? e.name)) = true ∧
        c.allowsContent r.contentType? = true ∧
        compatible? c.produces (r.header? "Accept") = some found.produces := by
  constructor
  · intro h
    unfold evaluate at h
    split at h
    next => simp at h
    next path hpath =>
      split at h
      next => simp at h
      next hmethod =>
        split at h
        next => simp at h
        next hheaders =>
          split at h
          next => simp at h
          next hparams =>
            split at h
            next => simp at h
            next hcontent =>
              split at h
              next => simp at h
              next produces hproduces =>
                cases h
                simp only [Bool.not_eq_true', Bool.not_eq_false] at hmethod hheaders hparams
                simp only [Bool.not_eq_true', Bool.not_eq_false] at hcontent
                exact ⟨hpath, hmethod, hheaders, hparams, hcontent, hproduces⟩
  · rintro ⟨hpath, hmethod, hheaders, hparams, hcontent, hproduces⟩
    simp only [evaluate, hpath, hmethod, hheaders, hparams, hcontent, hproduces, Bool.not_true,
      Bool.false_eq_true, if_false]

/-- The types found are declared and accepted, and there are some if any are declared. -/
theorem compatible?_eq_some {produces types : List MediaType} {accept : Option String}
    (h : compatible? produces accept = some types) :
    (produces ≠ [] → types ≠ []) ∧ ∀ m ∈ types, m ∈ produces ∧
      ∀ header, accept = some header → (Accept.parse header).accepts m = true := by
  unfold compatible? at h
  split at h
  next =>
    cases h
    simp
  next =>
    cases h
    exact ⟨fun hne => hne, fun m hm => ⟨hm, by simp⟩⟩
  next header =>
    extract_lets accepted rated at h
    split at h
    next => simp at h
    next hrated =>
      cases h
      constructor
      · intro _ hnil
        have hsorted := List.map_eq_nil_iff.mp hnil
        have hperm := perm_stableSort (fun a b : Single × MediaType => b.1.lt a.1) rated
        rw [hsorted] at hperm
        exact hrated (List.isEmpty_iff.mpr hperm.nil_eq.symm)
      · intro m hm
        obtain ⟨⟨quality, _⟩, hsorted, rfl⟩ := List.mem_map.mp hm
        have hmem := (perm_stableSort _ rated).mem_iff.mp hsorted
        obtain ⟨hmap, hquality⟩ := List.mem_filter.mp hmem
        obtain ⟨declared, hdeclared, heq⟩ := List.mem_map.mp hmap
        cases heq
        refine ⟨hdeclared, ?_⟩
        rintro _ ⟨⟩
        exact hquality

/-- A body whose type passes both lists of declared types keeps them from being apart. -/
theorem not_apart_of_allowsContent {type : MediaType} (hc : c.allowsContent (some type) = true)
    (hd : d.allowsContent (some type) = true) : ¬Apart c.consumes d.consumes := by
  intro h
  simp only [allowsContent, List.isEmpty_eq_false_iff.mpr h.left,
    List.isEmpty_eq_false_iff.mpr h.right, Bool.false_or, Option.all_some] at hc hd
  obtain ⟨a, ha, hincludes⟩ := List.any_eq_true.mp hc
  obtain ⟨b, hb, hincluded⟩ := List.any_eq_true.mp hd
  have hcompatible := MediaType.isCompatibleWith_of_includes hincludes hincluded
  rw [h.incompatible a ha b hb] at hcompatible
  exact Bool.noConfusion hcompatible

/-- What a request and what two conditions found in it leave undecided: the types of the
bodies are apart but the body has no readable type, or the types of the answers are apart but
no single entry of an `Accept` header, other than a range, stands for the types accepted. -/
inductive Undecided (c d : RouteCondition) (r : Request) (found other : RouteMatch) : Prop
  | content : Apart c.consumes d.consumes → r.contentType? = none → Undecided c d r found other
  | accept : Apart c.produces d.produces →
      (∀ header, r.header? "Accept" = some header →
        ∀ x ∈ found.produces, ∀ y ∈ other.produces, ∃ e e',
          (Accept.parse header).entryFor? x = some e ∧
          (Accept.parse header).entryFor? y = some e' ∧ (e = e' → e.type.isRange = true)) →
      Undecided c d r found other

theorem methodsOverlap_of_allowsMethod {m : Method} (hc : c.allowsMethod m = true)
    (hd : d.allowsMethod m = true) : methodsOverlap c.methods d.methods = true := by
  unfold methodsOverlap
  rcases Bool.or_eq_true_iff.mp hc with hempty | hmem
  · rw [hempty, Bool.true_or, Bool.true_or]
  rcases Bool.or_eq_true_iff.mp hd with hempty | hmem'
  · rw [hempty, Bool.or_true, Bool.true_or]
  have hany : c.methods.any d.methods.contains = true :=
    List.any_eq_true.mpr ⟨m, List.contains_iff_mem.mp hmem, hmem'⟩
  rw [hany, Bool.or_true]

/-- Conditions that take one request are told apart by their media types only. -/
theorem mayBeAmbiguousWith_of_evaluate (hc : c.evaluate r matrix = .ok found)
    (hd : d.evaluate r matrix = .ok other) :
    c.mayBeAmbiguousWith d =
      (mediaOverlap c.consumes d.consumes && mediaOverlap c.produces d.produces) := by
  obtain ⟨hpath, hmethod, hheaders, hparams, -, -⟩ := evaluate_eq_ok_iff.mp hc
  obtain ⟨hpath', hmethod', hheaders', hparams', -, -⟩ := evaluate_eq_ok_iff.mp hd
  have hpatterns : (c.patterns.any fun p => d.patterns.any p.mayOverlap) = true := by
    obtain ⟨before, p, behind, hp, hmatch, -⟩ := List.findSome?_eq_some_iff.mp hpath
    obtain ⟨before', q, behind', hq, hmatch', -⟩ := List.findSome?_eq_some_iff.mp hpath'
    have hoverlap := PathPattern.mayOverlap_of_matchPath hmatch hmatch'
    have hmem : p ∈ c.patterns := hp ▸ List.mem_append_right _ List.mem_cons_self
    have hmem' : q ∈ d.patterns := hq ▸ List.mem_append_right _ List.mem_cons_self
    exact List.any_eq_true.mpr ⟨p, hmem, List.any_eq_true.mpr ⟨q, hmem', hoverlap⟩⟩
  have hmethods := methodsOverlap_of_allowsMethod hmethod hmethod'
  have hexpressions := Expression.anyContradiction_of_tests r.header? hheaders hheaders'
  have hparameters := Expression.anyContradiction_of_tests r.param? hparams hparams'
  rw [mayBeAmbiguousWith, hpatterns, hmethods, hexpressions, hparameters, Bool.true_and,
    Bool.true_and, Bool.not_false, Bool.and_true, Bool.and_true]

/-- Two conditions that take one request are judged ambiguous, unless the request leaves
undecided between which of their media types it chooses. -/
theorem ambiguous_or_undecided (hc : c.evaluate r matrix = .ok found)
    (hd : d.evaluate r matrix = .ok other) :
    c.mayBeAmbiguousWith d = true ∨ Undecided c d r found other := by
  obtain ⟨-, -, -, -, hcontent, hproduces⟩ := evaluate_eq_ok_iff.mp hc
  obtain ⟨-, -, -, -, hcontent', hproduces'⟩ := evaluate_eq_ok_iff.mp hd
  rw [mayBeAmbiguousWith_of_evaluate hc hd]
  by_cases hconsumed : mediaOverlap c.consumes d.consumes = true
  · by_cases hproduced : mediaOverlap c.produces d.produces = true
    · exact .inl (by rw [hconsumed, hproduced, Bool.and_self])
    · have hapart := (mediaOverlap_eq_false_iff _ _).mp (Bool.not_eq_true _ ▸ hproduced)
      refine .inr (.accept hapart fun header hheader x hx y hy => ?_)
      obtain ⟨hdeclared, haccepted⟩ := (compatible?_eq_some hproduces).2 x hx
      obtain ⟨hdeclared', haccepted'⟩ := (compatible?_eq_some hproduces').2 y hy
      obtain ⟨e, he, hcompatible⟩ := Accept.entryFor?_of_accepts (haccepted header hheader)
      obtain ⟨e', he', hcompatible'⟩ := Accept.entryFor?_of_accepts (haccepted' header hheader)
      refine ⟨e, e', he, he', ?_⟩
      rintro rfl
      refine Bool.not_eq_false _ ▸ fun hsingle => ?_
      have hboth := MediaType.isCompatibleWith_of_single hsingle hcompatible hcompatible'
      rw [hapart.incompatible x hdeclared y hdeclared'] at hboth
      exact Bool.noConfusion hboth
  · have hapart := (mediaOverlap_eq_false_iff _ _).mp (Bool.not_eq_true _ ▸ hconsumed)
    refine .inr (.content hapart ?_)
    rcases htype : r.contentType? with _ | type
    · rfl
    · rw [htype] at hcontent hcontent'
      exact absurd hapart (not_apart_of_allowsContent hcontent hcontent')

end

end RouteCondition

end RestDispatch
