import Mathlib.Data.Fintype.EquivFin
import RestDispatch.Proofs.Http.Query
import RestDispatch.Proofs.Route.Registration

/-!
# Contradicting conditions

Conditions are contradictory if they are on one name and no value passes both.  Where a name is
its spelling, as with query parameters, these are the conditions that no request passes together:
a request gives each name any value or none, and any number of conditions on one name have a
value in common if any two of them have.

The names of headers are compared up to case, but those of header conditions by their spelling.
So conditions on one header that is spelled in two ways are never contradictory, whatever their
values, and a table that refuses ambiguity refuses routes that no request could confuse.
-/

namespace RestDispatch

namespace Expression

/-- Both of two conditions pass on the values of their names. -/
def BothPass (e f : Expression) (value? : String → Option String) : Prop :=
  e.test (value? e.name) = true ∧ f.test (value? f.name) = true

/-- All of some conditions pass on the values of their names. -/
def AllPass (es : List Expression) (value? : String → Option String) : Prop :=
  ∀ e ∈ es, e.test (value? e.name) = true

/-- Some value, or none, passes both of two conditions. -/
def Agree (e f : Expression) : Prop :=
  ∃ value, e.test value = true ∧ f.test value = true

/-- The value that a condition rules out. -/
def ruledOut? : Expression → Option String
  | .notEquals _ value => some value
  | _ => none

/-- What agrees with one value passes on it. -/
theorem Agree.test_of_equals {name expected : String} {e : Expression}
    (h : (equals name expected).Agree e) : e.test (some expected) = true := by
  obtain ⟨value, hvalue, htest⟩ := h
  rw [test, beq_iff_eq] at hvalue
  rw [← hvalue]
  exact htest

/-- What agrees with a presence passes on every value that it does not mention. -/
theorem Agree.test_of_present {name fresh : String} {e : Expression}
    (h : (present name).Agree e) (hequals : ∀ name expected, e ≠ .equals name expected)
    (hfresh : e.ruledOut? ≠ some fresh) : e.test (some fresh) = true := by
  cases e with
  | present other => rfl
  | absent other =>
    obtain ⟨value, hpresent, habsent⟩ := h
    cases value with
    | none => cases hpresent
    | some value => cases habsent
  | equals other expected => exact absurd rfl (hequals other expected)
  | notEquals other value =>
    have hne : fresh ≠ value := by
      intro heq
      apply hfresh
      rw [ruledOut?, heq]
    simp [test, hne]

/-- Conditions have a value in common if any two of them have. -/
theorem exists_test_of_agree {es : List Expression} (h : ∀ e ∈ es, ∀ f ∈ es, e.Agree f) :
    ∃ value, ∀ e ∈ es, e.test value = true := by
  by_cases hequals : ∃ name expected, .equals name expected ∈ es
  · obtain ⟨name, expected, hmem⟩ := hequals
    exact ⟨some expected, fun e he => (h _ hmem e he).test_of_equals⟩
  have hother : ∀ e ∈ es, ∀ name expected, e ≠ .equals name expected := by
    intro e he name expected heq
    exact hequals ⟨name, expected, heq ▸ he⟩
  by_cases hpresent : ∃ name, .present name ∈ es
  · obtain ⟨name, hmem⟩ := hpresent
    obtain ⟨fresh, hfresh⟩ := Infinite.exists_notMem_finset (es.filterMap ruledOut?).toFinset
    have hallowed : ∀ e ∈ es, e.ruledOut? ≠ some fresh := by
      intro e he heq
      exact hfresh (List.mem_toFinset.mpr (List.mem_filterMap.mpr ⟨e, he, heq⟩))
    exact ⟨some fresh, fun e he =>
      (h _ hmem e he).test_of_present (hother e he) (hallowed e he)⟩
  -- Neither a value nor a presence is asked for, so that absence passes.
  · have habsence : ∀ e ∈ es, e.test none = true := by
      intro e he
      cases e with
      | present name => exact absurd ⟨name, he⟩ hpresent
      | absent name => rfl
      | equals name expected => exact absurd rfl (hother _ he name expected)
      | notEquals name value => rfl
    exact ⟨none, habsence⟩

theorem agree_self (e : Expression) : e.Agree e := by
  have hpasses : ∃ value, e.test value = true := by
    cases e with
    | present name => exact ⟨some "", rfl⟩
    | absent name => exact ⟨none, rfl⟩
    | equals name expected => exact ⟨some expected, beq_self_eq_true _⟩
    | notEquals name value => exact ⟨none, rfl⟩
  obtain ⟨value, hvalue⟩ := hpasses
  exact ⟨value, hvalue, hvalue⟩

theorem Agree.symm {e f : Expression} (h : e.Agree f) : f.Agree e := by
  obtain ⟨value, he, hf⟩ := h
  exact ⟨value, hf, he⟩

/-- Conditions on one name that are not judged contradictory have a value in common. -/
theorem agree_of_not_contradicts {e f : Expression} (hname : e.name = f.name)
    (h : e.contradicts f = false) : e.Agree f := by
  unfold contradicts at h
  rw [beq_iff_eq.mpr hname, Bool.true_and] at h
  cases e with
  | present n =>
    cases f with
    | present m => exact ⟨some "", rfl, rfl⟩
    | absent m => cases h
    | equals m value => exact ⟨some value, rfl, beq_self_eq_true _⟩
    | notEquals m value =>
      obtain ⟨other, hother⟩ := exists_ne value
      exact ⟨some other, rfl, by simpa [test] using hother⟩
  | absent n =>
    cases f with
    | present m => cases h
    | absent m => exact ⟨none, rfl, rfl⟩
    | equals m value => cases h
    | notEquals m value => exact ⟨none, rfl, rfl⟩
  | equals n expected =>
    cases f with
    | present m => exact ⟨some expected, beq_self_eq_true _, rfl⟩
    | absent m => cases h
    | equals m value =>
      have heq : expected = value := by simpa using h
      exact ⟨some expected, beq_self_eq_true _, by simp [test, heq]⟩
    | notEquals m value =>
      have hne : expected ≠ value := by simpa using h
      exact ⟨some expected, beq_self_eq_true _, by simpa [test] using hne⟩
  | notEquals n refused =>
    cases f with
    | present m =>
      obtain ⟨other, hother⟩ := exists_ne refused
      exact ⟨some other, by simpa [test] using hother, rfl⟩
    | absent m => exact ⟨none, rfl, rfl⟩
    | equals m value =>
      have hne : value ≠ refused := by simpa using h
      exact ⟨some value, by simpa [test] using hne, beq_self_eq_true _⟩
    | notEquals m value => exact ⟨none, rfl, rfl⟩

/-- Conditions are contradictory if they are on one name and no value passes both. -/
theorem contradicts_iff (e f : Expression) :
    e.contradicts f = true ↔ e.name = f.name ∧ ¬e.Agree f := by
  constructor
  · intro h
    constructor
    · unfold contradicts at h
      exact beq_iff_eq.mp (Bool.and_eq_true_iff.mp h).1
    · rintro ⟨value, he, hf⟩
      rw [not_contradicts_of_test he hf] at h
      cases h
  · rintro ⟨hname, hnever⟩
    rw [← Bool.not_eq_false]
    intro h
    exact hnever (agree_of_not_contradicts hname h)

theorem head?_eq_of_mem_iff {α : Type} {l : List α} {found : Option α}
    (h : ∀ a, a ∈ l ↔ found = some a) : l.head? = found := by
  cases l with
  | nil =>
    cases found with
    | none => rfl
    | some a => exact absurd ((h a).mpr rfl) List.not_mem_nil
  | cons a l => exact ((h a).mp List.mem_cons_self).symm

/-- Sources of values that may have any content.  Names with one key have one value, which is
the first one under that key. -/
structure Carries {σ : Type} (value? : σ → String → Option String) (key : String → String) :
    Prop where
  congr (x : σ) {a b : String} : key a = key b → value? x a = value? x b
  any (pairs : List (String × String)) : ∃ x, ∀ name,
    value? x name = ((pairs.filter fun pair => key pair.1 = key name).map Prod.snd).head?

section

variable {σ : Type} {value? : σ → String → Option String} {key : String → String}
  (hvalue : Carries value? key)

include hvalue

/-- Conditions on one key that pass on one source have a value in common. -/
theorem Carries.agree {e f : Expression} (hkey : key e.name = key f.name) {x : σ}
    (he : e.test (value? x e.name) = true) (hf : f.test (value? x f.name) = true) :
    e.Agree f := by
  rw [← hvalue.congr x hkey] at hf
  exact ⟨value? x e.name, he, hf⟩

/-- Conditions of which any two on one key have a value in common all pass on some source. -/
theorem Carries.exists_allPass {es : List Expression}
    (h : ∀ e ∈ es, ∀ f ∈ es, key e.name = key f.name → e.Agree f) :
    ∃ x, AllPass es (value? x) := by
  have hkeys : ∀ k, ∃ value, ∀ e ∈ es, key e.name = k → e.test value = true := by
    intro k
    have hagree : ∀ e ∈ es.filter (key ·.name = k), ∀ f ∈ es.filter (key ·.name = k),
        e.Agree f := by
      intro e he f hf
      rw [List.mem_filter, decide_eq_true_eq] at he hf
      exact h e he.1 f hf.1 (he.2.trans hf.2.symm)
    obtain ⟨value, hpasses⟩ := exists_test_of_agree hagree
    have hgroup : ∀ e ∈ es, key e.name = k → e.test value = true := by
      intro e he hk
      apply hpasses
      rw [List.mem_filter, decide_eq_true_eq]
      exact ⟨he, hk⟩
    exact ⟨value, hgroup⟩
  choose value hpasses using hkeys
  obtain ⟨x, hx⟩ := hvalue.any (es.filterMap fun e => (value (key e.name)).map (e.name, ·))
  have hfound : ∀ e ∈ es, value? x e.name = value (key e.name) := by
    intro e he
    rw [hx]
    apply head?_eq_of_mem_iff
    intro text
    simp only [List.mem_map, List.mem_filter, List.mem_filterMap, Option.map_eq_some_iff,
      decide_eq_true_eq]
    constructor
    · rintro ⟨_, ⟨⟨f, -, text, htext, rfl⟩, hkey⟩, rfl⟩
      rw [← hkey]
      exact htext
    · intro htext
      exact ⟨(e.name, text), ⟨⟨e, he, text, htext, rfl⟩, rfl⟩, rfl⟩
  have hall : AllPass es (value? x) := by
    intro e he
    rw [hfound e he]
    exact hpasses _ e he rfl
  exact ⟨x, hall⟩

/-- No source passes both of two conditions if and only if they are on one key and no value
passes both. -/
theorem Carries.never_iff (e f : Expression) :
    (∀ x, ¬BothPass e f (value? x)) ↔ key e.name = key f.name ∧ ¬e.Agree f := by
  constructor
  · intro hnever
    by_contra hnot
    have hagree (hkey : key e.name = key f.name) : e.Agree f := by
      by_contra hdisagree
      exact hnot ⟨hkey, hdisagree⟩
    have hpair : ∀ a ∈ [e, f], ∀ b ∈ [e, f], key a.name = key b.name → a.Agree b := by
      simp only [List.forall_mem_cons]
      exact ⟨⟨fun _ => e.agree_self, hagree, by simp⟩,
        ⟨fun hkey => (hagree hkey.symm).symm, fun _ => f.agree_self, by simp⟩, by simp⟩
    obtain ⟨x, hx⟩ := hvalue.exists_allPass hpair
    exact hnever x ⟨hx e (by simp), hx f (by simp)⟩
  · intro h x hboth
    exact h.2 (hvalue.agree h.1 hboth.1 hboth.2)

end

/-- Each of two lists of conditions passes on some source, but no source passes both. -/
structure Disjoint {σ : Type} (value? : σ → String → Option String) (es fs : List Expression) :
    Prop where
  left : ∃ x, AllPass es (value? x)
  right : ∃ x, AllPass fs (value? x)
  never : ∀ x, AllPass es (value? x) → ¬AllPass fs (value? x)

/-- Two lists of conditions are told apart by one condition of each, or as lists. -/
def ToldApart {σ : Type} (value? : σ → String → Option String) (es fs : List Expression) : Prop :=
  (∃ e ∈ es, ∃ f ∈ fs, ∀ x, ¬BothPass e f (value? x)) ∨ Disjoint value? es fs

/-- What tells two lists apart is always one condition of each. -/
theorem Carries.toldApart_iff {σ : Type} {value? : σ → String → Option String}
    {key : String → String} (hvalue : Carries value? key) (es fs : List Expression) :
    ToldApart value? es fs ↔ ∃ e ∈ es, ∃ f ∈ fs, ∀ x, ¬BothPass e f (value? x) := by
  constructor
  case mpr => exact .inl
  intro h
  by_contra hnone
  cases h with
  | inl hpair => exact hnone hpair
  | inr hlists =>
    obtain ⟨x, hx⟩ := hlists.left
    obtain ⟨y, hy⟩ := hlists.right
    have hcross : ∀ e ∈ es, ∀ f ∈ fs, key e.name = key f.name → e.Agree f := by
      intro e he f hf hkey
      by_contra hdisagree
      exact hnone ⟨e, he, f, hf, (hvalue.never_iff e f).mpr ⟨hkey, hdisagree⟩⟩
    have hagree : ∀ e ∈ es ++ fs, ∀ f ∈ es ++ fs, key e.name = key f.name → e.Agree f := by
      simp only [List.mem_append]
      rintro e (he | he) f (hf | hf) hkey
      · exact hvalue.agree hkey (hx e he) (hx f hf)
      · exact hcross e he f hf hkey
      · exact (hcross f hf e he hkey.symm).symm
      · exact hvalue.agree hkey (hy e he) (hy f hf)
    obtain ⟨z, hz⟩ := hvalue.exists_allPass hagree
    exact hlists.never z (fun e he => hz e (List.mem_append_left _ he))
      fun f hf => hz f (List.mem_append_right _ hf)

/-- Parameters are carried under their spelling, and by every method. -/
theorem carries_param?_ofUri (method : Method) :
    Carries (fun uri => (Request.ofUri method uri).param?) id := by
  constructor
  case congr => exact fun uri a b hname => congrArg (Request.ofUri method uri).param? hname
  case any => exact Request.exists_uri_param? method

theorem carries_param? : Carries Request.param? id := by
  constructor
  case congr => exact fun r a b hname => congrArg r.param? hname
  case any =>
    intro pairs
    obtain ⟨uri, huri⟩ := Request.exists_uri_param? .get pairs
    exact ⟨Request.ofUri .get uri, huri⟩

/-- Headers are carried under their names in small letters. -/
theorem carries_header? : Carries Headers.get? Text.lower := by
  constructor
  case congr =>
    intro h a b hname
    unfold Headers.get? Headers.getAll Text.sameName
    rw [hname]
  case any =>
    intro pairs
    refine ⟨⟨pairs⟩, fun name => ?_⟩
    unfold Headers.get? Headers.getAll Text.sameName
    simp only [Bool.beq_eq_decide_eq]

/-- Contradictory conditions on headers pass on none. -/
theorem never_of_contradicts {e f : Expression} (h : e.contradicts f = true) (headers : Headers) :
    ¬BothPass e f headers.get? := by
  obtain ⟨hname, hdisagree⟩ := (contradicts_iff e f).mp h
  exact (carries_header?.never_iff e f).mpr ⟨congrArg Text.lower hname, hdisagree⟩ headers

/-- The judgement on two conditions on headers is exact if and only if they are not on one name in
two spellings without a value in common. -/
theorem contradicts_exact_iff (e f : Expression) :
    (e.contradicts f = true ↔ ∀ headers : Headers, ¬BothPass e f headers.get?) ↔
      ¬(Text.sameName e.name f.name = true ∧ e.name ≠ f.name ∧ ¬e.Agree f) := by
  rw [contradicts_iff, carries_header?.never_iff, Text.sameName_iff]
  have hspelled (hname : e.name = f.name) : Text.lower e.name = Text.lower f.name :=
    congrArg Text.lower hname
  tauto

theorem anyContradiction_of_contradicts {es fs : List Expression} {e f : Expression} (he : e ∈ es)
    (hf : f ∈ fs) (h : e.contradicts f = true) : anyContradiction es fs = true :=
  List.any_eq_true.mpr ⟨e, he, List.any_eq_true.mpr ⟨f, hf, h⟩⟩

/-- Lists that parameters tell apart hold a contradiction. -/
theorem anyContradiction_of_params {es fs : List Expression}
    (h : ToldApart Request.param? es fs) : anyContradiction es fs = true := by
  obtain ⟨e, he, f, hf, hnever⟩ := (carries_param?.toldApart_iff es fs).mp h
  have hdisjoint := (carries_param?.never_iff e f).mp hnever
  exact anyContradiction_of_contradicts he hf ((contradicts_iff e f).mpr hdisjoint)

/-- Lists that headers tell apart hold a contradiction if they spell their names alike. -/
theorem anyContradiction_of_headers {es fs : List Expression}
    (h : ToldApart Headers.get? es fs)
    (hspelled : ∀ e ∈ es, ∀ f ∈ fs, Text.sameName e.name f.name = true → e.name = f.name) :
    anyContradiction es fs = true := by
  obtain ⟨e, he, f, hf, hnever⟩ := (carries_header?.toldApart_iff es fs).mp h
  obtain ⟨hkey, hdisagree⟩ := (carries_header?.never_iff e f).mp hnever
  have hname := hspelled e he f hf ((Text.sameName_iff _ _).mpr hkey)
  exact anyContradiction_of_contradicts he hf ((contradicts_iff e f).mpr ⟨hname, hdisagree⟩)

open RouteCondition in
/-- On parameters, conditions are contradictory if and only if no request, of any method, passes
both.  On headers, contradictory conditions pass on none, and all that pass on none are
contradictory unless they are on one name in two spellings.  So a route is not refused if each
route of the table is told apart from it by parameters, or by headers whose names are spelled
alike. -/
theorem contradiction_exact_up_to_spelling (e f : Expression) {η : Type} (t : RouteTable η)
    (route : Route η) :
    ((e.contradicts f = true ↔ ∀ r : Request, ¬BothPass e f r.param?) ∧
      ∀ method, e.contradicts f = true ↔
        ∀ uri, ¬BothPass e f (Request.ofUri method uri).param?) ∧
    ((e.contradicts f = true → ∀ headers : Headers, ¬BothPass e f headers.get?) ∧
      ((e.contradicts f = true ↔ ∀ headers : Headers, ¬BothPass e f headers.get?) ↔
        ¬(Text.sameName e.name f.name = true ∧ e.name ≠ f.name ∧ ¬e.Agree f))) ∧
    ((∀ present ∈ t.routes,
        ToldApart Request.param? route.condition.params present.condition.params ∨
        ToldApart Headers.get? route.condition.headers present.condition.headers ∧
          ∀ x ∈ route.condition.headers, ∀ y ∈ present.condition.headers,
            Text.sameName x.name y.name = true → x.name = y.name) →
      t.add route = .ok (t.place route)) := by
  constructor
  · constructor
    · rw [contradicts_iff, carries_param?.never_iff, id, id]
    · intro method
      rw [contradicts_iff, (carries_param?_ofUri method).never_iff, id, id]
  constructor
  · exact ⟨never_of_contradicts, contradicts_exact_iff e f⟩
  · intro happart
    apply RouteTable.add_of_admits
    intro _ present hpresent
    unfold mayBeAmbiguousWith
    cases happart present hpresent with
    | inl hparams =>
      rw [anyContradiction_of_params hparams, Bool.not_true, Bool.and_false]
    | inr hheaders =>
      rw [anyContradiction_of_headers hheaders.1 hheaders.2, Bool.not_true, Bool.and_false,
        Bool.false_and]

open RouteCondition in
/-- Two versions of one path are told apart by a header, and the second is added to the first. -/
theorem contradiction_exact_versions :
    ∃ c d, build { paths := ["/api"], headers := ["X-V=1"] } = .ok c ∧
      build { paths := ["/api"], headers := ["X-V=2"] } = .ok d ∧
      (∀ headers : Headers, ¬BothPass (.equals "X-V" "2") (.equals "X-V" "1") headers.get?) ∧
      (RouteTable.mk { rejectAmbiguous := true } [⟨c, "first", ()⟩]).add ⟨d, "second", ()⟩ =
        .ok ((RouteTable.mk { rejectAmbiguous := true } [⟨c, "first", ()⟩]).place
          ⟨d, "second", ()⟩) := by
  have hrun : ((build { paths := ["/api"], headers := ["X-V=1"] }).toOption.bind fun c =>
      (build { paths := ["/api"], headers := ["X-V=2"] }).toOption.bind fun d =>
        some (c.headers, d.headers)) =
      some ([.equals "X-V" "1"], [.equals "X-V" "2"]) := by
    decide +kernel
  obtain ⟨c, hc, hrun⟩ := Option.bind_eq_some_iff.mp hrun
  obtain ⟨d, hd, hrun⟩ := Option.bind_eq_some_iff.mp hrun
  obtain ⟨hfirst, hsecond⟩ := Prod.ext_iff.mp (Option.some.inj hrun)
  dsimp only at hfirst hsecond
  obtain ⟨-, hheaders, hadded⟩ := contradiction_exact_up_to_spelling (.equals "X-V" "2")
    (.equals "X-V" "1") (RouteTable.mk { rejectAmbiguous := true } [⟨c, "first", ()⟩])
    ⟨d, "second", ()⟩
  have hnever := hheaders.1 (by decide)
  refine ⟨c, d, toOption_eq_some_iff.mp hc, toOption_eq_some_iff.mp hd, hnever, ?_⟩
  apply hadded
  intro present hpresent
  rw [List.mem_singleton] at hpresent
  rw [hpresent, hfirst, hsecond]
  refine .inr ⟨.inl ⟨_, List.mem_singleton_self _, _, List.mem_singleton_self _, hnever⟩, ?_⟩
  intro x hx y hy _
  rw [List.mem_singleton] at hx hy
  rw [hx, hy]
  rfl

open RouteCondition in
/-- In two spellings the versions are not told apart, and the second is refused. -/
theorem spelling_hides_contradiction :
    ∃ e f, parse "X-V=1" = .ok e ∧ parse "x-v=2" = .ok f ∧
      (∀ headers : Headers, ¬BothPass f e headers.get?) ∧ f.contradicts e = false ∧
      ∃ c d, build { paths := ["/api"], headers := ["X-V=1"] } = .ok c ∧
        build { paths := ["/api"], headers := ["x-v=2"] } = .ok d ∧
        ∃ failure, (RouteTable.mk { rejectAmbiguous := true } [⟨c, "first", ()⟩]).add
          ⟨d, "second", ()⟩ = .error failure := by
  have hrun : ((parse "X-V=1").toOption.bind fun e => (parse "x-v=2").toOption.bind fun f =>
      (build { paths := ["/api"], headers := ["X-V=1"] }).toOption.bind fun c =>
      (build { paths := ["/api"], headers := ["x-v=2"] }).toOption.bind fun d =>
        some (e, f, d.mayBeAmbiguousWith c)) =
      some (.equals "X-V" "1", .equals "x-v" "2", true) := by
    decide +kernel
  obtain ⟨e, he, hrun⟩ := Option.bind_eq_some_iff.mp hrun
  obtain ⟨f, hf, hrun⟩ := Option.bind_eq_some_iff.mp hrun
  obtain ⟨c, hc, hrun⟩ := Option.bind_eq_some_iff.mp hrun
  obtain ⟨d, hd, hrun⟩ := Option.bind_eq_some_iff.mp hrun
  simp only [Option.some.injEq, Prod.mk.injEq] at hrun
  obtain ⟨rfl, rfl, hambiguous⟩ := hrun
  refine ⟨_, _, toOption_eq_some_iff.mp he, toOption_eq_some_iff.mp hf, ?_, by decide, c, d,
    toOption_eq_some_iff.mp hc, toOption_eq_some_iff.mp hd, ?_⟩
  · apply (carries_header?.never_iff _ _).mpr
    refine ⟨by decide +kernel, ?_⟩
    rintro ⟨value, hvalue, hother⟩
    simp only [test, beq_iff_eq] at hvalue hother
    rw [hvalue] at hother
    exact absurd hother (by decide)
  · apply RouteTable.add_of_not_admits
    intro hadmits
    have hapart := hadmits rfl _ (List.mem_singleton_self _)
    rw [hambiguous] at hapart
    cases hapart

end Expression

end RestDispatch
