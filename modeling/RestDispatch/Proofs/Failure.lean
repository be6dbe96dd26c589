import Mathlib.Data.List.Forall2

/-!
# Steps that may fail

What is put together from steps that may fail succeeds exactly when every step does, and its
failures are those of the steps.
-/

namespace RestDispatch

theorem bind_eq_ok_iff {ε α β : Type} {x : Except ε α} {f : α → Except ε β} {b : β} :
    x >>= f = .ok b ↔ ∃ a, x = .ok a ∧ f a = .ok b := by
  cases x with
  | error e => simp [Bind.bind, Except.bind]
  | ok a => simp [Bind.bind, Except.bind]

theorem toOption_eq_some_iff {ε α : Type} {x : Except ε α} {a : α} :
    x.toOption = some a ↔ x = .ok a := by
  cases x with
  | error e => simp [Except.toOption]
  | ok b => simp [Except.toOption]

section

variable {ε α β : Type}

theorem toOption_bind (x : Except ε α) (f : α → Except ε β) :
    (x >>= f).toOption = x.toOption.bind fun a => (f a).toOption := by
  cases x <;> rfl

theorem toOption_map (x : Except ε α) (f : α → β) : (x.map f).toOption = x.toOption.map f := by
  cases x <;> rfl

end

section

variable {ε α β : Type} {f : α → Except ε β}

theorem mapM_eq_ok_iff {xs : List α} {ys : List β} :
    xs.mapM f = .ok ys ↔ List.Forall₂ (fun x y => f x = .ok y) xs ys := by
  induction xs generalizing ys with
  | nil =>
    rw [List.mapM_nil, List.forall₂_nil_left_iff]
    exact ⟨fun h => (Except.ok.inj h).symm, fun h => h ▸ rfl⟩
  | cons x xs ih =>
    simp only [List.mapM_cons, List.forall₂_cons_left_iff, bind_eq_ok_iff, ih]
    constructor
    · rintro ⟨y, hy, ys', hys, h⟩
      exact ⟨y, ys', hy, hys, (Except.ok.inj h).symm⟩
    · rintro ⟨y, ys', hy, hys, rfl⟩
      exact ⟨y, hy, ys', hys, rfl⟩

theorem exists_mapM_eq_ok_iff {xs : List α} :
    (∃ ys, xs.mapM f = .ok ys) ↔ ∀ x ∈ xs, ∃ y, f x = .ok y := by
  induction xs with
  | nil => exact ⟨fun _ _ h => absurd h List.not_mem_nil, fun _ => ⟨[], rfl⟩⟩
  | cons x xs ih =>
    simp only [List.mapM_cons, bind_eq_ok_iff, List.forall_mem_cons, ← ih]
    constructor
    · rintro ⟨_, y, hy, ys, hys, _⟩
      exact ⟨⟨y, hy⟩, ys, hys⟩
    · rintro ⟨⟨y, hy⟩, ys, hys⟩
      exact ⟨y :: ys, y, hy, ys, hys, rfl⟩

theorem eq_filterMap_of_mapM_eq_ok {xs : List α} {ys : List β} (h : xs.mapM f = .ok ys) :
    ys = xs.filterMap fun x => (f x).toOption := by
  have hsteps := mapM_eq_ok_iff.mp h
  clear h
  induction hsteps with
  | nil => rfl
  | cons hy _ ih => rw [List.filterMap_cons, toOption_eq_some_iff.mpr hy, ← ih]

/-- The first failure is the failure of the whole. -/
theorem mapM_eq_error {before after : List α} {x : α} {e : ε}
    (hbefore : ∀ a ∈ before, ∃ b, f a = .ok b) (hx : f x = .error e) :
    (before ++ x :: after).mapM f = .error e := by
  induction before with
  | nil =>
    rw [List.nil_append, List.mapM_cons, hx]
    rfl
  | cons a before ih =>
    obtain ⟨⟨b, hb⟩, hbefore⟩ := List.forall_mem_cons.mp hbefore
    rw [List.cons_append, List.mapM_cons, hb, ih hbefore]
    rfl

end

section

variable {ε α β : Type} {P : ε → Prop}

/-- Every failure has a property. -/
def FailsOnly (P : ε → Prop) (x : Except ε α) : Prop := ∀ e, x = .error e → P e

theorem failsOnly_ok (a : α) : FailsOnly P (.ok a : Except ε α) := by
  intro e h
  simp at h

theorem failsOnly_error {e : ε} (he : P e) : FailsOnly P (.error e : Except ε α) := by
  intro e' h
  cases h
  exact he

theorem FailsOnly.imp {Q : ε → Prop} {x : Except ε α} (h : FailsOnly P x)
    (hPQ : ∀ e, P e → Q e) : FailsOnly Q x :=
  fun e he => hPQ e (h e he)

theorem FailsOnly.bind {x : Except ε α} {f : α → Except ε β} (hx : FailsOnly P x)
    (hf : ∀ a, FailsOnly P (f a)) : FailsOnly P (x >>= f) := by
  intro e h
  cases x with
  | error fault =>
    cases h
    exact hx e rfl
  | ok a => exact hf a e h

theorem FailsOnly.map {x : Except ε α} {f : α → β} (hx : FailsOnly P x) :
    FailsOnly P (x.map f) := by
  intro e h
  cases x with
  | error fault =>
    cases h
    exact hx e rfl
  | ok a => simp [Except.map] at h

theorem failsOnly_foldlM {f : β → α → Except ε β} {xs : List α}
    (hf : ∀ b, ∀ a ∈ xs, FailsOnly P (f b a)) (b : β) : FailsOnly P (xs.foldlM f b) := by
  induction xs generalizing b with
  | nil => exact failsOnly_ok b
  | cons a xs ih =>
    rw [List.foldlM_cons]
    refine (hf b a List.mem_cons_self).bind fun b' => ?_
    exact ih (fun c x hx => hf c x (List.mem_cons_of_mem a hx)) b'

theorem failsOnly_mapM {f : α → Except ε β} {xs : List α}
    (hf : ∀ a ∈ xs, FailsOnly P (f a)) : FailsOnly P (xs.mapM f) := by
  induction xs with
  | nil => exact failsOnly_ok []
  | cons a xs ih =>
    rw [List.mapM_cons]
    refine (hf a List.mem_cons_self).bind fun b => ?_
    exact (ih fun x hx => hf x (List.mem_cons_of_mem a hx)).bind fun bs => failsOnly_ok (b :: bs)

theorem exists_of_mapM_eq_error {f : α → Except ε β} {xs : List α} {e : ε}
    (h : xs.mapM f = .error e) : ∃ x ∈ xs, f x = .error e :=
  failsOnly_mapM (P := fun e => ∃ x ∈ xs, f x = .error e) (fun x hx _ he => ⟨x, hx, he⟩) e h

/-- Every result has a property. -/
def ReturnsOnly (Q : α → Prop) (x : Except ε α) : Prop := ∀ a, x = .ok a → Q a

section

variable {Q : α → Prop} {S : β → Prop}

theorem returnsOnly_ok {a : α} (ha : Q a) : ReturnsOnly Q (.ok a : Except ε α) := by
  intro a' h
  cases h
  exact ha

theorem returnsOnly_error (e : ε) : ReturnsOnly Q (.error e : Except ε α) := by
  intro a h
  simp at h

theorem ReturnsOnly.bind {x : Except ε α} {f : α → Except ε β} (hx : ReturnsOnly Q x)
    (hf : ∀ a, Q a → ReturnsOnly S (f a)) : ReturnsOnly S (x >>= f) := by
  intro b h
  obtain ⟨a, ha, hb⟩ := bind_eq_ok_iff.mp h
  exact hf a (hx a ha) b hb

theorem ReturnsOnly.map {x : Except ε α} {f : α → β} (hx : ReturnsOnly Q x)
    (hf : ∀ a, Q a → S (f a)) : ReturnsOnly S (x.map f) := by
  intro b h
  cases x with
  | error e => simp [Except.map] at h
  | ok a =>
    cases h
    exact hf a (hx a rfl)

theorem ReturnsOnly.of_bind {x : Except ε α} {f : α → Except ε β}
    (hf : ∀ a, ReturnsOnly S (f a)) : ReturnsOnly S (x >>= f) :=
  ReturnsOnly.bind (fun _ _ => trivial) fun a (_ : True) => hf a

theorem returnsOnly_nil : ReturnsOnly (fun bs => ∀ b ∈ bs, S b) (.ok [] : Except ε (List β)) :=
  returnsOnly_ok fun _ hb => absurd hb List.not_mem_nil

theorem returnsOnly_mapM {f : α → Except ε β} {xs : List α}
    (hf : ∀ a ∈ xs, ReturnsOnly S (f a)) : ReturnsOnly (fun bs => ∀ b ∈ bs, S b) (xs.mapM f) := by
  induction xs with
  | nil => exact returnsOnly_nil
  | cons a xs ih =>
    rw [List.mapM_cons]
    refine (hf a List.mem_cons_self).bind fun b hb => ?_
    refine (ih fun x hx => hf x (List.mem_cons_of_mem a hx)).bind fun bs hbs => ?_
    exact returnsOnly_ok (List.forall_mem_cons.mpr ⟨hb, hbs⟩)

end

end

section

variable {ε α β : Type} {R : ε → ε → Prop}

/-- Two results are equal, or both are failures that are related. -/
def AgreesUpTo (R : ε → ε → Prop) (x y : Except ε α) : Prop :=
  x = y ∨ ∃ e e', x = .error e ∧ y = .error e' ∧ R e e'

theorem agreesUpTo_refl (x : Except ε α) : AgreesUpTo R x x := .inl rfl

theorem AgreesUpTo.imp {S : ε → ε → Prop} {x y : Except ε α} (h : AgreesUpTo R x y)
    (hRS : ∀ e e', R e e' → S e e') : AgreesUpTo S x y :=
  Or.imp_right (fun ⟨e, e', hx, hy, hR⟩ => ⟨e, e', hx, hy, hRS e e' hR⟩) h

theorem AgreesUpTo.bind {x y : Except ε α} {f g : α → Except ε β} (h : AgreesUpTo R x y)
    (hfg : ∀ a, AgreesUpTo R (f a) (g a)) : AgreesUpTo R (x >>= f) (y >>= g) := by
  rcases h with rfl | ⟨e, e', rfl, rfl, hR⟩
  · cases x with
    | error e => exact agreesUpTo_refl (.error e)
    | ok a => exact hfg a
  · exact .inr ⟨e, e', rfl, rfl, hR⟩

theorem AgreesUpTo.map {x y : Except ε α} (h : AgreesUpTo R x y) (f : α → β) :
    AgreesUpTo R (x.map f) (y.map f) := by
  rcases h with rfl | ⟨e, e', rfl, rfl, hR⟩
  · exact agreesUpTo_refl _
  · exact .inr ⟨e, e', rfl, rfl, hR⟩

end

end RestDispatch
