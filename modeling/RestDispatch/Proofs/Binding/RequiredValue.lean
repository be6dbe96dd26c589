import RestDispatch.Proofs.Binding.Absence
import RestDispatch.Proofs.Conversion.Typing

/-!
# Required values that are null

A lookup that requires its value fails when the value is absent, unless it has a default.  The
default is what a literal of the annotation was converted to at deployment, and of a scalar type
other than strings a blank literal is converted to null.  Such a default is given for an absent
value like any other, so a required parameter receives null exactly where its literal is blank
and its value is absent.
-/

namespace RestDispatch

theorem Value.HasType.ne_null {v : Value} {ty : Ty} (h : v.HasType ty)
    (hpresent : ty.isOptional = false) : v ≠ .null := by
  rintro rfl
  cases h with
  | absent t => simp [Ty.isOptional] at hpresent
  | present h => simp [Ty.isOptional] at hpresent

theorem Ty.unwrap_of_present {ty : Ty} (hpresent : ty.isOptional = false) : ty.unwrap = ty := by
  cases ty with
  | optional t => simp [isOptional] at hpresent
  | _ => rfl

/-- Whether a result is null. -/
def givesNull : Except Error Value → Bool
  | .ok v => v.isNull
  | .error _ => false

theorem givesNull_iff {x : Except Error Value} : givesNull x = true ↔ x = .ok .null := by
  constructor
  · intro h
    cases x with
    | error e => exact Bool.noConfusion h
    | ok v =>
      cases v with
      | null => rfl
      | _ => exact Bool.noConfusion h
  · rintro rfl
    rfl

namespace Conversion

variable {ty target : Ty} {text : List Char} {c : Conversion}

theorem readScalar_eq_null_iff (hpresent : ty.isOptional = false) :
    readScalar ty text = .ok .null ↔ ty ≠ .string ∧ Text.trim text = [] := by
  unfold readScalar
  split
  next => simp
  next hstring =>
    dsimp only
    split
    next hblank =>
      have htrim := List.isEmpty_iff.mp hblank
      exact ⟨fun _ => ⟨hstring, htrim⟩, fun _ => rfl⟩
    next hblank =>
      constructor
      · intro hread
        exact absurd rfl ((hasType_of_readTrimmed hread).ne_null hpresent)
      · rintro ⟨-, htrim⟩
        rw [htrim] at hblank
        exact absurd rfl hblank

theorem scalar_eq_null_iff {s : String} :
    c.scalar s = .ok .null ↔ readScalar c.element s.toList = .ok .null := by
  unfold scalar
  split
  next v hv => simp [hv]
  next fault hfault => simp [hfault]

/-- A text converts to null when it is blank and of a scalar type other than strings. -/
theorem MadeFor.convert_eq_null_iff (h : c.MadeFor target) (s : String) :
    c.convert s = .ok .null ↔
      target.isScalar = true ∧ target.unwrap ≠ .string ∧ Text.trim s.toList = [] := by
  rw [← Ty.isScalar_unwrap]
  cases h with
  | bytes hbytes => simp [convert, hbytes, Ty.isScalar]
  | scalar hscalar =>
    rw [convert, scalar_eq_null_iff, readScalar_eq_null_iff target.isOptional_unwrap]
    simp [hscalar]
  | @list e hlist hscalar =>
    have hcollection : target.unwrap.isScalar = false := by
      rcases hlist with h | h <;> rw [h] <;> rfl
    rw [convert, hcollection]
    cases split ⟨target, e.unwrap, .list⟩ s <;> simp [Except.map]
  | @set e hset hscalar =>
    rw [convert, hset]
    cases split ⟨target, e.unwrap, .set⟩ s <;> simp [Except.map, Value.ofItems, Ty.isScalar]

/-- Only the first text counts for a scalar. -/
theorem MadeFor.convertAll_cons (h : c.MadeFor target) (hscalar : target.isScalar = true)
    (first : String) (others : List String) : c.convertAll (first :: others) = c.convert first := by
  rw [← Ty.isScalar_unwrap] at hscalar
  cases others with
  | nil => rfl
  | cons second others =>
    cases h with
    | bytes | scalar => rfl
    | list hlist => rcases hlist with h | h <;> simp [h, Ty.isScalar] at hscalar
    | set hset => simp [hset, Ty.isScalar] at hscalar

end Conversion

namespace Lookup

variable {l : Lookup} {kind : String} {c : Option Conversion}

theorem absent_eq_null_iff (hrequired : l.required = true) :
    l.absent kind = .ok .null ↔ l.default? = some .null := by
  unfold absent
  cases l.default? with
  | none => simp [hrequired]
  | some v => simp

/-- Beside a default an empty text counts as absent unconverted; that makes no difference where
it converts to null. -/
theorem present_eq_null_iff (hrequired : l.required = true) {carried : Carried}
    (hblank : l.default? = some .null → carried.isBlank = true →
      convertRaw c carried = .ok .null) :
    l.present kind c carried = .ok .null ↔
      l.default? = some .null ∧ convertRaw c carried = .ok .null := by
  unfold present
  split
  next h =>
    rw [Bool.and_eq_true] at h
    rw [absent_eq_null_iff hrequired]
    exact ⟨fun hdefault => ⟨hdefault, hblank hdefault h.2⟩, fun hdefault => hdefault.1⟩
  next =>
    split
    next hnull =>
      rw [absent_eq_null_iff hrequired, convert_eq_ok_iff.mp hnull]
      simp
    next hresult =>
      constructor
      · exact fun h => absurd h hresult
      · exact fun h => absurd (convert_eq_ok_iff.mpr h.2) hresult

theorem resolve_eq_null_iff (hrequired : l.required = true) {carried : Option Carried}
    (hblank : l.default? = some .null → ∀ x, carried = some x → x.isBlank = true →
      convertRaw c x = .ok .null) :
    l.resolve kind c carried = .ok .null ↔ l.default? = some .null ∧ Absent c carried := by
  unfold resolve
  split
  next =>
    rw [absent_eq_null_iff hrequired]
    exact ⟨fun h => ⟨h, .nothing⟩, fun h => h.1⟩
  next =>
    rw [absent_eq_null_iff hrequired]
    exact ⟨fun h => ⟨h, .noTexts⟩, fun h => h.1⟩
  next carried hcarried =>
    rw [present_eq_null_iff hrequired fun hdefault => hblank hdefault carried rfl]
    constructor
    · exact fun h => ⟨h.1, .null h.2⟩
    · rintro ⟨hdefault, hnull | hnull | hnull⟩
      · exact absurd rfl hcarried
      · exact ⟨hdefault, hnull⟩

end Lookup

/-- Whatever is blank converts to null where a blank text does. -/
theorem Carried.convertRaw_of_isBlank {c : Conversion} {target : Ty} (h : c.MadeFor target)
    (hscalar : target.isScalar = true) (hstring : target.unwrap ≠ .string) {carried : Carried}
    (hblank : carried.isBlank = true) : Lookup.convertRaw (some c) carried = .ok .null := by
  have hempty (text : String) (htext : text.isEmpty = true) : c.convert text = .ok .null := by
    rw [h.convert_eq_null_iff, String.isEmpty_iff.mp htext]
    exact ⟨hscalar, hstring, rfl⟩
  cases carried with
  | single text => exact hempty text hblank
  | multiple texts =>
    cases texts with
    | nil => rfl
    | cons first others =>
      rw [isBlank, List.all_cons, Bool.and_eq_true] at hblank
      rw [Lookup.convertRaw, h.convertAll_cons hscalar]
      exact hempty first hblank.1
  | value v =>
    cases v with
    | null => rfl
    | _ => exact Bool.noConfusion hblank

namespace NamedValue

/-- The name that an annotation of a parameter is about. -/
def nameFor (v : NamedValue) (p : Param) : String := if v.name.isEmpty then p.name else v.name

/-- The default literal is blank, where a blank text is no value of the type. -/
def HasBlankDefault (v : NamedValue) (ty : Ty) : Prop :=
  ∃ literal, v.default? = some literal ∧ ty.isScalar = true ∧ ty ≠ .string ∧
    Text.trim literal.toList = []

end NamedValue

namespace Lookup

variable {p : Param} {l : Lookup} {v : NamedValue} {insists : Bool}

/-- The converted default of a lookup is null exactly when its literal is blank. -/
theorem AsksFor.default_eq_null_iff (hl : l.AsksFor insists v p)
    (hpresent : p.ty.isOptional = false) :
    l.default? = some .null ↔ v.HasBlankDefault p.ty := by
  rw [NamedValue.HasBlankDefault]
  constructor
  · intro hnull
    obtain ⟨literal, c, hliteral, hc, hconverted⟩ := hl.converted _ hnull
    have hblank := ((Conversion.madeFor_of? hc).convert_eq_null_iff literal).mp hconverted
    rw [Ty.unwrap_of_present hpresent] at hblank
    exact ⟨literal, hliteral, hblank⟩
  · rintro ⟨literal, hliteral, hblank⟩
    have hsome : l.default?.isSome = true := by
      rw [hl.default?, hliteral]
      rfl
    obtain ⟨value, hvalue⟩ := Option.isSome_iff_exists.mp hsome
    obtain ⟨literal', c, hliteral', hc, hconverted⟩ := hl.converted _ hvalue
    cases hliteral.symm.trans hliteral'
    have hnull : c.convert literal = .ok .null := by
      rw [(Conversion.madeFor_of? hc).convert_eq_null_iff, Ty.unwrap_of_present hpresent]
      exact hblank
    cases hconverted.symm.trans hnull
    exact hvalue

theorem AsksFor.resolve_eq_null_iff (hl : l.AsksFor true v p) (hrequired : v.required = true)
    (hpresent : p.ty.isOptional = false) {kind : String} {carried : Option Carried} :
    l.resolve kind (Conversion.of? p.ty) carried = .ok .null ↔
      v.HasBlankDefault p.ty ∧ Absent (Conversion.of? p.ty) carried := by
  rw [← hl.default_eq_null_iff hpresent]
  refine Lookup.resolve_eq_null_iff ?_ fun hdefault x _ hblank => ?_
  · rw [hl.required, hrequired, hpresent]
    rfl
  · obtain ⟨literal, -, hscalar, hstring, -⟩ := (hl.default_eq_null_iff hpresent).mp hdefault
    obtain ⟨-, c, -, hc, -⟩ := hl.converted _ hdefault
    rw [← Ty.unwrap_of_present hpresent] at hstring
    rw [hc]
    exact x.convertRaw_of_isBlank (Conversion.madeFor_of? hc) hscalar hstring hblank

end Lookup

namespace Binder

/-- The source of a value looked up by name, or of all cookies. -/
def source? : Binder → Option Source
  | .named source _ _ => some source
  | .cookies _ => some .cookie
  | _ => none

variable {ctx : BindingContext} {p : Param} {b : Binder}

theorem BoundTo.resolve_eq_null_iff (hb : b.BoundTo ctx p) {source : Source}
    (hsource : b.source? = some source) (htexts : source ∈ [.path, .query, .header, .cookie])
    {v : NamedValue} (hv : source.annotation? p = some v) (hrequired : v.required = true)
    (hpresent : p.ty.isOptional = false) (r : Request) :
    b.resolve r = .ok .null ↔
      v.HasBlankDefault p.ty ∧ ∃ carried, source.carried r (v.nameFor p) = .ok carried ∧
        Lookup.Absent (Conversion.of? p.ty) carried := by
  cases hb with
  | @named source v' l hv' hl =>
    cases hsource
    cases hv.symm.trans hv'
    have hmatrix : source.isMatrix = false := by
      grind [Source.isMatrix]
    have hconversion : source.conversion? p = Conversion.of? p.ty := by
      grind [Source.conversion?]
    rw [hmatrix] at hl
    have hname : l.name = v.nameFor p := hl.name
    rw [resolve, hconversion, hname]
    split
    next carried hcarried =>
      rw [Lookup.AsksFor.resolve_eq_null_iff hl hrequired hpresent, hcarried]
      simp
    next e he => simp [he]
  | cookies distinct hcollection =>
    have hfull : ¬ v.HasBlankDefault p.ty := by
      rintro ⟨-, -, hscalar, -⟩
      rw [← Ty.isScalar_unwrap, Ty.not_isScalar_of_isCollection hcollection
        p.ty.isOptional_unwrap] at hscalar
      exact Bool.noConfusion hscalar
    cases distinct <;> simp [resolve, hfull, Value.ofItems]
  | _ => cases hsource

end Binder

namespace Deployment

variable {σ : Type}

/-- A required parameter is given null exactly when its value is absent and its default literal
is blank. -/
theorem deployed_null_iff {d : Deployment σ} (hd : d.History) {route : Route (RouteHandler σ)}
    (hroute : route ∈ d.router.table.routes) {p : Param} {b : Binder}
    (hp : (p, some b) ∈ route.handler.params) {source : Source} (hb : b.source? = some source)
    (hsource : source ∈ [.path, .query, .header, .cookie]) {v : NamedValue}
    (hv : source.annotation? p = some v) (hrequired : v.required = true)
    (hpresent : p.ty.isOptional = false) (r : Request) :
    b.resolve r = .ok .null ↔
      v.HasBlankDefault p.ty ∧ ∃ carried, source.carried r (v.nameFor p) = .ok carried ∧
        Lookup.Absent (Conversion.of? p.ty) carried := by
  obtain ⟨ctx, hbound⟩ := hd.boundTo hroute hp
  exact hbound.resolve_eq_null_iff hb hsource hv hrequired hpresent r

/-- A required value of a scalar type in the query. -/
def isRequiredQuery (p : Param) (b : Binder) : Bool :=
  b.source? == some .query && ((Source.query.annotation? p).any (·.required) &&
    (!p.ty.isOptional && p.ty.isScalar))

theorem exists_of_isRequiredQuery {p : Param} {b : Binder} (h : isRequiredQuery p b = true) :
    ∃ v, b.source? = some .query ∧ Source.query.annotation? p = some v ∧ v.required = true ∧
      p.ty.isOptional = false ∧ p.ty.isScalar = true := by
  rw [isRequiredQuery, Bool.and_eq_true, Bool.and_eq_true, Bool.and_eq_true,
    Bool.not_eq_true'] at h
  obtain ⟨hb, hrequired, hpresent, hscalar⟩ := h
  obtain ⟨v, hv, hrequired⟩ := (Option.any_eq_true _ _).mp hrequired
  exact ⟨v, beq_iff_eq.mp hb, hv, hrequired, hpresent, hscalar⟩

/-- List items, given a size that has a default. -/
def sizedBy (literal : String) : Deployment Unit :=
  ((Deployment.ofOptions {}).deploy (listItems "size" (.integer .u32)
    (.requestParam ⟨"", true, some literal⟩))).deployment

theorem history_sizedBy (literal : String) : (sizedBy literal).History :=
  .deploy _ (.start rfl)

/-- A size that has a default. -/
theorem deployed_null_iff_size :
    ∃ d : Deployment Unit, d.History ∧ ∃ route ∈ d.router.table.routes,
      ∃ p b v, (p, some b) ∈ route.handler.params ∧ b.source? = some .query ∧
        Source.query.annotation? p = some v ∧ v.required = true ∧ p.ty.isOptional = false ∧
          (b.resolve unsized = .ok .null ↔
            v.HasBlankDefault p.ty ∧
              ∃ carried, Source.query.carried unsized (v.nameFor p) = .ok carried ∧
                Lookup.Absent (Conversion.of? p.ty) carried) := by
  have hrun : (sizedBy "20").anyBound isRequiredQuery = true := by
    decide +kernel
  obtain ⟨route, hroute, p, b, hp, h⟩ := exists_of_anyBound hrun
  obtain ⟨v, hb, hv, hrequired, hpresent, -⟩ := exists_of_isRequiredQuery h
  have hhistory := history_sizedBy "20"
  exact ⟨_, hhistory, route, hroute, p, b, v, hp, hb, hv, hrequired, hpresent,
    deployed_null_iff hhistory hroute hp hb (by simp) hv hrequired hpresent unsized⟩

/-- A size with a blank default, which the query does not give. -/
theorem blank_default_null :
    ¬ ∀ d : Deployment Unit, d.History → ∀ route ∈ d.router.table.routes,
      ∀ p b, (p, some b) ∈ route.handler.params →
        ∀ source, b.source? = some source → source ∈ [.path, .query, .header, .cookie] →
          ∀ v, source.annotation? p = some v → v.required = true → p.ty.isOptional = false →
            p.ty.isScalar = true ∨ p.ty.isCollection = true →
              ∀ r, b.resolve r ≠ .ok .null := by
  intro hnever
  have hrun : (sizedBy " ").anyBound
      (fun p b => isRequiredQuery p b && givesNull (b.resolve unsized)) = true := by
    decide +kernel
  obtain ⟨route, hroute, p, b, hp, h⟩ := exists_of_anyBound hrun
  rw [Bool.and_eq_true, givesNull_iff] at h
  obtain ⟨v, hb, hv, hrequired, hpresent, hscalar⟩ := exists_of_isRequiredQuery h.1
  exact hnever _ (history_sizedBy " ") route hroute p b hp .query hb (by simp) v hv hrequired hpresent
    (.inl hscalar) unsized h.2

end Deployment

end RestDispatch
