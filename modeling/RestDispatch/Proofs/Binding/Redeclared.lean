import RestDispatch.Proofs.Binding.BeanCache

/-!
# Parameters of one name, type and annotations

Who declares a parameter, and in which place, is told in diagnostics only.  So parameters that
agree in name, type and annotations are bound alike: by the same factory to the same binder, or
none of them can be bound.  Three things are left aside.  A format that is named for a body may
be inherited from the method or its class; beans are kept; and a factory of the application may
look at whatever it likes.
-/

namespace RestDispatch

/-- Two parameters agree in all but their place and who declares them. -/
structure Param.DeclaredLike (p q : Param) : Prop where
  name : p.name = q.name
  ty : p.ty = q.ty
  annotations : p.annotations = q.annotations

/-- A parameter that is not bound as a bean and is not told a format for its body. -/
structure Param.Plain (p : Param) : Prop where
  bean : p.annotations.hasRequestBean = false ∧ p.annotations.hasQueryBean = false
  serializer : p.inherited? Annotations.requestSerializer? = none

namespace Deploying

variable {α β : Type}

/-- What a step returns, if it does not fail. -/
def result? (step : Deploying α) (s : DeployState) : Option α := (step.run.run s).1.toOption

theorem result?_bind (step : Deploying α) (next : α → Deploying β) (s : DeployState) :
    (step >>= next).result? s =
      (step.result? s).bind fun a => (next a).result? (step.run.run s).2 := by
  unfold result?
  rw [run_bind]
  rcases step.run.run s with ⟨_ | _, t⟩ <;> rfl

theorem result?_map (step : Deploying α) (f : α → β) (s : DeployState) :
    result? (ExceptT.map f step) s = (step.result? s).map f := by
  unfold result?
  rw [run_map, toOption_map]

/-- Two steps return the same, whatever was done before either of them. -/
def Alike (step step' : Deploying α) : Prop := ∀ s t, step.result? s = step'.result? t

theorem alike_pure (a : α) : Alike (pure a) (pure a) := fun _ _ => rfl

theorem alike_throw (e e' : Error) : Alike (throw e : Deploying α) (throw e') := fun _ _ => rfl

theorem alike_report (e e' : Event) : Alike (report e) (report e') := fun _ _ => rfl

theorem alike_lift {x y : Except Error α} (h : x.toOption = y.toOption) :
    Alike (lift x) (lift y) := by
  intro s t
  cases x with
  | ok a =>
    obtain rfl := toOption_eq_some_iff.mp h.symm
    rfl
  | error e =>
    cases y with
    | ok b => cases h
    | error e' => rfl

theorem Alike.bind {step step' : Deploying α} {next next' : α → Deploying β}
    (hstep : step.Alike step') (hnext : ∀ a, (next a).Alike (next' a)) :
    (step >>= next).Alike (step' >>= next') := by
  intro s t
  rw [result?_bind, result?_bind, hstep s t]
  exact Option.bind_congr fun a _ => hnext a _ _

end Deploying

/-- A factory of the application does not look at who declares a parameter. -/
def BinderFactory.Impartial : BinderFactory → Prop
  | .custom _ supports build => ∀ p q : Param, p.DeclaredLike q →
    supports p = supports q ∧ (build p).toOption = (build q).toOption
  | _ => True

theorem MapConversion.toOption_of (ty : Ty) (p q : Param) :
    (of ty p).toOption = (of ty q).toOption := by
  unfold of
  cases ty.mapValue? with
  | none => rfl
  | some value =>
    dsimp only
    cases Conversion.of value <;> rfl

theorem BinderFactory.toOption_mapBinder (ty : Ty) (source : EntrySource) (p q : Param) :
    (mapBinder p ty source).toOption = (mapBinder q ty source).toOption := by
  unfold mapBinder
  rw [toOption_map, toOption_map, MapConversion.toOption_of ty p q]

section

variable {p q : Param} (h : p.DeclaredLike q)

include h

theorem Lookup.toOption_ofAnnotation (v : NamedValue) (c : Option Conversion) :
    (Except.toOption <| ofAnnotation v p c) = (Except.toOption <| ofAnnotation v q c) := by
  have hdefault (literal : String) :
      (convertDefault literal p c).toOption = (convertDefault literal q c).toOption := by
    cases c with
    | none => rfl
    | some c =>
      dsimp only [convertDefault]
      cases c.convert literal <;> rfl
  unfold ofAnnotation
  rw [h.name, h.ty]
  generalize (if v.name.isEmpty then q.name else v.name) = name
  dsimp only
  by_cases hname : name.isEmpty = true
  · rw [if_pos hname, if_pos hname]
    rfl
  · rw [if_neg hname, if_neg hname]
    cases v.default? with
    | none => rfl
    | some literal => simp only [toOption_bind, toOption_map, hdefault]

namespace BinderFactory

theorem toOption_conversion (place : String) :
    (conversion p place).toOption = (conversion q place).toOption := by
  unfold conversion
  rw [h.ty]
  cases Conversion.of q.ty <;> rfl

theorem toOption_namedBinder (v : NamedValue) (source : Source) (place : String) :
    (namedBinder p v source place).toOption = (namedBinder q v source place).toOption := by
  unfold namedBinder
  simp only [toOption_bind, toOption_conversion h, Lookup.toOption_ofAnnotation h]

theorem toOption_bindQuery : (bindQuery p).toOption = (bindQuery q).toOption := by
  unfold bindQuery
  rw [h.annotations, h.ty]
  dsimp only
  split
  · split
    · exact toOption_mapBinder _ _ p q
    · rfl
  · simp only [toOption_bind, toOption_namedBinder h]

theorem toOption_bindHeader : (bindHeader p).toOption = (bindHeader q).toOption := by
  unfold bindHeader
  rw [h.annotations, h.ty]
  cases q.annotations.requestHeader? with
  | none => rfl
  | some v =>
    dsimp only
    split
    · rfl
    · split
      · exact toOption_mapBinder _ _ p q
      · simp only [toOption_bind, toOption_namedBinder h]

theorem toOption_bindCookie : (bindCookie p).toOption = (bindCookie q).toOption := by
  unfold bindCookie
  rw [h.annotations, h.ty]
  cases q.annotations.cookieValue? with
  | none => rfl
  | some v =>
    dsimp only
    split
    · rfl
    · rfl
    · rfl
    · simp only [toOption_bind, Lookup.toOption_ofAnnotation h]
    · simp only [toOption_bind, toOption_namedBinder h]

variable {ctx : BindingContext}

theorem toOption_bindMatrix : (bindMatrix ctx p).toOption = (bindMatrix ctx q).toOption := by
  unfold bindMatrix
  rw [h.annotations, h.ty]
  cases q.annotations.matrixVariable? with
  | none => rfl
  | some annotation =>
    obtain ⟨v, segment⟩ := annotation
    dsimp only
    generalize segment.filter (!·.isEmpty) = segment
    split
    case' h_1 => split
    case h_1.isTrue => rfl
    all_goals
      split
      · exact toOption_mapBinder _ _ p q
      · simp only [toOption_bind, toOption_conversion h, Lookup.toOption_ofAnnotation h]

open Deploying

theorem alike_bindPath : (bindPath ctx p).Alike (bindPath ctx q) := by
  unfold bindPath
  rw [h.annotations, h.ty]
  cases q.annotations.pathVariable? with
  | none => exact alike_lift rfl
  | some v =>
    dsimp only
    split
    · exact alike_lift (toOption_mapBinder _ _ p q)
    · refine (alike_lift (toOption_namedBinder h _ _ _)).bind fun (lookup, binder) => ?_
      dsimp only
      split
      · exact (alike_report _ _).bind fun _ => alike_pure binder
      · exact alike_pure binder

theorem alike_bindBody : (bindBody ctx p).Alike (bindBody ctx q) := by
  unfold bindBody
  rw [requiresBody, requiresBody, h.name, h.ty, h.annotations]
  exact (alike_report _ _).bind fun _ => alike_pure _

/-- What a factory does not make of beans, it makes of both parameters. -/
theorem alike_build {f : BinderFactory} (hf : f ≠ .bean) (himpartial : f.Impartial)
    (hp : p.inherited? Annotations.requestSerializer? = none)
    (hq : q.inherited? Annotations.requestSerializer? = none) (bean bean' : Deploying Binder) :
    (f.build ctx p bean).Alike (f.build ctx q bean') := by
  cases f with
  | path => exact alike_bindPath h
  | matrix => exact alike_lift (toOption_bindMatrix h)
  | query | unannotated => exact alike_lift (toOption_bindQuery h)
  | header => exact alike_lift (toOption_bindHeader h)
  | cookie => exact alike_lift (toOption_bindCookie h)
  | fixedBody =>
    simp only [build, bindFixedBody, hp, hq]
    exact alike_throw _ _
  | body => exact alike_bindBody h
  | bean => exact absurd rfl hf
  | custom order supports build =>
    refine alike_lift ?_
    rw [toOption_map, toOption_map, (himpartial p q h).2]

theorem supports_eq {f : BinderFactory} (himpartial : f.Impartial)
    (hp : p.inherited? Annotations.requestSerializer? = none)
    (hq : q.inherited? Annotations.requestSerializer? = none) : f.supports p = f.supports q := by
  cases f with
  | custom order supports build => exact (himpartial p q h).1
  | fixedBody => rw [supports, supports, hp, hq, h.annotations]
  | unannotated => rw [supports, supports, h.annotations, h.ty]
  | path | matrix | query | header | cookie | body | bean =>
    rw [supports, supports, h.annotations]

end BinderFactory

end

namespace Binding

open Deploying

variable {ctx : BindingContext} {p q : Param}

/-- Whatever the type, a factory is asked to build something. -/
theorem exists_bindAs_eq (ctx : BindingContext) (f : BinderFactory) (p : Param) (ty : Ty) :
    ∃ bean, bindAs ctx f p ty = f.build ctx p bean := by
  induction ty using Ty.bean_induction with
  | optional t ih => exact ih
  | bean name json message b => exact ⟨_, bindAs_bean name json message b⟩
  | plain ty hoptional hbean => exact ⟨_, bindAs_plain hoptional hbean⟩

theorem factory?_ne_bean (registry : Registry) (hp : p.Plain) :
    registry.factory? p ≠ some .bean := by
  intro hbean
  have hsupports : BinderFactory.supports p .bean = true := List.find?_some hbean
  rw [BinderFactory.supports, hp.bean.1, hp.bean.2] at hsupports
  exact Bool.false_ne_true hsupports

theorem factory?_eq {registry : Registry} (hregistry : ∀ f ∈ registry, f.Impartial)
    (h : p.DeclaredLike q) (hp : p.Plain) (hq : q.Plain) :
    registry.factory? p = registry.factory? q := by
  induction registry with
  | nil => rfl
  | cons f rest ih =>
    obtain ⟨hf, hrest⟩ := List.forall_mem_cons.mp hregistry
    have hsupports := BinderFactory.supports_eq h hf hp.serializer hq.serializer
    rw [Registry.factory?, Registry.factory?, List.find?_cons, List.find?_cons, hsupports]
    split
    · rfl
    · exact ih hrest

/-- A plain parameter is bound the same, wherever it is declared. -/
theorem alike_bind (hregistry : ∀ f ∈ ctx.registry, f.Impartial) (h : p.DeclaredLike q)
    (hp : p.Plain) (hq : q.Plain) : (bind ctx p).Alike (bind ctx q) := by
  have hbean := factory?_ne_bean ctx.registry hq
  unfold bind
  rw [factory?_eq hregistry h hp hq]
  cases hf : ctx.registry.factory? q with
  | none => exact (alike_report _ _).bind fun _ => alike_pure none
  | some f =>
    rw [hf] at hbean
    obtain ⟨bean, hbuild⟩ := exists_bindAs_eq ctx f p p.ty
    obtain ⟨bean', hbuild'⟩ := exists_bindAs_eq ctx f q q.ty
    dsimp only
    rw [hbuild, hbuild']
    exact (BinderFactory.alike_build h (fun heq => hbean (congrArg some heq))
      (hregistry f (List.mem_of_find?_eq_some hf)) hp.serializer hq.serializer bean bean').bind
      fun binder => alike_pure (some binder)

end Binding

end RestDispatch
