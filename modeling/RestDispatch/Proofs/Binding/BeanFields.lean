import RestDispatch.Proofs.Binding.Redeclared
import RestDispatch.Type.Bean

/-!
# Fields of a bean and parameters

The fields of a request bean are bound like parameters of a method with the same name, type and
annotations, and resolved from a request one after the other.  So what the bean is filled with
is what those parameters resolve to: as a whole it fails as the first of them that fails, and
otherwise every value but null is stored, in the order of the fields.

Only binding a bean for the first time builds its fields.  Nothing is kept for a plain field, so
its binding is that of the parameter whatever was deployed before.
-/

namespace RestDispatch

/-- A way to put a value, as it was resolved, into an instance. -/
abbrev Store := Fields → Value → Fields

namespace BeanField

/-- How a field is written: by its setter if there is one, and else directly. -/
def access? (f : BeanField) : Option Setter := f.setter <|> f.direct

/-- The parameter of a method that is declared like the field. -/
def alone (m : HandlerMethod) (index : Nat) (f : BeanField) : Param :=
  ⟨f.name, f.ty, index, f.annotations, .method m⟩

/-- A field that is not bound as a bean and is not told a format for its body. -/
structure Plain (f : BeanField) : Prop where
  bean : f.annotations.hasRequestBean = false ∧ f.annotations.hasQueryBean = false
  serializer : f.annotations.requestSerializer? = none

/-- The field takes a value as it is resolved. -/
def TakesRaw (f : BeanField) : Prop :=
  ∀ setter, f.access? = some setter → ∃ store : Store, setter = .typed .value store

end BeanField

/-- No format for bodies is named on a method or its class. -/
def HandlerMethod.NamesNoFormat (m : HandlerMethod) : Prop :=
  m.annotations.requestSerializer? = none ∧ m.declaring.annotations.requestSerializer? = none

section

variable {f : BeanField} (hf : f.Plain)

include hf

theorem BeanField.Plain.param (bean : String) (index : Nat) : (f.param bean index).Plain where
  bean := hf.bean
  serializer := by
    simp only [Param.inherited?, BeanField.param, Param.method?, hf.serializer]

theorem BeanField.Plain.alone {m : HandlerMethod} (hm : m.NamesNoFormat) (index : Nat) :
    (f.alone m index).Plain where
  bean := hf.bean
  serializer := by
    simp only [Param.inherited?, BeanField.alone, Param.method?, hf.serializer, hm.1, hm.2]

end

/-- How a field is written and what binds it. -/
def FieldBinding.Stores (b : FieldBinding) (alone : Store × Binder) : Prop :=
  b.setter = .typed .value alone.1 ∧ b.binder = alone.2

/-- The content of a bean: every value but null is stored, one after the other. -/
def BeanBinding.filled (initial : Fields) (results : List (Store × Value)) : Fields :=
  (results.filter fun result => !result.2.isNull).foldl
    (fun content (store, v) => store content v) initial

theorem BeanBinding.filled_cons (initial : Fields) (store : Store) (v : Value)
    (results : List (Store × Value)) :
    filled initial ((store, v) :: results) =
      filled (if v.isNull then initial else store initial v) results := by
  unfold filled
  rw [List.filter_cons]
  cases v.isNull <;> rfl

theorem FieldBinding.Stores.fillField_eq {b : FieldBinding} {alone : Store × Binder}
    (h : b.Stores alone) (r : Request) (content : Fields) :
    fillField r b content =
      (alone.2.resolve r).map fun v => if v.isNull then content else alone.1 content v := by
  obtain ⟨name, setter, binder⟩ := b
  obtain ⟨store, binder'⟩ := alone
  obtain ⟨hsetter, hbinder⟩ := h
  dsimp only at hsetter hbinder
  rw [fillField, hsetter, hbinder]
  rcases binder'.resolve r with e | v
  · rfl
  · cases v <;> rfl

/-- What parameters resolve to, one after the other. -/
def Binder.resolveAll (r : Request) (alone : List (Store × Binder)) : Except Error (List Value) :=
  alone.mapM fun a => a.2.resolve r

theorem Binder.resolveAll_cons (r : Request) (a : Store × Binder) (alone : List (Store × Binder)) :
    resolveAll r (a :: alone) =
      (a.2.resolve r).bind fun v => (resolveAll r alone).map (v :: ·) := by
  rw [resolveAll, List.mapM_cons]
  rfl

/-- Filling resolves one parameter after the other and stores what they resolve to. -/
theorem fillFields_eq {bound : List FieldBinding} {alone : List (Store × Binder)}
    (h : List.Forall₂ FieldBinding.Stores bound alone) (r : Request) (initial : Fields) :
    fillFields r bound initial =
      (Binder.resolveAll r alone).map fun values =>
        BeanBinding.filled initial ((alone.map (·.1)).zip values) := by
  induction h generalizing initial with
  | nil => rfl
  | @cons b a bound alone hstores _ ih =>
    rw [fillFields, hstores.fillField_eq, Binder.resolveAll_cons]
    rcases a.2.resolve r with e | v
    · rfl
    · -- The rest is filled from the content that the first field leaves.
      change fillFields r bound (if v.isNull then initial else a.1 initial v) =
        ((Binder.resolveAll r alone).map (v :: ·)).map _
      rw [ih]
      rcases Binder.resolveAll r alone with e | values
      · rfl
      · exact congrArg Except.ok (BeanBinding.filled_cons initial a.1 v _).symm

/-- A binder makes a bean and fills it with what parameters resolve to. -/
structure Binder.FillsLike (name : String) (initial : Fields) (alone : List (Store × Binder))
    (r : Request) (binder : Binder) : Prop where
  succeeds : (∃ v, binder.resolve r = .ok v) ↔ ∀ a ∈ alone, ∃ v, a.2.resolve r = .ok v
  content : ∀ values, List.Forall₂ (fun a v => a.2.resolve r = .ok v) alone values →
    binder.resolve r =
      .ok (.object name (BeanBinding.filled initial ((alone.map (·.1)).zip values)))
  /-- The first parameter that fails tells how. -/
  failure : ∀ before a after e, alone = before ++ a :: after →
    (∀ a ∈ before, ∃ v, a.2.resolve r = .ok v) → a.2.resolve r = .error e →
    binder.resolve r = .error e

theorem Binder.fillsLike_bean {bound : List FieldBinding} {alone : List (Store × Binder)}
    (h : List.Forall₂ FieldBinding.Stores bound alone) (name : String) (initial : Fields)
    (r : Request) : (Binder.bean ⟨name, initial, bound⟩).FillsLike name initial alone r := by
  have hresolve : (Binder.bean ⟨name, initial, bound⟩).resolve r =
      (Binder.resolveAll r alone).map fun values =>
        .object name (BeanBinding.filled initial ((alone.map (·.1)).zip values)) := by
    rw [Binder.resolve, BeanBinding.instantiate, fillFields_eq h]
    rcases Binder.resolveAll r alone with e | values <;> rfl
  constructor
  case succeeds =>
    rw [hresolve, ← exists_mapM_eq_ok_iff, ← Binder.resolveAll]
    rcases Binder.resolveAll r alone with e | values <;> simp [Except.map]
  case content =>
    intro values hvalues
    rw [hresolve, Binder.resolveAll, mapM_eq_ok_iff.mpr hvalues]
    rfl
  case failure =>
    intro before a after e halone hbefore ha
    rw [hresolve, halone, Binder.resolveAll, mapM_eq_error hbefore ha]
    rfl

/-- A parameter is bound as a bean that has a constructor and of which nothing is kept. -/
structure Param.BindsAnew (ctx : BindingContext) (s : DeployState) (b : BeanType)
    (initial : Fields) (p : Param) : Prop where
  factory : ctx.registry.factory? p = some .bean
  flavor : p.annotations.hasQueryBean = false
  ty : p.ty.unwrap.bean? = some b
  initial : b.initial = some initial
  kept : s.beans.get? (b.name, .request) = none

namespace Binding

open Deploying

/-- The fields of a bean that have a resolver, in order: how each is written, and what binds
parameters that are declared like it. -/
inductive BindsAlone (ctx : BindingContext) (m : HandlerMethod) :
    List BeanField → List (Store × Binder) → Prop
  | nil : BindsAlone ctx m [] []
  | skipped {f : BeanField} {fields : List BeanField} {bound : List (Store × Binder)} :
      (f.access? = none ∨ ∀ index s, (bind ctx (f.alone m index)).result? s = some none) →
      BindsAlone ctx m fields bound → BindsAlone ctx m (f :: fields) bound
  | bound {f : BeanField} {store : Store} {binder : Binder} {fields : List BeanField}
      {bound : List (Store × Binder)} :
      f.access? = some (.typed .value store) →
      (∀ index s, (bind ctx (f.alone m index)).result? s = some (some binder)) →
      BindsAlone ctx m fields bound → BindsAlone ctx m (f :: fields) ((store, binder) :: bound)

variable {ctx : BindingContext}

theorem bindAs_bean? {p : Param} {ty : Ty} {b : BeanType} (hty : ty.unwrap.bean? = some b) :
    bindAs ctx .bean p ty = bindBean ctx p b := by
  induction ty using Ty.bean_induction with
  | optional t ih => exact ih hty
  | bean name json message b' =>
    obtain rfl : b' = b := Option.some.inj hty
    rfl
  | plain ty hoptional hbean =>
    have hunwrap : ty.unwrap = ty := by cases ty <;> first | rfl | cases hoptional
    rw [hunwrap, hbean] at hty
    cases hty

section

variable {bean : String} {index : Nat}

/-- Binding a plain field has nothing to do with the beans that are kept. -/
theorem aside_bindField {f : BeanField} (hf : f.Plain) :
    (bindField ctx bean .request index f).Aside := by
  have hbean := factory?_ne_bean ctx.registry (hf.param bean index)
  obtain ⟨name, ty, annotations, direct, setter⟩ := f
  unfold bindField
  split
  · exact aside_pure _
  next setter _ =>
    have hrest := aside_fieldBinding bean name setter
    dsimp only
    split
    · exact (aside_report _).bind fun _ => (aside_pure _).bind hrest
    next factory hfactory =>
      have hfactory : factory ≠ .bean := fun heq => hbean (heq ▸ hfactory)
      obtain ⟨step, hbuild⟩ := exists_bindAs_eq ctx factory
        ⟨name, ty, index, annotations, .bean bean⟩ ty
      rw [hbuild]
      exact ((BinderFactory.aside_build hfactory step).map some).bind hrest

theorem aside_bindFields {fields : List BeanField} (hfields : ∀ f ∈ fields, f.Plain) :
    (bindFields ctx bean .request index fields).Aside := by
  induction fields generalizing index with
  | nil => exact aside_pure _
  | cons f rest ih =>
    obtain ⟨hf, hrest⟩ := List.forall_mem_cons.mp hfields
    rw [bindFields]
    exact (aside_bindField hf).bind fun bound => (ih hrest).bind fun others => aside_pure _

/-- A field is left out if it cannot be written or nothing binds it. -/
theorem result?_bindField (f : BeanField) (s : DeployState) :
    (bindField ctx bean .request index f).result? s =
      match f.access? with
      | none => some none
      | some setter => ((bind ctx (f.param bean index)).result? s).map
          (Option.map (FieldBinding.mk f.name setter)) := by
  obtain ⟨name, ty, annotations, direct, setter⟩ := f
  unfold bindField bind BeanField.access? BeanField.param
  cases setter <|> direct with
  | none => rfl
  | some setter =>
    dsimp only
    cases ctx.registry.factory? ⟨name, ty, index, annotations, .bean bean⟩ with
    | none => rfl
    | some factory =>
      dsimp only
      rw [result?_bind, result?_map, result?_bind]
      cases (bindAs ctx factory ⟨name, ty, index, annotations, .bean bean⟩ ty).result? s <;> rfl

theorem result?_bindFields_cons (f : BeanField) (fields : List BeanField) (s : DeployState) :
    (bindFields ctx bean .request index (f :: fields)).result? s =
      ((bindField ctx bean .request index f).result? s).bind fun field =>
        ((bindFields ctx bean .request (index + 1) fields).result?
          ((bindField ctx bean .request index f).run.run s).2).map (field.toList ++ ·) := by
  rw [bindFields, result?_bind]
  refine Option.bind_congr fun field _ => ?_
  rw [result?_bind]
  exact (Option.map_eq_bind ..).symm

end

/-- What is bound anew, without regard to what is kept, is what is built. -/
theorem result?_cached {key : String × BeanFlavor} {build : Deploying BeanBinding}
    {s : DeployState} (hnew : s.beans.get? key = none) (hbuild : build.Aside) :
    (cached key build).result? s = build.result? s := by
  obtain ⟨outcome, events, hrun⟩ := hbuild
  unfold result?
  rw [run_cached, hnew]
  dsimp only
  rw [hrun]
  cases outcome with
  | error e => rfl
  | ok b =>
    dsimp only [BeanCache.keepFirst]
    rw [hnew]

/-- The first binding of a bean is built from its fields. -/
theorem result?_bind_bean {p : Param} {b : BeanType} {initial : Fields} {s : DeployState}
    (hp : p.BindsAnew ctx s b initial) (hfields : ∀ f ∈ b.fields, f.Plain) :
    (bind ctx p).result? s =
      ((bindFields ctx b.name .request 0 b.fields).result? s).map fun bound =>
        some (.bean ⟨b.name, initial, bound⟩) := by
  have hbind : bindAs ctx .bean p p.ty = bindBean ctx p b := bindAs_bean? hp.ty
  have hflavor : flavor p = .request := by rw [flavor, hp.flavor]; rfl
  have hkept := hp.kept
  have hinitial := hp.initial
  obtain ⟨name, initial', fields⟩ := b
  obtain rfl : initial' = some initial := hinitial
  have hbuild : Aside (do
      let bound ← bindFields ctx name .request 0 fields
      return BeanBinding.mk name initial bound) :=
    (aside_bindFields hfields).bind fun bound => aside_pure _
  unfold bind
  rw [hp.factory]
  dsimp only
  rw [hbind, bindBean, hflavor, result?_bind, result?_bind, result?_cached hkept hbuild,
    result?_bind]
  cases (bindFields ctx name .request 0 fields).result? s <;> rfl

section

variable (hregistry : ∀ f ∈ ctx.registry, f.Impartial) {m : HandlerMethod} (hm : m.NamesNoFormat)

include hregistry hm

section

variable {f : BeanField} (hf : f.Plain)

include hf

theorem alike_bind_alone (index index' : Nat) :
    (bind ctx (f.alone m index)).Alike (bind ctx (f.alone m index')) :=
  alike_bind hregistry ⟨rfl, rfl, rfl⟩ (hf.alone hm index) (hf.alone hm index')

/-- What becomes of a field, whatever else is deployed: that of a parameter declared like it. -/
theorem result?_bindField_alone (bean : String) (index index' : Nat) (s t : DeployState) :
    (bindField ctx bean .request index f).result? s =
      match f.access? with
      | none => some none
      | some setter => ((bind ctx (f.alone m index')).result? t).map
          (Option.map (FieldBinding.mk f.name setter)) := by
  have halike : (bind ctx (f.param bean index)).Alike (bind ctx (f.alone m index')) :=
    alike_bind hregistry ⟨rfl, rfl, rfl⟩ (hf.param bean index) (hf.alone hm index')
  rw [result?_bindField, halike s t]

theorem isSome_bindField_iff (bean : String) (index : Nat) (s : DeployState) :
    ((bindField ctx bean .request index f).result? s).isSome ↔
      (f.access?.isSome → ∀ index t, ((bind ctx (f.alone m index)).result? t).isSome) := by
  cases haccess : f.access? with
  | none => simp [result?_bindField_alone hregistry hm hf bean index 0 s s, haccess]
  | some setter =>
    constructor
    · intro h _ index' t
      rw [result?_bindField_alone hregistry hm hf bean index index' s t, haccess] at h
      simpa using h
    · intro h
      rw [result?_bindField_alone hregistry hm hf bean index 0 s s, haccess]
      simpa using h rfl 0 s

end

variable {fields : List BeanField} (hfields : ∀ f ∈ fields, f.Plain)

include hfields

theorem isSome_bindFields_iff (bean : String) (index : Nat) (s : DeployState) :
    ((bindFields ctx bean .request index fields).result? s).isSome ↔
      ∀ f ∈ fields, f.access?.isSome →
        ∀ index t, ((bind ctx (f.alone m index)).result? t).isSome := by
  induction fields generalizing index s with
  | nil => exact ⟨fun _ _ h => absurd h List.not_mem_nil, fun _ => rfl⟩
  | cons f rest ih =>
    obtain ⟨hf, hrest⟩ := List.forall_mem_cons.mp hfields
    rw [List.forall_mem_cons, ← isSome_bindField_iff hregistry hm hf bean index s,
      ← ih hrest (index + 1) ((bindField ctx bean .request index f).run.run s).2,
      result?_bindFields_cons]
    cases (bindField ctx bean .request index f).result? s <;> simp

theorem bindFields_stores (hraw : ∀ f ∈ fields, f.TakesRaw) {bean : String} {index : Nat}
    {s : DeployState} {bound : List FieldBinding}
    (h : (bindFields ctx bean .request index fields).result? s = some bound) :
    ∃ alone, BindsAlone ctx m fields alone ∧ List.Forall₂ FieldBinding.Stores bound alone := by
  induction fields generalizing index s bound with
  | nil =>
    obtain rfl : [] = bound := Option.some.inj h
    exact ⟨[], .nil, .nil⟩
  | cons f rest ih =>
    obtain ⟨hf, hrest⟩ := List.forall_mem_cons.mp hfields
    obtain ⟨hrawf, hrawrest⟩ := List.forall_mem_cons.mp hraw
    rw [result?_bindFields_cons, Option.bind_eq_some_iff] at h
    obtain ⟨field, hfield, h⟩ := h
    obtain ⟨others, hothers, rfl⟩ := Option.map_eq_some_iff.mp h
    obtain ⟨alone, hbinds, hstores⟩ := ih hrest hrawrest hothers
    rw [result?_bindField_alone hregistry hm hf bean index 0 s s] at hfield
    cases haccess : f.access? with
    | none =>
      rw [haccess] at hfield
      obtain rfl : none = field := Option.some.inj hfield
      exact ⟨alone, .skipped (.inl haccess) hbinds, hstores⟩
    | some setter =>
      rw [haccess] at hfield
      obtain ⟨result, hresult, rfl⟩ := Option.map_eq_some_iff.mp hfield
      -- One parameter tells of all of them, at any index and whatever was deployed.
      have halone (index : Nat) (t : DeployState) :
          (bind ctx (f.alone m index)).result? t = some result :=
        (alike_bind_alone hregistry hm hf index 0 t s).trans hresult
      cases result with
      | none => exact ⟨alone, .skipped (.inr halone) hbinds, hstores⟩
      | some binder =>
        obtain ⟨store, rfl⟩ := hrawf setter haccess
        exact ⟨(store, binder) :: alone, .bound haccess halone hbinds, .cons ⟨rfl, rfl⟩ hstores⟩

end

/-- A bean is filled like the parameters that are declared like its fields: it is bound if each
of them is left out or bound, and what it resolves to is put together from what they do. -/
theorem bean_fills_like_parameters {m : HandlerMethod} {p : Param} {b : BeanType}
    {initial : Fields} {s : DeployState} (hregistry : ∀ f ∈ ctx.registry, f.Impartial)
    (hm : m.NamesNoFormat) (hp : p.BindsAnew ctx s b initial)
    (hfields : ∀ f ∈ b.fields, f.Plain) (hraw : ∀ f ∈ b.fields, f.TakesRaw) :
    ((∃ binder, (bind ctx p).result? s = some (some binder)) ↔
      ∀ f ∈ b.fields, f.access?.isSome →
        ∀ index t, ((bind ctx (f.alone m index)).result? t).isSome) ∧
    ∀ binder, (bind ctx p).result? s = some (some binder) →
      ∃ alone, BindsAlone ctx m b.fields alone ∧
        ∀ r, binder.FillsLike b.name initial alone r := by
  rw [result?_bind_bean hp hfields, ← isSome_bindFields_iff hregistry hm hfields b.name 0 s]
  cases hbound : (bindFields ctx b.name .request 0 b.fields).result? s with
  | none => simp
  | some bound =>
    refine ⟨⟨fun _ => rfl, fun _ => ⟨_, rfl⟩⟩, fun binder hbinder => ?_⟩
    obtain rfl := Option.some.inj (Option.some.inj hbinder)
    obtain ⟨alone, halone, hstores⟩ := bindFields_stores hregistry hm hfields hraw hbound
    exact ⟨alone, halone, Binder.fillsLike_bean hstores b.name initial⟩

/-- Put a value under the name of a field. -/
def putting (field : String) : Setter := .typed .value fun content v => content ++ [(field, v)]

/-- A page and a size from the query string, a token from a header; nothing binds the headers
without an annotation. -/
def paging : BeanType where
  name := "Paging"
  initial := some []
  fields :=
    [⟨"page", .integer .u32, [.requestParam ⟨"page", true, some "1"⟩], some (putting "page"), none⟩,
      ⟨"origin", .headers, [], some (putting "origin"), none⟩,
      ⟨"size", .optional (.integer .u32), [], some (putting "size"), none⟩,
      ⟨"token", .string, [.requestHeader ⟨"X-Token", false, none⟩], some (putting "direct"),
        some (putting "token")⟩]

def pagingContext : BindingContext := ⟨.standard, {}, .standard, some []⟩

def itemLister : HandlerMethod := ⟨"list", [], ⟨"Items", []⟩⟩

def pagingParam : Param :=
  ⟨"paging", .object ⟨"Paging", none, none, some paging⟩, 0, [.requestBean], .method itemLister⟩

theorem paging_fills_like_parameters :
    ∃ binder, (bind pagingContext pagingParam).result? {} = some (some binder) ∧
      ∃ alone, BindsAlone pagingContext itemLister paging.fields alone ∧
        ∀ r, binder.FillsLike "Paging" [] alone r := by
  have hregistry : ∀ f ∈ pagingContext.registry, f.Impartial := by
    simp [pagingContext, Registry.standard, BinderFactory.Impartial]
  have hfields : ∀ f ∈ paging.fields, f.Plain := by
    simp only [paging, List.forall_mem_cons]
    exact ⟨⟨⟨rfl, rfl⟩, rfl⟩, ⟨⟨rfl, rfl⟩, rfl⟩, ⟨⟨rfl, rfl⟩, rfl⟩, ⟨⟨rfl, rfl⟩, rfl⟩, nofun⟩
  have hraw : ∀ f ∈ paging.fields, f.TakesRaw := by
    simp only [paging, List.forall_mem_cons]
    refine ⟨?_, ?_, ?_, ?_, nofun⟩ <;>
    · rintro setter ⟨⟩
      exact ⟨_, rfl⟩
  have hspec := bean_fills_like_parameters hregistry (⟨rfl, rfl⟩ : itemLister.NamesNoFormat)
    (⟨rfl, rfl, rfl, rfl, rfl⟩ : pagingParam.BindsAnew pagingContext {} paging []) hfields hraw
  have hbound : ∀ f ∈ paging.fields, f.access?.isSome →
      ∀ index t, ((bind pagingContext (f.alone itemLister index)).result? t).isSome := by
    simp only [paging, List.forall_mem_cons]
    exact ⟨fun _ _ _ => rfl, fun _ _ _ => rfl, fun _ _ _ => rfl, fun _ _ _ => rfl, nofun⟩
  obtain ⟨binder, hbinder⟩ := hspec.1.mpr hbound
  exact ⟨binder, hbinder, hspec.2 binder hbinder⟩

end Binding

end RestDispatch
