import RestDispatch.Binding.Factory
import RestDispatch.Proofs.Binding.RequestFault

/-!
# What factories build

The binder of a parameter follows its annotations and its type: a value that is looked up by
name is looked up as its annotation says, and a body is read at the type of the parameter.
This is said once here, for every factory, and everything about deployed binders is derived
from it.
-/

namespace RestDispatch

namespace Deploying

variable {α β : Type} {Q : α → Prop} {S : β → Prop}

/-- Every result of a step of a deployment has a property. -/
def Yields (Q : α → Prop) (step : Deploying α) : Prop :=
  ∀ (s s' : DeployState) (a : α), step.run.run s = (.ok a, s') → Q a

theorem yields_pure {a : α} (ha : Q a) : (pure a : Deploying α).Yields Q := by
  intro s s' b h
  cases h
  exact ha

theorem yields_throw (e : Error) : (throw e : Deploying α).Yields Q := by
  intro s s' a h
  cases h

theorem Yields.imp {R : α → Prop} {step : Deploying α} (hstep : step.Yields Q)
    (hQR : ∀ a, Q a → R a) : step.Yields R :=
  fun s s' a h => hQR a (hstep s s' a h)

theorem yields_lift {x : Except Error α} (hx : ReturnsOnly Q x) : (lift x).Yields Q := by
  cases x with
  | ok a => exact yields_pure (hx a rfl)
  | error e => exact yields_throw e

theorem Yields.bind {step : Deploying α} {next : α → Deploying β} (hstep : step.Yields Q)
    (hnext : ∀ a, Q a → (next a).Yields S) : (step >>= next).Yields S := by
  intro s s' b h
  change (match step.run.run s with
    | (r, t) => (ExceptT.bindCont next r).run t) = (.ok b, s') at h
  rcases hrun : step.run.run s with ⟨e | a, t⟩
  · rw [hrun] at h
    cases h
  · rw [hrun] at h
    exact hnext a (hstep s t a hrun) t s' b h

theorem Yields.of_bind {step : Deploying α} {next : α → Deploying β}
    (hnext : ∀ a, (next a).Yields S) : (step >>= next).Yields S :=
  Yields.bind (fun _ _ _ _ => trivial) fun a (_ : True) => hnext a

end Deploying

namespace Source

def isMatrix : Source → Bool
  | .matrix _ => true
  | _ => false

/-- What the annotations of a parameter say about a source; a parameter without annotations is
looked up in the query. -/
def annotation? (p : Param) : Source → Option NamedValue
  | .path => p.annotations.pathVariable?
  | .query => some (p.annotations.requestParam?.getD ⟨"", false, none⟩)
  | .header => p.annotations.requestHeader?
  | .cookie | .cookieObject => p.annotations.cookieValue?
  | .matrix _ => p.annotations.matrixVariable?.map (·.1)

/-- How what a source carries is converted for a parameter. -/
def conversion? (p : Param) : Source → Option Conversion
  | .cookieObject => none
  | _ => Conversion.of? p.ty

end Source

/-- A lookup asks for what an annotation of a parameter says; only one that insists fails
when nothing is there. -/
structure Lookup.AsksFor (l : Lookup) (insists : Bool) (v : NamedValue) (p : Param) : Prop where
  name : l.name = if v.name.isEmpty then p.name else v.name
  required : l.required = (insists && v.required && !p.ty.isOptional)
  default? : l.default?.isSome = v.default?.isSome
  /-- A default is what its literal converts to at the type of the parameter. -/
  converted : ∀ value, l.default? = some value → ∃ literal c, v.default? = some literal ∧
    Conversion.of? p.ty = some c ∧ c.convert literal = .ok value

/-- The binders that may be built for a parameter. -/
inductive Binder.BoundTo (ctx : BindingContext) (p : Param) : Binder → Prop
  | named {source : Source} {v : NamedValue} {lookup : Lookup} :
      source.annotation? p = some v → lookup.AsksFor (!source.isMatrix) v p →
      BoundTo ctx p (.named source lookup (source.conversion? p))
  | entries (source : EntrySource) (conversion : MapConversion) :
      p.ty.unwrap.isMap = true → BoundTo ctx p (.entries source conversion)
  | headers : p.ty.unwrap = .headers → BoundTo ctx p .headers
  | cookies (distinct : Bool) :
      p.ty.unwrap.isCollection = true → BoundTo ctx p (.cookies distinct)
  | body {required : Bool} (parameter? : Option String) :
      p.annotations.requestBody? = some required →
      BoundTo ctx p
        (.body ⟨p.name, p.ty, required && !p.ty.isOptional, ctx.formats, parameter?⟩)
  | fixedBody {required : Bool} {c : FormatClass} {format : BodyFormat} :
      p.annotations.requestBody? = some required →
      p.inherited? Annotations.requestSerializer? = some c →
      ctx.formats.instance? c = some format →
      BoundTo ctx p (.fixedBody ⟨p.name, p.ty, required && !p.ty.isOptional, format⟩)
  | bean (b : BeanBinding) : BoundTo ctx p (.bean b)
  | custom {order : Int} {supports : Param → Bool}
      {build : Param → Except Error (Request → Except Error Value)}
      (f : Request → Except Error Value) :
      .custom order supports build ∈ ctx.registry → BoundTo ctx p (.custom f)

theorem Ty.isMap_unwrap (ty : Ty) : ty.unwrap.isMap = ty.isMap := by
  match ty with
  | .optional t => exact t.isMap_unwrap
  | .string | .bool | .char | .integer _ | .single | .double | .bytes | .list _ | .set _
  | .array _ | .map _ | .cookie | .headers | .parsed _ | .object _ => rfl

theorem Lookup.exists_of_convertDefault {literal : String} {p : Param} {c : Option Conversion}
    {value : Value} (h : convertDefault literal p c = .ok value) :
    ∃ c', c = some c' ∧ c'.convert literal = .ok value := by
  cases c with
  | none => cases h
  | some c' =>
    unfold convertDefault at h
    dsimp only at h
    split at h
    next v hv =>
      cases h
      exact ⟨c', rfl, hv⟩
    next => cases h

/-- A conversion that is given to a lookup is the one for the type of the parameter. -/
theorem Lookup.returnsOnly_ofAnnotation (v : NamedValue) {p : Param} {c : Option Conversion}
    (hc : ∀ c', c = some c' → Conversion.of? p.ty = some c') :
    ReturnsOnly (fun l => l.AsksFor true v p) <| ofAnnotation v p c := by
  intro l h
  unfold ofAnnotation at h
  generalize hname : (if v.name.isEmpty then p.name else v.name) = name at h
  dsimp only at h
  split at h
  · obtain ⟨_, hthrow, -⟩ := bind_eq_ok_iff.mp h
    cases hthrow
  · cases hdefault : v.default? with
    | none =>
      rw [hdefault] at h
      cases h
      exact ⟨hname.symm, rfl, by rw [hdefault]; rfl, fun _ hnone => nomatch hnone⟩
    | some literal =>
      rw [hdefault] at h
      obtain ⟨default?, hconverted, hl⟩ := bind_eq_ok_iff.mp h
      cases hl
      cases hliteral : convertDefault literal p c with
      | error e =>
        rw [hliteral] at hconverted
        cases hconverted
      | ok value =>
        rw [hliteral] at hconverted
        cases hconverted
        obtain ⟨c', hc', hvalue⟩ := exists_of_convertDefault hliteral
        refine ⟨hname.symm, rfl, by rw [hdefault]; rfl, ?_⟩
        rintro _ ⟨⟩
        exact ⟨literal, c', hdefault, hc c' hc', hvalue⟩

namespace BinderFactory

open Binder Deploying

variable {ctx : BindingContext} {p : Param}

theorem returnsOnly_conversion (place : String) :
    ReturnsOnly (fun c => Conversion.of? p.ty = some c) (conversion p place) := by
  intro c h
  unfold conversion Conversion.of at h
  cases hc : Conversion.of? p.ty with
  | none => simp [hc] at h
  | some c' =>
    rw [hc] at h
    cases h
    rfl

theorem returnsOnly_mapBinder {ty : Ty} (hty : p.ty.unwrap.isMap = true) (source : EntrySource) :
    ReturnsOnly (BoundTo ctx p) (mapBinder p ty source) := by
  intro b h
  unfold mapBinder at h
  cases hconversion : MapConversion.of ty p with
  | error e => simp [hconversion, Except.map] at h
  | ok c =>
    rw [hconversion] at h
    cases h
    exact .entries source c hty

theorem returnsOnly_namedBinder {v : NamedValue} (source : Source) (place : String)
    (hv : source.annotation? p = some v) (hmatrix : source.isMatrix = false)
    (hconversion : source.conversion? p = Conversion.of? p.ty) :
    ReturnsOnly (fun built => built.2.BoundTo ctx p) (namedBinder p v source place) := by
  refine (returnsOnly_conversion place).bind fun c hc => ?_
  have hlookup := Lookup.returnsOnly_ofAnnotation v (p := p) (c := some c) (by simpa using hc)
  refine hlookup.bind fun l hl => returnsOnly_ok ?_
  have hasks : l.AsksFor (!source.isMatrix) v p := by
    rw [hmatrix]
    exact hl
  rw [← hc, ← hconversion]
  exact .named hv hasks

theorem returnsOnly_named {v : NamedValue} (source : Source) (place : String)
    (hv : source.annotation? p = some v) (hmatrix : source.isMatrix = false)
    (hconversion : source.conversion? p = Conversion.of? p.ty) :
    ReturnsOnly (BoundTo ctx p) (do
      let (_, binder) ← namedBinder p v source place
      return binder) :=
  (returnsOnly_namedBinder source place hv hmatrix hconversion).bind fun _ hbuilt =>
    returnsOnly_ok hbuilt

theorem yields_bindPath : (bindPath ctx p).Yields (BoundTo ctx p) := by
  unfold bindPath
  split
  next => exact yields_lift (returnsOnly_error _)
  next v hv =>
    split
    next hmap =>
      rw [Bool.and_eq_true, ← Ty.isMap_unwrap] at hmap
      exact yields_lift (returnsOnly_mapBinder hmap.1 _)
    next =>
      refine Yields.bind (Q := fun built => built.2.BoundTo ctx p)
        (yields_lift (returnsOnly_namedBinder .path _ hv rfl rfl)) ?_
      rintro ⟨lookup, binder⟩ hbinder
      dsimp only
      split
      · exact Yields.of_bind fun _ => yields_pure hbinder
      · exact yields_pure hbinder

/-- A name that is not empty pins a segment. -/
theorem filter_pinned {segment : Option String} (h : segment ≠ some "") :
    segment.filter (!·.isEmpty) = segment := by
  cases segment with
  | none => rfl
  | some name => simpa [Option.filter] using h

/-- What is bound for a matrix variable, once the segment that it pins is known. -/
def matrixBinder (p : Param) (v : NamedValue) (segment : Option String) : Except Error Binder :=
  if p.ty.isMap && v.name.isEmpty then mapBinder p p.ty (.matrix segment)
  else do
    let c ← conversion p "a matrix variable"
    let lookup ← Lookup.ofAnnotation v p (some c)
    return .named (.matrix segment) { lookup with required := false } (some c)

/-- A matrix variable is bound if the route declares the segment that it pins. -/
theorem bindMatrix_eq_ok_iff {v : NamedValue} {pinned : Option String}
    (hv : p.annotations.matrixVariable? = some (v, pinned)) {b : Binder} :
    bindMatrix ctx p = .ok b ↔
      (∀ segment names, pinned.filter (!·.isEmpty) = some segment → ctx.declared = some names →
        segment ∈ names) ∧ matrixBinder p v (pinned.filter (!·.isEmpty)) = .ok b := by
  unfold bindMatrix
  rw [hv]
  dsimp only
  generalize pinned.filter (!·.isEmpty) = segment
  split
  next name names hnames =>
    by_cases hmem : name ∈ names
    · simp [hmem, hnames, matrixBinder]
    · simp [hmem, hnames, bind_eq_ok_iff]
  next hnone =>
    refine ⟨fun h => ⟨fun name names hname hnames => ?_, h⟩, fun h => h.2⟩
    exact (hnone name names hname hnames).elim

theorem returnsOnly_matrixBinder {v : NamedValue} {pinned : Option String}
    (hv : p.annotations.matrixVariable? = some (v, pinned)) (segment : Option String) :
    ReturnsOnly (BoundTo ctx p) (matrixBinder p v segment) := by
  unfold matrixBinder
  split
  next hmap =>
    rw [Bool.and_eq_true, ← Ty.isMap_unwrap] at hmap
    exact returnsOnly_mapBinder hmap.1 _
  next =>
    refine (returnsOnly_conversion _).bind fun c hc => ?_
    have hlookup := Lookup.returnsOnly_ofAnnotation v (p := p) (c := some c) (by simpa using hc)
    refine hlookup.bind fun l hl => returnsOnly_ok ?_
    have hannotation : (Source.matrix segment).annotation? p = some v := by
      rw [Source.annotation?, hv, Option.map_some]
    rw [← hc]
    exact .named hannotation ⟨hl.name, rfl, hl.default?, hl.converted⟩

theorem returnsOnly_bindMatrix : ReturnsOnly (BoundTo ctx p) (bindMatrix ctx p) := by
  intro b hb
  cases hv : p.annotations.matrixVariable? with
  | none =>
    rw [bindMatrix, hv] at hb
    cases hb
  | some annotation =>
    exact returnsOnly_matrixBinder hv _ b ((bindMatrix_eq_ok_iff hv).mp hb).2

theorem returnsOnly_bindQuery : ReturnsOnly (BoundTo ctx p) (bindQuery p) := by
  unfold bindQuery
  dsimp only
  split
  next hmap =>
    rw [← Ty.isMap_unwrap] at hmap
    split
    · exact returnsOnly_mapBinder hmap _
    · exact returnsOnly_error _
  next =>
    exact returnsOnly_named .query _ rfl rfl rfl

theorem returnsOnly_bindHeader : ReturnsOnly (BoundTo ctx p) (bindHeader p) := by
  unfold bindHeader
  split
  next => exact returnsOnly_error _
  next v hv =>
    split
    next hheaders => exact returnsOnly_ok (.headers hheaders)
    next =>
      split
      next hmap =>
        rw [Bool.and_eq_true] at hmap
        exact returnsOnly_mapBinder hmap.1 _
      next =>
        exact returnsOnly_named .header _ hv rfl rfl

theorem returnsOnly_bindCookie : ReturnsOnly (BoundTo ctx p) (bindCookie p) := by
  unfold bindCookie
  split
  next => exact returnsOnly_error _
  next v hv =>
    split
    next h => exact returnsOnly_ok (.cookies _ (by rw [h]; rfl))
    next h => exact returnsOnly_ok (.cookies _ (by rw [h]; rfl))
    next h => exact returnsOnly_ok (.cookies _ (by rw [h]; rfl))
    next =>
      have hlookup := Lookup.returnsOnly_ofAnnotation v (p := p) (c := none) (by simp)
      refine hlookup.bind fun l hl => returnsOnly_ok ?_
      have hannotation : Source.cookieObject.annotation? p = some v := hv
      exact .named hannotation hl
    next =>
      exact returnsOnly_named .cookie _ hv rfl rfl

section

variable {required : Bool} (hbody : p.annotations.requestBody? = some required)

include hbody

theorem requiresBody_eq : requiresBody p = (required && !p.ty.isOptional) := by
  rw [requiresBody, hbody, Option.getD_some]

theorem yields_bindFixedBody : (bindFixedBody ctx p).Yields (BoundTo ctx p) := by
  unfold bindFixedBody
  rw [requiresBody_eq hbody]
  split
  next => exact yields_throw _
  next c hc =>
    split
    next => exact yields_throw _
    next format hformat =>
      exact Yields.of_bind fun _ => yields_pure (.fixedBody hbody hc hformat)

theorem yields_bindBody : (bindBody ctx p).Yields (BoundTo ctx p) := by
  unfold bindBody
  rw [requiresBody_eq hbody]
  exact Yields.of_bind fun _ => yields_pure (.body _ hbody)

end

/-- What a factory builds for a parameter that it supports, when beans are bound by beans. -/
theorem yields_build {f : BinderFactory} (hmem : f ∈ ctx.registry) (hsupports : f.supports p = true)
    {bean : Deploying Binder} (hbean : bean.Yields (BoundTo ctx p)) :
    (f.build ctx p bean).Yields (BoundTo ctx p) := by
  cases f with
  | path => exact yields_bindPath
  | matrix => exact yields_lift returnsOnly_bindMatrix
  | query => exact yields_lift returnsOnly_bindQuery
  | unannotated => exact yields_lift returnsOnly_bindQuery
  | header => exact yields_lift returnsOnly_bindHeader
  | cookie => exact yields_lift returnsOnly_bindCookie
  | fixedBody =>
    rw [supports, Bool.and_eq_true] at hsupports
    obtain ⟨required, hbody⟩ := Option.isSome_iff_exists.mp hsupports.1
    exact yields_bindFixedBody hbody
  | body =>
    obtain ⟨required, hbody⟩ := Option.isSome_iff_exists.mp hsupports
    exact yields_bindBody hbody
  | bean => exact hbean
  | custom order supports build =>
    refine yields_lift ?_
    intro b h
    cases hbuilt : build p with
    | error e => simp [hbuilt, Except.map] at h
    | ok f =>
      rw [hbuilt] at h
      cases h
      exact .custom f hmem

end BinderFactory

namespace Binding

open Deploying

variable {ctx : BindingContext} {p : Param}

theorem yields_bindObject (o : ObjectType) :
    (bindObject ctx p o).Yields (Binder.BoundTo ctx p) := by
  obtain ⟨name, json, message, bean⟩ := o
  rw [bindObject]
  cases bean with
  | none =>
    rw [bindBean?]
    exact yields_throw _
  | some b =>
    obtain ⟨name, initial, fields⟩ := b
    rw [bindBean?]
    unfold bindBean
    exact Yields.of_bind fun _ => Yields.of_bind fun _ => yields_pure (.bean _)

theorem yields_bindAs {f : BinderFactory} (hmem : f ∈ ctx.registry)
    (hsupports : f.supports p = true) (ty : Ty) :
    (bindAs ctx f p ty).Yields (Binder.BoundTo ctx p) := by
  match ty with
  | .optional t =>
    rw [bindAs]
    exact yields_bindAs hmem hsupports t
  | .object o =>
    rw [bindAs]
    exact BinderFactory.yields_build hmem hsupports (yields_bindObject o)
  | .string | .bool | .char | .integer _ | .single | .double | .bytes | .list _ | .set _
  | .array _ | .map _ | .cookie | .headers | .parsed _ =>
    unfold bindAs
    exact BinderFactory.yields_build hmem hsupports (yields_throw _)

/-- Whatever binds a parameter is bound to it. -/
theorem yields_bind :
    (bind ctx p).Yields fun binder => ∀ b, binder = some b → b.BoundTo ctx p := by
  unfold bind
  split
  next =>
    refine Yields.of_bind fun _ => yields_pure ?_
    simp
  next f hf =>
    have hsupports : f.supports p = true := List.find?_some hf
    refine (yields_bindAs (List.mem_of_find?_eq_some hf) hsupports p.ty).bind fun b hb =>
      yields_pure ?_
    simpa using hb

end Binding

end RestDispatch
