import RestDispatch.Proofs.Binding.BeanCache

/-!
# Path variables that parameters pin

A matrix variable may be pinned to the path variable whose segment carries it, on a parameter or
on a field of a bean.  Whoever binds it asks the route to declare that path variable.  A bean
that was kept before is not bound again, and nobody asks for what its fields pin.

So a route declares whatever is pinned outside of beans that were kept before.  Beans that are
bound for the route itself may be asked for twice; as a name stands for one bean, the first
answer holds for the second.
-/

namespace RestDispatch

namespace Binding

open Deploying

/-- A parameter pins a path variable: it is bound as a matrix variable of that segment, or as a
bean with a field that pins it, at some depth.  Beans of the names in `kept` count for nothing. -/
inductive Pins (registry : Registry) (kept : String → Prop) : Param → Ty → String → Prop
  | own {p : Param} {ty : Ty} {v : NamedValue} {segment : String} :
      registry.factory? p = some .matrix →
      p.annotations.matrixVariable? = some (v, some segment) → segment ≠ "" →
      Pins registry kept p ty segment
  | optional {p : Param} {t : Ty} {segment : String} :
      Pins registry kept p t segment → Pins registry kept p (.optional t) segment
  | field {p : Param} {o : ObjectType} {b : BeanType} {index : Nat} {f : BeanField}
      {segment : String} :
      registry.factory? p = some .bean → flavor p = .request → o.bean = some b → ¬kept b.name →
      b.fields[index]? = some f → (f.setter <|> f.direct).isSome →
      Pins registry kept (f.param b.name index) f.ty segment →
      Pins registry kept p (.object o) segment

/-- Whatever a parameter pins is among the variables of a route. -/
def Declares (registry : Registry) (kept : String → Prop) (names : List String) (p : Param)
    (ty : Ty) : Prop :=
  ∀ segment, Pins registry kept p ty segment → segment ∈ names

/-- Whatever the fields of a bean pin is among the variables of a route. -/
def DeclaresFields (registry : Registry) (kept : String → Prop) (names : List String)
    (bean : String) (offset : Nat) (fields : List BeanField) : Prop :=
  ∀ (index : Nat) (f : BeanField), fields[index]? = some f → (f.setter <|> f.direct).isSome →
    Declares registry kept names (f.param bean (offset + index)) f.ty

section

variable {registry : Registry} {kept : String → Prop} {names : List String} {p : Param} {ty : Ty}
  {segment : String}

theorem Pins.factory (h : Pins registry kept p ty segment) :
    registry.factory? p = some .matrix ∨ registry.factory? p = some .bean := by
  induction h with
  | own hf => exact .inl hf
  | optional _ ih => exact ih
  | field hf => exact .inr hf

/-- What nothing binds pins nothing. -/
theorem declares_of_unbound (hnone : registry.factory? p = none) :
    Declares registry kept names p ty := by
  intro segment hpins
  rcases hpins.factory with h | h
  · rw [hnone] at h
    cases h
  · rw [hnone] at h
    cases h

theorem Pins.of_optional {t : Ty} (h : Pins registry kept p (.optional t) segment) :
    Pins registry kept p t segment := by
  cases h with
  | own hf hv hsegment => exact .own hf hv hsegment
  | optional h => exact h

theorem Pins.annotation (h : Pins registry kept p ty segment)
    (hf : registry.factory? p = some .matrix) :
    (∃ v, p.annotations.matrixVariable? = some (v, some segment)) ∧ segment ≠ "" := by
  induction h with
  | own _ hv hsegment => exact ⟨⟨_, hv⟩, hsegment⟩
  | optional _ ih => exact ih hf
  | field hbean => rw [hf] at hbean; cases hbean

theorem Pins.of_bean {name : String} {json : Option JsonCodec} {message : Option MessageCodec}
    {b : BeanType} (h : Pins registry kept p (.object ⟨name, json, message, some b⟩) segment)
    (hf : registry.factory? p = some .bean) :
    flavor p = .request ∧ ¬kept b.name ∧ ∃ index, ∃ f : BeanField, b.fields[index]? = some f ∧
      (f.setter <|> f.direct).isSome ∧
      Pins registry kept (f.param b.name index) f.ty segment := by
  cases h with
  | own hmatrix =>
    rw [hf] at hmatrix
    cases hmatrix
  | field _ hflavor hbean hfresh hfield hwritable hpins =>
    cases hbean
    exact ⟨hflavor, hfresh, _, _, hfield, hwritable, hpins⟩

end

/-- What is kept: the names that were kept before, and beans of a set all of whose pinned
variables a route declares. -/
def Answered (registry : Registry) (kept : String → Prop) (names : List String)
    (beans : BeanType → Prop) (cache : BeanCache) : Prop :=
  ∀ entry ∈ cache, kept entry.1.1 ∨ ∃ b, beans b ∧ b.name = entry.1.1 ∧
    (entry.1.2 = .request → DeclaresFields registry kept names b.name 0 b.fields)

section

variable {ctx : BindingContext} {kept : String → Prop} {names : List String}
  {beans : BeanType → Prop} {f : BinderFactory} {p : Param}

/-- A matrix variable is bound only where the route declares the segment. -/
theorem returnsOnly_bindMatrix_declares (hdeclared : ctx.declared = some names)
    (hf : ctx.registry.factory? p = some .matrix) (ty : Ty) :
    ReturnsOnly (fun _ => Declares ctx.registry kept names p ty)
      (BinderFactory.bindMatrix ctx p) := by
  intro b hb segment hpins
  obtain ⟨⟨v, hv⟩, hsegment⟩ := hpins.annotation hf
  have hpinned : some segment ≠ some "" := by simpa using hsegment
  have hdeclares := ((BinderFactory.bindMatrix_eq_ok_iff hv).mp hb).1
  exact hdeclares segment names (BinderFactory.filter_pinned hpinned) hdeclared

/-- What a factory builds for a parameter, when the beans of its type are answered for. -/
theorem keeps_build {I : BeanCache → Prop} (hdeclared : ctx.declared = some names)
    (hf : ctx.registry.factory? p = some f) {ty : Ty} {bean : Deploying Binder}
    (hbean : f = .bean → bean.Keeps I fun _ => Declares ctx.registry kept names p ty) :
    (f.build ctx p bean).Keeps I fun _ => Declares ctx.registry kept names p ty := by
  by_cases hbeans : f = .bean
  · subst hbeans
    exact hbean rfl
  · by_cases hmatrix : f = .matrix
    · subst hmatrix
      exact keeps_lift (returnsOnly_bindMatrix_declares hdeclared hf ty)
    · refine ((BinderFactory.aside_build hbeans bean).keeps I).imp fun _ _ segment hpins => ?_
      rcases hpins.factory with h | h
      · rw [hf] at h
        exact absurd (Option.some.inj h) hmatrix
      · rw [hf] at h
        exact absurd (Option.some.inj h) hbeans

theorem keeps_bindField {I : BeanCache → Prop} {bean : String} {flavor : BeanFlavor} {index : Nat}
    {field : BeanField}
    (hfield : ∀ f p, ctx.registry.factory? p = some f →
      (bindAs ctx f p field.ty).Keeps I fun _ => Declares ctx.registry kept names p field.ty) :
    (bindField ctx bean flavor index field).Keeps I fun _ =>
      flavor = .request → (field.setter <|> field.direct).isSome →
        Declares ctx.registry kept names (field.param bean index) field.ty := by
  obtain ⟨name, ty, annotations, direct, setter⟩ := field
  unfold bindField
  split
  next hnone => exact keeps_pure fun _ hsome => by rw [hnone] at hsome; cases hsome
  next setter' _ =>
    have hrest {Q : Prop} (binder : Option Binder) (hQ : Q) :=
      ((aside_fieldBinding bean name setter' binder).keeps I).imp fun _ _ => hQ
    cases flavor with
    | query =>
      exact ((aside_lift _).keeps I).bind fun binder _ => hrest binder fun h => by cases h
    | request =>
      dsimp only
      split
      next hfactory =>
        exact ((aside_report _).keeps I).bind fun _ _ => ((aside_pure none).keeps I).bind
          fun binder _ => hrest binder fun _ _ => declares_of_unbound hfactory
      next f hfactory =>
        exact ((hfield f _ hfactory).map some).bind fun binder hdeclares =>
          hrest binder fun _ _ => hdeclares

theorem keeps_bindFields {I : BeanCache → Prop} {bean : String} {flavor : BeanFlavor} {index : Nat}
    {fields : List BeanField}
    (hfields : ∀ field ∈ fields, ∀ f p, ctx.registry.factory? p = some f →
      (bindAs ctx f p field.ty).Keeps I fun _ => Declares ctx.registry kept names p field.ty) :
    (bindFields ctx bean flavor index fields).Keeps I fun _ =>
      flavor = .request → DeclaresFields ctx.registry kept names bean index fields := by
  induction fields generalizing index with
  | nil =>
    refine keeps_pure fun _ i f hf => ?_
    cases hf
  | cons field rest ih =>
    obtain ⟨hfield, hrest⟩ := List.forall_mem_cons.mp hfields
    unfold bindFields
    refine (keeps_bindField hfield).bind fun bound hfirst => (ih hrest).bind fun others hothers =>
      keeps_pure fun hflavor i f hf hwritable => ?_
    cases i with
    | zero =>
      obtain rfl := Option.some.inj hf
      exact hfirst hflavor hwritable
    | succ i =>
      have hdeclares := hothers hflavor i f hf hwritable
      rwa [Nat.add_assoc, Nat.add_comm 1] at hdeclares

/-- A bean whose name was not kept before is bound for the route, now or a moment ago. -/
theorem keeps_bindBean
    (hnames : ∀ b c, beans b → beans c → b.name = c.name → ¬kept b.name → b = c) {b : BeanType}
    (hb : beans b)
    (hfields : ∀ field ∈ b.fields, ∀ f p, ctx.registry.factory? p = some f →
      (bindAs ctx f p field.ty).Keeps (Answered ctx.registry kept names beans) fun _ =>
        Declares ctx.registry kept names p field.ty) :
    (bindBean ctx p b).Keeps (Answered ctx.registry kept names beans) fun _ =>
      flavor p = .request → ¬kept b.name →
        DeclaresFields ctx.registry kept names b.name 0 b.fields := by
  obtain ⟨name, initial, fields⟩ := b
  unfold bindBean
  refine Keeps.bind (Q := fun _ => flavor p = .request → ¬kept name →
    DeclaresFields ctx.registry kept names name 0 fields) ?_ fun bound hbound =>
    ((aside_report _).keeps _).bind fun _ _ => keeps_pure hbound
  refine keeps_cached ?_ ?_ ?_
  · intro cache bound hcache hfound hflavor hfresh
    have hentry : ((name, flavor p), bound) ∈ cache := by
      obtain ⟨before, behind, hsplit, -⟩ := List.lookup_eq_some_iff.mp hfound
      rw [hsplit]
      exact List.mem_append_right before List.mem_cons_self
    rcases hcache _ hentry with hkept | ⟨c, hc, hname, hdeclares⟩
    · exact absurd hkept hfresh
    · obtain rfl := hnames _ c hb hc hname.symm hfresh
      exact hdeclares hflavor
  · split
    · exact keeps_throw _
    · exact (keeps_bindFields hfields).bind fun bound hdeclares => keeps_pure fun hflavor _ =>
        hdeclares hflavor
  · intro cache bound hcache hdeclares entry hentry
    rcases List.mem_append.mp hentry with hmem | hmem
    · exact hcache entry hmem
    · obtain rfl := List.mem_singleton.mp hmem
      by_cases hkept : kept name
      · exact .inl hkept
      · exact .inr ⟨_, hb, rfl, fun hflavor => hdeclares hflavor hkept⟩

/-- Binding a parameter keeps beans that are answered for, and the route declares what the
parameter pins. -/
theorem keeps_bindAs (hdeclared : ctx.declared = some names)
    (hnames : ∀ b c, beans b → beans c → b.name = c.name → ¬kept b.name → b = c) (ty : Ty)
    (hbeans : ∀ b, ty.Mentions b → beans b) (f : BinderFactory) (p : Param)
    (hf : ctx.registry.factory? p = some f) :
    (bindAs ctx f p ty).Keeps (Answered ctx.registry kept names beans) fun _ =>
      Declares ctx.registry kept names p ty := by
  induction ty using Ty.bean_induction generalizing f p with
  | optional t ih =>
    rw [bindAs]
    exact (ih (fun b hb => hbeans b (.optional hb)) f p hf).imp fun _ hdeclares segment hpins =>
      hdeclares segment hpins.of_optional
  | bean name json message b ih =>
    rw [bindAs_bean]
    refine keeps_build hdeclared hf fun hbean => ?_
    subst hbean
    have hfields := fun field hfield => ih field hfield fun c hc => hbeans c (.field rfl hfield hc)
    refine (keeps_bindBean hnames (hbeans b (.bean rfl)) hfields).imp fun _ hdeclares => ?_
    intro segment hpins
    obtain ⟨hflavor, hfresh, index, field, hfield, hwritable, hpins⟩ := hpins.of_bean hf
    have hdeclared := hdeclares hflavor hfresh index field hfield hwritable
    rw [Nat.zero_add] at hdeclared
    exact hdeclared segment hpins
  | plain ty hoptional hbean =>
    rw [bindAs_plain hoptional hbean]
    exact keeps_build hdeclared hf fun _ => keeps_throw _

theorem keeps_bind (hdeclared : ctx.declared = some names)
    (hnames : ∀ b c, beans b → beans c → b.name = c.name → ¬kept b.name → b = c)
    (hbeans : ∀ b, p.ty.Mentions b → beans b) :
    (bind ctx p).Keeps (Answered ctx.registry kept names beans) fun _ =>
      Declares ctx.registry kept names p p.ty := by
  unfold bind
  split
  next hnone =>
    exact ((aside_report _).keeps _).bind fun _ _ => keeps_pure (declares_of_unbound hnone)
  next f hf =>
    exact (keeps_bindAs hdeclared hnames p.ty hbeans f p hf).bind fun _ hdeclares =>
      keeps_pure hdeclares

end

end Binding

end RestDispatch
