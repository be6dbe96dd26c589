import RestDispatch.Proofs.Binding.Factory

/-!
# Kept bean bindings

Binding the parameters of a handler reads the bindings that are kept and adds to them, whether
it succeeds or not.  Two rules are followed through it.  An invariant of what is kept holds
behind every step if it holds in front of it, and gives a property of what the steps return.
And what was kept before makes no difference to steps that do not ask for any of it.  The second
is a property that goes from parts of a step to the whole; binding has such a property as soon as
the look-ups of its beans have it.

A type is bound field by field when it is a bean, behind optional wrappers; all other types are
bound as a whole.  So the proofs go by induction over a type with a case for its beans.
-/

namespace RestDispatch

/-- The bean that a type is bound as, field by field. -/
def Ty.bean? : Ty → Option BeanType
  | .object o => o.bean
  | _ => none

mutual

/-- A statement about types follows for beans from their fields, and for optional types from the
type that they wrap. -/
theorem Ty.bean_induction {motive : Ty → Prop} (optional : ∀ t, motive t → motive (.optional t))
    (bean : ∀ name json message b, (∀ f ∈ b.fields, motive f.ty) →
      motive (.object ⟨name, json, message, some b⟩))
    (plain : ∀ ty, ty.isOptional = false → ty.bean? = none → motive ty) : ∀ ty, motive ty
  | .optional t => optional t (Ty.bean_induction optional bean plain t)
  | .object ⟨name, json, message, some ⟨bean', initial, fields⟩⟩ =>
    bean name json message ⟨bean', initial, fields⟩
      (BeanField.bean_induction optional bean plain fields)
  | .object ⟨_, _, _, none⟩ => plain _ rfl rfl
  | .string | .bool | .char | .integer _ | .single | .double | .bytes | .list _ | .set _
  | .array _ | .map _ | .cookie | .headers | .parsed _ => plain _ rfl rfl

theorem BeanField.bean_induction {motive : Ty → Prop}
    (optional : ∀ t, motive t → motive (.optional t))
    (bean : ∀ name json message b, (∀ f ∈ b.fields, motive f.ty) →
      motive (.object ⟨name, json, message, some b⟩))
    (plain : ∀ ty, ty.isOptional = false → ty.bean? = none → motive ty) :
    ∀ fields : List BeanField, ∀ f ∈ fields, motive f.ty
  | [] => fun _ h => absurd h List.not_mem_nil
  | ⟨_, ty, _, _, _⟩ :: rest => List.forall_mem_cons.mpr
    ⟨Ty.bean_induction optional bean plain ty, BeanField.bean_induction optional bean plain rest⟩

end

/-- The parameter that a field of a bean is bound like. -/
def BeanField.param (bean : String) (index : Nat) (f : BeanField) : Param :=
  ⟨f.name, f.ty, index, f.annotations, .bean bean⟩

/-- A type is bound as a bean, or has a field at some depth that is. -/
inductive Ty.Mentions : Ty → BeanType → Prop
  | optional {t : Ty} {b : BeanType} : Mentions t b → Mentions (.optional t) b
  | bean {o : ObjectType} {b : BeanType} : o.bean = some b → Mentions (.object o) b
  | field {o : ObjectType} {b c : BeanType} {f : BeanField} : o.bean = some b → f ∈ b.fields →
      Mentions f.ty c → Mentions (.object o) c

namespace Deploying

variable {α β : Type}

theorem run_bind (step : Deploying α) (next : α → Deploying β) (s : DeployState) :
    (step >>= next).run.run s =
      match step.run.run s with
      | (.ok a, t) => (next a).run.run t
      | (.error e, t) => (.error e, t) := by
  change (match step.run.run s with | (r, t) => (ExceptT.bindCont next r).run t) = _
  rcases step.run.run s with ⟨_ | _, t⟩ <;> rfl

theorem run_map (f : α → β) (step : Deploying α) (s : DeployState) :
    (ExceptT.map f step).run.run s = ((step.run.run s).1.map f, (step.run.run s).2) := by
  change (f <$> step).run.run s = _
  rw [map_eq_pure_bind, run_bind]
  rcases step.run.run s with ⟨_ | _, t⟩ <;> rfl

theorem run_tryCatch (step : Deploying α) (handle : Error → Deploying α)
    (s : DeployState) :
    (tryCatch step handle).run.run s =
      match step.run.run s with
      | (.ok a, t) => (.ok a, t)
      | (.error e, t) => (handle e).run.run t := by
  have htry : (tryCatch step handle).run = (ExceptT.tryCatch step handle).run := rfl
  rw [htry, ExceptT.tryCatch, ExceptT.run_mk]
  simp only [bind, StateT.bind, StateT.run, ExceptT.run]
  rcases step s with ⟨e | a, t⟩ <;> rfl

theorem run_observing (step : Deploying α) (s : DeployState) :
    (observing step : Deploying (Except Error α)).run.run s =
      (.ok (step.run.run s).1, (step.run.run s).2) := by
  change (tryCatch (step >>= fun a => pure (.ok a)) fun e => pure (.error e) :
    Deploying (Except Error α)).run.run s = _
  rw [run_tryCatch, run_bind]
  rcases step.run.run s with ⟨e | a, t⟩ <;> rfl

theorem run_cached (key : String × BeanFlavor) (build : Deploying BeanBinding) (s : DeployState) :
    (Binding.cached key build).run.run s =
      match s.beans.get? key with
      | some kept => (.ok kept, s)
      | none =>
        match build.run.run s with
        | (.ok b, t) =>
          (.ok (t.beans.keepFirst key b).1, { t with beans := (t.beans.keepFirst key b).2 })
        | (.error e, t) => (.error e, t) := by
  have hget : (get : Deploying DeployState).run.run s = (.ok s, s) := rfl
  simp only [Binding.cached, run_bind, hget]
  cases s.beans.get? key with
  | some kept => rfl
  | none =>
    simp only [run_bind]
    rcases build.run.run s with ⟨e | b, t⟩ <;> rfl

/-- A step has nothing to do with what is kept. -/
def Aside (step : Deploying α) : Prop :=
  ∃ outcome events, ∀ s, step.run.run s = (outcome, { s with events := s.events ++ events })

theorem aside_pure (a : α) : (pure a : Deploying α).Aside :=
  ⟨.ok a, [], fun s => by rw [List.append_nil]; rfl⟩

theorem aside_throw (e : Error) : (throw e : Deploying α).Aside :=
  ⟨.error e, [], fun s => by rw [List.append_nil]; rfl⟩

theorem aside_lift (x : Except Error α) : (lift x).Aside := by
  cases x with
  | ok a => exact aside_pure a
  | error e => exact aside_throw e

theorem aside_report (e : Event) : (report e).Aside := ⟨.ok (), [e], fun _ => rfl⟩

theorem Aside.bind {step : Deploying α} {next : α → Deploying β} (hstep : step.Aside)
    (hnext : ∀ a, (next a).Aside) : (step >>= next).Aside := by
  obtain ⟨outcome, events, hstep⟩ := hstep
  cases outcome with
  | error e => exact ⟨.error e, events, fun s => by rw [run_bind, hstep]⟩
  | ok a =>
    obtain ⟨outcome, more, hnext⟩ := hnext a
    refine ⟨outcome, events ++ more, fun s => ?_⟩
    rw [run_bind, hstep, ← List.append_assoc]
    exact hnext _

theorem Aside.map {step : Deploying α} (hstep : step.Aside) (f : α → β) :
    Aside (ExceptT.map f step) := by
  obtain ⟨outcome, events, hstep⟩ := hstep
  exact ⟨outcome.map f, events, fun s => by rw [run_map, hstep]⟩

/-- A property that a step has if it has nothing to do with what is kept, or if its parts have
the property. -/
structure Composes (P : ∀ {α : Type}, Deploying α → Prop) : Prop where
  aside {α : Type} {step : Deploying α} : step.Aside → P step
  bind {α β : Type} {step : Deploying α} {next : α → Deploying β} :
    P step → (∀ a, P (next a)) → P (step >>= next)

theorem Composes.map {P : ∀ {α : Type}, Deploying α → Prop} (hP : Composes P)
    {step : Deploying α} (hstep : P step) (f : α → β) : P (ExceptT.map f step) := by
  change P (f <$> step)
  rw [map_eq_pure_bind]
  exact hP.bind hstep fun a => hP.aside (aside_pure (f a))

section

variable {I : BeanCache → Prop} {Q : α → Prop} {R : β → Prop}

/-- A step keeps an invariant of the kept bindings, whether it fails or not, and what it returns
has a property. -/
def Keeps (I : BeanCache → Prop) (Q : α → Prop) (step : Deploying α) : Prop :=
  ∀ s, I s.beans →
    I (step.run.run s).2.beans ∧ ∀ a, (step.run.run s).1 = .ok a → Q a

theorem keeps_pure {a : α} (ha : Q a) : (pure a : Deploying α).Keeps I Q := by
  intro s hs
  refine ⟨hs, fun b h => ?_⟩
  cases h
  exact ha

theorem keeps_throw (e : Error) : (throw e : Deploying α).Keeps I Q :=
  fun _ hs => ⟨hs, fun a h => by cases h⟩

theorem keeps_lift {x : Except Error α} (hx : ReturnsOnly Q x) : (lift x).Keeps I Q := by
  cases x with
  | ok a => exact keeps_pure (hx a rfl)
  | error e => exact keeps_throw e

theorem Aside.keeps {step : Deploying α} (h : step.Aside) (I : BeanCache → Prop) :
    step.Keeps I fun _ => True := by
  obtain ⟨outcome, events, hstep⟩ := h
  intro s hs
  rw [hstep]
  exact ⟨hs, fun _ _ => trivial⟩

theorem Keeps.imp {step : Deploying α} {S : α → Prop} (h : step.Keeps I Q) (hQS : ∀ a, Q a → S a) :
    step.Keeps I S :=
  fun s hs => ⟨(h s hs).1, fun a ha => hQS a ((h s hs).2 a ha)⟩

theorem Keeps.bind {step : Deploying α} {next : α → Deploying β} (hstep : step.Keeps I Q)
    (hnext : ∀ a, Q a → (next a).Keeps I R) : (step >>= next).Keeps I R := by
  intro s hs
  have hstep := hstep s hs
  rw [run_bind]
  rcases hrun : step.run.run s with ⟨e | a, t⟩
  · rw [hrun] at hstep
    exact ⟨hstep.1, fun a h => by cases h⟩
  · rw [hrun] at hstep
    exact hnext a (hstep.2 a rfl) t hstep.1

theorem Keeps.map {step : Deploying α} {P : Prop} (h : step.Keeps I fun _ => P) (f : α → β) :
    Keeps I (fun _ => P) (ExceptT.map f step) := by
  intro s hs
  have hstep := h s hs
  rw [run_map]
  refine ⟨hstep.1, fun b hb => ?_⟩
  cases hrun : (step.run.run s).1 with
  | ok a => exact hstep.2 a hrun
  | error e =>
    rw [hrun] at hb
    cases hb

/-- A binding that is asked for has a property if all that are kept under its key have it and
what is built has it, and if it can then be kept. -/
theorem keeps_cached {key : String × BeanFlavor} {build : Deploying BeanBinding}
    {Q : BeanBinding → Prop} (hkept : ∀ cache b, I cache → cache.get? key = some b → Q b)
    (hbuild : build.Keeps I Q) (hadd : ∀ cache b, I cache → Q b → I (cache ++ [(key, b)])) :
    (Binding.cached key build).Keeps I Q := by
  intro s hs
  have hbuilt := hbuild s hs
  rw [run_cached]
  cases hfound : s.beans.get? key with
  | some kept =>
    refine ⟨hs, fun b h => ?_⟩
    cases h
    exact hkept _ _ hs hfound
  | none =>
    rcases hrun : build.run.run s with ⟨e | b, t⟩
    · rw [hrun] at hbuilt
      exact ⟨hbuilt.1, fun b h => by cases h⟩
    · rw [hrun] at hbuilt
      -- The fields of the bean may have kept a binding of it by now.
      dsimp only [BeanCache.keepFirst]
      cases hfirst : t.beans.get? key with
      | some first =>
        refine ⟨hbuilt.1, fun b h => ?_⟩
        cases h
        exact hkept _ _ hbuilt.1 hfirst
      | none =>
        refine ⟨hadd _ _ hbuilt.1 (hbuilt.2 b rfl), fun b' h => ?_⟩
        cases h
        exact hbuilt.2 b rfl

end

/-- What was kept before makes no difference to a step: it returns the same without it, and
keeps the same in addition. -/
def Overlooks (kept : BeanCache) (step : Deploying α) : Prop :=
  ∀ s t, s.beans = kept ++ t.beans →
    (step.run.run s).1 = (step.run.run t).1 ∧
    (step.run.run s).2.beans = kept ++ (step.run.run t).2.beans

section

variable {kept : BeanCache}

theorem Aside.overlooks {step : Deploying α} (h : step.Aside) (kept : BeanCache) :
    step.Overlooks kept := by
  obtain ⟨outcome, events, hstep⟩ := h
  intro s t hst
  rw [hstep, hstep]
  exact ⟨rfl, hst⟩

theorem Overlooks.bind {step : Deploying α} {next : α → Deploying β}
    (hstep : step.Overlooks kept) (hnext : ∀ a, (next a).Overlooks kept) :
    (step >>= next).Overlooks kept := by
  intro s t h
  have hstep := hstep s t h
  rw [run_bind, run_bind]
  rcases hs : step.run.run s with ⟨outcome, s'⟩
  rcases ht : step.run.run t with ⟨outcome', t'⟩
  rw [hs, ht] at hstep
  obtain ⟨houtcome, hbeans⟩ := hstep
  obtain rfl : outcome = outcome' := houtcome
  cases outcome with
  | error e => exact ⟨rfl, hbeans⟩
  | ok a => exact hnext a s' t' hbeans

theorem composes_overlooks (kept : BeanCache) : Composes fun step => step.Overlooks kept :=
  ⟨fun h => h.overlooks kept, Overlooks.bind⟩

theorem get?_append (kept cache : BeanCache) (key : String × BeanFlavor) :
    (kept ++ cache).get? key = (kept.get? key).or (cache.get? key) :=
  List.lookup_append

theorem overlooks_cached {key : String × BeanFlavor} (hkey : kept.get? key = none)
    {build : Deploying BeanBinding} (hbuild : build.Overlooks kept) :
    (Binding.cached key build).Overlooks kept := by
  intro s t h
  have hget {cache cache' : BeanCache} (h : cache = kept ++ cache') :
      cache.get? key = cache'.get? key := by
    rw [h, get?_append, hkey, Option.none_or]
  have hbuilt := hbuild s t h
  rw [run_cached, run_cached, hget h]
  cases t.beans.get? key with
  | some first => exact ⟨rfl, h⟩
  | none =>
    rcases hs : build.run.run s with ⟨outcome, s'⟩
    rcases ht : build.run.run t with ⟨outcome', t'⟩
    rw [hs, ht] at hbuilt
    obtain ⟨houtcome, hbeans⟩ := hbuilt
    obtain rfl : outcome = outcome' := houtcome
    cases outcome with
    | error e => exact ⟨rfl, hbeans⟩
    | ok b =>
      dsimp only [BeanCache.keepFirst]
      rw [hget hbeans]
      cases t'.beans.get? key with
      | some first => exact ⟨rfl, hbeans⟩
      | none => exact ⟨rfl, by rw [hbeans, List.append_assoc]⟩

end

end Deploying

namespace BinderFactory

open Deploying

variable {ctx : BindingContext} {p : Param}

theorem aside_bindPath : (bindPath ctx p).Aside := by
  unfold bindPath
  split
  · exact aside_lift _
  · split
    · exact aside_lift _
    · refine (aside_lift _).bind fun (lookup, binder) => ?_
      dsimp only
      split
      · exact (aside_report _).bind fun _ => aside_pure binder
      · exact aside_pure binder

theorem aside_bindFixedBody : (bindFixedBody ctx p).Aside := by
  unfold bindFixedBody
  split
  · exact aside_throw _
  · split
    · exact aside_throw _
    · exact (aside_report _).bind fun _ => aside_pure _

/-- Only beans have to do with what is kept. -/
theorem aside_build {f : BinderFactory} (hf : f ≠ .bean) (bean : Deploying Binder) :
    (f.build ctx p bean).Aside := by
  cases f with
  | path => exact aside_bindPath
  | matrix | query | unannotated | header | cookie | custom => exact aside_lift _
  | fixedBody => exact aside_bindFixedBody
  | body => exact (aside_report _).bind fun _ => aside_pure _
  | bean => exact absurd rfl hf

end BinderFactory

namespace Binding

open Deploying

variable {ctx : BindingContext} {f : BinderFactory} {p : Param}

/-- What becomes of a field once its binder is known. -/
theorem aside_fieldBinding (bean name : String) (setter : Setter) (binder : Option Binder) :
    Aside (match binder with
      | none => do
        report (skippedEvent bean name)
        return none
      | some binder => return some (FieldBinding.mk name setter binder)) := by
  cases binder with
  | none => exact (aside_report _).bind fun _ => aside_pure none
  | some binder => exact aside_pure _

theorem bindAs_plain {ty : Ty} (hoptional : ty.isOptional = false) (hbean : ty.bean? = none) :
    bindAs ctx f p ty =
      f.build ctx p (throw (.configuration (.notABean p.describe p.ty.name))) := by
  match ty with
  | .object ⟨_, _, _, none⟩ => rfl
  | .string | .bool | .char | .integer _ | .single | .double | .bytes | .list _ | .set _
  | .array _ | .map _ | .cookie | .headers | .parsed _ => rfl

theorem bindAs_bean (name : String) (json : Option JsonCodec) (message : Option MessageCodec)
    (b : BeanType) : bindAs ctx f p (.object ⟨name, json, message, some b⟩) =
      f.build ctx p (bindBean ctx p b) := rfl

section

variable {P : ∀ {α : Type}, Deploying α → Prop} (hP : Composes P)

include hP

theorem composes_build {bean : Deploying Binder} (hbean : P bean) : P (f.build ctx p bean) := by
  by_cases hf : f = .bean
  · rw [hf]
    exact hbean
  · exact hP.aside (BinderFactory.aside_build hf bean)

theorem composes_bindField {bean : String} {flavor : BeanFlavor} {index : Nat} {field : BeanField}
    (hfield : ∀ f p, P (bindAs ctx f p field.ty)) :
    P (bindField ctx bean flavor index field) := by
  obtain ⟨name, ty, annotations, direct, setter⟩ := field
  unfold bindField
  split
  · exact hP.aside (aside_pure _)
  next setter _ =>
    have hrest (binder : Option Binder) := hP.aside (aside_fieldBinding bean name setter binder)
    cases flavor with
    | query => exact hP.bind (hP.aside (aside_lift _)) hrest
    | request =>
      dsimp only
      split
      · exact hP.bind (hP.aside (aside_report _)) fun _ =>
          hP.bind (hP.aside (aside_pure _)) hrest
      next f _ => exact hP.bind (hP.map (hfield f _) some) hrest

theorem composes_bindFields {bean : String} {flavor : BeanFlavor} {index : Nat}
    {fields : List BeanField} (hfields : ∀ field ∈ fields, ∀ f p, P (bindAs ctx f p field.ty)) :
    P (bindFields ctx bean flavor index fields) := by
  induction fields generalizing index with
  | nil => exact hP.aside (aside_pure _)
  | cons field rest ih =>
    obtain ⟨hfield, hrest⟩ := List.forall_mem_cons.mp hfields
    unfold bindFields
    exact hP.bind (composes_bindField hP hfield) fun bound =>
      hP.bind (ih hrest) fun others => hP.aside (aside_pure _)

/-- What binds a parameter has a property if the look-ups of its beans have it. -/
theorem composes_bindAs (ty : Ty)
    (hcached : ∀ b, ty.Mentions b → ∀ flavor {build : Deploying BeanBinding}, P build →
      P (cached (b.name, flavor) build))
    (f : BinderFactory) (p : Param) : P (bindAs ctx f p ty) := by
  induction ty using Ty.bean_induction generalizing f p with
  | optional t ih =>
    rw [bindAs]
    exact ih (fun b hb => hcached b (.optional hb)) f p
  | bean name json message b ih =>
    rw [bindAs_bean]
    refine composes_build hP ?_
    have hfields : ∀ field ∈ b.fields, ∀ f p, P (bindAs ctx f p field.ty) :=
      fun field hfield => ih field hfield fun c hc => hcached c (.field rfl hfield hc)
    have hbean : ∀ {build : Deploying BeanBinding}, P build →
        P (cached (b.name, flavor p) build) := hcached b (.bean rfl) (flavor p)
    obtain ⟨bean, initial, fields⟩ := b
    unfold bindBean
    refine hP.bind (hbean ?_) fun _ => hP.bind (hP.aside (aside_report _)) fun _ =>
      hP.aside (aside_pure _)
    split
    · exact hP.aside (aside_throw _)
    · exact hP.bind (composes_bindFields hP hfields) fun bound => hP.aside (aside_pure _)
  | plain ty hoptional hbean =>
    rw [bindAs_plain hoptional hbean]
    exact composes_build hP (hP.aside (aside_throw _))

theorem composes_bind
    (hcached : ∀ b, p.ty.Mentions b → ∀ flavor {build : Deploying BeanBinding}, P build →
      P (cached (b.name, flavor) build)) :
    P (bind ctx p) := by
  unfold bind
  split
  · exact hP.bind (hP.aside (aside_report _)) fun _ => hP.aside (aside_pure _)
  · exact hP.bind (composes_bindAs hP p.ty hcached _ p) fun _ => hP.aside (aside_pure _)

end

/-- Binding a parameter overlooks what is kept, as long as none of its beans is among it. -/
theorem overlooks_bind {kept : BeanCache}
    (hkept : ∀ b, p.ty.Mentions b → ∀ flavor, kept.get? (b.name, flavor) = none) :
    (bind ctx p).Overlooks kept :=
  composes_bind (composes_overlooks kept) fun b hb flavor _ => overlooks_cached (hkept b hb flavor)

end Binding

end RestDispatch
