import RestDispatch.Dispatch.Deployment
import RestDispatch.Proofs.Binding.Factory
import RestDispatch.Proofs.Route.Registration

/-!
# Binders of deployed handlers

The factories of the standard registry build built-in binders, as long as the formats they are
given are built in.  A deployment adds the routes of its handlers one by one, and others may
register interceptors, advices and formats in between; so by induction over its history every
handler of the table has built-in binders, and what such a handler cannot resolve, beans left
aside, is a fault of the client.
-/

namespace RestDispatch

/-- A format that a parameter names for its body is a built-in one. -/
def Binder.FixesBuiltIn : Binder → Prop
  | .fixedBody b => b.format.IsBuiltIn
  | _ => True

theorem Binder.BoundTo.isBuiltIn {ctx : BindingContext} {p : Param} {b : Binder}
    (hb : b.BoundTo ctx p) (hty : p.ty.Deserializes) (hfixed : b.FixesBuiltIn)
    (hregistry : ctx.registry = .standard) (hreaders : ∀ f ∈ ctx.formats.readers, f.IsBuiltIn) :
    b.IsBuiltIn := by
  cases hb with
  | named | entries | headers | cookies | bean => trivial
  | body => exact ⟨hreaders, hty⟩
  | fixedBody => exact ⟨hfixed, hty⟩
  | custom f hmem =>
    rw [hregistry] at hmem
    simp [Registry.standard] at hmem

/-- Whether a binder is made without beans and without a format of its own. -/
def Binder.isDirect : Binder → Bool
  | .bean _ | .fixedBody _ => false
  | _ => true

theorem Binder.of_isDirect (b : Binder) (h : b.isDirect = true) :
    b.isBean = false ∧ b.FixesBuiltIn := by
  cases b with
  | bean | fixedBody => exact Bool.noConfusion h
  | _ => exact ⟨rfl, trivial⟩

theorem FormatTable.isBuiltIn_of_mem_standard :
    ∀ f ∈ FormatTable.standard.readers, f.IsBuiltIn :=
  List.forall_mem_cons.mpr ⟨.json false, List.forall_mem_singleton.mpr .protobuf⟩

variable {σ : Type}

/-- The binders of a handler are built in as far as its parameters are. -/
def RouteHandler.BindsBuiltIn (h : RouteHandler σ) : Prop :=
  ∀ q ∈ h.params, q.1.ty.Deserializes → ∀ b, q.2 = some b → b.FixesBuiltIn → b.IsBuiltIn

namespace RouteHandler

/-- Arguments that cannot be resolved without beans are the fault of the request. -/
theorem BindsBuiltIn.failsOnly_arguments {h : RouteHandler σ} (hh : h.BindsBuiltIn)
    (hparams : ∀ q ∈ h.params, q.1.ty.Deserializes ∧
      ∀ b, q.2 = some b → b.isBean = false ∧ b.FixesBuiltIn) (r : Request) :
    FailsOnly Error.IsRequestFault (h.arguments r) := by
  refine failsOnly_mapM ?_
  rintro ⟨p, binder⟩ hq
  obtain ⟨hty, hbinder⟩ := hparams _ hq
  cases binder with
  | none => exact failsOnly_ok _
  | some b =>
    obtain ⟨hbean, hfixed⟩ := hbinder b rfl
    have hb : b.IsBuiltIn := hh _ hq hty b rfl hfixed
    exact Binder.failsOnly_resolve hb hbean r

end RouteHandler

namespace Deployment

open Deploying

/-- The parameters of a method as they are declared. -/
def paramsOf (m : HandlerMethod) (index : Nat) : List ParamDeclaration → List Param
  | [] => []
  | p :: rest => ⟨p.name, p.ty, index, p.annotations, .method m⟩ :: paramsOf m (index + 1) rest

/-- What holds of each parameter as it is bound holds of all of them. -/
theorem yields_bindParams_of {ctx : BindingContext} (Q : Param → Option Binder → Prop)
    (hbind : ∀ p, (Binding.bind ctx p).Yields (Q p)) (m : HandlerMethod) (index : Nat)
    (params : List ParamDeclaration) :
    (bindParams ctx m index params).Yields fun bound => ∀ q ∈ bound, Q q.1 q.2 := by
  induction params generalizing index with
  | nil => exact yields_pure (by simp)
  | cons p rest ih =>
    rw [bindParams]
    refine (hbind _).bind fun binder hbinder => ?_
    refine (ih (index + 1)).bind fun bound hbound => yields_pure ?_
    exact List.forall_mem_cons.mpr ⟨hbinder, hbound⟩

theorem yields_bindParams_paramsOf (ctx : BindingContext) (m : HandlerMethod) (index : Nat)
    (params : List ParamDeclaration) :
    (bindParams ctx m index params).Yields fun bound =>
      bound.map (·.1) = paramsOf m index params := by
  induction params generalizing index with
  | nil => exact yields_pure rfl
  | cons p rest ih =>
    rw [bindParams]
    refine Yields.of_bind fun binder => (ih (index + 1)).bind fun bound hbound => yields_pure ?_
    rw [List.map_cons, hbound, paramsOf]

/-- What holds of bound parameters holds of those of the handler. -/
theorem yields_buildRoute_of {d : Deployment σ} {h : Declaration σ}
    {Q : List (Param × Option Binder) → Prop}
    (hparams : ∀ c, (bindParams (d.context c) h.method 0 h.params).Yields Q) :
    (d.buildRoute h).Yields fun route => Q route.handler.params := by
  unfold buildRoute
  dsimp only
  split
  · exact yields_throw _
  · refine Yields.of_bind fun c => (hparams c).bind fun params hbound => ?_
    exact Yields.of_bind fun _ => Yields.of_bind fun _ => Yields.of_bind fun _ =>
      Yields.of_bind fun _ => yields_pure hbound

section

variable {d : Deployment σ} (hregistry : d.registry = .standard)
  (hreaders : ∀ f ∈ d.formats.readers, f.IsBuiltIn)

include hregistry hreaders

theorem yields_bindParams (c : RouteCondition) (m : HandlerMethod) (index : Nat)
    (params : List ParamDeclaration) :
    (bindParams (d.context c) m index params).Yields fun bound =>
      ∀ q ∈ bound, q.1.ty.Deserializes → ∀ b, q.2 = some b → b.FixesBuiltIn → b.IsBuiltIn := by
  refine yields_bindParams_of
    (fun p binder => p.ty.Deserializes → ∀ b, binder = some b → b.FixesBuiltIn → b.IsBuiltIn)
    (fun p => ?_) m index params
  exact Binding.yields_bind.imp fun binder hbound hty b hb hfixed =>
    (hbound b hb).isBuiltIn hty hfixed hregistry hreaders

theorem yields_buildRoute (h : Declaration σ) :
    (d.buildRoute h).Yields fun route => route.handler.BindsBuiltIn :=
  yields_buildRoute_of fun c => yields_bindParams hregistry hreaders c h.method 0 h.params

end

/-- A deployed handler adds its route to the table, or leaves the table as it is. -/
theorem mem_deploy {d : Deployment σ} {h : Declaration σ} {route : Route (RouteHandler σ)}
    (hroute : route ∈ (d.deploy h).deployment.router.table.routes) :
    route ∈ d.router.table.routes ∨
      ∃ s, (d.buildRoute h).run.run { beans := d.beans } = (.ok route, s) := by
  unfold deploy at hroute
  rcases hbuilt : (d.buildRoute h).run.run { beans := d.beans } with ⟨e | built, s⟩
  · rw [hbuilt] at hroute
    exact .inl hroute
  · rw [hbuilt] at hroute
    dsimp only at hroute
    by_cases hadmits : d.router.table.Admits built
    · rw [RouteTable.add_of_admits hadmits] at hroute
      rcases List.mem_cons.mp ((d.router.table.perm_place built).mem_iff.mp hroute) with heq | hmem
      · rw [heq]
        exact .inr ⟨s, rfl⟩
      · exact .inl hmem
    · obtain ⟨e, he⟩ := RouteTable.add_of_not_admits hadmits
      rw [he] at hroute
      exact .inl hroute

theorem deploy_registered (d : Deployment σ) (h : Declaration σ) :
    (d.deploy h).deployment.registry = d.registry ∧
      (d.deploy h).deployment.formats = d.formats := by
  unfold deploy
  rcases (d.buildRoute h).run.run { beans := d.beans } with ⟨e | route, s⟩
  · exact ⟨rfl, rfl⟩
  · dsimp only
    split
    · exact ⟨rfl, rfl⟩
    · exact ⟨rfl, rfl⟩

/-- Deployments in which every handler was deployed with the standard registry and with readers
of built-in formats.  Anything else may be registered between two handlers. -/
inductive Standard : Deployment σ → Prop
  | start {d : Deployment σ} : d.registry = .standard →
      (∀ f ∈ d.formats.readers, f.IsBuiltIn) → d.router.table.routes = [] → Standard d
  | configure {d d' : Deployment σ} : Standard d → d'.registry = .standard →
      (∀ f ∈ d'.formats.readers, f.IsBuiltIn) →
      d'.router.table.routes = d.router.table.routes → Standard d'
  | deploy {d : Deployment σ} (h : Declaration σ) : Standard d → Standard (d.deploy h).deployment

/-- What holds of a deployment throughout. -/
structure Sound (d : Deployment σ) : Prop where
  registry : d.registry = .standard
  readers : ∀ f ∈ d.formats.readers, f.IsBuiltIn
  routes : ∀ route ∈ d.router.table.routes, route.handler.BindsBuiltIn

theorem Sound.deploy {d : Deployment σ} (hd : d.Sound) (h : Declaration σ) :
    (d.deploy h).deployment.Sound where
  registry := by rw [(d.deploy_registered h).1, hd.registry]
  readers := by
    rw [(d.deploy_registered h).2]
    exact hd.readers
  routes route hroute := by
    rcases mem_deploy hroute with hmem | ⟨s, hbuilt⟩
    · exact hd.routes route hmem
    · exact yields_buildRoute hd.registry hd.readers h _ s route hbuilt

theorem Standard.sound {d : Deployment σ} (hd : d.Standard) : d.Sound := by
  induction hd with
  | start hregistry hreaders hempty => exact ⟨hregistry, hreaders, by simp [hempty]⟩
  | configure _ hregistry hreaders hroutes ih =>
    refine ⟨hregistry, hreaders, ?_⟩
    rw [hroutes]
    exact ih.routes
  | deploy h _ ih => exact ih.deploy h

/-- Whatever a request carries, arguments that a deployed handler cannot resolve from it without
beans are a fault of the client. -/
theorem arguments_client_fault {d : Deployment σ} (hd : d.Standard)
    {route : Route (RouteHandler σ)} (hroute : route ∈ d.router.table.routes)
    (hparams : ∀ q ∈ route.handler.params, q.1.ty.Deserializes ∧
      ∀ b, q.2 = some b → b.isBean = false ∧ b.FixesBuiltIn)
    (r : Request) (e : Error) (hfailed : route.handler.arguments r = .error e) :
    e.IsClientFault := by
  have hbinds : route.handler.BindsBuiltIn := hd.sound.routes route hroute
  exact (hbinds.failsOnly_arguments hparams r e hfailed).isClientFault

/-- Pets are known by their names. -/
def petJson : JsonCodec where
  decode j :=
    match (j.field? "name").bind Json.string? with
    | some name => .ok [("name", .string name)]
    | none => .error (.deserialization "a pet has a name")
  encode fields :=
    match fields.lookup "name" with
    | some (.string name) => .ok (.object [("name", .string name)])
    | _ => .error (.serialization "a pet has a name")

def pet : ObjectType := ⟨"Pet", some petJson, none, none⟩

/-- Replace a pet, whose number is in the path. -/
def replacePet : Declaration Unit where
  method := { name := "replace", declaring := { name := "Pets" } }
  route := { paths := ["/pets/\x7bid\x7d"], methods := [.put] }
  params := [
    { name := "id", ty := .integer .u32, annotations := [.pathVariable ⟨"", true, none⟩] },
    { name := "pet", ty := .object pet, annotations := [.requestBody true] }]
  invoker := some fun _ => pure (.value .null)

/-- A list in place of the pet. -/
def petless : Request :=
  { (Request.ofUri .put "/pets/7").addHeader "Content-Type" "application/json" with
    pathVariables := [("id", "7")]
    body := Text.bytes "[]" }

theorem deserializes_pet : pet.Deserializes where
  json codec hcodec j := by
    cases hcodec
    unfold petJson
    dsimp only
    split
    · exact failsOnly_ok _
    · exact failsOnly_error ⟨_⟩
  message codec hcodec := by cases hcodec

/-- A body that is not a pet. -/
theorem arguments_client_fault_petless :
    ∃ d : Deployment Unit, d.Standard ∧ ∃ route ∈ d.router.table.routes,
      (∀ q ∈ route.handler.params, q.1.ty.Deserializes ∧
        ∀ b, q.2 = some b → b.isBean = false ∧ b.FixesBuiltIn) ∧
      ∃ e, route.handler.arguments petless = .error e ∧ e.IsClientFault := by
  have hstandard : (((Deployment.ofOptions {}).deploy replacePet).deployment).Standard :=
    .deploy replacePet (.start rfl FormatTable.isBuiltIn_of_mem_standard rfl)
  have hrun : (((Deployment.ofOptions {}).deploy
        replacePet).deployment.router.table.routes.head?.bind fun route =>
      some ((route.handler.arguments petless).toOption.isNone,
        route.handler.params.all fun q => q.2.all Binder.isDirect)) = some (true, true) := by
    decide +kernel
  obtain ⟨route, hhead, hrun⟩ := Option.bind_eq_some_iff.mp hrun
  have hroute := List.mem_of_head? hhead
  simp only [Option.some.injEq, Prod.mk.injEq, List.all_eq_true] at hrun
  have hdeclared : route.handler.params.map (·.1) =
      paramsOf replacePet.method 0 replacePet.params := by
    rcases mem_deploy hroute with hmem | ⟨s, hbuilt⟩
    · exact absurd hmem List.not_mem_nil
    · have hyields := yields_buildRoute_of fun c => yields_bindParams_paramsOf
        ((Deployment.ofOptions {}).context c) replacePet.method 0 replacePet.params
      exact hyields _ s route hbuilt
  have hparams : ∀ q ∈ route.handler.params,
      q.1.ty.Deserializes ∧ ∀ b, q.2 = some b → b.isBean = false ∧ b.FixesBuiltIn := by
    intro q hq
    constructor
    · have hmem : q.1 ∈ paramsOf replacePet.method 0 replacePet.params := by
        rw [← hdeclared]
        exact List.mem_map_of_mem hq
      rcases List.mem_cons.mp hmem with heq | hmem
      · rw [heq]
        trivial
      · rw [List.mem_singleton.mp hmem]
        exact deserializes_pet
    · intro b hb
      have hall := hrun.2 q hq
      rw [hb] at hall
      exact b.of_isDirect hall
  rcases hfailed : route.handler.arguments petless with e | args
  · exact ⟨_, hstandard, route, hroute, hparams, e, hfailed,
      arguments_client_fault hstandard hroute hparams petless e hfailed⟩
  · have hnone := hrun.1
    rw [hfailed] at hnone
    simp [Except.toOption] at hnone

end Deployment

end RestDispatch
