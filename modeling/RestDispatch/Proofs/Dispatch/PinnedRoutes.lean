import Mathlib.Data.List.Induction
import RestDispatch.Proofs.Binding.PinnedVariables
import RestDispatch.Proofs.Dispatch.History
import RestDispatch.Type.Bean

/-!
# Routes and the path variables that their parameters pin

Handlers are deployed one after the other, and the beans of each are kept for the next.  What a
handler pins outside of beans that an earlier one mentions, its route declares; and a handler
that mentions no such bean is bound as if it were the first one.

A bean that was kept for an earlier handler is the exception.  It is not bound again, so that
its route is not asked for what the fields of the bean pin.
-/

namespace RestDispatch

variable {σ : Type}

/-- A handler has a parameter of a type that mentions a bean. -/
def Declaration.Mentions (h : Declaration σ) (b : BeanType) : Prop :=
  ∃ p ∈ h.params, p.ty.Mentions b

/-- Among the beans that a handler mentions, a name stands for one. -/
def Declaration.NamesOnce (h : Declaration σ) : Prop :=
  ∀ b c, h.Mentions b → h.Mentions c → b.name = c.name → b = c

namespace Deployment

open Deploying Binding

/-- Some handler mentions a bean of a name. -/
def MentionedBy (hs : List (Declaration σ)) (name : String) : Prop :=
  ∃ h ∈ hs, ∃ b, h.Mentions b ∧ b.name = name

/-- Deploy handlers one after the other; some of them may fail. -/
def deployAll (d : Deployment σ) (hs : List (Declaration σ)) : Deployment σ :=
  hs.foldl (fun d h => (d.deploy h).deployment) d

/-- What comes of binding the parameters of a handler to a route. -/
def bound (d : Deployment σ) (h : Declaration σ) (c : RouteCondition) :
    Except Error (List (Param × Option Binder)) :=
  ((bindParams (d.context c) h.method 0 h.params).run.run { beans := d.beans }).1

theorem deployAll_append (d : Deployment σ) (hs : List (Declaration σ)) (h : Declaration σ) :
    d.deployAll (hs ++ [h]) = ((d.deployAll hs).deploy h).deployment :=
  List.foldl_append

section

variable {ctx : BindingContext} {kept : String → Prop} {names : List String}
  {beans : BeanType → Prop}

theorem keeps_bindParams (hdeclared : ctx.declared = some names)
    (hnames : ∀ b c, beans b → beans c → b.name = c.name → ¬kept b.name → b = c)
    (m : HandlerMethod) (index : Nat) (params : List ParamDeclaration)
    (hbeans : ∀ p ∈ params, ∀ b, p.ty.Mentions b → beans b) :
    (bindParams ctx m index params).Keeps (Answered ctx.registry kept names beans) fun bound =>
      ∀ q ∈ bound, Declares ctx.registry kept names q.1 q.1.ty := by
  induction params generalizing index with
  | nil => exact keeps_pure fun q hq => absurd hq List.not_mem_nil
  | cons p rest ih =>
    obtain ⟨hp, hrest⟩ := List.forall_mem_cons.mp hbeans
    rw [bindParams]
    refine (keeps_bind hdeclared hnames hp).bind fun binder hdeclares =>
      (ih (index + 1) hrest).bind fun bound hbound => keeps_pure ?_
    exact List.forall_mem_cons.mpr ⟨hdeclares, hbound⟩

theorem overlooks_bindParams (ctx : BindingContext) {kept : BeanCache} (m : HandlerMethod)
    (index : Nat) (params : List ParamDeclaration)
    (hkept : ∀ p ∈ params, ∀ b, p.ty.Mentions b → ∀ flavor, kept.get? (b.name, flavor) = none) :
    (bindParams ctx m index params).Overlooks kept := by
  induction params generalizing index with
  | nil => exact (aside_pure _).overlooks kept
  | cons p rest ih =>
    obtain ⟨hp, hrest⟩ := List.forall_mem_cons.mp hkept
    rw [bindParams]
    exact (overlooks_bind hp).bind fun binder => (ih (index + 1) hrest).bind fun bound =>
      (aside_pure _).overlooks kept

end

variable {d : Deployment σ} {h : Declaration σ}

/-- Building a route keeps beans that are answered for, and the route declares what its
parameters pin. -/
theorem keeps_buildRoute (d : Deployment σ) (kept : String → Prop) {c : RouteCondition}
    (hc : condition h = .ok c)
    (hnames : ∀ b b', h.Mentions b → h.Mentions b' → b.name = b'.name → ¬kept b.name → b = b') :
    (d.buildRoute h).Keeps (Answered d.registry kept c.pathVariables h.Mentions) fun route =>
      ∀ q ∈ route.handler.params,
        Declares d.registry kept route.condition.pathVariables q.1 q.1.ty := by
  unfold buildRoute
  dsimp only
  split
  · exact keeps_throw _
  · refine (keeps_lift (Q := (· = c)) fun c' hc' => ?_).bind ?_
    · rw [hc] at hc'
      exact (Except.ok.inj hc').symm
    · rintro c rfl
      have hbound := keeps_bindParams (show (d.context c).declared = _ from rfl) hnames h.method 0
        h.params fun p hp b hb => ⟨p, hp, hb⟩
      refine hbound.bind fun params hdeclares => ?_
      refine ((aside_lift _).keeps _).bind fun writer _ => ?_
      refine ((aside_lift _).keeps _).bind fun matcher _ => ?_
      refine ((aside_report _).keeps _).bind fun _ _ => ?_
      exact ((aside_report _).keeps _).bind fun _ _ => keeps_pure hdeclares

/-- A handler whose route cannot be read keeps nothing. -/
theorem keeps_buildRoute_of_error {e : Error} (he : condition h = .error e)
    (I : BeanCache → Prop) : (d.buildRoute h).Keeps I fun _ => False := by
  unfold buildRoute
  dsimp only
  split
  · exact keeps_throw _
  · rw [he]
    exact (keeps_throw (Q := fun _ => False) e).bind fun _ h => h.elim

/-- Deploying a handler changes what is kept and the routes, and nothing else. -/
theorem exists_deploy_eq (d : Deployment σ) (h : Declaration σ) :
    ∃ router, (d.deploy h).deployment =
      { d with
        beans := ((d.buildRoute h).run.run { beans := d.beans }).2.beans
        router := router } := by
  unfold deploy
  rcases (d.buildRoute h).run.run { beans := d.beans } with ⟨e | route, s⟩
  · exact ⟨d.router, rfl⟩
  · dsimp only
    split
    · exact ⟨d.router, rfl⟩
    · exact ⟨_, rfl⟩

theorem exists_deployAll_eq (d : Deployment σ) (hs : List (Declaration σ)) :
    ∃ router, d.deployAll hs = { d with beans := (d.deployAll hs).beans, router := router } := by
  induction hs using List.reverseRecOn with
  | nil => exact ⟨d.router, rfl⟩
  | append_singleton hs h ih =>
    obtain ⟨router, hall⟩ := ih
    obtain ⟨router', hdeploy⟩ := exists_deploy_eq (d.deployAll hs) h
    rw [deployAll_append, hdeploy, hall]
    exact ⟨router', rfl⟩

/-- What is kept behind a handler was kept before or is of a bean that the handler mentions. -/
theorem forall_beans_deploy {K : String → Prop} (hd : ∀ entry ∈ d.beans, K entry.1.1)
    (hh : ∀ b, h.Mentions b → K b.name) :
    ∀ entry ∈ (d.deploy h).deployment.beans, K entry.1.1 := by
  obtain ⟨router, hdeploy⟩ := exists_deploy_eq d h
  rw [hdeploy]
  cases hc : condition h with
  | error e =>
    exact (keeps_buildRoute_of_error hc (fun cache => ∀ entry ∈ cache, K entry.1.1) _ hd).1
  | ok c =>
    have hkept := (keeps_buildRoute d K hc
      (fun b _ hb _ _ hfresh => absurd (hh b hb) hfresh) { beans := d.beans }
      fun entry hentry => .inl (hd entry hentry)).1
    intro entry hentry
    rcases hkept entry hentry with hentry | ⟨b, hb, hname, -⟩
    · exact hentry
    · exact hname ▸ hh b hb

theorem MentionedBy.append {hs : List (Declaration σ)} {name : String}
    (hmentioned : MentionedBy hs name) (more : List (Declaration σ)) :
    MentionedBy (hs ++ more) name := by
  obtain ⟨h, hh, hb⟩ := hmentioned
  exact ⟨h, List.mem_append_left more hh, hb⟩

/-- Whatever is kept is of a bean that some handler mentioned. -/
theorem forall_beans_deployAll (hd : d.beans = []) (hs : List (Declaration σ)) :
    ∀ entry ∈ (d.deployAll hs).beans, MentionedBy hs entry.1.1 := by
  induction hs using List.reverseRecOn with
  | nil =>
    intro entry hentry
    rw [deployAll, List.foldl_nil, hd] at hentry
    exact absurd hentry List.not_mem_nil
  | append_singleton hs h ih =>
    rw [deployAll_append]
    refine forall_beans_deploy (fun entry hentry => (ih entry hentry).append [h]) fun b hb => ?_
    exact ⟨h, List.mem_append_right hs List.mem_cons_self, b, hb, rfl⟩

/-- What the route of a handler declares, if the handlers before it were deployed or refused. -/
structure RouteDeclares (registry : Registry) (earlier : List (Declaration σ))
    (h : Declaration σ) (route : Route (RouteHandler σ)) : Prop where
  condition : Deployment.condition h = .ok route.condition
  params : route.handler.params.map (·.1) = paramsOf h.method 0 h.params
  /-- What a parameter pins that is bound as a matrix variable. -/
  own : ∀ q ∈ route.handler.params, registry.factory? q.1 = some .matrix → ∀ v segment,
    q.1.annotations.matrixVariable? = some (v, some segment) → segment ≠ "" →
    segment ∈ route.condition.pathVariables
  /-- What a parameter pins at any depth, outside of beans that earlier handlers mention. -/
  pinned : h.NamesOnce → ∀ q ∈ route.handler.params, ∀ segment,
    Pins registry (MentionedBy earlier) q.1 q.1.ty segment →
    segment ∈ route.condition.pathVariables

/-- The route that is built for a handler declares what its parameters pin outside of beans that
were mentioned before. -/
theorem yields_buildRoute_declares {earlier : List (Declaration σ)}
    (hkept : ∀ entry ∈ d.beans, MentionedBy earlier entry.1.1) {route : Route (RouteHandler σ)}
    {s : DeployState} (hbuilt : (d.buildRoute h).run.run { beans := d.beans } = (.ok route, s)) :
    RouteDeclares d.registry earlier h route := by
  have hcondition := (yields_buildRoute_builds d h _ s route hbuilt).condition
  have hdeclares (kept : String → Prop) (hkept : ∀ entry ∈ d.beans, kept entry.1.1)
      (hnames : ∀ b b', h.Mentions b → h.Mentions b' → b.name = b'.name → ¬kept b.name → b = b') :=
    (keeps_buildRoute d kept hcondition hnames { beans := d.beans }
      fun entry hentry => .inl (hkept entry hentry)).2 route (by rw [hbuilt])
  exact {
    condition := hcondition
    params := (yields_buildRoute_of fun c => yields_bindParams_paramsOf (d.context c) h.method 0
      h.params) _ s route hbuilt
    own := fun q hq hf v segment hv hsegment =>
      hdeclares (fun _ => True) (fun _ _ => trivial)
        (fun _ _ _ _ _ hfresh => absurd trivial hfresh) q hq segment (.own hf hv hsegment)
    pinned := fun hnames q hq => hdeclares _ hkept
      (fun b b' hb hb' hname _ => hnames b b' hb hb' hname) q hq }

/-- Every route of a deployment is that of one of the handlers that were deployed, and declares
what the handler pins outside of beans that were mentioned before. -/
theorem exists_routeDeclares (hbeans : d.beans = []) (hroutes : d.router.table.routes = [])
    (hs : List (Declaration σ)) {route : Route (RouteHandler σ)}
    (hroute : route ∈ (d.deployAll hs).router.table.routes) :
    ∃ earlier h later, hs = earlier ++ h :: later ∧ RouteDeclares d.registry earlier h route := by
  induction hs using List.reverseRecOn with
  | nil =>
    rw [deployAll, List.foldl_nil, hroutes] at hroute
    exact absurd hroute List.not_mem_nil
  | append_singleton hs h ih =>
    rw [deployAll_append] at hroute
    rcases mem_deploy hroute with hmem | ⟨s, hbuilt⟩
    · obtain ⟨earlier, h', later, hsplit, hdeclares⟩ := ih hmem
      exact ⟨earlier, h', later ++ [h], by rw [hsplit]; simp, hdeclares⟩
    · have hdeclares := yields_buildRoute_declares (forall_beans_deployAll hbeans hs) hbuilt
      obtain ⟨router, hall⟩ := exists_deployAll_eq d hs
      rw [show (d.deployAll hs).registry = d.registry by rw [hall]] at hdeclares
      exact ⟨hs, h, [], rfl, hdeclares⟩

/-- A handler none of whose beans was mentioned before is bound as if it were the first one. -/
theorem bound_deployAll (hbeans : d.beans = []) {hs : List (Declaration σ)}
    (hfresh : ∀ b, h.Mentions b → ¬MentionedBy hs b.name) (c : RouteCondition) :
    (d.deployAll hs).bound h c = d.bound h c := by
  have hkept (b : BeanType) (hb : h.Mentions b) (flavor : BeanFlavor) :
      (d.deployAll hs).beans.get? (b.name, flavor) = none := by
    refine List.lookup_eq_none_iff.mpr fun entry hentry => ?_
    rw [bne_iff_ne]
    intro hkey
    have hmentioned := forall_beans_deployAll hbeans hs entry hentry
    rw [← hkey] at hmentioned
    exact hfresh b hb hmentioned
  have hcontext : (d.deployAll hs).context c = d.context c := by
    obtain ⟨router, hall⟩ := exists_deployAll_eq d hs
    rw [hall]
    rfl
  have hoverlooks := overlooks_bindParams (d.context c) h.method 0 h.params
    fun p hp b hb => hkept b ⟨p, hp, hb⟩
  rw [bound, bound, hcontext, hbeans]
  exact (hoverlooks { beans := (d.deployAll hs).beans } {} (List.append_nil _).symm).1

/-- In every sequence of deployments, a route declares what is pinned outside of beans that were
mentioned before, and a handler that mentions none of those is bound whatever was deployed. -/
theorem deployAll_declares (d : Deployment σ) (hbeans : d.beans = [])
    (hroutes : d.router.table.routes = []) (hs : List (Declaration σ)) :
    (∀ route ∈ (d.deployAll hs).router.table.routes,
      ∃ earlier h later, hs = earlier ++ h :: later ∧ RouteDeclares d.registry earlier h route) ∧
    ∀ h : Declaration σ, (∀ b, h.Mentions b → ¬MentionedBy hs b.name) →
      ∀ c, (d.deployAll hs).bound h c = d.bound h c :=
  ⟨fun _ hroute => exists_routeDeclares hbeans hroutes hs hroute,
    fun _ hfresh c => bound_deployAll hbeans hfresh c⟩

/-- A car; its color is read from the segment of the path that names the car. -/
def car : BeanType :=
  ((BeanType.declare "Car" (some [])).field "color" .string
    ⟨fun fields v => .ok (fields ++ [("color", v)])⟩).annotate "color"
    (.matrixVariable ⟨"", true, none⟩ (some "car"))

/-- A handler for cars at a path, which need not name one. -/
def drive (path : String) : Declaration Unit where
  method := { name := "drive", declaring := { name := "Cars" } }
  route := { paths := [path] }
  params := [{ name := "car", ty := .object ⟨"Car", none, none, some car⟩,
               annotations := [.requestBean] }]
  invoker := some fun _ => pure (.value .null)

/-- Whatever a handler for cars is bound with, it pins the segment of the car. -/
theorem exists_pins_drive (kept : String → Prop) (hkept : ¬kept "Car") {path : String}
    {params : List (Param × Option Binder)}
    (hparams : params.map (·.1) = paramsOf (drive path).method 0 (drive path).params) :
    ∃ q ∈ params, Pins .standard kept q.1 q.1.ty "car" := by
  obtain ⟨q, rfl, hq⟩ := List.map_eq_singleton_iff.mp hparams
  refine ⟨q, List.mem_singleton_self q, ?_⟩
  rw [hq]
  exact .field rfl rfl rfl hkept (show car.fields[0]? = some _ from rfl) rfl
    (.own rfl rfl (by decide))

theorem namesOnce_drive (path : String) : (drive path).NamesOnce := by
  have hcar (b : BeanType) : (drive path).Mentions b → b = car := by
    rintro ⟨p, hp, hb⟩
    obtain rfl := List.mem_singleton.mp hp
    cases hb with
    | bean hbean => exact (Option.some.inj hbean).symm
    | field hbean hfield hcolor =>
      obtain rfl := Option.some.inj hbean
      obtain rfl := List.mem_singleton.mp hfield
      cases hcolor
  intro b c hb hc _
  rw [hcar b hb, hcar c hc]

theorem deployAll_declares_cars : ∃ route ∈
    ((Deployment.ofOptions {}).deployAll [drive "/cars/{car}"]).router.table.routes,
    "car" ∈ route.condition.pathVariables := by
  have hdeployed : ((Deployment.ofOptions {}).deployAll
      [drive "/cars/{car}"]).router.table.routes.head?.isSome = true := by
    decide +kernel
  obtain ⟨route, hhead⟩ := Option.isSome_iff_exists.mp hdeployed
  have hroute := List.mem_of_head? hhead
  obtain ⟨earlier, h, later, hsplit, hdeclares⟩ :=
    (deployAll_declares (.ofOptions {}) rfl rfl [drive "/cars/{car}"]).1 route hroute
  obtain ⟨rfl, rfl, -⟩ : earlier = [] ∧ h = drive "/cars/{car}" ∧ later = [] := by
    simpa [List.cons_eq_append_iff] using hsplit
  have hfresh : ¬MentionedBy ([] : List (Declaration Unit)) "Car" :=
    fun ⟨_, hh, _⟩ => absurd hh List.not_mem_nil
  obtain ⟨q, hq, hpins⟩ := exists_pins_drive _ hfresh hdeclares.params
  exact ⟨route, hroute, hdeclares.pinned (namesOnce_drive _) q hq _ hpins⟩

/-- Behind a handler for cars, one at `/boats` is deployed that reads the color of a car. -/
theorem not_deployAll_declares :
    ¬∀ d : Deployment Unit, d.beans = [] → d.router.table.routes = [] →
      ∀ hs, ∀ route ∈ (d.deployAll hs).router.table.routes,
        ∀ q ∈ route.handler.params, ∀ segment,
          Pins d.registry (fun _ => False) q.1 q.1.ty segment →
          segment ∈ route.condition.pathVariables := by
  intro hall
  have hdeployed : ((Deployment.ofOptions {}).deployAll
      [drive "/cars/{car}", drive "/boats"]).router.table.routes.any
        (fun route => route.condition.pathVariables.isEmpty) = true := by
    decide +kernel
  obtain ⟨route, hroute, hempty⟩ := List.any_eq_true.mp hdeployed
  obtain ⟨earlier, h, later, hsplit, hdeclares⟩ :=
    exists_routeDeclares (d := Deployment.ofOptions {}) rfl rfl _ hroute
  have hmem : h ∈ [drive "/cars/{car}", drive "/boats"] := by
    rw [hsplit]
    exact List.mem_append_right earlier List.mem_cons_self
  obtain ⟨path, rfl⟩ : ∃ path, h = drive path := by
    rcases List.mem_cons.mp hmem with hcars | hboats
    · exact ⟨_, hcars⟩
    · exact ⟨_, List.mem_singleton.mp hboats⟩
  obtain ⟨q, hq, hpins⟩ := exists_pins_drive (fun _ => False) not_false hdeclares.params
  have hdeclared := hall (.ofOptions {}) rfl rfl _ route hroute q hq "car" hpins
  rw [List.isEmpty_iff.mp hempty] at hdeclared
  exact List.not_mem_nil hdeclared

end Deployment

end RestDispatch
