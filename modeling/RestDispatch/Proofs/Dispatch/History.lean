import RestDispatch.Proofs.Binding.Deployed

/-!
# Histories of deployments

Between two handlers a deployment may change in every way but one: its table grows only by
deploying.  So every handler in the table was built once, from its declaration and from the
deployment as it was then, and what is shown of building holds throughout.
-/

namespace RestDispatch

namespace Deployment

open Deploying

variable {σ : Type}

/-- What a deployment builds from a declaration. -/
structure Builds (d : Deployment σ) (h : Declaration σ) (route : Route (RouteHandler σ)) :
    Prop where
  condition : condition h = .ok route.condition
  params : ∃ s s', (bindParams (d.context route.condition) h.method 0 h.params).run.run s =
    (.ok route.handler.params, s')
  writer : ResultWriter.of h.method h.returns d.formats d.options = .ok route.handler.writer

theorem yields_buildRoute_builds (d : Deployment σ) (h : Declaration σ) :
    (d.buildRoute h).Yields (d.Builds h) := by
  unfold buildRoute
  dsimp only
  split
  · exact yields_throw _
  · refine (yields_lift (Q := fun c => Deployment.condition h = .ok c) fun c hc => hc).bind
      fun c hcondition => ?_
    refine Yields.bind (Q := fun params => ∃ s s',
      (bindParams (d.context c) h.method 0 h.params).run.run s = (.ok params, s'))
      (fun s s' params hrun => ⟨s, s', hrun⟩) fun params hparams => ?_
    refine (yields_lift (Q := fun w => ResultWriter.of h.method h.returns d.formats d.options =
      .ok w) fun w hw => hw).bind fun w hwriter => ?_
    exact Yields.of_bind fun _ => Yields.of_bind fun _ => Yields.of_bind fun _ =>
      yields_pure ⟨hcondition, hparams, hwriter⟩

/-- Deployments with any registry, formats and options, all of whose routes were deployed. -/
inductive History : Deployment σ → Prop
  | start {d : Deployment σ} : d.router.table.routes = [] → History d
  | configure {d d' : Deployment σ} : History d →
      d'.router.table.routes = d.router.table.routes → History d'
  | deploy {d : Deployment σ} (h : Declaration σ) : History d → History (d.deploy h).deployment

/-- Every route of a deployment was built from a declaration by the deployment of its time. -/
theorem History.exists_builds {d : Deployment σ} (hd : d.History)
    {route : Route (RouteHandler σ)} (hroute : route ∈ d.router.table.routes) :
    ∃ (d : Deployment σ) (h : Declaration σ), d.Builds h route := by
  induction hd with
  | start hempty =>
    rw [hempty] at hroute
    exact absurd hroute List.not_mem_nil
  | configure _ hroutes ih =>
    rw [hroutes] at hroute
    exact ih hroute
  | @deploy d h _ ih =>
    rcases mem_deploy hroute with hmem | ⟨s, hbuilt⟩
    · exact ih hmem
    · exact ⟨d, h, yields_buildRoute_builds d h _ s route hbuilt⟩

end Deployment

end RestDispatch
