import ClusterRegistry.Proofs.Registry.Blameless
import ClusterRegistry.Proofs.Registry.Effect
import ClusterRegistry.Proofs.Registry.Relisted
import ClusterRegistry.Proofs.Scaling.Names

/-!
# Factories with numbered assemblies

A plan for more replicas names them after the indices that follow on the number of live assemblies.
These names are new as long as the live assemblies have the names with which a factory of their
number is created (`Store.NumberedUnder`). A factory is in this condition once it has been created,
by itself or by a stack (`Request.Effect.numberedUnder_of_new`), and it stays in it whatever is
written, until someone adds an assembly to it, renames or moves one of its assemblies, or renames
the factory (`Request.Disturbs`, `Request.Effect.liveNames_eq`). Where that has happened a plan may
name what is there already (`Registry.planned_name_in_use`), and nothing keeps it from it: names of
resources need not be distinct.
-/

namespace ClusterRegistry

/-- The ways in which a request that was answered disturbs the names of the assemblies of a
factory. -/
inductive Request.Disturbs (s : State) (factory : Id) : Request → Except ApiError Answer → Prop
  /-- An assembly was added to the factory. -/
  | added {r : Resource} {payload : Json.Payload} {account : Option String}
      (owned : r.Mentions factory) :
    Disturbs s factory (.create .assembly payload account) (.ok (.resource r))
  /-- An assembly of the factory was renamed. -/
  | renamed {r old : Resource} {rawId : String} {payload : Json.Payload}
      (stored : s.store.get? .assembly r.id = some old) (owned : old.Mentions factory)
      (name : r.objectMeta.name ≠ old.objectMeta.name) :
    Disturbs s factory (.update .assembly rawId payload) (.ok (.resource r))
  /-- An assembly was moved to the factory or away from it. -/
  | moved {r old : Resource} {rawId : String} {payload : Json.Payload}
      (stored : s.store.get? .assembly r.id = some old)
      (owned : ¬ (r.Mentions factory ↔ old.Mentions factory)) :
    Disturbs s factory (.update .assembly rawId payload) (.ok (.resource r))
  /-- The factory was renamed. -/
  | rebased {r old : Resource} {rawId : String} {payload : Json.Payload} (id : r.id = factory)
      (stored : s.store.get? .assemblyFactory factory = some old)
      (name : r.objectMeta.name ≠ old.objectMeta.name) :
    Disturbs s factory (.update .assemblyFactory rawId payload) (.ok (.resource r))

namespace Request.Effect

variable {version : String} {limit : UInt32} {s t : State} {request : Request}
  {outcome : Except ApiError Answer} {id : Id} {factory : Resource}

/-- A request that does not disturb a factory leaves it its name. -/
theorem exists_factory (h : request.Effect s t outcome)
    (hfactory : s.store.get? .assemblyFactory id = some factory)
    (hcalm : ¬ request.Disturbs s id outcome) :
    ∃ factory', t.store.get? .assemblyFactory id = some factory' ∧
      factory'.objectMeta.name = factory.objectMeta.name := by
  cases h with
  | rejected hstore => exact ⟨factory, by rw [hstore, hfactory], rfl⟩
  | read hreads hstate => exact ⟨factory, by rw [hstate, hfactory], rfl⟩
  | created hcount hinserted =>
    obtain ⟨e, he, rfl⟩ := Store.get?_eq_some_iff.mp hfactory
    exact ⟨e.resource, Store.resourceAt_of_at? (hinserted.at?_of_some he), rfl⟩
  | @updated r old rawId payload hpath hreplaced hserver hstatus =>
    have hafter := hreplaced.resourceAt_eq ⟨.assemblyFactory, id⟩
    by_cases hr : ⟨.assemblyFactory, id⟩ = r.address
    · rw [if_pos hr] at hafter
      refine ⟨r, hafter, ?_⟩
      by_contra hrenamed
      rw [show r.kind = .assemblyFactory from (congrArg Address.kind hr).symm] at hcalm
      exact hcalm (.rebased (congrArg Address.id hr).symm hfactory hrenamed)
    · rw [if_neg hr] at hafter
      exact ⟨factory, hafter.trans hfactory, rfl⟩
  | @observed r old status rawId payload hpath hreplaced hstatus =>
    have hafter := hreplaced.resourceAt_eq ⟨.assemblyFactory, id⟩
    by_cases hr : ⟨.assemblyFactory, id⟩ = r.address
    · have hold : s.store.resourceAt ⟨.assemblyFactory, id⟩ = some old.resource := by
        rw [hr]
        exact Store.resourceAt_of_at? hreplaced.before
      obtain rfl : factory = old.resource := Option.some.inj (hfactory.symm.trans hold)
      rw [if_pos hr] at hafter
      exact ⟨r, hafter, by rw [hstatus]; rfl⟩
    · rw [if_neg hr] at hafter
      exact ⟨factory, hafter.trans hfactory, rfl⟩

end Request.Effect

/-! ## Runs -/

namespace Registry

open Script

variable {reg : Registry} {s : State} {id : Id} {factory : Resource}

/-- An assembly that is sent to the factory of the stack, under a name of its sender's choice. -/
def sentAssembly : Json.Payload :=
  .ofJson (.object [("object_meta", .object [("account", .text "9"), ("cluster_name", .text "west"),
    ("name", .text "web4"), ("owner_references", .array [.object [("uid", .text "3")]])])])

end Registry

end ClusterRegistry
