import ClusterRegistry.Proofs.Registry.Rejected
import ClusterRegistry.Proofs.Scaling.Converges
import ClusterRegistry.Proofs.Script.Runs

/-!
# Stored policies scale

A policy is stored with exactly one owner, and that is a factory which is stored
(`Store.Sound.exists_factory`). So whatever else is written, a stored horizontal policy has a plan
within its bounds (`Registry.run_planReplicas`), a stored vertical one has a recommendation where
there are readings (`Registry.run_recommendResources`), and every stored resource of a kind that has
children is described (`Registry.run_describe`).
-/

namespace ClusterRegistry

/-- A kind is that of policies if exactly one factory must own a resource of it. -/
def Kind.Scales (k : Kind) : Prop :=
  k.row.ownerRule = .exactlyOne ∧ k.owners = [.assemblyFactory]

/-- The one owner of a policy is a factory. -/
structure Resource.ScaledBy (policy : Resource) (o : OwnerReference) (factory : Id) : Prop where
  owner : policy.objectMeta.ownerReferences = [o]
  kind : o.kind = Kind.assemblyFactory.name
  uid : Id.parse o.uid = .assigned factory

/-- The factory of a policy is found through its one owner. -/
theorem Resource.ScaledBy.factory?_eq {policy : Resource} {o : OwnerReference} {factory : Id}
    (h : policy.ScaledBy o factory) : policy.factory? = some factory := by
  have hkind : (o.kind == Kind.assemblyFactory.name) = true := beq_iff_eq.mpr h.kind
  simp only [factory?, h.owner, List.find?_cons, hkind, Id.parse?, h.uid, Option.bind_eq_bind,
    Option.bind_some]

/-- A stored policy is owned by one stored factory. -/
theorem Store.Sound.exists_factory {version : String} {limit : UInt32} {s : Store} {kind : Kind}
    {id : Id} {policy : Resource} (h : s.Sound version limit) (hkind : kind.Scales)
    (hr : s.get? kind id = some policy) :
    ∃ o fid factory, policy.ScaledBy o fid ∧ s.get? .assemblyFactory fid = some factory := by
  obtain ⟨hrule, howners⟩ := hkind
  have hcount := ((Resource.check_eq_ok_iff policy limit).mp (h.settled hr).admissible).1.ownerCount
  rw [h.kind_eq hr, hrule] at hcount
  obtain ⟨o, ho⟩ := List.length_eq_one_iff.mp (of_decide_eq_true hcount)
  obtain ⟨parent, hparent, hname, fid, hparse, hhas⟩ :=
    (h.linked hr).owners o (ho ▸ List.mem_singleton_self o)
  rw [h.kind_eq hr, howners] at hparent
  obtain rfl := List.mem_singleton.mp hparent
  obtain ⟨factory, hfactory⟩ := Option.isSome_iff_exists.mp hhas
  exact ⟨o, fid, factory, ⟨ho, hname, hparse⟩, hfactory⟩

namespace Registry

open Script

variable {reg : Registry} {s : State} {kind : Kind} {id fid : Id} {rawId : String}
  {policy factory : Resource} {o : OwnerReference}

/-- What is stored is found under every text that names its id. -/
theorem run_get (hid : pathId kind rawId = .ok id) {r : Resource}
    (hr : s.store.get? kind id = some r) : (get kind rawId).run s = (.ok r, s) := by
  rw [get, hid]
  exact run_fetch hr

theorem run_factoryOf (h : policy.ScaledBy o fid)
    (hfactory : s.store.get? .assemblyFactory fid = some factory) :
    (factoryOf policy).run s = (.ok factory, s) := by
  rw [factoryOf, h.factory?_eq]
  exact run_fetch hfactory

/-- A stored horizontal policy is answered by its factory with the plan that its own fields and
status, the factory, and the live assemblies make. -/
theorem run_planReplicas_of_scaledBy {envelope : Envelope} {p : HorizontalScaling}
    (hid : pathId .horizontalScaling rawId = .ok id)
    (hr : s.store.get? .horizontalScaling id = some ⟨.horizontalScaling, envelope, p⟩)
    (hscaled : (⟨.horizontalScaling, envelope, p⟩ : Resource).ScaledBy o fid)
    (hfactory : s.store.get? .assemblyFactory fid = some factory) :
    (planReplicas rawId).run s =
      (.ok ⟨factory, .ofPolicy p.spec envelope.status factory
        (s.store.list .assembly { parent := some factory.id })⟩, s) :=
  (run_bind_of_ok (run_get hid hr)).trans (run_bind_of_ok (run_factoryOf hscaled hfactory))

/-- A stored horizontal policy is answered by its factory with a plan within its bounds. -/
theorem run_planReplicas (hs : s.store.Sound reg.apiVersion reg.maxReplicas)
    (hid : pathId .horizontalScaling rawId = .ok id)
    (hr : s.store.get? .horizontalScaling id = some policy) :
    ∃ envelope p o fid factory plan,
      policy = ⟨.horizontalScaling, envelope, (p : HorizontalScaling)⟩ ∧
      policy.ScaledBy o fid ∧ s.store.get? .assemblyFactory fid = some factory ∧
      (planReplicas rawId).run s = (.ok ⟨factory, plan⟩, s) ∧ plan.factory = fid ∧
      p.spec.minReplicas ≤ plan.desiredReplicas ∧ plan.desiredReplicas ≤ p.spec.maxReplicas := by
  obtain ⟨o, fid, factory, hscaled, hfactory⟩ := hs.exists_factory ⟨rfl, rfl⟩ hr
  have hbounds := ((Resource.check_eq_ok_iff policy _).mp (hs.settled hr).admissible).1
  have hkind := hs.kind_eq hr
  obtain ⟨kind, envelope, spec⟩ := policy
  obtain rfl : kind = .horizontalScaling := hkind
  have hrun := run_planReplicas_of_scaledBy hid hr hscaled hfactory
  obtain ⟨hlower, hupper⟩ := ScalingPlan.clamp_within hbounds.bounds _
  exact ⟨envelope, spec, o, fid, factory, _, rfl, hscaled, hfactory, hrun, hs.id_eq hfactory,
    hlower, hupper⟩

/-- A stored vertical policy is answered by a recommendation for its factory, or by the reason why
there are no readings. -/
theorem run_recommendResources (hs : s.store.Sound reg.apiVersion reg.maxReplicas)
    (hid : pathId .verticalScaling rawId = .ok id)
    (hr : s.store.get? .verticalScaling id = some policy) :
    ∃ o fid factory, policy.ScaledBy o fid ∧ s.store.get? .assemblyFactory fid = some factory ∧
      (∀ usage, reg.metrics fid = .ok usage → ∃ recommendation,
        (reg.recommendResources rawId).run s = (.ok recommendation, s) ∧
        recommendation.factory = fid) ∧
      ∀ cause, reg.metrics fid = .error cause →
        (reg.recommendResources rawId).run s = (.error (.metricsFailed id cause), s) := by
  obtain ⟨o, fid, factory, hscaled, hfactory⟩ := hs.exists_factory ⟨rfl, rfl⟩ hr
  have hkind := hs.kind_eq hr
  have hpolicy := hs.id_eq hr
  obtain rfl := hs.id_eq hfactory
  obtain ⟨kind, envelope, spec⟩ := policy
  obtain rfl : kind = .verticalScaling := hkind
  -- up to the readings nothing can go wrong
  have hrun : (reg.recommendResources rawId).run s =
      (ofExcept ((reg.metrics factory.id).mapError (.metricsFailed id)) >>= fun usage =>
        pure (Recommendation.ofPolicy (spec : VerticalScaling).spec factory.id usage)).run s := by
    rw [← hpolicy]
    exact (run_bind_of_ok (run_get hid hr)).trans (run_bind_of_ok (run_factoryOf hscaled hfactory))
  refine ⟨o, factory.id, factory, hscaled, hfactory, fun usage husage => ?_, fun cause hcause => ?_⟩
  · rw [husage] at hrun
    exact ⟨_, hrun, rfl⟩
  · rw [hcause] at hrun
    exact hrun

/-- A stored resource of a kind that has children is described by a list of them. -/
theorem run_describe (hs : s.store.Sound reg.apiVersion reg.maxReplicas) {child : Kind}
    (hchild : kind.row.child = some child) (hid : pathId kind rawId = .ok id) {r : Resource}
    (hr : s.store.get? kind id = some r) :
    (reg.describe kind rawId).run s =
      (.ok (reg.asList child (s.store.list child { parent := some id })), s) := by
  rw [describe, run_bind, run_get hid hr]
  simp only [hs.kind_eq hr, hchild, hs.id_eq hr]
  rfl

end Registry

end ClusterRegistry
