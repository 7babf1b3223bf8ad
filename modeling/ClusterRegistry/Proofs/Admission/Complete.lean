import ClusterRegistry.Admission.Requirements

/-!
# Complete resources

The check of a payload collects the paths of all requirements that are not met. That none is
left says `Resource.Complete`: one statement for each requirement on envelopes, and one for
all requirements on the fields of the kind. The check looks at the envelope only through the
name, the account, the cluster and the `uid`s of the owners, so a resource whose envelope was
changed elsewhere still passes (`Resource.check_withEnvelope`).
-/

namespace ClusterRegistry

/-- Nothing that the catalogue requires of a resource is missing. -/
structure Resource.Complete (r : Resource) : Prop where
  name : r.objectMeta.name ≠ ""
  account : r.kind.row.needsAccount = true → r.account ≠ ""
  cluster : r.kind.row.needsCluster = true → r.objectMeta.clusterName ≠ ""
  ownerCount : r.kind.row.ownerRule.allows r.objectMeta.ownerReferences.length = true
  ownerUids : ∀ o ∈ r.objectMeta.ownerReferences, o.uid ≠ ""
  spec : ∀ q ∈ r.kind.form.requirements, q.met r.spec = true

/-- No path is reported exactly if every requirement is met. -/
theorem unmet_eq_nil_iff {α : Type} (requirements : List (Requirement α)) (a : α) :
    unmet requirements a = [] ↔ ∀ q ∈ requirements, q.met a = true := by
  rw [unmet, List.map_eq_nil_iff, List.filter_eq_nil_iff]
  refine forall_congr' fun q => imp_congr_right fun _ => ?_
  rw [Bool.not_eq_true', Bool.not_eq_false]

namespace Resource

/-- The requirements on the envelope, one by one. -/
theorem envelope_met_iff (k : Kind) (m : ObjectMeta) :
    (∀ q ∈ k.envelopeRequirements, q.met m = true) ↔
      m.name ≠ "" ∧ (k.row.needsAccount = true → m.account ≠ "") ∧
        (k.row.needsCluster = true → m.clusterName ≠ "") ∧
        k.row.ownerRule.allows m.ownerReferences.length = true ∧
        ∀ o ∈ m.ownerReferences, o.uid ≠ "" := by
  simp only [Kind.envelopeRequirements, filled, List.forall_mem_cons, List.not_mem_nil,
    false_implies, implies_true, and_true, bne_iff_ne, Bool.or_eq_true, Bool.not_eq_true',
    List.all_eq_true]
  cases k.row.needsAccount <;> cases k.row.needsCluster <;> simp

/-- A resource passes the check exactly if it is complete and asks for no more replicas than
allowed. -/
theorem check_eq_ok_iff (r : Resource) (limit : UInt32) :
    r.check limit = .ok () ↔ r.Complete ∧ r.exceeds limit = false := by
  have hfaults : r.check limit = .ok () ↔ r.faults limit = [] := by
    unfold check
    split <;> simp_all
  rw [hfaults, faults, missing, List.append_eq_nil_iff, List.append_eq_nil_iff,
    unmet_eq_nil_iff, unmet_eq_nil_iff, envelope_met_iff]
  constructor
  · rintro ⟨⟨⟨hname, haccount, hcluster, hcount, huids⟩, hspec⟩, hlimit⟩
    refine ⟨⟨hname, haccount, hcluster, hcount, huids, hspec⟩, ?_⟩
    cases hexceeds : r.exceeds limit with
    | false => rfl
    | true => rw [hexceeds] at hlimit; cases hlimit
  · rintro ⟨h, hlimit⟩
    refine ⟨⟨⟨h.name, h.account, h.cluster, h.ownerCount, h.ownerUids⟩, h.spec⟩, ?_⟩
    rw [hlimit]
    rfl

/-- A resource that passes goes on to pass in another envelope with the same name, cluster and
owners, and with an account where one is needed. -/
theorem check_withEnvelope {r : Resource} {limit : UInt32} (h : r.check limit = .ok ())
    (e : Envelope) (hname : e.objectMeta.name = r.objectMeta.name)
    (hcluster : e.objectMeta.clusterName = r.objectMeta.clusterName)
    (howners : e.objectMeta.ownerReferences.map (·.uid) =
      r.objectMeta.ownerReferences.map (·.uid))
    (haccount : r.kind.row.needsAccount = true → e.objectMeta.account ≠ "") :
    ({ r with envelope := e } : Resource).check limit = .ok () := by
  obtain ⟨hr, hlimit⟩ := (check_eq_ok_iff r limit).mp h
  have hlength : e.objectMeta.ownerReferences.length = r.objectMeta.ownerReferences.length := by
    rw [← List.length_map (f := fun o : OwnerReference => o.uid), howners, List.length_map]
  refine (check_eq_ok_iff _ limit).mpr ⟨⟨?_, haccount, ?_, ?_, ?_, hr.spec⟩, hlimit⟩
  · show e.objectMeta.name ≠ ""
    rw [hname]
    exact hr.name
  · show r.kind.row.needsCluster = true → e.objectMeta.clusterName ≠ ""
    rw [hcluster]
    exact hr.cluster
  · show r.kind.row.ownerRule.allows e.objectMeta.ownerReferences.length = true
    rw [hlength]
    exact hr.ownerCount
  · intro o ho
    have hmem : o.uid ∈ r.objectMeta.ownerReferences.map (·.uid) :=
      howners ▸ List.mem_map.mpr ⟨o, ho, rfl⟩
    obtain ⟨o', ho', huid⟩ := List.mem_map.mp hmem
    exact huid ▸ hr.ownerUids o' ho'

/-- A resource that passes has no owner reference that refers to nothing. -/
theorem isBlank_of_check {r : Resource} {limit : UInt32} (h : r.check limit = .ok ())
    {o : OwnerReference} (ho : o ∈ r.objectMeta.ownerReferences) : o.isBlank = false := by
  have huid : o.uid ≠ "" := ((check_eq_ok_iff r limit).mp h).1.ownerUids o ho
  simp [OwnerReference.isBlank, huid]

end Resource

/-! ## Required references

A reference that must be given is also a field that must be filled in, so a resource that
passes has none that is blank. -/

/-- A text that must not be blank. -/
theorem filled_met {α : Type} {path : String} {get : α → String} {a : α}
    (h : (filled path get).met a = true) : get a ≠ "" := by
  simpa [filled] using h

/-- A text among the items of a list that must have none blank. -/
theorem eachFilled_met {α β : Type} {path : String} {items : α → List β} {get : β → String}
    {a : α} (h : (eachFilled path items get).met a = true) {b : β} (hb : b ∈ items a) :
    get b ≠ "" := by
  simp only [eachFilled, Bool.and_eq_true, List.all_eq_true, bne_iff_ne] at h
  exact h.2 b hb

theorem Factory.required_reference_filled {g : Factory}
    (h : ∀ q ∈ Factory.form.requirements, q.met g = true) {f : FieldReference}
    (hf : f ∈ Factory.form.references g) (hrequired : f.required = true) : f.uid ≠ "" := by
  simp only [Factory.form, List.forall_mem_cons] at h
  simp only [Factory.form, List.mem_cons, List.not_mem_nil, or_false] at hf
  rcases hf with rfl | rfl
  · have hplan : g.plan ≠ "" := filled_met h.2.1
    exact hplan
  · cases hrequired

theorem Datacenter.references_filled {d : Datacenter}
    (h : ∀ q ∈ Datacenter.form.requirements, q.met d = true) {f : FieldReference}
    (hf : f ∈ Datacenter.form.references d) : f.uid ≠ "" := by
  simp only [Datacenter.form, List.forall_mem_cons] at h
  obtain ⟨hnodes, hnetworks, hstorage, -⟩ := h
  simp only [Datacenter.form, List.mem_append, List.mem_map, List.mem_singleton] at hf
  rcases hf with (⟨s, hs, rfl⟩ | ⟨s, hs, rfl⟩) | rfl
  · exact eachFilled_met hnodes hs
  · exact eachFilled_met hnetworks hs
  · have hfilled : d.storage ≠ "" := filled_met hstorage
    exact hfilled

/-- A resource whose fields meet all requirements leaves no required reference blank. -/
theorem Kind.required_reference_filled (k : Kind) {spec : k.Spec}
    (h : ∀ q ∈ k.form.requirements, q.met spec = true) {f : FieldReference}
    (hf : f ∈ k.form.references spec) (hrequired : f.required = true) : f.uid ≠ "" := by
  cases k
  case assemblyFactory => exact Factory.required_reference_filled h hf hrequired
  case stacksFactory => exact Factory.required_reference_filled h hf hrequired
  case datacenter => exact Datacenter.references_filled h hf
  case job =>
    rw [List.mem_singleton.mp hf] at hrequired
    cases hrequired
  case storagePool =>
    have hconnector : spec.connectorId ≠ "" := filled_met (h _ List.mem_cons_self)
    rw [List.mem_singleton.mp hf]
    exact hconnector
  case permission =>
    have hrole : spec.roleId ≠ "" := filled_met (h _ List.mem_cons_self)
    rw [List.mem_singleton.mp hf]
    exact hrole
  -- no other kind has references in its fields
  all_goals cases hf

/-! ## Required numbers -/

/-- A complete resource that asks for replicas asks for at least one. -/
theorem Resource.Complete.replicas_pos {r : Resource} (h : r.Complete) {n : UInt32}
    (hn : r.replicas = some n) : 1 ≤ n := by
  have hfactory : ∀ f : Factory, (∀ q ∈ Factory.form.requirements, q.met f = true) →
      1 ≤ f.replicas := by
    intro f hf
    have hne : f.replicas ≠ 0 := by simpa using hf _ List.mem_cons_self
    rw [UInt32.le_iff_toNat_le]
    exact Nat.one_le_iff_ne_zero.mpr fun hzero => hne (UInt32.toNat_inj.mp hzero)
  obtain ⟨kind, envelope, spec⟩ := r
  cases kind
  case assemblyFactory => exact Option.some.inj hn ▸ hfactory spec h.spec
  case stacksFactory => exact Option.some.inj hn ▸ hfactory spec h.spec
  -- no other kind is run as replicas
  all_goals cases hn

/-- The bounds of a complete horizontal policy do not cross. -/
theorem Resource.Complete.bounds {envelope : Envelope} {p : HorizontalScaling}
    (h : (⟨.horizontalScaling, envelope, p⟩ : Resource).Complete) :
    p.spec.minReplicas ≤ p.spec.maxReplicas := by
  -- the bounds are the last of three requirements
  have hmet := h.spec _ (List.mem_cons_of_mem _ (List.mem_cons_of_mem _ List.mem_cons_self))
  exact of_decide_eq_true hmet

end ClusterRegistry
