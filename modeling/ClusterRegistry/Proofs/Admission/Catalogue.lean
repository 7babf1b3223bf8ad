import Mathlib.Data.List.Forall2
import Mathlib.Data.List.Nodup
import ClusterRegistry.Proofs.Admission.Complete

/-!
# What the catalogue demands

`Resource.demands` says what clients have to send, kind by kind: the statements that must hold of a
resource, each with the path under which it is reported if it does not. The check goes by the
requirements in the form of the kind instead, and by a limit on replicas that it looks at by itself.
Each requirement asks for one demand (`Kind.asks_fields`), save that a factory's demand on its
replicas is asked for in two places, of which at most one can complain
(`Factory.mem_faults_iff`, `Resource.replicas_not_mem_missing`). So the check passes exactly what
meets all demands, and reports every other one once (`Resource.check_exact`).
-/

namespace ClusterRegistry

/-- Something that is demanded of a resource, with the path under which it is reported. -/
structure Demand where
  path : String
  holds : Prop

/-! ## The catalogue -/

namespace Kind

/-- The kinds that belong to the whole site and to no account. -/
def siteWide : List Kind :=
  [.node, .network, .datacenter, .storagePool, .storageConnector, .license, .settingsMap, .plan,
    .role, .permission]

/-- The kinds whose resources stand in a cluster. -/
def clustered : List Kind := [.assembly, .assemblyFactory, .stacksFactory, .team]

/-- How many owner references a resource of a kind may have. -/
def OwnerCount : Kind → Nat → Prop
  | .buildConfig, n | .build, n | .imageReference, n | .imageMarks, n | .service, n
  | .endpoint, n => 1 ≤ n
  | .ingress, n => 2 ≤ n
  | .horizontalScaling, n | .verticalScaling, n => n = 1
  | _, _ => True

/-- What is demanded of the metadata of a resource. -/
def metaDemands (k : Kind) (m : ObjectMeta) : List Demand :=
  [⟨"name", m.name ≠ ""⟩,
    ⟨"account", k ∉ siteWide → m.account ≠ ""⟩,
    ⟨"cluster_name", k ∈ clustered → m.clusterName ≠ ""⟩,
    ⟨"owner_references", k.OwnerCount m.ownerReferences.length⟩,
    ⟨"owner_references.uid", ∀ o ∈ m.ownerReferences, o.uid ≠ ""⟩]

end Kind

/-- A table has something to say under a key. -/
def Table.Fills (t : Table String String) (key : String) : Prop :=
  ∃ s, t.get? key = some s ∧ s ≠ ""

/-- What is demanded of a factory that may have a limited number of replicas. -/
def Factory.demands (limit : UInt32) (f : Factory) : List Demand :=
  [⟨"replicas", 1 ≤ f.replicas ∧ f.replicas ≤ limit⟩,
    ⟨"plan", f.plan ≠ ""⟩,
    ⟨"resources.compute_type", f.resources.Fills "compute_type"⟩,
    ⟨"resources.storage_type", f.resources.Fills "storage_type"⟩]

/-- What is demanded of the fields that a kind has of its own. -/
def Kind.fieldDemands (limit : UInt32) : (k : Kind) → k.Spec → List Demand
  | .assemblyFactory, f => Factory.demands limit f
  | .stacksFactory, f => Factory.demands limit f
  | .plan, p => [⟨"category", p.category ≠ ""⟩, ⟨"version", p.version ≠ ""⟩]
  | .node, n => [⟨"node_ip", n.nodeIp ≠ ""⟩]
  | .volume, v => [⟨"mount_path", v.mountPath ≠ ""⟩, ⟨"allocated", v.allocated ≠ ""⟩]
  | .job, j => [⟨"spec.group", j.spec.group ≠ ""⟩, ⟨"spec.action", j.spec.action ≠ ""⟩]
  | .secret, s =>
    [⟨"secret_type", s.secretType ≠ ""⟩, ⟨"metadata.origin", s.metadata.Fills "origin"⟩]
  | .service, s => [⟨"spec.service_type", s.spec.serviceType ≠ ""⟩]
  | .endpoint, e =>
    [⟨"subsets", e.subsets.addresses ≠ [] ∨ e.subsets.unreadyAddresses ≠ [] ∨
      e.subsets.ports ≠ []⟩]
  | .ingress, i =>
    [⟨"spec.rules.host", i.spec.rules ≠ [] ∧ ∀ rule ∈ i.spec.rules, rule.host ≠ ""⟩]
  | .horizontalScaling, h =>
    [⟨"scale_type", h.scaleType ≠ ""⟩, ⟨"state", h.state ≠ ""⟩,
      ⟨"spec.max_replicas", h.spec.minReplicas ≤ h.spec.maxReplicas⟩]
  | .verticalScaling, v => [⟨"scale_type", v.scaleType ≠ ""⟩]
  | .team, t => [⟨"metadata.origin", t.metadata.Fills "origin"⟩]
  | .permission, p => [⟨"role_id", p.roleId ≠ ""⟩]
  | .storagePool, s => [⟨"connector_id", s.connectorId ≠ ""⟩]
  | .storageConnector, s => [⟨"host_ip", s.hostIp ≠ ""⟩, ⟨"storage_type", s.storageType ≠ ""⟩]
  | .network, n =>
    [⟨"network_type", n.networkType ≠ ""⟩, ⟨"subnet_ip", n.subnetIp ≠ ""⟩,
      ⟨"netmask", n.netmask ≠ ""⟩, ⟨"gateway", n.gateway ≠ ""⟩]
  | .datacenter, d =>
    [⟨"nodes", d.nodes ≠ [] ∧ ∀ id ∈ d.nodes, id ≠ ""⟩,
      ⟨"networks", d.networks ≠ [] ∧ ∀ id ∈ d.networks, id ≠ ""⟩,
      ⟨"storage", d.storage ≠ ""⟩]
  | .license, l => [⟨"product", l.product ≠ ""⟩]
  | .settingsMap, s => [⟨"metadata.origin", s.metadata.Fills "origin"⟩]
  | .assembly, _ | .buildConfig, _ | .build, _ | .imageReference, _ | .imageMarks, _ | .origin, _
  | .role, _ => []

/-- All that is demanded of a resource. -/
def Resource.demands (limit : UInt32) (r : Resource) : List Demand :=
  r.kind.metaDemands r.objectMeta ++ r.kind.fieldDemands limit r.spec

/-! ## Requirements ask for demands -/

/-- A requirement asks for a demand: it goes by the same path and is met if the demand holds. -/
structure Requirement.Asks {α : Type} (a : α) (q : Requirement α) (d : Demand) : Prop where
  path : q.path = d.path
  met : q.met a = true ↔ d.holds

section

variable {α β : Type} {a : α} {path : String} {requirements : List (Requirement α)}
  {demands : List Demand}

theorem filled_asks (path : String) (get : α → String) (a : α) :
    (filled path get).Asks a ⟨path, get a ≠ ""⟩ :=
  ⟨rfl, bne_iff_ne⟩

theorem entryFilled_asks (path key : String) (get : α → Table String String) (a : α) :
    (entryFilled path key get).Asks a ⟨path, (get a).Fills key⟩ := by
  refine ⟨rfl, ?_⟩
  simp [entryFilled, Table.Fills, Option.any_eq_true]

theorem eachFilled_asks (path : String) (items : α → List β) (get : β → String) (a : α) :
    (eachFilled path items get).Asks a ⟨path, items a ≠ [] ∧ ∀ b ∈ items a, get b ≠ ""⟩ := by
  refine ⟨rfl, ?_⟩
  simp [eachFilled, List.all_eq_true]

theorem mem_unmet_iff : path ∈ unmet requirements a ↔
    ∃ q ∈ requirements, q.path = path ∧ q.met a = false := by
  simp only [unmet, List.mem_map, List.mem_filter, Bool.not_eq_true']
  exact exists_congr fun q => ⟨fun h => ⟨h.1.1, h.2, h.1.2⟩, fun h => ⟨⟨h.1, h.2.2⟩, h.2.1⟩⟩

/-- The paths that are reported are those of the demands that do not hold. -/
theorem mem_unmet_iff_of_asks (h : List.Forall₂ (Requirement.Asks a) requirements demands) :
    path ∈ unmet requirements a ↔ ∃ d ∈ demands, d.path = path ∧ ¬ d.holds := by
  rw [mem_unmet_iff]
  induction h with
  | nil => simp
  | cons hq _ ih =>
    rw [List.exists_mem_cons_iff, List.exists_mem_cons_iff, ih, hq.path, ← hq.met,
      Bool.not_eq_true]

end

/-- What is required of envelopes is what is demanded of their metadata. -/
theorem Kind.asks_meta (k : Kind) (m : ObjectMeta) :
    List.Forall₂ (Requirement.Asks m) k.envelopeRequirements (k.metaDemands m) := by
  have haccount : k.row.needsAccount = true ↔ k ∉ siteWide := by cases k <;> decide
  have hcluster : k.row.needsCluster = true ↔ k ∈ clustered := by cases k <;> decide
  have howners : ∀ n, k.row.ownerRule.allows n = true ↔ k.OwnerCount n := by
    intro n
    cases k <;> simp [row, OwnerRule.allows, OwnerCount]
  refine .cons (filled_asks "name" _ m) <| .cons ⟨rfl, ?_⟩ <| .cons ⟨rfl, ?_⟩ <|
    .cons ⟨rfl, howners _⟩ <| .cons ⟨rfl, ?_⟩ .nil
  · rw [← haccount]
    cases k.row.needsAccount <;> simp
  · rw [← hcluster]
    cases k.row.needsCluster <;> simp
  · simp [List.all_eq_true]

/-- What is required of the fields of a kind that is not run as replicas is what is demanded of
them. -/
theorem Kind.asks_fields (k : Kind) (limit : UInt32) (spec : k.Spec)
    (h : k.form.replicas spec = none) :
    List.Forall₂ (Requirement.Asks spec) k.form.requirements (k.fieldDemands limit spec) := by
  cases k
  case assemblyFactory => cases h
  case stacksFactory => cases h
  case endpoint =>
    refine .cons ⟨rfl, ?_⟩ .nil
    simp only [Subsets.isEmpty, Bool.not_eq_true', Bool.and_eq_false_iff, List.isEmpty_eq_false_iff,
      or_assoc]
  case horizontalScaling =>
    exact .cons (filled_asks _ _ _) <| .cons (filled_asks _ _ _) <|
      .cons ⟨rfl, decide_eq_true_iff⟩ .nil
  all_goals
    repeat' first
      | exact .nil
      | apply List.Forall₂.cons
      | exact filled_asks _ _ _
      | exact entryFilled_asks _ _ _ _
      | exact eachFilled_asks _ _ _ _

/-! ## Replicas -/

namespace Factory

variable {limit : UInt32} {f : Factory} {path : String}

/-- Of a factory what is reported is what its requirements report, and its replicas if they are
beyond the limit. -/
theorem mem_faults_iff :
    path ∈ unmet form.requirements f ∨ path = "replicas" ∧ decide (limit < f.replicas) = true ↔
      ∃ d ∈ f.demands limit, d.path = path ∧ ¬ d.holds := by
  have hothers : List.Forall₂ (Requirement.Asks f) form.requirements.tail (f.demands limit).tail :=
    .cons (filled_asks _ _ _) <| .cons (entryFilled_asks _ _ _ _) <|
      .cons (entryFilled_asks _ _ _ _) .nil
  have hbounds : f.replicas = 0 ∨ limit < f.replicas ↔
      ¬ (1 ≤ f.replicas ∧ f.replicas ≤ limit) := by
    rw [← UInt32.toNat_inj, UInt32.lt_iff_toNat_lt, UInt32.le_iff_toNat_le, UInt32.le_iff_toNat_le,
      UInt32.toNat_zero, UInt32.toNat_one]
    omega
  have hreplicas : path ∈ unmet form.requirements f ↔
      ("replicas" = path ∧ f.replicas = 0) ∨ path ∈ unmet form.requirements.tail f := by
    rw [mem_unmet_iff, mem_unmet_iff]
    simp [form]
  have hcons : (∃ d ∈ f.demands limit, d.path = path ∧ ¬ d.holds) ↔
      ("replicas" = path ∧ ¬ (1 ≤ f.replicas ∧ f.replicas ≤ limit)) ∨
        ∃ d ∈ (f.demands limit).tail, d.path = path ∧ ¬ d.holds :=
    List.exists_mem_cons_iff _ _ _
  rw [hcons, hreplicas, mem_unmet_iff_of_asks hothers, ← hbounds, decide_eq_true_iff, or_right_comm,
    and_or_left, eq_comm (a := path)]

/-- A factory that asks for too many replicas asks for some. -/
theorem replicas_not_mem_unmet (h : decide (limit < f.replicas) = true) :
    "replicas" ∉ unmet form.requirements f := by
  have hpos : f.replicas ≠ 0 := by
    rintro hzero
    rw [hzero, decide_eq_true_iff, UInt32.lt_iff_toNat_lt, UInt32.toNat_zero] at h
    exact Nat.not_lt_zero _ h
  rw [mem_unmet_iff]
  simpa [form, filled, entryFilled] using hpos

end Factory

/-- No two requirements of a kind go by the same path. -/
theorem Kind.nodup_paths (k : Kind) :
    (k.envelopeRequirements.map (·.path) ++ k.form.requirements.map (·.path)).Nodup := by
  cases k <;> decide

namespace Resource

variable (r : Resource) (limit : UInt32) {path : String}

/-- What is reported of the fields of a resource is what is demanded of them and does not hold. -/
theorem mem_fieldFaults_iff :
    path ∈ unmet r.kind.form.requirements r.spec ∨ path = "replicas" ∧ r.exceeds limit = true ↔
      ∃ d ∈ r.kind.fieldDemands limit r.spec, d.path = path ∧ ¬ d.holds := by
  have hnone : r.replicas = none →
      (path ∈ unmet r.kind.form.requirements r.spec ∨ path = "replicas" ∧ r.exceeds limit = true ↔
        ∃ d ∈ r.kind.fieldDemands limit r.spec, d.path = path ∧ ¬ d.holds) := by
    intro hreplicas
    rw [mem_unmet_iff_of_asks (r.kind.asks_fields limit r.spec hreplicas), exceeds, hreplicas]
    simp
  obtain ⟨kind, envelope, spec⟩ := r
  cases kind
  case assemblyFactory => exact Factory.mem_faults_iff
  case stacksFactory => exact Factory.mem_faults_iff
  -- no other kind is run as replicas
  all_goals exact hnone rfl

/-- What is reported of a resource is what is demanded of it and does not hold. -/
theorem mem_faults_iff :
    path ∈ r.faults limit ↔ ∃ d ∈ r.demands limit, d.path = path ∧ ¬ d.holds := by
  have hlimit : path ∈ (if r.exceeds limit then ["replicas"] else []) ↔
      path = "replicas" ∧ r.exceeds limit = true := by
    cases r.exceeds limit <;> simp
  rw [faults, missing, List.mem_append, List.mem_append, or_assoc, hlimit,
    mem_fieldFaults_iff, mem_unmet_iff_of_asks (r.kind.asks_meta r.objectMeta), demands]
  simp only [List.mem_append, or_and_right, exists_or]

/-- What is demanded goes by the paths of the requirements. -/
theorem map_path_demands : (r.demands limit).map (·.path) =
    r.kind.envelopeRequirements.map (·.path) ++ r.kind.form.requirements.map (·.path) := by
  obtain ⟨kind, envelope, spec⟩ := r
  cases kind <;> rfl

/-- Whatever asks for too many replicas asks for some. -/
theorem replicas_not_mem_missing (h : r.exceeds limit = true) : "replicas" ∉ r.missing := by
  have hmeta : "replicas" ∉ unmet r.kind.envelopeRequirements r.objectMeta := by
    rw [mem_unmet_iff]
    simp [Kind.envelopeRequirements, filled]
  rw [missing, List.mem_append]
  refine not_or_intro hmeta ?_
  obtain ⟨kind, envelope, spec⟩ := r
  cases kind
  case assemblyFactory => exact Factory.replicas_not_mem_unmet h
  case stacksFactory => exact Factory.replicas_not_mem_unmet h
  all_goals cases h

/-- No path is reported twice. -/
theorem nodup_faults : (r.faults limit).Nodup := by
  have hunmet : ∀ {α : Type} (requirements : List (Requirement α)) (a : α),
      (unmet requirements a).Sublist (requirements.map (·.path)) :=
    fun _ _ => List.filter_sublist.map _
  have hmissing : r.missing.Nodup := r.kind.nodup_paths.sublist ((hunmet _ _).append (hunmet _ _))
  rw [faults]
  cases hexceeds : r.exceeds limit with
  | false => simpa using hmissing
  | true =>
    refine List.nodup_append.mpr ⟨hmissing, List.nodup_singleton _, ?_⟩
    rintro path hpath _ hreplicas rfl
    rw [List.mem_singleton.mp hreplicas] at hpath
    exact r.replicas_not_mem_missing limit hexceeds hpath

/-- **The check is sound and complete.** For every resource of every kind and every limit, the check
passes exactly if all that the catalogue demands of the resource holds. Otherwise it reports a list
of paths in which the path of every demand that does not hold stands once, and nothing else. No two
demands go by the same path. -/
theorem check_exact :
    (r.check limit = .ok () ↔ ∀ d ∈ r.demands limit, d.holds) ∧
    ((r.demands limit).map (·.path)).Nodup ∧
    ∃ paths, r.check limit = (if paths = [] then .ok () else .error (.missingParameters paths)) ∧
      paths.Nodup ∧ ∀ path, path ∈ paths ↔ ∃ d ∈ r.demands limit, d.path = path ∧ ¬ d.holds := by
  have hcheck : r.check limit =
      if r.faults limit = [] then .ok () else .error (.missingParameters (r.faults limit)) := by
    rw [check]
    cases r.faults limit <;> rfl
  refine ⟨?_, ?_, r.faults limit, hcheck, r.nodup_faults limit, fun path => r.mem_faults_iff limit⟩
  · have hok : r.check limit = .ok () ↔ r.faults limit = [] := by
      rw [hcheck]
      split <;> simp_all
    rw [hok, List.eq_nil_iff_forall_not_mem]
    constructor
    · intro hnone d hd
      by_contra hfails
      exact hnone d.path ((r.mem_faults_iff limit).mpr ⟨d, hd, rfl, hfails⟩)
    · rintro hall path hpath
      obtain ⟨d, hd, -, hfails⟩ := (r.mem_faults_iff limit).mp hpath
      exact hfails (hall d hd)
  · rw [map_path_demands]
    exact r.kind.nodup_paths

/-- A factory without metadata that asks for eleven replicas and names neither a plan nor a kind of
storage. -/
example :
    let f : Factory := { replicas := 11, resources := .ofList [("compute_type", "cpu")] }
    (⟨.stacksFactory, {}, f⟩ : Resource).faults 10 =
      ["name", "account", "cluster_name", "plan", "resources.storage_type", "replicas"] := by
  decide +kernel

end Resource

end ClusterRegistry
