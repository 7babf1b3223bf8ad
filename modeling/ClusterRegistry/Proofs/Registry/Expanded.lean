import ClusterRegistry.Proofs.Expansion.Names
import ClusterRegistry.Proofs.Registry.Outcome
import ClusterRegistry.Proofs.Store.History
import ClusterRegistry.Proofs.Store.Listing

/-!
# What a create adds

A create adds the resource it answers, and a factory or a stack brings its children
(`Registry.create_expands`): as many assemblies as there are replicas, and for a stack one factory
between. The ids are drawn in the order of the batch. The children share account, cluster, labels
and time with the resource, each refers to its owner alone, and a description of the factory lists
its assemblies in the order of their indices.

The order of a listing is that of ids, so the last point asks for a source whose ids ascend.
-/

namespace ClusterRegistry

/-- No id that was given out is less than one that was given out before it. -/
def IdSource.Ascending (src : IdSource) : Prop :=
  ∀ i < src.drawn, ∀ j < i, (src.ids j).value < (src.ids i).value

instance (src : IdSource) : Decidable src.Ascending :=
  inferInstanceAs (Decidable (∀ i < src.drawn, ∀ j < i, (src.ids j).value < (src.ids i).value))

/-- The next ids of a source that ascends until they are drawn are ascending. -/
theorem IdSource.pairwise_next {src : IdSource} {count : Nat}
    (h : (src.skip count).Ascending) : (src.next count).Pairwise fun i j => i.value < j.value := by
  rw [next, List.pairwise_map]
  refine List.Pairwise.imp_of_mem (fun {i j} _ hj hlt => h j ?_ i hlt) List.pairwise_lt_range'
  exact (List.mem_range'_1.mp hj).2

/-- A batch that was entered as a whole, with the next ids in its order. -/
structure State.Entered (s t : State) (batch : List Resource) : Prop where
  inserted : s.store.Inserted t.store batch
  ids : batch.map (·.id) = s.source.next batch.length
  source : t.source = s.source.skip batch.length

namespace Resource

/-- A new child shares with a resource what both have from one create. -/
structure SharesWith (r child : Resource) : Prop where
  account : child.account = r.account
  cluster : child.objectMeta.clusterName = r.objectMeta.clusterName
  labels : child.objectMeta.labels = r.objectMeta.labels
  createdAt : child.objectMeta.createdAt = r.objectMeta.createdAt
  phase : child.status.phase = "pending"

/-- The assemblies that a factory was expanded into: one for each replica, named after its index,
owned by the factory and by nothing else, and with the metadata of the factory. -/
structure RunsAs (factory : Resource) (f : Factory) (assemblies : List Resource) : Prop where
  count : assemblies.length = f.replicas.toNat
  names : assemblies.map (·.objectMeta.name) =
    replicaNames factory.objectMeta.name 1 f.replicas.toNat f.replicas.toNat
  distinct : (assemblies.map (·.objectMeta.name)).Nodup
  owner : ∀ a ∈ assemblies, a.objectMeta.ownerReferences = [factory.ownerLink]
  spec : ∀ a ∈ assemblies, ∃ envelope,
    a = ⟨.assembly, envelope, ({ metadata := f.metadata } : Assembly)⟩

variable {owner r child : Resource}

theorem sharesWith_envelopeFor (owner : Resource) (kind : Kind) (name : String) (id : Id)
    (spec : kind.Spec) : owner.SharesWith ⟨kind, owner.envelopeFor kind name id, spec⟩ :=
  ⟨rfl, rfl, rfl, rfl, rfl⟩

theorem SharesWith.trans {grandchild : Resource} (h : r.SharesWith child)
    (h' : child.SharesWith grandchild) : r.SharesWith grandchild :=
  ⟨h'.account.trans h.account, h'.cluster.trans h.cluster, h'.labels.trans h.labels,
    h'.createdAt.trans h.createdAt, h'.phase⟩

end Resource

/-! ## Assemblies -/

section

variable {envelope : Envelope} {f : Factory} {ids : List Id}

/-- Assemblies with an id for each name have these names. -/
theorem map_name_assembliesOf (h : ids.length = (assemblyNames envelope f).length) :
    (assembliesOf envelope f ids).map (·.objectMeta.name) = assemblyNames envelope f := by
  unfold assembliesOf
  generalize assemblyNames envelope f = names at h
  induction names generalizing ids with
  | nil => rw [List.eq_nil_of_length_eq_zero h]; rfl
  | cons name rest ih =>
    cases ids with
    | nil => cases h
    | cons id ids => exact congrArg (name :: ·) (ih (Nat.succ.inj h))

theorem sharesWith_of_mem_assembliesOf {a : Resource} (h : a ∈ assembliesOf envelope f ids) :
    (Resource.ofFactory envelope f).SharesWith a := by
  obtain ⟨name, -, id, rfl⟩ := exists_of_mem_assembliesOf h
  exact Resource.sharesWith_envelopeFor _ _ _ _ _

/-- A factory runs as the assemblies that it expands into. -/
theorem runsAs_assembliesOf (h : ids.length = (assemblyNames envelope f).length) :
    (Resource.ofFactory envelope f).RunsAs f (assembliesOf envelope f ids) := by
  have hnames := map_name_assembliesOf h
  refine ⟨?_, hnames, ?_, fun a ha => ?_, fun a ha => ?_⟩
  · rw [← List.length_map (f := fun a : Resource => a.objectMeta.name), hnames,
      length_assemblyNames]
  · rw [hnames]
    exact nodup_assemblyNames envelope f
  · obtain ⟨name, -, id, rfl⟩ := exists_of_mem_assembliesOf ha
    rfl
  · obtain ⟨name, -, id, rfl⟩ := exists_of_mem_assembliesOf ha
    exact ⟨_, rfl⟩

/-- The factory of a stack runs as the assemblies that the stack brings, and all of them share with
the stack. -/
theorem runsAs_innerFactory (id : Id) (h : ids.length = (assemblyNames envelope f).length) :
    (innerFactory envelope f id).RunsAs f
        (assembliesOf (innerFactory envelope f id).envelope f ids) ∧
      ∀ q ∈ innerFactory envelope f id :: assembliesOf (innerFactory envelope f id).envelope f ids,
        (⟨.stacksFactory, envelope, f⟩ : Resource).SharesWith q := by
  have hinner :
      (⟨.stacksFactory, envelope, f⟩ : Resource).SharesWith (innerFactory envelope f id) :=
    Resource.sharesWith_envelopeFor _ _ _ _ _
  refine ⟨runsAs_assembliesOf h, List.forall_mem_cons.mpr ⟨hinner, fun a ha => ?_⟩⟩
  exact hinner.trans (sharesWith_of_mem_assembliesOf ha)

end

/-! ## Families -/

namespace Resource

variable {r q : Resource} {ids : List Id}

theorem RunsAs.kind_eq {factory : Resource} {f : Factory} {assemblies : List Resource}
    (h : factory.RunsAs f assemblies) (hq : q ∈ assemblies) : q.kind = .assembly := by
  obtain ⟨envelope, rfl⟩ := h.spec q hq
  rfl

/-- What comes with a resource shares with it. -/
theorem sharesWith_of_mem_children (h : ids.length = r.childCount) (hq : q ∈ r.children ids) :
    r.SharesWith q := by
  obtain ⟨kind, envelope, spec⟩ := r
  cases kind
  case assemblyFactory => exact sharesWith_of_mem_assembliesOf hq
  case stacksFactory =>
    cases ids with
    | nil => cases h
    | cons id ids => exact (runsAs_innerFactory id (Nat.succ.inj h)).2 q hq
  -- the other kinds have no children
  all_goals cases hq

end Resource

/-! ## Listing the assemblies of a new factory -/

namespace Store

variable {version : String} {limit : UInt32} {s t : Store} {factory r : Resource} {f : Factory}
  {before assemblies : List Resource}

/-- The fields of an assembly refer to nothing. -/
theorem references_of_kind_assembly (h : r.kind = .assembly) : r.references = [] := by
  obtain ⟨kind, envelope, spec⟩ := r
  obtain rfl : kind = .assembly := h
  rfl

/-- An assembly that names a parent has the parent as a factory. -/
theorem Sound.has_factory_of_mentions (h : s.Sound version limit) {a : Resource} {id parent : Id}
    (ha : s.get? .assembly id = some a) (hparent : a.Mentions parent) :
    s.Has .assemblyFactory parent := by
  have hkind : a.kind = .assembly := h.kind_eq ha
  rcases hparent with ⟨o, ho, hparse⟩ | ⟨f, hf, -⟩
  · obtain ⟨kind, hmem, -, id', hparse', hhas⟩ := (h.linked ha).owners o ho
    rw [hkind] at hmem
    obtain rfl : kind = .assemblyFactory := List.mem_singleton.mp hmem
    obtain rfl : parent = id' := Id.Reading.assigned.inj (hparse.symm.trans hparse')
    exact hhas
  · rw [references_of_kind_assembly hkind] at hf
    cases hf

/-- The assemblies that name a factory which was inserted with them are those that came with it. -/
theorem Sound.mem_list_assemblies_iff (hs : s.Sound version limit) (ht : t.Sound version limit)
    (hinserted : s.Inserted t (before ++ assemblies)) (hfactory : factory ∈ before)
    (hkind : factory.kind = .assemblyFactory) (hbefore : ∀ q ∈ before, q.kind ≠ .assembly)
    (hruns : factory.RunsAs f assemblies) {a : Resource} :
    a ∈ t.list .assembly { parent := some factory.id } ↔ a ∈ assemblies := by
  rw [ht.indexed.mem_list_iff, Filter.selects_parent_iff]
  constructor
  · rintro ⟨ha, hparent⟩
    obtain ⟨e, he, rfl⟩ := get?_eq_some_iff.mp ha
    rcases hinserted.cases he with hold | ⟨q, hq, haddress, rfl⟩
    · -- whatever was stored before had no owner with an id that was free
      have hhas := hs.has_factory_of_mentions (resourceAt_of_at? hold) hparent
      have hfree := hinserted.free factory (List.mem_append_left _ hfactory)
      rw [has_iff, ← hkind] at hhas
      rw [Resource.address] at hfree
      rw [hfree] at hhas
      cases hhas
    · rcases List.mem_append.mp hq with hq | hq
      · exact absurd (congrArg Address.kind haddress).symm (hbefore q hq)
      · exact hq
  · intro ha
    have hstored := hinserted.there a (List.mem_append_right _ ha)
    have howner := hruns.owner a ha
    have hassigned := hinserted.assigned factory (List.mem_append_left _ hfactory)
    obtain ⟨envelope, rfl⟩ := hruns.spec a ha
    refine ⟨resourceAt_of_at? hstored, .inl ⟨factory.ownerLink, ?_, Id.parse_digits hassigned⟩⟩
    rw [howner]
    exact List.mem_cons_self

/-- The assemblies listed under a factory that was inserted with them are those that came with
it. -/
theorem Sound.list_assemblies (hs : s.Sound version limit) (ht : t.Sound version limit)
    (hinserted : s.Inserted t (before ++ assemblies)) (hfactory : factory ∈ before)
    (hkind : factory.kind = .assemblyFactory) (hbefore : ∀ q ∈ before, q.kind ≠ .assembly)
    (hruns : factory.RunsAs f assemblies) (hascending : assemblies.Pairwise Earlier) :
    t.list .assembly { parent := some factory.id } = assemblies :=
  ht.indexed.list_eq hascending fun _ =>
    hs.mem_list_assemblies_iff ht hinserted hfactory hkind hbefore hruns

end Store

/-! ## Creates -/

namespace Registry

open Script

variable {reg : Registry} {s t : State} {kind : Kind} {id : Id} {r : Resource}
  {payload : Json.Payload} {account : Option String}

/-- What is stored is found under the digits of its id. -/
theorem run_get_digits (hid : id.isAssigned = true) (hr : s.store.get? kind id = some r) :
    (get kind id.digits).run s = (.ok r, s) := by
  rw [get, pathId_digits kind hid]
  exact run_fetch hr

/-- A stored factory is described by the assemblies that are listed under it. -/
theorem run_describe_factory (hid : r.id.isAssigned = true) (hkind : r.kind = .assemblyFactory)
    (hr : s.store.get? .assemblyFactory r.id = some r) :
    (reg.describe .assemblyFactory r.id.digits).run s =
      (.ok (reg.asList .assembly (s.store.list .assembly { parent := some r.id })), s) := by
  rw [describe, run_bind, run_get_digits hid hr]
  simp only [hkind]
  rfl

/-- The account of a route is taken as it is written. -/
theorem eq_of_mapM_pathAccount {route : Option String}
    (h : account.mapM pathAccount = .ok route) : route = account := by
  cases account with
  | none =>
    cases h
    rfl
  | some raw =>
    obtain ⟨a, hpath, hroute⟩ := exists_of_bind_eq_ok (x := pathAccount raw) h
    unfold pathAccount at hpath
    split at hpath
    · cases hpath
      cases hroute
      rfl
    · cases hpath

/-- What was created was sent, but for what admission and the server have made of its envelope, and
has passed the check in the account of the route. -/
theorem admitted_of_run_create (hs : s.store.Sound reg.apiVersion reg.maxReplicas)
    (hrun : (reg.create kind payload account).run s = (.ok r, t)) :
    r.kind = kind ∧ (∃ sent, decodePayload kind payload = .ok sent ∧
      r.clientPart.spec = sent.clientPart.spec) ∧ (∀ a, account = some a → r.account = a) ∧
      r.check reg.maxReplicas = .ok () := by
  obtain ⟨route, admitted, hroute, haccept, henter⟩ := reg.exists_of_run_create hrun
  obtain ⟨rfl, -, -⟩ := reg.exists_of_run_enter henter
  have hkeeps : (reg.accept kind payload).Keeps
      (sharedStore reg.apiVersion reg.maxReplicas fun _ => True) _ s :=
    reg.keeps_accept kind payload
  obtain ⟨hcheck, -, sent, hsent, hadmitted⟩ :=
    (hkeeps.run hs).2.2 admitted (congrArg Prod.fst haccept)
  have hmoved := Resource.check_inAccount hcheck (ne_empty_of_mapM_pathAccount hroute)
  obtain rfl := eq_of_mapM_pathAccount hroute
  have hkind : sent.kind = kind := kind_of_decodePayload hsent
  refine ⟨(hadmitted.kind_eq : admitted.kind = sent.kind).trans hkind, ⟨sent, hsent, ?_⟩, ?_,
    (reg.settled_asCreated hmoved _).admissible⟩
  · obtain ⟨owners, rfl⟩ := hadmitted.onlyOwners
    rfl
  · rintro a rfl
    rfl

/-- The ids of a family that was entered are the next ones. -/
theorem entered_of_run_enter {q : Resource} (h : (reg.enter q).run s = (.ok r, t)) :
    s.Entered t (r.family ((s.source.skip 1).next r.childCount)) := by
  obtain ⟨rfl, hinserted, hsource⟩ := reg.exists_of_run_enter h
  have hids := Resource.map_id_family (IdSource.length_next (s.source.skip 1)
    (reg.asCreated q (s.source.ids s.source.drawn)).childCount)
  have hlength := congrArg List.length hids
  rw [List.length_map, List.length_cons, IdSource.length_next, Nat.add_comm] at hlength
  refine ⟨hinserted, ?_, by rw [hlength]; exact hsource⟩
  rw [hids, hlength, Nat.add_comm, IdSource.next_succ]
  rfl

/-- Assemblies that were drawn for last are in ascending order. -/
theorem pairwise_of_entered {before assemblies : List Resource}
    (h : s.Entered t (before ++ assemblies)) (hids : t.source.Ascending) :
    assemblies.Pairwise Store.Earlier := by
  have hall : (s.source.next (before ++ assemblies).length).Pairwise
      fun i j => i.value < j.value := IdSource.pairwise_next (h.source ▸ hids)
  rw [← h.ids, List.pairwise_map, List.pairwise_append] at hall
  exact hall.2.1

/-- The factory whose assemblies were entered last is described by these assemblies. -/
theorem run_describe_of_entered {factory : Resource} {f : Factory}
    (before : List Resource) {assemblies : List Resource}
    (hs : s.store.Sound reg.apiVersion reg.maxReplicas)
    (ht : t.store.Sound reg.apiVersion reg.maxReplicas) (h : s.Entered t (before ++ assemblies))
    (hids : t.source.Ascending) (hfactory : factory ∈ before)
    (hkind : factory.kind = .assemblyFactory) (hbefore : ∀ q ∈ before, q.kind ≠ .assembly)
    (hruns : factory.RunsAs f assemblies) :
    (reg.describe .assemblyFactory factory.id.digits).run t =
      (.ok (reg.asList .assembly assemblies), t) := by
  have hmem := List.mem_append_left assemblies hfactory
  have haddress : factory.address = ⟨.assemblyFactory, factory.id⟩ := by
    rw [Resource.address, hkind]
  have hstored : t.store.get? .assemblyFactory factory.id = some factory :=
    Store.get?_eq_some_iff.mpr ⟨_, haddress ▸ h.inserted.there factory hmem, rfl⟩
  rw [run_describe_factory (h.inserted.assigned factory hmem) hkind hstored,
    hs.list_assemblies ht h.inserted hfactory hkind hbefore hruns (pairwise_of_entered h hids)]

/-- A create answers a resource of the kind that was asked for, with the fields that were sent, in
the account of the route if there is one. A factory is entered with as many assemblies as it has
replicas, a stack with a factory of the same fields and the assemblies of that, and any other
resource alone. -/
theorem create_expands (h : reg.Reachable s)
    (hrun : (reg.create kind payload account).run s = (.ok r, t)) (hids : t.source.Ascending) :
    (r.kind = kind ∧
      (∃ sent, decodePayload kind payload = .ok sent ∧ r.clientPart.spec = sent.clientPart.spec) ∧
      ∀ a, account = some a → r.account = a) ∧
    (∀ envelope f, r = ⟨.assemblyFactory, envelope, f⟩ →
      1 ≤ f.replicas ∧ f.replicas ≤ reg.maxReplicas ∧
      ∃ assemblies, s.Entered t (r :: assemblies) ∧ r.RunsAs f assemblies ∧
        (∀ a ∈ assemblies, r.SharesWith a) ∧
        (reg.describe .assemblyFactory r.id.digits).run t =
          (.ok (reg.asList .assembly assemblies), t)) ∧
    (∀ envelope f, r = ⟨.stacksFactory, envelope, f⟩ →
      1 ≤ f.replicas ∧ f.replicas ≤ reg.maxReplicas ∧
      ∃ inner assemblies, s.Entered t (r :: inner :: assemblies) ∧
        (∃ envelope', inner = ⟨.assemblyFactory, envelope', f⟩) ∧
        inner.objectMeta.name = r.objectMeta.name ∧
        inner.objectMeta.ownerReferences = [r.ownerLink] ∧ inner.RunsAs f assemblies ∧
        (∀ q ∈ inner :: assemblies, r.SharesWith q) ∧
        (reg.describe .assemblyFactory inner.id.digits).run t =
          (.ok (reg.asList .assembly assemblies), t)) ∧
    (kind ≠ .assemblyFactory → kind ≠ .stacksFactory → s.Entered t [r]) := by
  obtain ⟨hkind, hsent, haccount, hcheck⟩ := admitted_of_run_create h.sound hrun
  have ht : t.store.Sound reg.apiVersion reg.maxReplicas := by
    have hinv := ((reg.keeps_create kind payload account).run h.sound).1
    rwa [hrun] at hinv
  obtain ⟨_, _, -, -, henter⟩ := reg.exists_of_run_create hrun
  have hentered := entered_of_run_enter henter
  obtain ⟨hcomplete, hlimit⟩ := (Resource.check_eq_ok_iff r _).mp hcheck
  have hbounds : ∀ n, r.replicas = some n → 1 ≤ n ∧ n ≤ reg.maxReplicas := by
    intro n hn
    refine ⟨hcomplete.replicas_pos hn, ?_⟩
    rw [Resource.exceeds, hn] at hlimit
    exact UInt32.not_lt.mp (of_decide_eq_false hlimit)
  refine ⟨⟨hkind, hsent, haccount⟩, ?_, ?_, ?_⟩
  · rintro envelope f rfl
    have hruns := runsAs_assembliesOf (IdSource.length_next (s.source.skip 1)
      (assemblyNames envelope f).length)
    obtain ⟨hpos, hmax⟩ := hbounds f.replicas rfl
    refine ⟨hpos, hmax, _, hentered, hruns, fun a => sharesWith_of_mem_assembliesOf, ?_⟩
    exact run_describe_of_entered [_] h.sound ht hentered hids List.mem_cons_self rfl (by simp)
      hruns
  · rintro envelope f rfl
    -- of the ids after that of the stack the first is for its factory
    obtain ⟨hruns, hshares⟩ := runsAs_innerFactory ((s.source.skip 1).ids (s.source.skip 1).drawn)
      (IdSource.length_next ((s.source.skip 1).skip 1) (assemblyNames envelope f).length)
    obtain ⟨hpos, hmax⟩ := hbounds f.replicas rfl
    refine ⟨hpos, hmax, _, _, hentered, ⟨_, rfl⟩, rfl, rfl, hruns, hshares, ?_⟩
    exact run_describe_of_entered [_, _] h.sound ht hentered hids
      (List.mem_cons_of_mem _ List.mem_cons_self) rfl (by simp [innerFactory, Resource.ofFactory])
      hruns
  · intro hfactory hstack
    obtain ⟨kind', envelope, spec⟩ := r
    obtain rfl : kind' = kind := hkind
    cases kind'
    case assemblyFactory => exact absurd rfl hfactory
    case stacksFactory => exact absurd rfl hstack
    -- the other kinds have no children
    all_goals exact hentered

/-- The state in which the plan has been created. -/
def planState : State := (tenReplicas.answerAll [⟨"t1", noMetrics, .create .plan sentPlan none⟩]
  initialState).2

/-- A stack of two that is sent to an account brings a factory and two assemblies of this account,
which describe the factory. -/
theorem stack_of_two_expands :
    ∃ envelope f t inner assemblies,
      (tenReplicas.create .stacksFactory (sentStack 2) (some "12")).run planState =
        (.ok ⟨.stacksFactory, envelope, f⟩, t) ∧ f.replicas = 2 ∧ t.source.Ascending ∧
      planState.Entered t (⟨.stacksFactory, envelope, f⟩ :: inner :: assemblies) ∧
      (∀ q ∈ inner :: assemblies, q.account = "12") ∧ inner.RunsAs f assemblies ∧
      (tenReplicas.describe .assemblyFactory inner.id.digits).run t =
        (.ok (tenReplicas.asList .assembly assemblies), t) := by
  have hreachable : tenReplicas.Reachable planState :=
    ⟨_, [⟨"t1", noMetrics, .create .plan sentPlan none⟩], rfl⟩
  have hrun : (tenReplicas.create .stacksFactory (sentStack 2) (some "12")).run planState =
      (.ok ⟨.stacksFactory, _, _⟩, _) := rfl
  have hids : ((tenReplicas.create .stacksFactory (sentStack 2) (some "12")).run
      planState).2.source.Ascending := by decide +kernel
  obtain ⟨⟨-, -, haccount⟩, -, hstack, -⟩ := create_expands hreachable hrun hids
  obtain ⟨-, -, inner, assemblies, hentered, -, -, -, hruns, hshares, hdescribe⟩ :=
    hstack _ _ rfl
  exact ⟨_, _, _, inner, assemblies, hrun, rfl, hids, hentered,
    fun q hq => (hshares q hq).account.trans (haccount "12" rfl), hruns, hdescribe⟩

end Registry

end ClusterRegistry
