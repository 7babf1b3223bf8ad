import ClusterRegistry.Proofs.Id.Digits
import ClusterRegistry.Proofs.Script.Traceless
import ClusterRegistry.Proofs.Store.Sound

/-!
# Families

A resource is stored together with the children it expands into. Which children these are does
not depend on the store: given their ids, they are a function of the resource
(`Resource.children`), and expanding a resource comes to drawing as many ids as it has children
(`Script.expand_eq`).

Children are never checked, yet each of them passes: what a factory needs its assemblies need
no less, and account, cluster and name come from the factory (`Resource.Settled.children`). They
refer to their owner, which is in the same family, and to what the owner's fields refer to
(`Resource.Linked.children`).
-/

namespace ClusterRegistry

/-! ## Children as a function of their ids -/

/-- The assemblies of a factory with the given ids. -/
def assembliesOf (envelope : Envelope) (f : Factory) (ids : List Id) : List Resource :=
  List.zipWith (assemblyOf envelope f) (assemblyNames envelope f) ids

namespace Resource

/-- The number of children that a resource expands into. -/
def childCount : Resource → Nat
  | ⟨.assemblyFactory, envelope, f⟩ => (assemblyNames envelope f).length
  | ⟨.stacksFactory, envelope, f⟩ => (assemblyNames envelope f).length + 1
  | _ => 0

/-- The children that a resource expands into, with the given ids. -/
def children : Resource → List Id → List Resource
  | ⟨.assemblyFactory, envelope, f⟩, ids => assembliesOf envelope f ids
  | ⟨.stacksFactory, envelope, f⟩, id :: ids =>
    innerFactory envelope f id :: assembliesOf (innerFactory envelope f id).envelope f ids
  | _, _ => []

/-- A resource with the children that it expands into. -/
def family (r : Resource) (ids : List Id) : List Resource := r :: r.children ids

end Resource

/-- The factory of a stack has as many assemblies, of the same names, as the stack says. -/
theorem assemblyNames_innerFactory (envelope : Envelope) (f : Factory) (id : Id) :
    assemblyNames (innerFactory envelope f id).envelope f = assemblyNames envelope f := rfl

theorem map_id_assembliesOf {envelope : Envelope} {f : Factory} {ids : List Id}
    (h : ids.length = (assemblyNames envelope f).length) :
    (assembliesOf envelope f ids).map (·.id) = ids := by
  unfold assembliesOf
  generalize assemblyNames envelope f = names at h
  induction names generalizing ids with
  | nil => rw [List.eq_nil_of_length_eq_zero h]; rfl
  | cons name rest ih =>
    cases ids with
    | nil => cases h
    | cons id ids =>
      rw [List.zipWith_cons_cons, List.map_cons, ih (Nat.succ.inj h)]
      rfl

/-- Each child has its own id of those that were given. -/
theorem Resource.map_id_children {r : Resource} {ids : List Id} (h : ids.length = r.childCount) :
    (r.children ids).map (·.id) = ids := by
  obtain ⟨kind, envelope, spec⟩ := r
  cases kind
  case assemblyFactory => exact map_id_assembliesOf h
  case stacksFactory =>
    cases ids with
    | nil => cases h
    | cons id ids => exact congrArg (id :: ·) (map_id_assembliesOf (Nat.succ.inj h))
  -- the other kinds have no children
  all_goals
    rw [List.eq_nil_of_length_eq_zero h]
    rfl

/-- The family of a resource has the ids that were drawn for it. -/
theorem Resource.map_id_family {r : Resource} {ids : List Id} (h : ids.length = r.childCount) :
    (r.family ids).map (·.id) = r.id :: ids := by
  rw [family, List.map_cons, map_id_children h]

/-! ## Drawing ids and expanding -/

namespace IdSource

/-- The ids that are given out next, as many as wanted. -/
def next (src : IdSource) (count : Nat) : List Id :=
  (List.range' src.drawn count).map src.ids

/-- A source after some more ids were given out. -/
def skip (src : IdSource) (count : Nat) : IdSource := { src with drawn := src.drawn + count }

theorem length_next (src : IdSource) (count : Nat) : (src.next count).length = count := by
  rw [next, List.length_map, List.length_range']

/-- The first of the next ids, and those that are left. -/
theorem next_succ (src : IdSource) (count : Nat) :
    src.next (count + 1) = src.ids src.drawn :: (src.skip 1).next count := rfl

theorem skip_skip (src : IdSource) (count more : Nat) :
    (src.skip count).skip more = src.skip (count + more) := by
  rw [skip, skip, skip, Nat.add_assoc]

end IdSource

namespace Script

/-- As many new ids as wanted. -/
def drawIds : Nat → Script (List Id)
  | 0 => pure []
  | count + 1 => do
    let id ← drawId
    let ids ← drawIds count
    pure (id :: ids)

theorem keeps_drawIds {C : Contract} {s : State} (count : Nat) :
    (drawIds count).Keeps C (fun _ _ => True) s := by
  induction count generalizing s with
  | zero => exact keeps_pure trivial
  | succ count ih =>
    exact keeps_drawId.bind fun _ _ _ _ => ih.bind fun _ _ _ _ => keeps_pure trivial

/-- As many ids as are drawn are the next ones of the source. -/
theorem run_drawIds (count : Nat) (s : State) :
    (drawIds count).run s =
      (.ok (s.source.next count), { s with source := s.source.skip count }) := by
  induction count generalizing s with
  | zero => rfl
  | succ count ih =>
    rw [drawIds, run_drawId_bind, run_bind, ih, IdSource.next_succ, Nat.add_comm count 1,
      ← IdSource.skip_skip]
    rfl

theorem assemblies_eq (envelope : Envelope) (f : Factory) (names : List String) :
    assemblies envelope f names =
      (do let ids ← drawIds names.length
          pure (List.zipWith (assemblyOf envelope f) names ids)) := by
  induction names with
  | nil => rfl
  | cons name rest ih =>
    rw [assemblies, ih, List.length_cons, drawIds]
    simp only [bind_assoc, pure_bind, List.zipWith_cons_cons]

theorem expand_assemblyFactory (envelope : Envelope) (f : Factory) :
    expand ⟨.assemblyFactory, envelope, f⟩ =
      (do let ids ← drawIds (assemblyNames envelope f).length
          pure (⟨.assemblyFactory, envelope, f⟩ :: assembliesOf envelope f ids)) := by
  unfold expand
  simp only [assemblies_eq, bind_assoc, pure_bind]
  rfl

theorem expand_stacksFactory (envelope : Envelope) (f : Factory) :
    expand ⟨.stacksFactory, envelope, f⟩ =
      (do let id ← drawId
          let ids ← drawIds (assemblyNames envelope f).length
          pure (⟨.stacksFactory, envelope, f⟩ :: innerFactory envelope f id ::
            assembliesOf (innerFactory envelope f id).envelope f ids)) := by
  unfold expand
  simp only [assemblies_eq, bind_assoc, pure_bind, assemblyNames_innerFactory]
  rfl

/-- A resource is expanded by drawing an id for each of its children. -/
theorem expand_eq (r : Resource) :
    expand r = (do let ids ← drawIds r.childCount; pure (r.family ids)) := by
  obtain ⟨kind, envelope, spec⟩ := r
  cases kind
  case assemblyFactory => exact expand_assemblyFactory envelope spec
  case stacksFactory =>
    refine (expand_stacksFactory envelope spec).trans ?_
    simp only [Resource.childCount, drawIds, bind_assoc, pure_bind]
    rfl
  all_goals rfl

end Script

/-! ## Children are sound -/

/-- The name of a replica is not blank if the name it is made from is not. -/
theorem replicaName_ne_empty {base : String} (h : base ≠ "") (index total : Nat) :
    replicaName base index total ≠ "" := by
  unfold replicaName
  split
  · exact h
  · split
    · -- before the domain stands a dot
      intro he
      have hlist := congrArg String.toList he
      simp at hlist
    · intro he
      exact h (String.append_eq_empty_iff.mp he).1

/-- An assembly among those of a factory. -/
theorem exists_of_mem_assembliesOf {envelope : Envelope} {f : Factory} {ids : List Id}
    {q : Resource} (h : q ∈ assembliesOf envelope f ids) :
    ∃ name ∈ assemblyNames envelope f, ∃ id, q = assemblyOf envelope f name id := by
  rw [assembliesOf, ← List.map_uncurry_zip_eq_zipWith, List.mem_map] at h
  obtain ⟨⟨name, id⟩, hmem, rfl⟩ := h
  exact ⟨name, (List.of_mem_zip hmem).1, id, rfl⟩

theorem name_ne_empty_of_mem {envelope : Envelope} {f : Factory} {name : String}
    (hname : envelope.objectMeta.name ≠ "") (h : name ∈ assemblyNames envelope f) : name ≠ "" := by
  rw [assemblyNames, replicaNames, List.mem_map] at h
  obtain ⟨index, -, rfl⟩ := h
  exact replicaName_ne_empty hname index _

namespace Resource

variable {version : String} {limit : UInt32} {owner : Resource} {kind : Kind} {spec : kind.Spec}
  {there : Kind → Id → Prop}

/-- A child in the account and cluster of a settled owner is settled if its own fields are in
order. -/
theorem Settled.child (h : owner.Settled version limit) {name : String} (id : Id)
    (hname : name ≠ "") (haccount : owner.account ≠ "")
    (hcluster : owner.objectMeta.clusterName ≠ "")
    (hrule : kind.row.ownerRule.allows 1 = true)
    (hspec : ∀ q ∈ kind.form.requirements, q.met spec = true)
    (hlimit : ((kind.form.replicas spec).any fun n => decide (limit < n)) = false) :
    (⟨kind, owner.envelopeFor kind name id, spec⟩ : Resource).Settled version limit := by
  have hversion : owner.envelope.typeMeta.apiVersion = version := by rw [h.typed]
  refine ⟨(check_eq_ok_iff _ limit).mpr ⟨?_, hlimit⟩, ?_, ?_, h.finalizers, h.gracePeriod, rfl⟩
  · refine ⟨hname, fun _ => haccount, fun _ => hcluster, hrule, ?_, hspec⟩
    intro o ho
    rw [List.mem_singleton.mp ho]
    exact Id.ne_empty_of_isNumeral (Id.isNumeral_digits owner.id)
  · show (⟨kind.name, owner.envelope.typeMeta.apiVersion⟩ : TypeMeta) = ⟨kind.name, version⟩
    rw [hversion]
  · show pendingPhase ≠ ""
    decide

/-- A child is linked if its owner is there under a kind that may own it, and what its own fields
refer to is there. -/
theorem linked_child {name : String} (id : Id) (hkind : owner.kind ∈ kind.owners)
    (hassigned : owner.id.isAssigned = true) (howner : there owner.kind owner.id)
    (hrequired : ∀ f ∈ kind.form.references spec, f.required = true → f.uid ≠ "")
    (hfields : ∀ f ∈ kind.form.references spec, f.uid ≠ "" →
      ∃ id, Id.parse f.uid = .assigned id ∧ there f.kind id) :
    (⟨kind, owner.envelopeFor kind name id, spec⟩ : Resource).Linked there := by
  refine ⟨fun o ho => ?_, hrequired, hfields⟩
  rw [List.mem_singleton.mp ho]
  exact ⟨owner.kind, hkind, rfl, owner.id, Id.parse_digits hassigned, howner⟩

end Resource

section

variable {version : String} {limit : UInt32} {there : Kind → Id → Prop} {envelope : Envelope}
  {f : Factory} {ids : List Id}

/-- The assemblies of a settled factory that is there are settled and linked. -/
theorem sound_assembliesOf (h : (Resource.ofFactory envelope f).Settled version limit)
    (hassigned : envelope.id.isAssigned = true) (hthere : there .assemblyFactory envelope.id) :
    ∀ q ∈ assembliesOf envelope f ids, q.Settled version limit ∧ q.Linked there := by
  intro q hq
  obtain ⟨name, hname, id, rfl⟩ := exists_of_mem_assembliesOf hq
  have hcomplete := ((Resource.check_eq_ok_iff _ limit).mp h.admissible).1
  have hblank : name ≠ "" := name_ne_empty_of_mem hcomplete.name hname
  -- an assembly has no requirements and no references of its own
  have hnone : ∀ {α : Type} {P : α → Prop}, ∀ x ∈ ([] : List α), P x := fun _ hx =>
    absurd hx List.not_mem_nil
  refine ⟨h.child id hblank (hcomplete.account rfl) (hcomplete.cluster rfl) rfl hnone rfl, ?_⟩
  exact Resource.linked_child id List.mem_cons_self hassigned hthere hnone hnone

/-- The factory of a settled and linked stack that is there is settled and linked. -/
theorem sound_innerFactory
    (h : (⟨.stacksFactory, envelope, f⟩ : Resource).Settled version limit)
    (hlinked : (⟨.stacksFactory, envelope, f⟩ : Resource).Linked there)
    (hassigned : envelope.id.isAssigned = true) (hthere : there .stacksFactory envelope.id)
    (id : Id) :
    (innerFactory envelope f id).Settled version limit ∧
      (innerFactory envelope f id).Linked there := by
  obtain ⟨hcomplete, hlimit⟩ := (Resource.check_eq_ok_iff _ limit).mp h.admissible
  refine ⟨h.child id hcomplete.name (hcomplete.account rfl) (hcomplete.cluster rfl) rfl
    hcomplete.spec hlimit, ?_⟩
  exact Resource.linked_child id List.mem_cons_self hassigned hthere hlinked.required
    hlinked.fields

end

/-- Whatever a settled and linked resource expands into is settled and linked where the whole
family is there. -/
theorem Resource.Settled.children {version : String} {limit : UInt32} {r : Resource}
    {there : Kind → Id → Prop} {ids : List Id} (h : r.Settled version limit)
    (hlinked : r.Linked there)
    (hfamily : ∀ q ∈ r.family ids, q.id.isAssigned = true ∧ there q.kind q.id) :
    ∀ q ∈ r.family ids, q.Settled version limit ∧ q.Linked there := by
  obtain ⟨hassigned, hthere⟩ := hfamily r List.mem_cons_self
  refine List.forall_mem_cons.mpr ⟨⟨h, hlinked⟩, ?_⟩
  obtain ⟨kind, envelope, spec⟩ := r
  cases kind
  case assemblyFactory => exact sound_assembliesOf h hassigned hthere
  case stacksFactory =>
    cases ids with
    | nil => exact fun q hq => absurd hq List.not_mem_nil
    | cons id ids =>
      -- the factory is a child like any other, and the assemblies are its children
      obtain ⟨hinner, hinnerLinked⟩ := sound_innerFactory h hlinked hassigned hthere id
      obtain ⟨hinnerAssigned, hinnerThere⟩ :=
        hfamily (innerFactory envelope spec id) (List.mem_cons_of_mem _ List.mem_cons_self)
      exact List.forall_mem_cons.mpr ⟨⟨hinner, hinnerLinked⟩,
        sound_assembliesOf hinner hinnerAssigned hinnerThere⟩
  -- the other kinds have no children
  all_goals
    intro q hq
    exact absurd hq List.not_mem_nil

end ClusterRegistry
