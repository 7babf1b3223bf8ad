import ClusterRegistry.Proofs.Http.Children
import ClusterRegistry.Proofs.Registry.Listed
import ClusterRegistry.Proofs.Registry.Scaled

/-!
# References can be followed back

The catalogue says for each kind under which kinds it is listed, the forms say which kinds their
fields refer to, and a row names the kind of the children that describe a resource. The three agree:
what a resource refers to is of a kind under which it is listed (`Resource.Linked.mem_parents`), and
no field of a child refers to the kind that it describes (`Kind.not_mem_fieldParents_of_child`). So
whoever is named by a stored resource finds it again, under both paths that list it, and the
children that describe a resource are the ones that it owns (`Registry.references_navigable`).
-/

namespace ClusterRegistry

/-! ## The catalogue -/

namespace Kind

variable {k child : Kind}

/-- The children that describe a resource have no field for it. -/
theorem not_mem_fieldParents_of_child (h : k.row.child = some child) : k ∉ child.fieldParents := by
  have hrow : ∀ k ∈ all, ∀ child ∈ k.row.child, k ∉ child.fieldParents := by decide
  exact hrow k (mem_all k) child h

end Kind

namespace Resource

variable {r : Resource} {kind : Kind} {id : Id} {there : Kind → Id → Prop}

/-- A resource is listed under the kind of whatever it refers to. -/
theorem Linked.mem_parents (h : r.Linked there) (hr : r.RefersTo kind id) :
    kind ∈ r.kind.parents := by
  rw [Kind.mem_parents_iff]
  rcases hr with ⟨o, ho, hname, -⟩ | ⟨f, hf, rfl, -⟩
  · obtain ⟨kind', hmem, hname', -⟩ := h.owners o ho
    obtain rfl : kind = kind' := Kind.name_inj (hname.symm.trans hname')
    exact .inl hmem
  · exact .inr (kind_mem_fieldParents hf)

end Resource

namespace Store

variable {version : String} {limit : UInt32} {s : Store} {k kind child : Kind} {pid cid : Id}
  {c : Resource}

/-- Where ids are distinct, a stored resource that says the id of another one refers to it under its
kind. -/
theorem Sound.refersTo_of_mentions (h : s.Sound version limit) (hids : s.IdsDistinct)
    (hp : s.Has k pid) (hc : s.get? kind cid = some c) (hmentions : c.Mentions pid) :
    c.RefersTo k pid := by
  obtain ⟨k', hrefers⟩ := (h.linked hc).mentions_iff.mp hmentions
  have hhas : s.Has k' pid := (h.linked hc).there_of_refersTo hrefers
  rwa [hids.kind_eq hp hhas]

/-- Where ids are distinct, the children that are listed to describe a resource are those that it
owns. -/
theorem Sound.mem_list_child_iff (h : s.Sound version limit) (hids : s.IdsDistinct)
    (hchild : k.row.child = some child) (hp : s.Has k pid) :
    c ∈ s.list child { parent := some pid } ↔ s.get? child c.id = some c ∧
      ∃ o ∈ c.objectMeta.ownerReferences, o.kind = k.name ∧ Id.parse o.uid = .assigned pid := by
  rw [h.indexed.mem_list_iff, Filter.selects_parent_iff]
  refine and_congr_right fun hc => ⟨fun hmentions => ?_, ?_⟩
  · rcases h.refersTo_of_mentions hids hp hc hmentions with howner | ⟨f, hf, rfl, -⟩
    · exact howner
    · -- a child has no field for what it describes
      have hkind := Resource.kind_mem_fieldParents hf
      rw [h.kind_eq hc] at hkind
      exact absurd hkind (Kind.not_mem_fieldParents_of_child hchild)
  · rintro ⟨o, ho, -, hparse⟩
    exact .inl ⟨o, ho, hparse⟩

end Store

namespace Registry

open Script

variable {reg : Registry} {s : State} {kind parent : Kind} {id : Id} {rawId : String}

/-- What is listed under a parent is answered unless there is nothing. -/
theorem run_listUnder (hid : pathId parent rawId = .ok id) {r : Resource}
    (hr : r ∈ s.store.list kind { parent := some id }) :
    (reg.listUnder kind parent rawId).run s =
      (.ok (reg.asList kind (s.store.list kind { parent := some id })), s) := by
  rw [listUnder, hid]
  refine (run_ofExcept _ s).trans (Prod.ext ?_ rfl)
  exact reg.nonemptyList_eq_ok_iff.mpr ⟨List.ne_nil_of_mem hr, rfl⟩

/-- **References can be followed back.** Let ids be distinct. If a stored resource `c` says the id of
a stored resource of kind `k`, as an owner or in a field, then it is listed under `k`: both paths
that name the two kinds and spell the id lead to a route for it, and what is listed there holds `c`.
And whenever the resources of a kind are described by children, whoever of that kind is stored is
described by a list of exactly those stored children that it owns, in ascending order of their ids,
be it empty. -/
theorem references_navigable (h : reg.Reachable s) (hids : s.store.IdsDistinct) :
    (∀ k pid p ck cid c, s.store.get? k pid = some p → s.store.get? ck cid = some c →
      c.Mentions pid → k ∈ ck.parents ∧ ∀ raw, pid.SpelledBy raw →
        (∃ r, Http.findRoute [ck.collection, k.collection, raw] =
          some ⟨r, [⟨"parent_id", raw⟩]⟩ ∧ r.ListsUnder ck k) ∧
        (∃ r, Http.findRoute [k.collection, raw, ck.collection] = some ⟨r, [⟨"id", raw⟩]⟩ ∧
          r.ListsUnder ck k) ∧
        ∃ items, (reg.listUnder ck k raw).run s = (.ok (reg.asList ck items), s) ∧ c ∈ items) ∧
    ∀ k pid p child, s.store.get? k pid = some p → k.row.child = some child →
      ∀ raw, pid.SpelledBy raw →
        ∃ items, (reg.describe k raw).run s = (.ok (reg.asList child items), s) ∧
          items.Pairwise Store.Earlier ∧
          ∀ q, q ∈ items ↔ s.store.get? child q.id = some q ∧
            ∃ o ∈ q.objectMeta.ownerReferences, o.kind = k.name ∧ Id.parse o.uid = .assigned pid := by
  have hs := h.sound
  constructor
  · intro k pid p ck cid c hp hc hmentions
    have hhas : s.store.Has k pid := Option.isSome_iff_exists.mpr ⟨p, hp⟩
    have hparent : k ∈ ck.parents := by
      have hrefers := hs.refersTo_of_mentions hids hhas hc hmentions
      rw [← hs.kind_eq hc]
      exact (hs.linked hc).mem_parents hrefers
    refine ⟨hparent, fun raw hraw => ?_⟩
    obtain ⟨hunder, hof⟩ := Http.findRoute_children hparent hraw.numeral
    have hcid : s.store.get? ck c.id = some c := by rw [hs.id_eq hc, hc]
    have hlisted : c ∈ s.store.list ck { parent := some pid } :=
      hs.indexed.mem_list_iff.mpr ⟨hcid, Filter.selects_parent_iff.mpr hmentions⟩
    have hid := pathId_of_spelledBy k hraw (hs.isAssigned hp)
    exact ⟨hunder, hof, _, run_listUnder hid hlisted, hlisted⟩
  · intro k pid p child hp hchild raw hraw
    have hhas : s.store.Has k pid := Option.isSome_iff_exists.mpr ⟨p, hp⟩
    have hid := pathId_of_spelledBy k hraw (hs.isAssigned hp)
    exact ⟨_, run_describe hs hchild hid hp, hs.indexed.pairwise_list,
      fun q => hs.mem_list_child_iff hids hchild hhas⟩

/-- The stack that runs under the plan is listed under it, and an assembly without volumes is
described by an empty list. -/
theorem references_navigable_stack :
    ∃ c items, stackState.store.get? .stacksFactory ⟨2⟩ = some c ∧
      (tenReplicas.listUnder .stacksFactory .plan "01").run stackState =
        (.ok (tenReplicas.asList .stacksFactory items), stackState) ∧ c ∈ items ∧
      (tenReplicas.describe .assembly "4").run stackState =
        (.ok (tenReplicas.asList .volume []), stackState) := by
  have hreachable : tenReplicas.Reachable stackState := ⟨_, planThenStack, rfl⟩
  have hfresh : stackState.source.Fresh := by decide +kernel
  have hplan : (stackState.store.get? .plan ⟨1⟩).isSome = true := by decide +kernel
  have hassembly : (stackState.store.get? .assembly ⟨4⟩).isSome = true := by decide +kernel
  have huids : (stackState.store.get? .stacksFactory ⟨2⟩).map (·.references.map (·.uid)) =
      some ["1", ""] := by decide +kernel
  have hcount : ((tenReplicas.describe .assembly "4").run stackState).1.toOption.map
      (·.items.length) = some 0 := by decide +kernel
  obtain ⟨p, hp⟩ := Option.isSome_iff_exists.mp hplan
  obtain ⟨a, ha⟩ := Option.isSome_iff_exists.mp hassembly
  obtain ⟨c, hc, hreferences⟩ := Option.map_eq_some_iff.mp huids
  obtain ⟨f, hf, huid⟩ : ∃ f ∈ c.references, f.uid = "1" := by
    rw [← List.mem_map, hreferences]
    exact List.mem_cons_self
  have hmentions : c.Mentions ⟨1⟩ := .inr ⟨f, hf, by rw [huid]; rfl⟩
  obtain ⟨hlisted, hdescribed⟩ := references_navigable hreachable (hreachable.idsDistinct hfresh)
  obtain ⟨-, hunder⟩ := hlisted .plan ⟨1⟩ p .stacksFactory ⟨2⟩ c hp hc hmentions
  obtain ⟨-, -, items, hitems, hmem⟩ := hunder "01" ⟨rfl, rfl⟩
  obtain ⟨volumes, hvolumes, -⟩ := hdescribed .assembly ⟨4⟩ a .volume ha rfl "4" ⟨rfl, rfl⟩
  rw [hvolumes] at hcount
  obtain rfl : volumes = [] := List.eq_nil_of_length_eq_zero (Option.some.inj hcount)
  exact ⟨c, items, hc, hitems, hmem, hvolumes⟩

end Registry

end ClusterRegistry
