import ClusterRegistry.Proofs.Registry.Distinct
import ClusterRegistry.Proofs.Resource.Parents
import ClusterRegistry.Proofs.Script.Runs
import ClusterRegistry.Proofs.Store.Listing

/-!
# What is listed under a parent

A request for the children of a parent names the kind of the parent and its id. The store looks at
the id alone: it lists whatever refers to the id, in an owner reference or in a field, whatever the
kind that is referred to (`Registry.mem_items_iff`). An id tells its kind, so that all which is
listed refers to the parent if the parent is stored; if it is not, then nothing that is listed
refers to it (`Registry.listUnder_honours_iff`), and where the id belongs to another kind there is
something that is listed (`Registry.listUnder_ignores_kind`).
-/

namespace ClusterRegistry

theorem Kind.name_inj {k k' : Kind} (h : k.name = k'.name) : k = k' :=
  Option.some.inj ((Kind.ofName?_name k).symm.trans (h ▸ Kind.ofName?_name k'))

/-- Whether a resource names the resource of a kind with an id, as an owner or in a field. -/
def Resource.RefersTo (r : Resource) (kind : Kind) (id : Id) : Prop :=
  (∃ o ∈ r.objectMeta.ownerReferences, o.kind = kind.name ∧ Id.parse o.uid = .assigned id) ∨
    ∃ f ∈ r.references, f.kind = kind ∧ Id.parse f.uid = .assigned id

/-! ## Parents and references -/

namespace Resource

variable {r : Resource} {there : Kind → Id → Prop} {kind : Kind} {id : Id}

/-- What a linked resource refers to is there. -/
theorem Linked.there_of_refersTo (h : r.Linked there) (hr : r.RefersTo kind id) : there kind id := by
  rcases hr with ⟨o, ho, hname, hparse⟩ | ⟨f, hf, rfl, hparse⟩
  · obtain ⟨kind', -, hname', id', hparse', hthere⟩ := h.owners o ho
    obtain rfl : kind = kind' := Kind.name_inj (hname.symm.trans hname')
    obtain rfl : id = id' := Id.Reading.assigned.inj (hparse.symm.trans hparse')
    exact hthere
  · have hfilled : f.uid ≠ "" := by
      intro hblank
      rw [hblank] at hparse
      cases hparse
    obtain ⟨id', hparse', hthere⟩ := h.fields f hf hfilled
    obtain rfl : id = id' := Id.Reading.assigned.inj (hparse.symm.trans hparse')
    exact hthere

/-- The ids that a linked resource says are those that it refers to, under whatever kinds. -/
theorem Linked.mentions_iff (h : r.Linked there) :
    r.Mentions id ↔ ∃ kind, r.RefersTo kind id := by
  constructor
  · rintro (⟨o, ho, hparse⟩ | ⟨f, hf, hparse⟩)
    · obtain ⟨kind, -, hname, -⟩ := h.owners o ho
      exact ⟨kind, .inl ⟨o, ho, hname, hparse⟩⟩
    · exact ⟨f.kind, .inr ⟨f, hf, rfl, hparse⟩⟩
  · rintro ⟨kind, ⟨o, ho, -, hparse⟩ | ⟨f, hf, -, hparse⟩⟩
    · exact .inl ⟨o, ho, hparse⟩
    · exact .inr ⟨f, hf, hparse⟩

end Resource

/-- What a sound store lists under a parent is what refers to its id. -/
theorem Store.Sound.mem_list_parent_iff {version : String} {limit : UInt32} {s : Store}
    (h : s.Sound version limit) {kind : Kind} {parent : Id} {r : Resource} :
    r ∈ s.list kind { parent := some parent } ↔
      s.get? kind r.id = some r ∧ ∃ q, r.RefersTo q parent := by
  rw [h.indexed.mem_list_iff, Filter.selects_parent_iff]
  exact and_congr_right fun hr => (h.linked hr).mentions_iff

/-! ## Lists under a parent -/

namespace Registry

open Script

variable {reg : Registry} {s t : State} {kind parent : Kind} {rawId : String} {id : Id}
  {l : ResourceList}

/-- A list that is answered is not empty, and holds what the store lists under the id. -/
theorem items_of_run_listUnder (hid : pathId parent rawId = .ok id)
    (h : (reg.listUnder kind parent rawId).run s = (.ok l, t)) :
    t = s ∧ l.items ≠ [] ∧ l.items = s.store.list kind { parent := some id } := by
  rw [listUnder, hid] at h
  obtain ⟨items, hitems, h⟩ := (reads_list kind _).exists_of_run_bind h
  cases hitems
  obtain ⟨hanswer, rfl⟩ := Prod.mk.inj ((run_ofExcept _ s).symm.trans h)
  obtain ⟨hnonempty, rfl⟩ := reg.nonemptyList_eq_ok_iff.mp hanswer
  exact ⟨rfl, hnonempty, rfl⟩

/-- What is listed under a parent is what is stored under the kind and refers to the id of the
parent, under whatever kind. -/
theorem mem_items_iff (h : reg.Reachable s) (hid : pathId parent rawId = .ok id)
    (hrun : (reg.listUnder kind parent rawId).run s = (.ok l, t)) (r : Resource) :
    r ∈ l.items ↔ s.store.get? kind r.id = some r ∧ ∃ q, r.RefersTo q id := by
  rw [(items_of_run_listUnder hid hrun).2.2]
  exact h.sound.mem_list_parent_iff

/-- With fresh ids, all that is listed under a parent refers to a resource of the kind of the
parent exactly if the parent is stored. -/
theorem listUnder_honours_iff (h : reg.Reachable s) (hfresh : s.source.Fresh)
    (hid : pathId parent rawId = .ok id)
    (hrun : (reg.listUnder kind parent rawId).run s = (.ok l, t)) :
    (∀ r ∈ l.items, r.RefersTo parent id) ↔ s.store.Has parent id := by
  have hitem : ∀ r ∈ l.items, ∃ q, r.RefersTo q id ∧ s.store.Has q id := by
    intro r hr
    obtain ⟨hstored, q, hrefers⟩ := (mem_items_iff h hid hrun r).mp hr
    exact ⟨q, hrefers, (h.sound.linked hstored).there_of_refersTo hrefers⟩
  constructor
  · intro hall
    obtain ⟨r, hr⟩ := List.exists_mem_of_ne_nil _ (items_of_run_listUnder hid hrun).2.1
    obtain ⟨hstored, -⟩ := (mem_items_iff h hid hrun r).mp hr
    exact (h.sound.linked hstored).there_of_refersTo (hall r hr)
  · intro hparent r hr
    obtain ⟨q, hrefers, hhas⟩ := hitem r hr
    -- the id tells its kind
    exact (h.idsDistinct hfresh).kind_eq hhas hparent ▸ hrefers

/-- The stack that runs under the plan is listed under the plan. -/
theorem listUnder_honours_plan :
    ∃ l t, (tenReplicas.listUnder .stacksFactory .plan "1").run stackState = (.ok l, t) ∧
      l.items.length = 1 ∧
      ((∀ r ∈ l.items, r.RefersTo .plan ⟨1⟩) ↔ stackState.store.Has .plan ⟨1⟩) ∧
      stackState.store.Has .plan ⟨1⟩ := by
  have hreachable : tenReplicas.Reachable stackState := ⟨_, planThenStack, rfl⟩
  have hfresh : stackState.source.Fresh := by decide +kernel
  have hcount : ((tenReplicas.listUnder .stacksFactory .plan "1").run stackState).1.toOption.map
      (·.items.length) = some 1 := by decide +kernel
  have hplan : stackState.store.Has .plan ⟨1⟩ := by
    rw [Store.Has]
    decide +kernel
  cases hrun : (tenReplicas.listUnder .stacksFactory .plan "1").run stackState with
  | mk outcome t =>
    rw [hrun] at hcount
    cases outcome with
    | error e => cases hcount
    | ok l =>
      exact ⟨l, t, rfl, Option.some.inj hcount,
        listUnder_honours_iff hreachable hfresh rfl hrun, hplan⟩

/-- The same stack is listed under a secret with the id of the plan, although there is no such
secret: the kind of the parent is one under which stacks are listed, but it is not looked at. -/
theorem listUnder_ignores_kind :
    ¬ ∀ (reg : Registry) (s t : State) (kind parent : Kind) (rawId : String) (id : Id)
      (l : ResourceList), reg.Reachable s → s.source.Fresh → parent ∈ kind.parents →
      pathId parent rawId = .ok id → (reg.listUnder kind parent rawId).run s = (.ok l, t) →
      ∀ r ∈ l.items, r.RefersTo parent id := by
  intro hall
  have hreachable : tenReplicas.Reachable stackState := ⟨_, planThenStack, rfl⟩
  have hfresh : stackState.source.Fresh := by decide +kernel
  have hlisted : ((tenReplicas.listUnder .stacksFactory .secret "1").run stackState).1.isOk =
      true := by decide +kernel
  have hsecret : ¬ stackState.store.Has .secret ⟨1⟩ := by
    rw [Store.Has]
    decide +kernel
  have hid : pathId .secret "1" = .ok ⟨1⟩ := rfl
  obtain ⟨l, t, hrun⟩ := Script.exists_run_of_isOk hlisted
  have hrefers := hall tenReplicas stackState t .stacksFactory .secret "1" ⟨1⟩ l hreachable
    hfresh (by decide) hid hrun
  -- whatever refers to the secret would need it to be stored
  obtain ⟨r, hr⟩ := List.exists_mem_of_ne_nil _ (items_of_run_listUnder hid hrun).2.1
  obtain ⟨hstored, -⟩ := (mem_items_iff hreachable hid hrun r).mp hr
  exact hsecret ((hreachable.sound.linked hstored).there_of_refersTo (hrefers r hr))

end Registry

end ClusterRegistry
