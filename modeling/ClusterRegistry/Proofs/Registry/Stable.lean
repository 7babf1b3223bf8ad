import ClusterRegistry.Proofs.Admission.Resolvable
import ClusterRegistry.Proofs.Registry.Blameless
import ClusterRegistry.Proofs.Registry.Distinct
import ClusterRegistry.Proofs.Registry.Frame

/-!
# What is admitted once

A payload that was admitted once is admitted ever after. What it says is decoded and checked in the
same way at any time; and what its references lead to stays where it is, whatever becomes of it, so
that a payload that could be resolved can still be (`Registry.exists_run_accept_of_grows`).

It might be resolved to another owner. A reference that says no kind leads to the first kind that has
its id, and a resource of an earlier kind may be stored under this id later. Where no id stands at
two addresses there is no such resource, and the owners are those from before
(`Registry.admission_stable`).
-/

namespace ClusterRegistry

/-- Whether two owner references that were resolved, one in a store and one in another, lead to the
same owner: they say its kind and its id, under which it is stored in both. They may differ in the
name, but only where both have it from the owner. -/
structure OwnerReference.SameOwner (s t : Store) (o later : OwnerReference) : Prop where
  said : later = { o with name := later.name }
  stored : ∃ kind id owner owner', o.kind = kind.name ∧ Id.parse o.uid = .assigned id ∧
    s.get? kind id = some owner ∧ t.get? kind id = some owner' ∧
    (later.name = o.name ∨
      o.name = owner.objectMeta.name ∧ later.name = owner'.objectMeta.name)

/-- Two lists that are related to a third one, member by member, are related to each other. -/
theorem forall₂_of_common {α β γ : Type} {R : α → β → Prop} {S : α → γ → Prop} {T : β → γ → Prop}
    (hT : ∀ a b c, R a b → S a c → T b c) {as : List α} {bs : List β} {cs : List γ}
    (hR : List.Forall₂ R as bs) (hS : List.Forall₂ S as cs) : List.Forall₂ T bs cs := by
  induction hR generalizing cs with
  | nil =>
    cases hS
    exact .nil
  | cons hfirst _ ih =>
    cases hS with
    | cons hfirst' hrest' => exact .cons (hT _ _ _ hfirst hfirst') (ih hrest')

/-- Where ids are distinct, an owner reference leads to the owner to which it led when less was
stored. -/
theorem OwnerReference.ResolvedIn.sameOwner {s t : Store} {child : Kind}
    {o resolved later : OwnerReference} (hgrows : s.Grows t) (hdistinct : t.IdsDistinct)
    (h : o.ResolvedIn s child resolved) (h' : o.ResolvedIn t child later) :
    resolved.SameOwner s t later := by
  obtain ⟨kind, owner, ⟨id, hparse, -, howner⟩, rfl⟩ := h
  obtain ⟨kind', owner', ⟨id', hparse', -, howner'⟩, rfl⟩ := h'
  obtain rfl : id = id' := Id.Reading.assigned.inj (hparse.symm.trans hparse')
  have hhas : s.Has kind id := by
    rw [Store.Has, howner]
    rfl
  have hhas' : t.Has kind' id := by
    rw [Store.Has, howner']
    rfl
  obtain rfl : kind = kind' := hdistinct.kind_eq (hgrows.has hhas) hhas'
  refine ⟨rfl, kind, id, owner, owner', rfl, hparse, howner, howner', ?_⟩
  by_cases hblank : o.name = ""
  · exact .inr ⟨if_pos hblank, if_pos hblank⟩
  · exact .inl ((if_neg hblank).trans (if_neg hblank).symm)

namespace Registry

open Script

variable {reg : Registry} {s t u : State} {kind : Kind} {payload : Json.Payload}
  {admitted : Resource}

/-- A payload that was accepted is accepted where more is stored, and differs in its owner references
at most. Where ids are distinct these lead to the same owners. -/
theorem exists_run_accept_of_grows (hgrows : s.store.Grows t.store)
    (h : (reg.accept kind payload).run s = (.ok admitted, u)) :
    ∃ owners, (reg.accept kind payload).run t =
        (.ok (admitted.mapMeta fun m => { m with ownerReferences := owners }), t) ∧
      (t.store.IdsDistinct → List.Forall₂ (OwnerReference.SameOwner s.store t.store)
        admitted.objectMeta.ownerReferences owners) := by
  obtain ⟨-, sent, hsent, hcheck, hresolved⟩ := reg.exists_of_run_accept h
  have hresolvable := (resolvable_of_run_resolved hresolved).mono fun _ _ => hgrows.has
  obtain ⟨before, rfl, howners⟩ := exists_of_run_resolved hresolved
  obtain ⟨owners, hrun, howners'⟩ := run_resolved_of_resolvable hresolvable
  refine ⟨owners, ?_, fun hdistinct => ?_⟩
  · rw [accept, hsent]
    show (ofExcept (sent.canonical.check reg.maxReplicas) >>= _).run t = _
    rw [hcheck]
    exact hrun
  · exact forall₂_of_common (fun _ _ _ ho ho' => ho.sameOwner hgrows hdistinct ho') howners howners'

/-- **Admission is stable.** A payload that is accepted in a reachable state is accepted after any
further requests, whatever they create, rename, give to other owners or observe. What is accepted
then differs in its owner references at most; and where no id stands at two addresses, each of them
says the kind and the `uid` that it said before, and leads to the same owner. -/
theorem admission_stable (h : reg.Reachable s)
    (haccepted : (reg.accept kind payload).run s = (.ok admitted, u)) (arrivals : List Arrival) :
    let t := (reg.answerAll arrivals s).2
    ∃ owners, (reg.accept kind payload).run t =
        (.ok (admitted.mapMeta fun m => { m with ownerReferences := owners }), t) ∧
      (t.store.IdsDistinct → List.Forall₂ (OwnerReference.SameOwner s.store t.store)
        admitted.objectMeta.ownerReferences owners) :=
  exists_run_accept_of_grows (grows_answerAll arrivals h.sound) haccepted

/-- The factory of the stack as it is sent under another name. -/
def sentShop : Json.Payload :=
  .ofJson (.object [("object_meta", .object [("account", .text "9"),
      ("cluster_name", .text "west"), ("name", .text "shop"),
      ("owner_references", .array [.object [("uid", .text "2")]])]),
    ("plan", .text "1"), ("replicas", .number (.integer 2)),
    ("resources", .object [("compute_type", .text "cpu"), ("storage_type", .text "ssd")])])

/-- The arrival of the new name of the factory. -/
def renameArrivals : List Arrival := [⟨"t3", noMetrics, .update .assemblyFactory "3" sentShop⟩]

/-- The stack after its factory was renamed. -/
def renamedState : State := (tenReplicas.answerAll renameArrivals stackState).2

/-- A policy that says of the factory of the stack no more than the id is accepted before the factory
is renamed and after. It is linked to the same factory, under the new name. -/
theorem policy_accepted_after_rename :
    ∃ before owners,
      (tenReplicas.accept .horizontalScaling sentFiveOrMore).run stackState =
        (.ok before, stackState) ∧
      before.objectMeta.ownerReferences.map (·.name) = ["web"] ∧
      (tenReplicas.accept .horizontalScaling sentFiveOrMore).run renamedState =
        (.ok (before.mapMeta fun m => { m with ownerReferences := owners }), renamedState) ∧
      List.Forall₂ (OwnerReference.SameOwner stackState.store renamedState.store)
        before.objectMeta.ownerReferences owners ∧
      owners.map (·.name) = ["shop"] := by
  have hreachable : tenReplicas.Reachable stackState := ⟨_, planThenStack, rfl⟩
  have hlater : tenReplicas.Reachable renamedState := hreachable.answerAll renameArrivals
  have hfresh : renamedState.source.Fresh := by decide +kernel
  have hok : ((tenReplicas.accept .horizontalScaling sentFiveOrMore).run stackState).1.isOk =
      true := by decide +kernel
  have hbefore : ((tenReplicas.accept .horizontalScaling sentFiveOrMore).run
      stackState).1.toOption.map (·.objectMeta.ownerReferences.map (·.name)) =
        some ["web"] := by decide +kernel
  have hrenamed : ((tenReplicas.accept .horizontalScaling sentFiveOrMore).run
      renamedState).1.toOption.map (·.objectMeta.ownerReferences.map (·.name)) =
        some ["shop"] := by decide +kernel
  obtain ⟨before, u, hrun⟩ := exists_run_of_isOk hok
  obtain ⟨rfl, -⟩ := tenReplicas.exists_of_run_accept hrun
  obtain ⟨owners, hagain, hsame⟩ := admission_stable hreachable hrun renameArrivals
  change (tenReplicas.accept .horizontalScaling sentFiveOrMore).run renamedState = _ at hagain
  rw [hrun] at hbefore
  rw [hagain] at hrenamed
  exact ⟨before, owners, hrun, Option.some.inj hbefore, hagain,
    hsame (hlater.idsDistinct hfresh), Option.some.inj hrenamed⟩

end Registry

end ClusterRegistry
