import ClusterRegistry.Proofs.Admission.Resolved
import ClusterRegistry.Proofs.Resource.Parents
import ClusterRegistry.Proofs.Script.LooksUp

/-!
# What only reads

Admitting a payload only reads, however far it gets: a payload is decoded, checked and resolved
before anything is written, and to resolve it only resources of its parents' kinds are looked up
(`Script.looksUp_resolved`). All requests only read but those that create, update or set a status.
-/

namespace ClusterRegistry

namespace Script

/-! ## Resolving -/

theorem looksUp_findOwner (child : Kind) (o : OwnerReference) (id : Id) {kinds : List Kind}
    {p : Kind → Prop} (h : ∀ kind ∈ kinds, p kind) : (findOwner child o id kinds).LooksUp p := by
  induction kinds with
  | nil => exact looksUp_pure _
  | cons kind rest ih =>
    obtain ⟨hkind, hrest⟩ := List.forall_mem_cons.mp h
    apply (looksUp_get? hkind id).bind
    intro found
    cases found with
    | none => exact ih hrest
    | some owner => exact looksUp_pure _

theorem looksUp_matchOwner (child : Kind) (o : OwnerReference) :
    (matchOwner child o).LooksUp (· ∈ child.owners) := by
  unfold matchOwner
  split
  · exact looksUp_pure _
  · next hkinds =>
    split
    · exact looksUp_pure _
    · exact looksUp_findOwner child o _ fun _ => mem_owners_of_candidates hkinds

theorem looksUp_matchOwners (child : Kind) (owners : List OwnerReference) :
    (matchOwners child owners).LooksUp (· ∈ child.owners) := by
  induction owners with
  | nil => exact looksUp_pure _
  | cons o rest ih =>
    apply (looksUp_matchOwner child o).bind
    intro found
    cases found with
    | error e => exact looksUp_pure _
    | ok resolved => exact ih.bind fun _ => looksUp_pure _

theorem looksUp_checkReferences {references : List FieldReference} {p : Kind → Prop}
    (h : ∀ f ∈ references, p f.kind) : (checkReferences references).LooksUp p := by
  induction references with
  | nil => exact looksUp_pure _
  | cons f rest ih =>
    obtain ⟨hkind, hrest⟩ := List.forall_mem_cons.mp h
    unfold checkReferences
    split
    · exact ih hrest
    · split
      · exact looksUp_pure _
      · apply (looksUp_get? hkind _).bind
        intro found
        cases found with
        | none => exact looksUp_pure _
        | some parent => exact ih hrest

/-- A payload is resolved by looking at the kinds under which it is listed. -/
theorem looksUp_resolved (r : Resource) : (resolved r).LooksUp (· ∈ r.kind.parents) := by
  have howners : (matchOwners r.kind r.objectMeta.ownerReferences).LooksUp
      (· ∈ r.kind.parents) :=
    (looksUp_matchOwners _ _).mono fun _ hkind => Kind.mem_parents_iff.mpr (.inl hkind)
  have hfields : (checkReferences r.references).LooksUp (· ∈ r.kind.parents) :=
    looksUp_checkReferences fun f hf =>
      Kind.mem_parents_iff.mpr (.inr (Resource.kind_mem_fieldParents hf))
  unfold resolved resolution
  refine LooksUp.bind ?_ fun outcome => ?_
  · apply howners.bind
    intro found
    obtain ⟨owners, fault⟩ := found
    cases fault with
    | some e => exact looksUp_pure _
    | none => exact hfields.bind fun _ => looksUp_pure _
  · split
    · exact looksUp_fail _
    · exact looksUp_pure _

end Script

namespace Registry

open Script

variable (reg : Registry)

/-! ## Operations -/

theorem reads_accept (kind : Kind) (payload : Json.Payload) : (reg.accept kind payload).Reads :=
  (reads_ofExcept _).bind fun _ => (reads_ofExcept _).bind fun _ => (looksUp_resolved _).reads

theorem reads_fetch (kind : Kind) (id : Id) : (fetch kind id).Reads :=
  (reads_get? kind id).orFail (.notStored kind id)

/-- What is stored is fetched. -/
theorem run_fetch {s : State} {kind : Kind} {id : Id} {r : Resource}
    (h : s.store.get? kind id = some r) : (fetch kind id).run s = (.ok r, s) := by
  rw [fetch, run_bind, run_get?, h]
  rfl

theorem run_fetch_of_none {s : State} {kind : Kind} {id : Id}
    (h : s.store.get? kind id = none) : (fetch kind id).run s = (.error (.notStored kind id), s) := by
  rw [fetch, run_bind, run_get?, h]
  rfl

/-- An assigned id is read from a path however it is spelled. -/
theorem pathId_of_spelledBy (kind : Kind) {id : Id} {raw : String} (hraw : id.SpelledBy raw)
    (h : id.isAssigned = true) : pathId kind raw = .ok id := by
  rw [pathId, Id.parse_of_spelledBy hraw h]

/-- An id is read from its digits. -/
theorem pathId_digits (kind : Kind) {id : Id} (h : id.isAssigned = true) :
    pathId kind id.digits = .ok id :=
  pathId_of_spelledBy kind (Id.spelledBy_digits id) h

/-- A list that must not be empty is answered as it is, and not at all if it is empty. -/
theorem nonemptyList_eq_ok_iff {kind : Kind} {otherwise : ApiError} {items : List Resource}
    {l : ResourceList} :
    reg.nonemptyList kind otherwise items = .ok l ↔ items ≠ [] ∧ reg.asList kind items = l := by
  unfold nonemptyList
  cases items with
  | nil => simp
  | cons r rest => simp

theorem reads_get (kind : Kind) (rawId : String) : (get kind rawId).Reads :=
  (reads_ofExcept _).bind fun id => reads_fetch kind id

theorem reads_listAll (kind : Kind) : (reg.list kind).Reads :=
  (reads_list kind {}).bind fun _ => reads_pure _

theorem reads_listSome (kind : Kind) : (reg.listSome kind).Reads :=
  (reads_list kind {}).bind fun _ => reads_ofExcept _

theorem reads_listInAccount (kind : Kind) (rawAccount : String) :
    (reg.listInAccount kind rawAccount).Reads :=
  (reads_ofExcept _).bind fun _ => (reads_list kind _).bind fun _ => reads_ofExcept _

theorem reads_listUnder (kind parent : Kind) (rawParentId : String) :
    (reg.listUnder kind parent rawParentId).Reads :=
  (reads_ofExcept _).bind fun _ => (reads_list kind _).bind fun _ => reads_ofExcept _

theorem reads_describe (kind : Kind) (rawId : String) : (reg.describe kind rawId).Reads := by
  apply (reads_get kind rawId).bind
  intro r
  split
  · exact (reads_list _ _).bind fun _ => reads_pure _
  · exact reads_fail _

theorem reads_factoryOf (policy : Resource) : (factoryOf policy).Reads := by
  unfold factoryOf
  split
  · exact reads_fail _
  · exact reads_fetch _ _

theorem reads_planReplicas (rawId : String) : (planReplicas rawId).Reads := by
  apply (reads_get _ rawId).bind
  intro policy
  apply (reads_factoryOf policy).bind
  intro factory
  apply (reads_list _ _).bind
  intro assemblies
  split
  · exact reads_pure _
  · exact reads_fail _

theorem reads_recommendResources (rawId : String) : (reg.recommendResources rawId).Reads := by
  apply (reads_get _ rawId).bind
  intro policy
  apply (reads_factoryOf policy).bind
  intro factory
  apply (reads_ofExcept _).bind
  intro usage
  split
  · exact reads_pure _
  · exact reads_fail _

end Registry

end ClusterRegistry
