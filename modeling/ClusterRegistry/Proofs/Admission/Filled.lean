import ClusterRegistry.Proofs.Admission.Resolved
import ClusterRegistry.Proofs.Registry.Reading

/-!
# Resolving what is resolved

Resolving has nothing to do where no blank is left in an owner reference and everything leads to
something that is stored (`Script.run_resolved`). So what was admitted once is admitted again as it
is, as long as its parents are stored.
-/

namespace ClusterRegistry

/-- An owner reference that says which version its owner has, and what its name is. -/
structure OwnerReference.Filled (o : OwnerReference) : Prop where
  apiVersion : o.apiVersion ≠ ""
  name : o.name ≠ ""

namespace OwnerReference

variable {o : OwnerReference} {kind : Kind} {owner : Resource}

theorem filled_filledFrom (h : owner.objectMeta.name ≠ "") : (o.filledFrom kind owner).Filled := by
  refine ⟨?_, ?_⟩
  · show (if o.apiVersion = "" then ownerVersion else o.apiVersion) ≠ ""
    split
    · decide
    · assumption
  · show (if o.name = "" then owner.objectMeta.name else o.name) ≠ ""
    split
    · exact h
    · assumption

/-- Nothing is filled in where nothing is blank. -/
theorem Filled.filledFrom_eq (h : o.Filled) (hkind : o.kind = kind.name) :
    o.filledFrom kind owner = o := by
  rw [filledFrom, if_neg h.apiVersion, if_neg h.name, ← hkind]

/-- An owner with the name of a kind is looked up under this kind alone. -/
theorem candidates_of_kind {child : Kind} (hkind : o.kind = kind.name)
    (howners : kind ∈ child.owners) : o.candidates child = .ok [kind] := by
  have hnamed : kind.name ≠ "" := by cases kind <;> decide
  unfold candidates
  rw [if_neg (hkind ▸ hnamed), hkind, Kind.ofName?_name]
  exact if_pos howners

end OwnerReference

theorem referenceId_of_parse {field uid : String} {id : Id} (h : Id.parse uid = .assigned id) :
    referenceId field uid = .ok id := by
  rw [referenceId, h]

namespace Script

variable {s : State} {child : Kind}

/-- An owner reference with the name of the kind of its owner is resolved to itself if its owner has
nothing to fill in. -/
theorem run_matchOwner_self {o : OwnerReference} {kind : Kind} {id : Id} {owner : Resource}
    (hkind : o.kind = kind.name) (howners : kind ∈ child.owners)
    (hparse : Id.parse o.uid = .assigned id) (howner : s.store.get? kind id = some owner)
    (hfilled : o.filledFrom kind owner = o) : (matchOwner child o).run s = (.ok (.ok o), s) := by
  rw [matchOwner, OwnerReference.candidates_of_kind hkind howners, referenceId_of_parse hparse]
  show (findOwner child o id [kind]).run s = _
  rw [findOwner, run_bind, run_get?, howner]
  show (Except.ok (Except.ok (o.filledFrom kind owner)), s) = _
  rw [hfilled]

theorem run_matchOwners_self {owners : List OwnerReference}
    (h : ∀ o ∈ owners, (matchOwner child o).run s = (.ok (.ok o), s)) :
    (matchOwners child owners).run s = (.ok (owners, none), s) := by
  induction owners with
  | nil => rfl
  | cons o rest ih =>
    obtain ⟨ho, hrest⟩ := List.forall_mem_cons.mp h
    rw [matchOwners, run_bind, ho]
    show (matchOwners child rest >>= _).run s = _
    rw [run_bind, ih hrest]
    rfl

/-- The references in the fields are at fault unless all that are not blank lead to something. -/
theorem run_checkReferences (references : List FieldReference) (s : State) :
    ∃ fault, (checkReferences references).run s = (.ok fault, s) ∧
      (fault = none ↔ ∀ f ∈ references, f.Found s.store.Has) := by
  induction references with
  | nil => exact ⟨none, rfl, by simp⟩
  | cons f rest ih =>
    rw [checkReferences, List.forall_mem_cons]
    by_cases hblank : f.uid = ""
    · have hfound : f.Found s.store.Has := fun hfilled => absurd hblank hfilled
      rw [if_pos hblank, and_iff_right hfound]
      exact ih
    · rw [if_neg hblank]
      cases hid : referenceId f.field f.uid with
      | error e =>
        refine ⟨some e, rfl, iff_of_false nofun fun h => ?_⟩
        obtain ⟨id, hparse, -⟩ := h.1 hblank
        rw [referenceId_of_parse hparse] at hid
        cases hid
      | ok id =>
        have hparse := referenceId_eq_ok hid
        dsimp only
        rw [run_bind, run_get?]
        cases hparent : s.store.get? f.kind id with
        | none =>
          refine ⟨_, rfl, iff_of_false nofun fun h => ?_⟩
          obtain ⟨id', hparse', hhas⟩ := h.1 hblank
          obtain rfl : id = id' := Id.Reading.assigned.inj (hparse.symm.trans hparse')
          rw [Store.Has, hparent] at hhas
          cases hhas
        | some parent =>
          have hfound : f.Found s.store.Has := fun _ =>
            ⟨id, hparse, Option.isSome_iff_exists.mpr ⟨parent, hparent⟩⟩
          rw [and_iff_right hfound]
          exact ih

/-- A resource is resolved to itself if each of its owner references is, and what its fields refer
to is stored. -/
theorem run_resolution_self {r : Resource}
    (howners : ∀ o ∈ r.objectMeta.ownerReferences,
      (matchOwner r.kind o).run s = (.ok (.ok o), s))
    (hfields : ∀ f ∈ r.references, f.Found s.store.Has) :
    (resolution r).run s = (.ok ⟨r, none⟩, s) := by
  obtain ⟨fault, hrun, hiff⟩ := run_checkReferences r.references s
  obtain rfl := hiff.mpr hfields
  rw [resolution, run_bind, run_matchOwners_self howners]
  show (checkReferences r.references >>= _).run s = _
  rw [run_bind, hrun]
  rfl

/-- What refers to nothing but what is stored, and has no blank in its owner references, is resolved
to itself. -/
theorem run_resolved {r : Resource} (hlinked : r.Linked s.store.Has)
    (hfilled : ∀ o ∈ r.objectMeta.ownerReferences, o.Filled) :
    (resolved r).run s = (.ok r, s) := by
  have howners : ∀ o ∈ r.objectMeta.ownerReferences,
      (matchOwner r.kind o).run s = (.ok (.ok o), s) := by
    intro o ho
    obtain ⟨kind, hmem, hkind, id, hparse, hhas⟩ := hlinked.owners o ho
    obtain ⟨owner, howner⟩ := Option.isSome_iff_exists.mp hhas
    exact run_matchOwner_self hkind hmem hparse howner ((hfilled o ho).filledFrom_eq hkind)
  rw [resolved, run_bind, run_resolution_self howners hlinked.fields]
  rfl

end Script

end ClusterRegistry
