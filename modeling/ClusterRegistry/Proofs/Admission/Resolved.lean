import Mathlib.Data.List.Forall2
import ClusterRegistry.Proofs.Store.Sound

/-!
# Resolved references

What the resolver answers is true when it answers, and it stays true: the store only grows while
others write, so a parent that was found once is never lost. An admitted payload differs from
the one that was sent in its owner references alone, each resolved under a kind that may own it
(`OwnerReference.ResolvesTo`), and everything its fields refer to is stored.
-/

namespace ClusterRegistry

/-- A reference that is resolved: some kind that may own the child has the owner, and the blanks
of the reference are filled in from it. -/
def OwnerReference.ResolvesTo (there : Kind → Id → Prop) (child : Kind)
    (o resolved : OwnerReference) : Prop :=
  ∃ kind ∈ child.owners, ∃ owner id, Id.parse o.uid = .assigned id ∧ there kind id ∧
    resolved = o.filledFrom kind owner

/-- A field reference that names something that is there. -/
def FieldReference.Found (there : Kind → Id → Prop) (f : FieldReference) : Prop :=
  f.uid ≠ "" → ∃ id, Id.parse f.uid = .assigned id ∧ there f.kind id

variable {there there' : Kind → Id → Prop} {child : Kind}

theorem OwnerReference.ResolvesTo.mono {o o' : OwnerReference} (h : o.ResolvesTo there child o')
    (hmore : ∀ kind id, there kind id → there' kind id) : o.ResolvesTo there' child o' := by
  obtain ⟨kind, hkind, owner, id, hparse, hthere, rfl⟩ := h
  exact ⟨kind, hkind, owner, id, hparse, hmore kind id hthere, rfl⟩

theorem FieldReference.Found.mono {f : FieldReference} (h : f.Found there)
    (hmore : ∀ kind id, there kind id → there' kind id) : f.Found there' := by
  intro hfilled
  obtain ⟨id, hparse, hthere⟩ := h hfilled
  exact ⟨id, hparse, hmore f.kind id hthere⟩

/-- Resolving keeps the `uid` of a reference. -/
theorem OwnerReference.ResolvesTo.uid_eq {o o' : OwnerReference}
    (h : o.ResolvesTo there child o') : o'.uid = o.uid := by
  obtain ⟨kind, -, owner, id, -, -, rfl⟩ := h
  rfl

/-- Resolving keeps the number of references and their `uid`s. -/
theorem uids_of_resolvesTo {owners owners' : List OwnerReference}
    (h : List.Forall₂ (OwnerReference.ResolvesTo there child) owners owners') :
    owners'.map (·.uid) = owners.map (·.uid) := by
  induction h with
  | nil => rfl
  | cons ho _ ih => rw [List.map_cons, List.map_cons, ho.uid_eq, ih]

/-- Whatever stands in the second of two lists that are related member by member is related to a
member of the first. -/
theorem exists_mem_of_forall₂ {α β : Type} {R : α → β → Prop} {as : List α} {bs : List β} {b : β}
    (h : List.Forall₂ R as bs) (hb : b ∈ bs) : ∃ a ∈ as, R a b := by
  induction h with
  | nil => cases hb
  | cons hfirst _ ih =>
    rcases List.mem_cons.mp hb with rfl | hb
    · exact ⟨_, List.mem_cons_self, hfirst⟩
    · obtain ⟨a, hmem, hrelated⟩ := ih hb
      exact ⟨a, List.mem_cons_of_mem _ hmem, hrelated⟩

/-- The text of an id that is read as one. -/
theorem referenceId_eq_ok {field uid : String} {id : Id} (h : referenceId field uid = .ok id) :
    Id.parse uid = .assigned id := by
  unfold referenceId at h
  split at h
  · next id' hparse =>
    cases h
    exact hparse
  · cases h

/-- Owners are only looked up under kinds that may own the child. -/
theorem mem_owners_of_candidates {o : OwnerReference} {kinds : List Kind} {kind : Kind}
    (h : o.candidates child = .ok kinds) (hkind : kind ∈ kinds) : kind ∈ child.owners := by
  unfold OwnerReference.candidates at h
  split at h
  · cases h
    exact hkind
  · split at h
    · split at h
      · next hmem =>
        cases h
        rwa [List.mem_singleton.mp hkind]
      · cases h
    · cases h

/-- A payload that was admitted, by what has become of the one that was sent. -/
structure Resource.ResolvesTo (there : Kind → Id → Prop) (r resolved : Resource) : Prop where
  onlyOwners : ∃ owners, resolved = r.mapMeta fun m => { m with ownerReferences := owners }
  owners : List.Forall₂ (OwnerReference.ResolvesTo there r.kind) r.objectMeta.ownerReferences
    resolved.objectMeta.ownerReferences
  fields : ∀ f ∈ r.references, f.Found there

namespace Script

variable {version : String} {limit : UInt32} {own : Call → Prop} {s : State}

/-- An owner that is found is stored under one of the kinds that were tried. -/
theorem keeps_findOwner (child : Kind) (o : OwnerReference) (id : Id) (kinds : List Kind) :
    (findOwner child o id kinds).Keeps (sharedStore version limit own)
      (fun found t => ∀ o', found = .ok o' →
        ∃ kind ∈ kinds, ∃ owner, t.store.Has kind id ∧ o' = o.filledFrom kind owner) s := by
  induction kinds generalizing s with
  | nil => exact keeps_pure nofun
  | cons kind rest ih =>
    apply (keeps_get? kind id).bind
    intro found t _ hfound
    obtain ⟨-, -, rfl⟩ := hfound
    cases howner : t.store.get? kind id with
    | none =>
      apply ih.imp
      intro found u _ hfound o' ho'
      obtain ⟨kind', hkind', owner, hhas, rfl⟩ := hfound o' ho'
      exact ⟨kind', List.mem_cons_of_mem _ hkind', owner, hhas, rfl⟩
    | some owner =>
      refine keeps_pure fun o' ho' => ?_
      cases ho'
      exact ⟨kind, List.mem_cons_self, owner, by rw [Store.Has, howner]; rfl, rfl⟩

theorem keeps_matchOwner (child : Kind) (o : OwnerReference) :
    (matchOwner child o).Keeps (sharedStore version limit own)
      (fun found t => ∀ o', found = .ok o' → o.ResolvesTo t.store.Has child o') s := by
  unfold matchOwner
  cases hkinds : o.candidates child with
  | error e => exact keeps_pure nofun
  | ok kinds =>
    cases hid : referenceId "owner_references.uid" o.uid with
    | error e => exact keeps_pure nofun
    | ok id =>
      apply (keeps_findOwner child o id kinds).imp
      intro found t _ hfound o' ho'
      obtain ⟨kind, hkind, owner, hhas, rfl⟩ := hfound o' ho'
      exact ⟨kind, mem_owners_of_candidates hkinds hkind, owner, id, referenceId_eq_ok hid, hhas,
        rfl⟩

/-- If no reference was at fault, all of them are resolved. -/
theorem keeps_matchOwners (child : Kind) (owners : List OwnerReference) :
    (matchOwners child owners).Keeps (sharedStore version limit own)
      (fun found t => found.2 = none →
        List.Forall₂ (OwnerReference.ResolvesTo t.store.Has child) owners found.1) s := by
  induction owners generalizing s with
  | nil => exact keeps_pure fun _ => .nil
  | cons o rest ih =>
    apply (keeps_matchOwner child o).bind
    intro found t _ hfound
    cases found with
    | error e => exact keeps_pure nofun
    | ok resolved =>
      apply ih.bind
      intro others u htu hothers
      refine keeps_pure fun hnone => .cons ?_ (hothers hnone)
      -- the owner that was found is still stored after the others have been looked up
      exact (hfound resolved rfl).mono fun _ _ => Store.Grows.has htu

/-- If no reference was at fault, all that are not blank lead to something. -/
theorem keeps_checkReferences (references : List FieldReference) :
    (checkReferences references).Keeps (sharedStore version limit own)
      (fun fault t => fault = none → ∀ f ∈ references, f.Found t.store.Has) s := by
  induction references generalizing s with
  | nil => exact keeps_pure fun _ _ hf => nomatch hf
  | cons f rest ih =>
    unfold checkReferences
    by_cases hblank : f.uid = ""
    · rw [if_pos hblank]
      apply ih.imp
      intro fault t _ hrest hnone
      exact List.forall_mem_cons.mpr ⟨fun hfilled => absurd hblank hfilled, hrest hnone⟩
    · rw [if_neg hblank]
      cases hid : referenceId f.field f.uid with
      | error e => exact keeps_pure nofun
      | ok id =>
        apply (keeps_get? f.kind id).bind
        intro found t _ hfound
        obtain ⟨-, -, rfl⟩ := hfound
        cases hget : t.store.get? f.kind id with
        | none => exact keeps_pure nofun
        | some parent =>
          apply ih.imp
          intro fault u htu hrest hnone
          have hhas : t.store.Has f.kind id := by rw [Store.Has, hget]; rfl
          exact List.forall_mem_cons.mpr
            ⟨fun _ => ⟨id, referenceId_eq_ok hid, Store.Grows.has htu hhas⟩, hrest hnone⟩

/-- A payload that is admitted refers to nothing but what is stored. -/
theorem keeps_resolved (r : Resource) :
    (resolved r).Keeps (sharedStore version limit own)
      (fun resolved t => r.ResolvesTo t.store.Has resolved) s := by
  unfold resolved resolution
  refine Keeps.bind (P := fun outcome t =>
    outcome.fault = none → r.ResolvesTo t.store.Has outcome.resource) ?_ ?_
  · apply (keeps_matchOwners r.kind r.objectMeta.ownerReferences).bind
    intro found t _ hfound
    obtain ⟨owners, fault⟩ := found
    cases fault with
    | some e => exact keeps_pure nofun
    | none =>
      apply (keeps_checkReferences r.references).bind
      intro fault u htu hfields
      refine keeps_pure fun hnone => ⟨⟨owners, rfl⟩, ?_, hfields hnone⟩
      exact (hfound rfl).imp fun _ _ ho => ho.mono fun _ _ => Store.Grows.has htu
  · intro outcome t _ houtcome
    cases hfault : outcome.fault with
    | some e => exact keeps_fail e
    | none => exact keeps_pure (houtcome hfault)

end Script

end ClusterRegistry
