import Mathlib.Data.List.Nodup
import ClusterRegistry.Proofs.Admission.Filled

/-!
# What can be resolved

Whether a payload is resolved depends on what is stored under which kind and on nothing else: each
of its owner references must lead to something that is stored under a kind that may own it
(`OwnerReference.Resolvable`), and so must each reference in its fields that is not blank. The
resolver goes through the references one by one and gives up at the first fault, but what it comes
to is told without its steps: exactly what is resolvable is resolved, nothing but the owner
references is written, and what was resolved is resolved to itself (`Script.resolution_exact`).

For this nothing is assumed of what is stored, not even that a resource stands under its own kind.
-/

namespace ClusterRegistry

/-- The kind that a name belongs to is the one whose name it is, whatever the case of its
letters. -/
theorem Kind.ofName?_eq_some_iff {name : String} {kind : Kind} :
    ofName? name = some kind ↔ Text.sameIgnoringCase kind.name name = true := by
  constructor
  · intro h
    exact List.find?_some (p := fun k : Kind => Text.sameIgnoringCase k.name name) h
  · intro h
    -- the search looks at the name in lower case only
    have hlower : kind.name.toList.map Char.toLower = name.toList.map Char.toLower :=
      beq_iff_eq.mp h
    have hsame : ofName? name = ofName? kind.name := by
      simp only [ofName?, Text.sameIgnoringCase, hlower]
    rw [hsame, ofName?_name]

namespace OwnerReference

/-- Whether the owner that a reference names may be of a kind: the reference says this kind, in
whatever case, or says none. -/
def admits (o : OwnerReference) (kind : Kind) : Bool :=
  o.kind == "" || Text.sameIgnoringCase kind.name o.kind

/-- Whether an owner reference of a child can be resolved: its `uid` is the id of something that is
there under a kind that may own the child and that the reference admits. -/
def Resolvable (there : Kind → Id → Prop) (child : Kind) (o : OwnerReference) : Prop :=
  ∃ id, Id.parse o.uid = .assigned id ∧
    ∃ kind ∈ child.owners, o.admits kind = true ∧ there kind id

/-- Whether a resource is the owner that a reference of a child is resolved to: it is stored under
the first kind that may own the child, that the reference admits, and that has the id. -/
def OwnedBy (s : Store) (child : Kind) (o : OwnerReference) (kind : Kind) (owner : Resource) :
    Prop :=
  ∃ id, Id.parse o.uid = .assigned id ∧
    (child.owners.find? fun k => o.admits k && (s.get? k id).isSome) = some kind ∧
    s.get? kind id = some owner

/-- An owner reference as it is resolved: with the name of the kind under which its owner is stored,
and with what was left blank filled in. -/
def ResolvedIn (s : Store) (child : Kind) (o resolved : OwnerReference) : Prop :=
  ∃ kind owner, o.OwnedBy s child kind owner ∧
    resolved = { o with
      kind := kind.name
      apiVersion := if o.apiVersion = "" then "v1" else o.apiVersion
      name := if o.name = "" then owner.objectMeta.name else o.name }

variable {s : Store} {child kind : Kind} {owner : Resource} {o o' : OwnerReference}
  {kinds : List Kind}

/-! ## Candidates -/

theorem admits_of_blank (h : o.kind = "") (kind : Kind) : o.admits kind = true := by
  rw [admits, h]
  rfl

/-- A reference that says a kind admits this kind alone. -/
theorem admits_iff_ofName? (h : o.kind ≠ "") :
    o.admits kind = true ↔ Kind.ofName? o.kind = some kind := by
  rw [admits, Bool.or_eq_true, beq_iff_eq, Kind.ofName?_eq_some_iff]
  exact or_iff_right h

/-- The kinds under which an owner is looked up are those that may own the child and that the
reference admits. -/
theorem eq_filter_of_candidates (h : o.candidates child = .ok kinds) :
    kinds = child.owners.filter o.admits := by
  unfold candidates at h
  split at h
  · next hblank =>
    cases h
    exact (List.filter_eq_self.mpr fun kind _ => admits_of_blank hblank kind).symm
  · next hsays =>
    split at h
    · next kind hkind =>
      split at h
      · next hmem =>
        cases h
        have hadmits : ∀ k : Kind, o.admits k = (k == kind) := by
          intro k
          rw [Bool.eq_iff_iff, admits_iff_ofName? hsays, hkind, beq_iff_eq, Option.some_inj]
          exact eq_comm
        have hnodup : child.owners.Nodup := by cases child <;> decide
        rw [funext hadmits, List.filter_beq, List.count_eq_one_of_mem hnodup hmem]
        rfl
      · cases h
    · cases h

/-- If a reference has no candidates, it admits no kind that may own the child. -/
theorem not_admits_of_candidates {e : ApiError} (h : o.candidates child = .error e) :
    ∀ kind ∈ child.owners, o.admits kind = false := by
  intro kind hmem
  rw [← Bool.not_eq_true]
  intro hadmits
  unfold candidates at h
  split at h
  · cases h
  · next hsays =>
    rw [(admits_iff_ofName? hsays).mp hadmits] at h
    simp only [if_pos hmem] at h
    cases h

/-! ## Owners -/

theorem OwnedBy.mem_owners (h : o.OwnedBy s child kind owner) : kind ∈ child.owners := by
  obtain ⟨id, -, hfind, -⟩ := h
  exact List.mem_of_find?_eq_some hfind

/-- A reference that has an owner can be resolved. -/
theorem OwnedBy.resolvable (h : o.OwnedBy s child kind owner) : o.Resolvable s.Has child := by
  obtain ⟨id, hparse, hfind, hget⟩ := h
  have hfound := List.find?_some hfind
  rw [Bool.and_eq_true] at hfound
  exact ⟨id, hparse, kind, List.mem_of_find?_eq_some hfind, hfound⟩

theorem OwnedBy.resolvedIn (h : o.OwnedBy s child kind owner) :
    o.ResolvedIn s child (o.filledFrom kind owner) :=
  ⟨kind, owner, h, rfl⟩

/-- Resolving leaves no blank where all that is stored is sound, and so has a name. -/
theorem ResolvedIn.filled {version : String} {limit : UInt32} (hs : s.Sound version limit)
    (h : o.ResolvedIn s child o') : o'.Filled := by
  obtain ⟨kind, owner, ⟨id, -, -, howner⟩, rfl⟩ := h
  have hadmissible := (hs.settled howner).admissible
  show (o.filledFrom kind owner).Filled
  exact filled_filledFrom ((Resource.check_eq_ok_iff _ _).mp hadmissible).1.name

/-- What was filled in once has nothing to fill in any more. -/
theorem filledFrom_filledFrom (o : OwnerReference) (kind : Kind) (owner : Resource) :
    (o.filledFrom kind owner).filledFrom kind owner = o.filledFrom kind owner := by
  have hversion : ∀ a : String, (if (if a = "" then ownerVersion else a) = "" then ownerVersion
      else if a = "" then ownerVersion else a) = if a = "" then ownerVersion else a := by
    intro a
    split <;> simp_all [ownerVersion]
  have hname : ∀ a b : String, (if (if a = "" then b else a) = "" then b
      else if a = "" then b else a) = if a = "" then b else a := by
    intro a b
    split <;> simp_all
  unfold filledFrom
  rw [OwnerReference.mk.injEq]
  exact ⟨rfl, hversion o.apiVersion, hname o.name _, rfl, rfl⟩

end OwnerReference

/-- Whether a payload can be resolved: all its owner references can, and what its fields refer to is
there. -/
structure Resource.Resolvable (there : Kind → Id → Prop) (r : Resource) : Prop where
  owners : ∀ o ∈ r.objectMeta.ownerReferences, o.Resolvable there r.kind
  fields : ∀ f ∈ r.references, f.Found there

/-- What can be resolved can be resolved where more is there. -/
theorem Resource.Resolvable.mono {there there' : Kind → Id → Prop} {r : Resource}
    (h : r.Resolvable there) (hmore : ∀ kind id, there kind id → there' kind id) :
    r.Resolvable there' := by
  refine ⟨fun o ho => ?_, fun f hf => (h.fields f hf).mono hmore⟩
  obtain ⟨id, hparse, kind, hmem, hadmits, hthere⟩ := h.owners o ho
  exact ⟨id, hparse, kind, hmem, hadmits, hmore kind id hthere⟩

namespace Script

/-! ## What the resolver comes to -/

/-- An owner is found under the first of the kinds that has it, or under none of them. -/
theorem run_findOwner_cases (child : Kind) (o : OwnerReference) (id : Id) (kinds : List Kind)
    (s : State) :
    (∃ kind owner, (kinds.find? fun k => (s.store.get? k id).isSome) = some kind ∧
      s.store.get? kind id = some owner ∧
      (findOwner child o id kinds).run s = (.ok (.ok (o.filledFrom kind owner)), s)) ∨
    (∀ kind ∈ kinds, ¬ s.store.Has kind id) ∧
      (findOwner child o id kinds).run s = (.ok (.error (.ownerUnresolved o.uid child)), s) := by
  induction kinds with
  | nil => exact .inr ⟨fun _ hmem => absurd hmem List.not_mem_nil, rfl⟩
  | cons kind rest ih =>
    rw [findOwner, run_bind, run_get?]
    cases howner : s.store.get? kind id with
    | some owner =>
      have hfind : (kind :: rest).find? (fun k => (s.store.get? k id).isSome) = some kind :=
        List.find?_cons_of_pos (by rw [howner]; rfl)
      exact .inl ⟨kind, owner, hfind, howner, rfl⟩
    | none =>
      have hnone : ¬ s.store.Has kind id := by
        rw [Store.Has, howner]
        exact Bool.false_ne_true
      have hskip : (kind :: rest).find? (fun k => (s.store.get? k id).isSome) =
          rest.find? fun k => (s.store.get? k id).isSome := List.find?_cons_of_neg hnone
      rw [hskip]
      exact ih.imp_right fun h => ⟨List.forall_mem_cons.mpr ⟨hnone, h.1⟩, h.2⟩

/-- An owner reference is resolved to its owner, or cannot be resolved. -/
theorem run_matchOwner_cases (child : Kind) (o : OwnerReference) (s : State) :
    (∃ kind owner, o.OwnedBy s.store child kind owner ∧
      (matchOwner child o).run s = (.ok (.ok (o.filledFrom kind owner)), s)) ∨
    ¬ o.Resolvable s.store.Has child ∧
      ∃ e, (matchOwner child o).run s = (.ok (.error e), s) := by
  unfold matchOwner
  cases hkinds : o.candidates child with
  | error e =>
    refine .inr ⟨?_, e, rfl⟩
    rintro ⟨id, -, kind, hmem, hadmits, -⟩
    rw [OwnerReference.not_admits_of_candidates hkinds kind hmem] at hadmits
    cases hadmits
  | ok kinds =>
    obtain rfl := OwnerReference.eq_filter_of_candidates hkinds
    cases hid : referenceId "owner_references.uid" o.uid with
    | error e =>
      refine .inr ⟨?_, e, rfl⟩
      rintro ⟨id, hparse, -⟩
      rw [referenceId_of_parse hparse] at hid
      cases hid
    | ok id =>
      have hparse := referenceId_eq_ok hid
      rcases run_findOwner_cases child o id (child.owners.filter o.admits) s with
        ⟨kind, owner, hfind, howner, hrun⟩ | ⟨hnone, hrun⟩
      · simp only [List.find?_filter, Bool.decide_and, Bool.decide_eq_true] at hfind
        exact .inl ⟨kind, owner, ⟨id, hparse, hfind, howner⟩, hrun⟩
      · refine .inr ⟨?_, _, hrun⟩
        rintro ⟨id', hparse', kind, hmem, hadmits, hhas⟩
        obtain rfl : id = id' := Id.Reading.assigned.inj (hparse.symm.trans hparse')
        exact hnone kind (List.mem_filter.mpr ⟨hmem, hadmits⟩) hhas

/-- Owner references are resolved up to the first that cannot be. Their number, their order and their
`uid`s stay as they are. -/
theorem run_matchOwners_cases (child : Kind) (owners : List OwnerReference) (s : State) :
    ∃ owners' fault, (matchOwners child owners).run s = (.ok (owners', fault), s) ∧
      (fault = none ↔ ∀ o ∈ owners, o.Resolvable s.store.Has child) ∧
      owners'.map (·.uid) = owners.map (·.uid) ∧
      (fault = none →
        List.Forall₂ (OwnerReference.ResolvedIn s.store child) owners owners') := by
  induction owners with
  | nil => exact ⟨[], none, rfl, by simp, rfl, fun _ => .nil⟩
  | cons o rest ih =>
    rw [matchOwners, run_bind, List.forall_mem_cons]
    rcases run_matchOwner_cases child o s with ⟨kind, owner, howned, hrun⟩ | ⟨hnot, e, hrun⟩
    · obtain ⟨owners', fault, hrest, hiff, huids, hresolved⟩ := ih
      refine ⟨o.filledFrom kind owner :: owners', fault, ?_, ?_, ?_, fun hnone => ?_⟩
      · rw [hrun]
        show (matchOwners child rest >>= _).run s = _
        rw [run_bind, hrest]
        rfl
      · rw [hiff]
        exact (and_iff_right howned.resolvable).symm
      · rw [List.map_cons, huids]
        rfl
      · exact .cons howned.resolvedIn (hresolved hnone)
    · have hfault : some e ≠ none := Option.some_ne_none e
      refine ⟨o :: rest, some e, ?_, iff_of_false hfault fun h => hnot h.1, rfl,
        fun hnone => absurd hnone hfault⟩
      rw [hrun]
      rfl

/-- Resolving writes the owner references, and is at fault unless the payload can be resolved. -/
theorem run_resolution_cases (r : Resource) (s : State) :
    ∃ owners fault, (resolution r).run s =
        (.ok ⟨r.mapMeta fun m => { m with ownerReferences := owners }, fault⟩, s) ∧
      (fault = none ↔ r.Resolvable s.store.Has) ∧
      owners.map (·.uid) = r.objectMeta.ownerReferences.map (·.uid) ∧
      (fault = none → List.Forall₂ (OwnerReference.ResolvedIn s.store r.kind)
        r.objectMeta.ownerReferences owners) := by
  obtain ⟨owners, fault, howners, hiff, huids, hresolved⟩ :=
    run_matchOwners_cases r.kind r.objectMeta.ownerReferences s
  refine ⟨owners, ?_⟩
  rw [resolution, run_bind, howners]
  cases fault with
  | some e =>
    have hfault : some e ≠ none := Option.some_ne_none e
    exact ⟨some e, rfl, iff_of_false hfault fun h => hfault (hiff.mpr h.owners), huids,
      fun hnone => absurd hnone hfault⟩
  | none =>
    obtain ⟨fault, hfields, hfound⟩ := run_checkReferences r.references s
    refine ⟨fault, ?_, ?_, huids, fun _ => hresolved rfl⟩
    · show (checkReferences r.references >>= _).run s = _
      rw [run_bind, hfields]
      rfl
    · rw [hfound]
      exact ⟨fun hfields => ⟨hiff.mp rfl, hfields⟩, fun h => h.fields⟩

/-- The answer to a payload is what its resolution comes to, or the fault. -/
theorem run_resolved_of_resolution {r after : Resource} {fault : Option ApiError} {s : State}
    (h : (resolution r).run s = (.ok ⟨after, fault⟩, s)) :
    (fault = none → (resolved r).run s = (.ok after, s)) ∧
      ∀ e, fault = some e → (resolved r).run s = (.error e, s) := by
  rw [resolved, run_bind, h]
  constructor
  · rintro rfl
    rfl
  · rintro e rfl
    rfl

/-- What can be resolved is resolved. -/
theorem run_resolved_of_resolvable {r : Resource} {s : State} (h : r.Resolvable s.store.Has) :
    ∃ owners, (resolved r).run s =
        (.ok (r.mapMeta fun m => { m with ownerReferences := owners }), s) ∧
      List.Forall₂ (OwnerReference.ResolvedIn s.store r.kind) r.objectMeta.ownerReferences
        owners := by
  obtain ⟨owners, fault, hrun, hiff, -, hresolved⟩ := run_resolution_cases r s
  obtain rfl := hiff.mpr h
  exact ⟨owners, (run_resolved_of_resolution hrun).1 rfl, hresolved rfl⟩

/-- What was resolved could be. -/
theorem resolvable_of_run_resolved {r r' : Resource} {s t : State}
    (h : (resolved r).run s = (.ok r', t)) : r.Resolvable s.store.Has := by
  obtain ⟨owners, fault, hrun, hiff, -⟩ := run_resolution_cases r s
  cases hfault : fault with
  | none => exact hiff.mp hfault
  | some e =>
    rw [(run_resolved_of_resolution hrun).2 e hfault] at h
    cases h

/-- What was resolved has the owner references that it had, as they are resolved. -/
theorem exists_of_run_resolved {r r' : Resource} {s t : State}
    (h : (resolved r).run s = (.ok r', t)) :
    ∃ owners, r' = r.mapMeta (fun m => { m with ownerReferences := owners }) ∧
      List.Forall₂ (OwnerReference.ResolvedIn s.store r.kind) r.objectMeta.ownerReferences
        owners := by
  obtain ⟨owners, hrun, howners⟩ := run_resolved_of_resolvable (resolvable_of_run_resolved h)
  rw [hrun] at h
  cases h
  exact ⟨owners, rfl, howners⟩

/-- An owner reference that was resolved is resolved to itself. -/
theorem run_matchOwner_of_resolvedIn {s : State} {child : Kind} {o o' : OwnerReference}
    (h : o.ResolvedIn s.store child o') : (matchOwner child o').run s = (.ok (.ok o'), s) := by
  obtain ⟨kind, owner, howned, rfl⟩ := h
  have hmem := howned.mem_owners
  obtain ⟨id, hparse, -, howner⟩ := howned
  exact run_matchOwner_self rfl hmem hparse howner
    (OwnerReference.filledFrom_filledFrom o kind owner)

/-- **What the resolver comes to.** Whatever is stored, resolving a payload writes nothing but its
owner references and keeps their number, their order and their `uid`s, also where it gives up. It
succeeds exactly if the payload can be resolved. Then each owner reference says the kind of its
owner, with the version and the name of which its blanks are filled in, and what was resolved is
resolved to itself. -/
theorem resolution_exact (s : State) (r : Resource) :
    ∃ owners fault,
      let after := r.mapMeta fun m => { m with ownerReferences := owners }
      (resolution r).run s = (.ok ⟨after, fault⟩, s) ∧
      (fault = none ↔ r.Resolvable s.store.Has) ∧
      owners.map (·.uid) = r.objectMeta.ownerReferences.map (·.uid) ∧
      (∀ e, fault = some e → (resolved r).run s = (.error e, s)) ∧
      (fault = none → (resolved r).run s = (.ok after, s) ∧
        List.Forall₂ (OwnerReference.ResolvedIn s.store r.kind) r.objectMeta.ownerReferences
          owners ∧
        (resolved after).run s = (.ok after, s)) := by
  obtain ⟨owners, fault, hrun, hiff, huids, hresolved⟩ := run_resolution_cases r s
  obtain ⟨hanswer, hrefused⟩ := run_resolved_of_resolution hrun
  refine ⟨owners, fault, hrun, hiff, huids, hrefused, fun hnone => ?_⟩
  have hself : ∀ o' ∈ owners, (matchOwner r.kind o').run s = (.ok (.ok o'), s) := by
    intro o' ho'
    obtain ⟨o, -, ho⟩ := exists_mem_of_forall₂ (hresolved hnone) ho'
    exact run_matchOwner_of_resolvedIn ho
  have hagain := run_resolution_self (r := r.mapMeta fun m => { m with ownerReferences := owners })
    hself (hiff.mp hnone).fields
  exact ⟨hanswer hnone, hresolved hnone, (run_resolved_of_resolution hagain).1 rfl⟩

end Script

end ClusterRegistry
