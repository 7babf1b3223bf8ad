import ClusterRegistry.Proofs.Admission.Resolvable
import ClusterRegistry.Proofs.Registry.ReadBack

/-!
# What owner references are matched with

An owner reference is matched with one stored resource, and its blanks are filled in from it: of the
kinds that may stand in the reference, the first that has its id (`OwnerReference.LeadsTo`). While a
request is served by itself this is a question to the store as it was when the request came
(`Script.matchedAs_of_run_resolved`). So the owner references of a resource that was created or updated are
those of the payload, in their order, each as it was matched (`Registry.matched_of_run`).
-/

namespace ClusterRegistry

/-- What is stored under an id, in the first of some kinds that has it. -/
def Store.findUnder (s : Store) (kinds : List Kind) (id : Id) : Option Resource :=
  kinds.findSome? fun kind => s.get? kind id

/-- Whether a stored resource is the one that an owner reference of a child leads to: the first that
has its id, under the kind that it says or else under the kinds that may own the child. -/
def OwnerReference.LeadsTo (s : Store) (child : Kind) (o : OwnerReference) (owner : Resource) :
    Prop :=
  ∃ kinds id, o.candidates child = .ok kinds ∧ Id.parse o.uid = .assigned id ∧
    s.findUnder kinds id = some owner

/-- An owner reference as it is sent and as it is stored. -/
def OwnerReference.MatchedAs (s : Store) (child : Kind) (o matched : OwnerReference) : Prop :=
  ∃ owner, o.LeadsTo s child owner ∧ matched = o.filledFrom owner.kind owner

namespace Store

variable {version : String} {limit : UInt32} {s : Store} {kinds : List Kind} {id : Id}
  {owner : Resource}

/-- What is found is stored under its own kind, which is one of those that were tried. -/
theorem Sound.of_findUnder (h : s.Sound version limit)
    (howner : s.findUnder kinds id = some owner) :
    owner.kind ∈ kinds ∧ s.get? owner.kind id = some owner := by
  obtain ⟨kind, hmem, hget⟩ := List.exists_of_findSome?_eq_some howner
  rw [h.kind_eq hget]
  exact ⟨hmem, hget⟩

/-- What an owner reference leads to is stored under its id, and may own the child. -/
theorem Sound.of_leadsTo (h : s.Sound version limit) {child : Kind} {o : OwnerReference}
    (howner : o.LeadsTo s child owner) :
    owner.kind ∈ child.owners ∧
      ∃ id, Id.parse o.uid = .assigned id ∧ s.get? owner.kind id = some owner := by
  obtain ⟨kinds, id, hkinds, hparse, hfound⟩ := howner
  obtain ⟨hmem, hget⟩ := h.of_findUnder hfound
  exact ⟨mem_owners_of_candidates hkinds hmem, id, hparse, hget⟩

/-- What stands under the first kind that has an id is what is found. -/
theorem findUnder_eq_some {kind : Kind}
    (hfirst : (kinds.find? fun k => (s.get? k id).isSome) = some kind)
    (howner : s.get? kind id = some owner) : s.findUnder kinds id = some owner := by
  obtain ⟨-, before, after, rfl, hnone⟩ := List.find?_eq_some_iff_append.mp hfirst
  refine List.findSome?_eq_some_iff.mpr ⟨before, kind, after, rfl, howner, fun k hk => ?_⟩
  simpa using hnone k hk

end Store

/-! ## Resolving -/

namespace OwnerReference

variable {s : Store} {child kind : Kind} {o o' : OwnerReference} {owner : Resource}

/-- The owner that a reference is resolved to is the one that it leads to. -/
theorem OwnedBy.leadsTo (h : o.OwnedBy s child kind owner) : o.LeadsTo s child owner := by
  obtain ⟨id, hparse, hfirst, howner⟩ := h
  cases hkinds : o.candidates child with
  | error e =>
    have hadmits := List.find?_some hfirst
    rw [not_admits_of_candidates hkinds kind (List.mem_of_find?_eq_some hfirst)] at hadmits
    cases hadmits
  | ok kinds =>
    refine ⟨kinds, id, hkinds, hparse, Store.findUnder_eq_some ?_ howner⟩
    rw [eq_filter_of_candidates hkinds, List.find?_filter]
    simpa using hfirst

/-- An owner reference that was resolved was matched, everything being stored under its own kind. -/
theorem ResolvedIn.matchedAs {version : String} {limit : UInt32} (hs : s.Sound version limit)
    (h : o.ResolvedIn s child o') : o.MatchedAs s child o' := by
  obtain ⟨kind, owner, howned, rfl⟩ := h
  have hleads := howned.leadsTo
  obtain ⟨id, -, -, howner⟩ := howned
  obtain rfl := hs.kind_eq howner
  exact ⟨owner, hleads, rfl⟩

end OwnerReference

namespace Script

variable {version : String} {limit : UInt32} {s t : State} {r r' : Resource}

/-- What was resolved has the owner references that were sent, as they were matched. -/
theorem matchedAs_of_run_resolved (hs : s.store.Sound version limit)
    (h : (resolved r).run s = (.ok r', t)) :
    List.Forall₂ (OwnerReference.MatchedAs s.store r.kind) r.objectMeta.ownerReferences
      r'.objectMeta.ownerReferences := by
  obtain ⟨owners, rfl, howners⟩ := exists_of_run_resolved h
  exact howners.imp fun _ _ ho => ho.matchedAs hs

end Script

/-! ## Requests -/

/-- What a request asks to admit: a payload as a resource of some kind. -/
def Request.sent? : Request → Option (Kind × Json.Payload)
  | .create kind payload _ => some (kind, payload)
  | .update kind _ payload => some (kind, payload)
  | _ => none

namespace Registry

open Script

variable {reg : Registry} {s t : State} {kind : Kind} {payload : Json.Payload} {rawId : String}
  {r : Resource}

theorem matched_of_run_create {account : Option String}
    (hs : s.store.Sound reg.apiVersion reg.maxReplicas)
    (h : (reg.create kind payload account).run s = (.ok r, t)) :
    ∃ sent, decodePayload kind payload = .ok sent ∧
      List.Forall₂ (OwnerReference.MatchedAs s.store kind)
        sent.canonical.objectMeta.ownerReferences r.objectMeta.ownerReferences := by
  obtain ⟨route, admitted, -, haccept, henter⟩ := reg.exists_of_run_create h
  obtain ⟨rfl, -, -⟩ := reg.exists_of_run_enter henter
  obtain ⟨-, sent, hsent, -, hresolved⟩ := reg.exists_of_run_accept haccept
  have hmatched := matchedAs_of_run_resolved hs hresolved
  have hkind : sent.kind = kind := kind_of_decodePayload hsent
  have hcanonical : sent.canonical.kind = kind := hkind
  rw [hcanonical] at hmatched
  exact ⟨sent, hsent, hmatched⟩

theorem matched_of_run_update (hs : s.store.Sound reg.apiVersion reg.maxReplicas)
    (h : (reg.update kind rawId payload).run s = (.ok r, t)) :
    ∃ sent, decodePayload kind payload = .ok sent ∧
      List.Forall₂ (OwnerReference.MatchedAs s.store kind)
        sent.canonical.objectMeta.ownerReferences r.objectMeta.ownerReferences := by
  obtain ⟨id, e, sent, incoming, -, -, hsent, hresolved, hkind, -, rfl, -, -⟩ :=
    reg.exists_of_run_update hs h
  have hmatched := matchedAs_of_run_resolved hs hresolved
  have hsentKind : sent.kind = kind := kind_of_decodePayload hsent
  have hcanonical : (sent.canonical.keepAccount e.resource).kind = kind := hsentKind
  have howners : (e.resource.updatedWith incoming).objectMeta.ownerReferences =
      incoming.objectMeta.ownerReferences :=
    congrArg ClientPart.ownerReferences (Resource.clientPart_updatedWith hkind)
  rw [hcanonical] at hmatched
  rw [howners]
  exact ⟨sent, hsent, hmatched⟩

/-- Of the requests that were answered, a create and an update have admitted what was sent. -/
theorem matched_of_serve (hs : s.store.Sound reg.apiVersion reg.maxReplicas) {request : Request}
    (hsent : request.sent? = some (kind, payload))
    (hrun : (reg.serve request).run s = (.ok (.resource r), t)) :
    request.Writes kind ∧ ∃ sent, decodePayload kind payload = .ok sent ∧
      List.Forall₂ (OwnerReference.MatchedAs s.store kind)
        sent.canonical.objectMeta.ownerReferences r.objectMeta.ownerReferences := by
  cases request with
  | create kind' payload' account =>
    cases hsent
    obtain ⟨q, hcreate, hq⟩ := exists_of_run_map hrun
    cases hq
    exact ⟨rfl, matched_of_run_create hs hcreate⟩
  | update kind' rawId payload' =>
    cases hsent
    obtain ⟨q, hupdate, hq⟩ := exists_of_run_map hrun
    cases hq
    exact ⟨rfl, matched_of_run_update hs hupdate⟩
  -- no other request admits a payload
  | _ => cases hsent

/-- What was created or updated is stored, with the owner references of the payload as they were
matched. -/
theorem matched_of_run (hs : s.store.Sound reg.apiVersion reg.maxReplicas) {a : Arrival}
    (hsent : a.request.sent? = some (kind, payload))
    (hrun : (reg.script a).run s = (.ok (.resource r), t)) :
    t.store.get? kind r.id = some r ∧ ∃ sent, decodePayload kind payload = .ok sent ∧
      List.Forall₂ (OwnerReference.MatchedAs s.store kind)
        sent.canonical.objectMeta.ownerReferences r.objectMeta.ownerReferences := by
  obtain ⟨hwrites, hmatched⟩ := (reg.during a).matched_of_serve hs hsent hrun
  have heffect := effect_run hs a
  rw [hrun] at heffect
  exact ⟨(heffect.stored_of_writes hwrites).2, hmatched⟩

end Registry

end ClusterRegistry
