import ClusterRegistry.Proofs.Registry.Blameless
import ClusterRegistry.Proofs.Registry.Matched

/-!
# Links that clients leave to the server

A link to an owner is written in two places. A child that the server creates gets it from the owner
itself (`Resource.ownerLink`); an owner reference that a client left blank, but for the `uid`, gets
it when it is resolved. Both write the kind and the name of the owner. The version of the owner is
written by the first only: the second writes `ownerVersion`, whatever the registry is set up with.
So the two agree exactly in registries of that version (`Registry.back_links_agree_iff`).
-/

namespace ClusterRegistry

/-- An owner reference in which a client has left kind, version and name to the server. -/
structure OwnerReference.LeftBlank (o : OwnerReference) : Prop where
  kind : o.kind = ""
  apiVersion : o.apiVersion = ""
  name : o.name = ""

/-- The link to an owner as it is written into the children of the owner, with what the client has
said of it: the `uid` in the client's spelling, and whether it blocks deletion. -/
def Resource.linkSentAs (owner : Resource) (o : OwnerReference) : OwnerReference :=
  { owner.ownerLink with uid := o.uid, blockOwnerDeletion := o.blockOwnerDeletion }

namespace OwnerReference

variable {s : Store} {child : Kind} {o : OwnerReference} {owner : Resource}

/-- A blank reference leads to the first of the kinds that may own the child. -/
theorem LeftBlank.leadsTo_iff (h : o.LeftBlank) :
    o.LeadsTo s child owner ↔
      ∃ id, Id.parse o.uid = .assigned id ∧ s.findUnder child.owners id = some owner := by
  have hcandidates : o.candidates child = .ok child.owners := if_pos h.kind
  constructor
  · rintro ⟨kinds, id, hkinds, hfound⟩
    obtain rfl : child.owners = kinds := Except.ok.inj (hcandidates.symm.trans hkinds)
    exact ⟨id, hfound⟩
  · rintro ⟨id, hfound⟩
    exact ⟨child.owners, id, hcandidates, hfound⟩

/-- A blank reference is filled in like the link to its owner, but for the version. -/
theorem LeftBlank.filledFrom_eq (h : o.LeftBlank) :
    o.filledFrom owner.kind owner = { owner.linkSentAs o with apiVersion := ownerVersion } := by
  rw [filledFrom, if_pos h.apiVersion, if_pos h.name]
  rfl

end OwnerReference

namespace Registry

variable {reg : Registry} {s t : State} {kind : Kind} {payload : Json.Payload} {r : Resource}

/-- **Links that clients leave to the server.** What was created or updated is stored with an owner
reference for each that was sent, in the same order. Where kind, version and name were left blank,
the `uid` is the id of a stored owner, the first that is found under the kinds that may own the
resource, and what is stored is the link to this owner with the version `v1`. This is the link that
the children of the owner are created with, in the client's spelling of the `uid`, exactly if the
version of the registry is `v1`. -/
theorem back_links_agree_iff (h : reg.Reachable s) {a : Arrival}
    (hsent : a.request.sent? = some (kind, payload))
    (hrun : (reg.script a).run s = (.ok (.resource r), t)) :
    t.store.get? kind r.id = some r ∧ ∃ sent, decodePayload kind payload = .ok sent ∧
      List.Forall₂ (fun o stored => o.LeftBlank → ∃ owner,
        Id.parse o.uid = .assigned owner.id ∧ owner.kind ∈ kind.owners ∧
        s.store.findUnder kind.owners owner.id = some owner ∧
        s.store.get? owner.kind owner.id = some owner ∧
        stored = { owner.linkSentAs o with apiVersion := "v1" } ∧
        (stored = owner.linkSentAs o ↔ reg.apiVersion = "v1"))
        sent.canonical.objectMeta.ownerReferences r.objectMeta.ownerReferences := by
  have hs := h.sound
  obtain ⟨hstored, sent, hdecoded, hmatched⟩ := matched_of_run hs hsent hrun
  refine ⟨hstored, sent, hdecoded, hmatched.imp ?_⟩
  rintro o stored ⟨owner, hleads, rfl⟩ hblank
  obtain ⟨id, hparse, hfound⟩ := hblank.leadsTo_iff.mp hleads
  obtain ⟨hkind, hget⟩ := hs.of_findUnder hfound
  obtain rfl : owner.id = id := hs.id_eq hget
  have hversion : owner.ownerLink.apiVersion = reg.apiVersion :=
    congrArg TypeMeta.apiVersion (hs.settled hget).typed
  refine ⟨owner, hparse, hkind, hfound, hget, hblank.filledFrom_eq, ?_⟩
  rw [hblank.filledFrom_eq, ← hversion]
  constructor
  · intro heq
    exact (congrArg OwnerReference.apiVersion heq).symm
  · intro hagrees
    rw [Resource.linkSentAs, hagrees]
    rfl

/-- The arrival of a policy that says of its owner no more than the id. -/
def policyArrival : Arrival := ⟨"t3", noMetrics, .create .horizontalScaling sentFiveOrMore none⟩

/-- The policy as it is sent has one owner reference, which is left blank. -/
theorem exists_blank_of_sentFiveOrMore {R : OwnerReference → OwnerReference → Prop}
    {sent : Resource} {owners : List OwnerReference}
    (hsent : decodePayload .horizontalScaling sentFiveOrMore = .ok sent)
    (howners : List.Forall₂ R sent.canonical.objectMeta.ownerReferences owners) :
    ∃ o stored, o.LeftBlank ∧ owners = [stored] ∧ R o stored := by
  have hdecoded : decodePayload .horizontalScaling sentFiveOrMore = .ok _ := rfl
  obtain rfl := Except.ok.inj (hdecoded.symm.trans hsent)
  obtain ⟨stored, rest, hstored, hrest, rfl⟩ := List.forall₂_cons_left_iff.mp howners
  rw [List.forall₂_nil_left_iff.mp hrest]
  exact ⟨_, stored, ⟨rfl, rfl, rfl⟩, rfl, hstored⟩

/-- In a registry of the version `v1` the policy is linked to its factory as an assembly of the
factory is. -/
theorem back_links_of_policy_agree :
    ∃ r t o stored owner, (tenReplicas.script policyArrival).run stackState =
        (.ok (.resource r), t) ∧ o.LeftBlank ∧ r.objectMeta.ownerReferences = [stored] ∧
      stackState.store.get? .assemblyFactory owner.id = some owner ∧
      stored = owner.linkSentAs o := by
  have hreachable : tenReplicas.Reachable stackState := ⟨_, planThenStack, rfl⟩
  have hrun : (tenReplicas.script policyArrival).run stackState = (.ok (.resource _), _) := rfl
  obtain ⟨-, sent, hsent, hlinks⟩ := back_links_agree_iff hreachable rfl hrun
  obtain ⟨o, stored, hblank, hstored, hlink⟩ := exists_blank_of_sentFiveOrMore hsent hlinks
  obtain ⟨owner, -, hkind, -, hget, -, hagrees⟩ := hlink hblank
  rw [List.mem_singleton.mp hkind] at hget
  exact ⟨_, _, o, stored, owner, hrun, hblank, hstored, hget, hagrees.mpr rfl⟩

/-- A registry of another version. -/
def versionTwo : Registry := { tenReplicas with apiVersion := "v2" }

/-- The state of that registry after the plan and the stack have been created. -/
def versionTwoState : State := (versionTwo.answerAll planThenStack initialState).2

/-- There the policy is linked to its factory by a version that the factory does not have. -/
theorem back_links_differ :
    ¬ ∀ (reg : Registry) (s t : State) (kind : Kind) (payload : Json.Payload) (a : Arrival)
      (r : Resource), reg.Reachable s → a.request.sent? = some (kind, payload) →
      (reg.script a).run s = (.ok (.resource r), t) →
      ∃ sent, decodePayload kind payload = .ok sent ∧
        List.Forall₂ (fun o stored => o.LeftBlank → ∃ owner,
          Id.parse o.uid = .assigned owner.id ∧ s.store.get? owner.kind owner.id = some owner ∧
          stored = owner.linkSentAs o)
          sent.canonical.objectMeta.ownerReferences r.objectMeta.ownerReferences := by
  intro hall
  have hreachable : versionTwo.Reachable versionTwoState := ⟨_, planThenStack, rfl⟩
  have hrun : (versionTwo.script policyArrival).run versionTwoState = (.ok (.resource _), _) := rfl
  obtain ⟨sent, hsent, hlinks⟩ := hall _ _ _ _ _ policyArrival _ hreachable rfl hrun
  obtain ⟨o, stored, hblank, hstored, hlink⟩ := exists_blank_of_sentFiveOrMore hsent hlinks
  obtain ⟨owner, -, hget, hlinked⟩ := hlink hblank
  have hversion : owner.ownerLink.apiVersion = "v2" :=
    congrArg TypeMeta.apiVersion (hreachable.sound.settled hget).typed
  have hwritten : stored.apiVersion = "v1" :=
    congrArg OwnerReference.apiVersion (List.cons.inj hstored).1.symm
  rw [hlinked] at hwritten
  exact absurd (hwritten.symm.trans hversion) (by decide)

end Registry

end ClusterRegistry
