import ClusterRegistry.Proofs.Admission.Resolved
import ClusterRegistry.Proofs.Resource.Codec

/-!
# From payloads to what is written

A payload is decoded, checked and resolved, and what comes of it is either a new resource
(`Registry.asCreated`) or is merged into a stored one (`Resource.updatedWith`). Either way the
check was made of something else than what is written: the account of a route comes in after it,
and an update keeps the stored account, whatever the payload says. What is written is settled and
linked all the same, since the check looks at the account only where it asks for one.
-/

namespace ClusterRegistry

/-! ## Decoded payloads -/

/-- Decoding gives a resource of the kind that was asked for. -/
theorem kind_of_decodePayload {kind : Kind} {payload : Json.Payload} {r : Resource}
    (h : decodePayload kind payload = .ok r) : r.kind = kind := by
  have hdecode : Resource.ofPayload kind payload = .ok r := eq_ok_of_mapError_eq_ok h
  unfold Resource.ofPayload at hdecode
  obtain ⟨v, -, hdecode⟩ := exists_of_bind_eq_ok hdecode
  exact Resource.kind_of_decode hdecode

/-! ## Admitted resources -/

/-- A resource as it was sent, and as it was admitted: in canonical shape, with each of its owner
references filled in from some owner. -/
def Resource.AdmittedAs (sent admitted : Resource) : Prop :=
  sent.canonical.ResolvesTo (fun _ _ => True) admitted

namespace Resource

variable {there there' : Kind → Id → Prop} {r resolved : Resource} {limit : UInt32}

theorem ResolvesTo.mono (h : r.ResolvesTo there resolved)
    (hmore : ∀ kind id, there kind id → there' kind id) : r.ResolvesTo there' resolved :=
  ⟨h.onlyOwners, h.owners.imp fun _ _ ho => ho.mono hmore, fun f hf => (h.fields f hf).mono hmore⟩

theorem ResolvesTo.kind_eq (h : r.ResolvesTo there resolved) : resolved.kind = r.kind := by
  obtain ⟨owners, rfl⟩ := h.onlyOwners
  rfl

/-- What passes the check still passes it when its references are resolved. -/
theorem ResolvesTo.check (h : r.ResolvesTo there resolved) (hr : r.check limit = .ok ()) :
    resolved.check limit = .ok () := by
  have huids := uids_of_resolvesTo h.owners
  obtain ⟨owners, rfl⟩ := h.onlyOwners
  exact check_withEnvelope hr _ rfl rfl huids ((check_eq_ok_iff r limit).mp hr).1.account

/-- What passes the check and is resolved refers to nothing but what is there. -/
theorem ResolvesTo.linked (h : r.ResolvesTo there resolved) (hr : r.check limit = .ok ()) :
    resolved.Linked there := by
  have howners := h.owners
  have hfields := h.fields
  obtain ⟨owners, rfl⟩ := h.onlyOwners
  refine ⟨fun o ho => ?_, fun f hf => ?_, hfields⟩
  · obtain ⟨sent, -, kind, hkind, owner, id, hparse, hthere, rfl⟩ :=
      exists_mem_of_forall₂ howners ho
    exact ⟨kind, hkind, rfl, id, hparse, hthere⟩
  · exact Kind.required_reference_filled r.kind ((check_eq_ok_iff r limit).mp hr).1.spec hf

/-- The links of a resource depend on its envelope through the owner references alone. -/
theorem Linked.withEnvelope (h : r.Linked there) (e : Envelope)
    (howners : e.objectMeta.ownerReferences = r.objectMeta.ownerReferences) :
    ({ r with envelope := e } : Resource).Linked there := by
  refine ⟨fun o ho => h.owners o ?_, h.required, h.fields⟩
  rw [← howners]
  exact ho

/-- What passes the check may be moved to an account. -/
theorem check_inAccount (hr : r.check limit = .ok ()) {account : Option String}
    (h : ∀ a, account = some a → a ≠ "") : (r.inAccount account).check limit = .ok () := by
  refine check_withEnvelope hr _ rfl rfl rfl fun hneeds => ?_
  show account.getD r.account ≠ ""
  cases account with
  | none => exact ((check_eq_ok_iff r limit).mp hr).1.account hneeds
  | some a => exact h a rfl

end Resource

/-- The account of a route is not blank. -/
theorem ne_empty_of_mapM_pathAccount {account route : Option String}
    (h : account.mapM pathAccount = .ok route) : ∀ a, route = some a → a ≠ "" := by
  cases account with
  | none =>
    cases h
    exact nofun
  | some raw =>
    obtain ⟨a, hpath, hroute⟩ := exists_of_bind_eq_ok (x := pathAccount raw) h
    unfold pathAccount at hpath
    split at hpath
    · next hnumeral =>
      cases hpath
      cases hroute
      intro a ha
      cases ha
      exact Id.ne_empty_of_isNumeral hnumeral
    · cases hpath

/-! ## What is written -/

namespace Registry

variable (reg : Registry) {r : Resource} {there : Kind → Id → Prop}

/-- What passes the check is settled once the server has written its part. -/
theorem settled_asCreated (hr : r.check reg.maxReplicas = .ok ()) (id : Id) :
    (reg.asCreated r id).Settled reg.apiVersion reg.maxReplicas := by
  have hneeds := ((Resource.check_eq_ok_iff r reg.maxReplicas).mp hr).1.account
  refine ⟨Resource.check_withEnvelope hr _ rfl rfl rfl hneeds, rfl, ?_, rfl, rfl, rfl⟩
  show (if r.status.phase = "" then pendingPhase else r.status.phase) ≠ ""
  split
  · decide
  · next hphase => exact hphase

theorem linked_asCreated (hr : r.Linked there) (id : Id) : (reg.asCreated r id).Linked there :=
  hr.withEnvelope _ rfl

end Registry

namespace Resource

variable {version : String} {limit : UInt32} {stored incoming : Resource}
  {there : Kind → Id → Prop}

/-- What an update writes, in terms of the incoming resource: its own fields, in the envelope of
the stored one with the replaced metadata. -/
theorem updatedWith_eq (h : incoming.kind = stored.kind) :
    stored.updatedWith incoming =
      { incoming with
        envelope :=
          { stored.envelope with
            objectMeta :=
              { stored.objectMeta with
                name := incoming.objectMeta.name
                labels := incoming.objectMeta.labels
                annotations := incoming.objectMeta.annotations
                ownerReferences := incoming.objectMeta.ownerReferences
                clusterName := incoming.objectMeta.clusterName
                initializers := incoming.objectMeta.initializers } } } := by
  rw [updatedWith, withSpecOf?, if_pos h]
  rfl

/-- An update takes what clients write from the incoming resource. -/
theorem clientPart_updatedWith (h : incoming.kind = stored.kind) :
    (stored.updatedWith incoming).clientPart = incoming.clientPart := by
  rw [updatedWith_eq h]
  rfl

/-- An update takes what the server settles from the stored resource. -/
theorem serverPart_updatedWith (h : incoming.kind = stored.kind) :
    (stored.updatedWith incoming).serverPart = stored.serverPart := by
  rw [updatedWith_eq h]
  rfl

theorem kind_updatedWith (h : incoming.kind = stored.kind) :
    (stored.updatedWith incoming).kind = stored.kind := by
  rw [updatedWith_eq h]
  exact h

theorem id_updatedWith (h : incoming.kind = stored.kind) :
    (stored.updatedWith incoming).id = stored.id :=
  congrArg (·.id) (serverPart_updatedWith h)

theorem address_updatedWith (h : incoming.kind = stored.kind) :
    (stored.updatedWith incoming).address = stored.address := by
  rw [address, kind_updatedWith h, id_updatedWith h]
  rfl

/-- An update of a settled resource with one that passes the check is settled. -/
theorem Settled.updatedWith (h : stored.Settled version limit) (hkind : incoming.kind = stored.kind)
    (hincoming : incoming.check limit = .ok ()) :
    (stored.updatedWith incoming).Settled version limit := by
  have haccount : incoming.kind.row.needsAccount = true → stored.account ≠ "" := by
    rw [hkind]
    exact ((check_eq_ok_iff stored limit).mp h.admissible).1.account
  have htyped : stored.envelope.typeMeta = ⟨incoming.kind.name, version⟩ := by
    rw [hkind]
    exact h.typed
  rw [updatedWith_eq hkind]
  exact ⟨check_withEnvelope hincoming _ rfl rfl rfl haccount, htyped, h.observed, h.finalizers,
    h.gracePeriod, h.notDeleted⟩

theorem Linked.updatedWith (h : incoming.Linked there) (hkind : incoming.kind = stored.kind) :
    (stored.updatedWith incoming).Linked there := by
  rw [updatedWith_eq hkind]
  exact h.withEnvelope _ rfl

/-- What was resolved in the account of the stored resource was admitted as it was sent. -/
theorem ResolvesTo.ofKeepAccount {sent admitted : Resource}
    (h : (sent.canonical.keepAccount stored).ResolvesTo there admitted) :
    ∃ admitted', sent.AdmittedAs admitted' ∧ admitted.clientPart = admitted'.clientPart := by
  obtain ⟨⟨owners, rfl⟩, howners, hfields⟩ := h
  refine ⟨sent.canonical.mapMeta fun m => { m with ownerReferences := owners },
    ⟨⟨owners, rfl⟩, ?_, ?_⟩, rfl⟩
  · exact howners.imp fun _ _ ho => ho.mono fun _ _ _ => trivial
  · exact fun f hf => (hfields f hf).mono fun _ _ _ => trivial

end Resource

/-- An update may be written into a copy that was read from an older store: the copy may be out
of date, but not in what it has from the server. -/
theorem Call.lawful_updatedWith {version : String} {limit : UInt32} {s t : Store} {kind : Kind}
    {id : Id} {stored incoming : Resource} (hs : s.Sound version limit)
    (hstored : s.get? kind id = some stored) (hst : s.Grows t)
    (hkind : incoming.kind = stored.kind) (hcheck : incoming.check limit = .ok ())
    (hlinked : incoming.Linked t.Has) :
    (Call.setSpec (stored.updatedWith incoming)).Lawful version limit t := by
  obtain ⟨now, hnow, hserver⟩ := hst.get? hstored
  refine ⟨(hs.settled hstored).updatedWith hkind hcheck, hlinked.updatedWith hkind, now, ?_, ?_⟩
  · rw [Resource.kind_updatedWith hkind, Resource.id_updatedWith hkind, hs.kind_eq hstored,
      hs.id_eq hstored]
    exact hnow
  · rw [Resource.serverPart_updatedWith hkind]
    exact hserver

end ClusterRegistry
