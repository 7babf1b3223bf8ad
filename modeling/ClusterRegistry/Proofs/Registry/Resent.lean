import ClusterRegistry.Proofs.Registry.Resendable

/-!
# Sending what was received

A client that sends back what it received changes nothing (`Registry.resent_of_reachable`). An
update with a stored resource, as it is written, is decoded to this resource, and all that follows
has nothing left to do: the resource is in canonical shape, passes the check, is resolved, and
what it replaces is what it is made of. A status update with the status of a stored resource says
this status.

Only texts that can be read back say what they were written from. The one thing in a resource that
may not be read back is what its status observes, which need not stand for itself.
-/

namespace ClusterRegistry

open Json (Document)

/-! ## Reading what was written -/

/-- If an object that does not embed a text is read as a value, all its members are. -/
theorem Json.exists_read_of_mem_object {embedded : String → Except Json.Fault Json} {depth : Nat}
    {key : String} {first v : Json} {rest : List (String × Json)} (hkey : key ≠ embeddedKey)
    (h : (Document.ofJson (.object ((key, first) :: rest))).read (.value embedded) depth = .ok v) :
    ∃ inner, depth = inner + 2 ∧ ∀ m ∈ (key, first) :: rest,
      ∃ w, (Document.ofJson m.2).read (.value embedded) (inner + 1) = .ok w := by
  obtain ⟨inner, hdepth, ⟨d, left, hmembers, -⟩ | ⟨-, ms, hms, -, -⟩⟩ := exists_of_read_object h
  · obtain ⟨hfirst, -⟩ := List.cons.inj hmembers
    exact absurd (Except.ok.inj (congrArg Prod.fst hfirst)) hkey
  · exact ⟨inner, hdepth, exists_read_of_readMembers hms⟩

namespace Resource

variable {r : Resource} {v : Json} {limit : UInt32}

/-- If a resource that can be sent again is read back, its status observes only what stands for
itself, and can be read within the levels that an update leaves it. -/
theorem Resendable.literal_of_value (h : r.Resendable)
    (hv : (Json.Payload.ofJson r.encode).value = .ok v) :
    (∀ e ∈ r.status.extra.entries, e.2.Literal) ∧ (Status.shape.encode r.status).Within 127 := by
  obtain ⟨w, hw, -⟩ := exists_of_bind_eq_ok hv
  obtain ⟨inner, hdepth, hmembers⟩ := Json.exists_read_of_mem_object (by decide) hw
  obtain rfl : 126 = inner := Nat.succ.inj (Nat.succ.inj hdepth)
  have hmem : ("status", Status.shape.encode r.status) ∈ Envelope.fields.encode r.envelope :=
    .tail _ (.tail _ (.tail _ (.head _)))
  obtain ⟨u, hu⟩ := hmembers _ (List.mem_append_left _ hmem)
  refine ⟨fun e he => ?_, Json.within_of_read hu⟩
  obtain ⟨_, -, hobserved⟩ := Json.exists_read_of_mem_object (by decide) hu
  obtain ⟨_, hread⟩ := hobserved e <|
    List.mem_append_right ((Status.fields .defaulted).encode r.status) he
  exact (h.status e he).2.literal_of_read hread

/-- A resource that can be sent again and is read back is decoded to itself. -/
theorem Resendable.decodePayload_encode (h : r.Resendable)
    (hread : (Json.Payload.ofJson r.encode).value = .ok r.encode.sorted) :
    decodePayload r.kind (.ofJson r.encode) = .ok r := by
  have hdecode := (h.fits (h.literal_of_value hread).1).decode_encode
  rw [decodePayload, ofPayload, hread]
  show (decode r.kind r.encode.sorted).mapError _ = _
  rw [hdecode]
  rfl

/-! ## Nothing left to do -/

/-- What passes the check is in canonical shape. -/
theorem canonical_eq_self (h : r.check limit = .ok ()) : r.canonical = r := by
  have hname : r.objectMeta.name ≠ "" := ((check_eq_ok_iff r limit).mp h).1.name
  have howners : (r.objectMeta.ownerReferences.filter fun o => !o.isBlank) =
      r.objectMeta.ownerReferences := by
    rw [List.filter_eq_self]
    intro o ho
    rw [isBlank_of_check h ho]
    rfl
  have hmeta : ({ r.objectMeta with
      name := if r.objectMeta.name = "" then r.ownName.getD "" else r.objectMeta.name
      ownerReferences := r.objectMeta.ownerReferences.filter fun o => !o.isBlank } : ObjectMeta) =
      r.objectMeta := by
    rw [if_neg hname, howners]
  exact congrArg (fun m => { r with envelope := { r.envelope with objectMeta := m } }) hmeta

theorem keepAccount_self (r : Resource) : r.keepAccount r = r := by
  have haccount : (if r.objectMeta.account = "" then r.objectMeta.account
      else r.objectMeta.account) = r.objectMeta.account := ite_self _
  exact congrArg (fun a => { r with
    envelope := { r.envelope with objectMeta := { r.objectMeta with account := a } } }) haccount

/-- A resource that is updated with itself is the same. -/
theorem updatedWith_self (r : Resource) : r.updatedWith r = r :=
  updatedWith_eq rfl

end Resource

namespace Script

variable {s : State} {r : Resource}

/-- A spec that is written as it is stored changes nothing. -/
theorem run_setSpec_self (h : s.store.at? r.address = some (.ofResource r)) :
    (setSpec r).run s = (.ok (some r), s) := by
  have hget : s.store.get? r.kind r.id = some r := Store.get?_eq_some_iff.mpr ⟨_, h, rfl⟩
  have hput : s.store.put r = s.store := congrArg Store.mk (Table.insert_eq_self h)
  have hstore : s.store.setSpec r = some (r, s.store) := by
    rw [Store.setSpec, hget]
    show some (r, s.store.put r) = _
    rw [hput]
  refine run_ask_of_answer ?_
  simp only [Call.answer, hstore]

/-- A status that is written as it is stored changes nothing. -/
theorem run_setStatus_self {kind : Kind} {id : Id} {e : Entry}
    (h : s.store.at? ⟨kind, id⟩ = some e) :
    (setStatus kind id e.resource.status).run s = (.ok (some e.resource), s) := by
  have hstore : s.store.setStatus kind id e.resource.status = some (e.resource, s.store) := by
    have htable : s.store.table.get? ⟨kind, id⟩ = some e := h
    rw [Store.setStatus, htable]
    exact congrArg (fun table => some (e.resource, Store.mk table)) (Table.insert_eq_self h)
  refine run_ask_of_answer ?_
  simp only [Call.answer, hstore]

end Script

namespace Registry

open Script

variable {reg : Registry} {s : State} {kind : Kind} {id : Id} {r : Resource}

/-- An update with what a stored resource is written as writes this resource. -/
theorem run_update_encode (he : s.store.at? r.address = some (.ofResource r))
    (hassigned : r.id.isAssigned = true) (hsettled : r.Settled reg.apiVersion reg.maxReplicas)
    (hlinked : r.Linked s.store.Has) (h : r.Resendable)
    (hread : (Json.Payload.ofJson r.encode).value = .ok r.encode.sorted) :
    (reg.update r.kind r.id.digits (.ofJson r.encode)).run s = (.ok r, s) := by
  have hstored : s.store.get? r.kind r.id = some r := Store.get?_eq_some_iff.mpr ⟨_, he, rfl⟩
  rw [update, pathId_digits r.kind hassigned]
  show (fetch r.kind r.id >>= _).run s = _
  rw [run_bind, run_fetch hstored]
  dsimp only
  rw [h.decodePayload_encode hread]
  show (ofExcept ((r.canonical.keepAccount r).check reg.maxReplicas) >>= fun _ =>
    resolved (r.canonical.keepAccount r) >>= _).run s = _
  rw [Resource.canonical_eq_self hsettled.admissible, Resource.keepAccount_self,
    hsettled.admissible]
  show (resolved r >>= _).run s = _
  rw [run_bind, run_resolved hlinked h.owners]
  dsimp only
  rw [Resource.updatedWith_self, run_bind, run_setSpec_self he]
  rfl

/-- A status update with what the status of a stored resource is written as writes this status. -/
theorem run_setStatus_encode (he : s.store.at? r.address = some (.ofResource r))
    (hassigned : r.id.isAssigned = true) (hphase : r.status.phase ≠ "") (h : r.Resendable)
    (hread : (Json.Payload.ofJson r.encode).value = .ok r.encode.sorted) :
    (setStatus r.kind r.id.digits
      (.ofJson (.object [("status", Status.shape.encode r.status)]))).run s = (.ok r, s) := by
  obtain ⟨hextra, hwithin⟩ := h.literal_of_value hread
  have hupdate : StatusUpdate.shape.ofPayload
      (.ofJson (.object [("status", Status.shape.encode r.status)])) = .ok ⟨r.status⟩ :=
    StatusUpdate.ofPayload_encode (fun e he => ⟨(h.status e he).1, hextra e he⟩) hwithin
  have hself : (Script.setStatus r.kind r.id r.status).run s = (.ok (some r), s) :=
    run_setStatus_self he
  rw [run_setStatus_of_ofPayload (pathId_digits r.kind hassigned) hupdate hphase, orFail,
    run_bind_of_ok hself]
  rfl

/-- In every reachable state of a registry that has a version, an update with what a stored resource
is written as, and a status update with what its status is written as, answer the resource and leave
everything as it was; provided that what is written can be read back. -/
theorem resent_of_reachable (h : reg.Reachable s) (hversion : reg.apiVersion ≠ "")
    (hr : s.store.get? kind id = some r)
    (hread : (Json.Payload.ofJson r.encode).value = .ok r.encode.sorted) :
    (reg.update kind r.id.digits (.ofJson r.encode)).run s = (.ok r, s) ∧
      (setStatus kind r.id.digits
        (.ofJson (.object [("status", Status.shape.encode r.status)]))).run s = (.ok r, s) := by
  obtain ⟨⟨r, parents⟩, he, rfl⟩ := Store.get?_eq_some_iff.mp hr
  have hsound := h.sound _ _ he
  have hresendable := h.resendable hversion _ _ he
  -- the entry is the one of its resource
  obtain ⟨rfl, rfl⟩ := Address.mk.inj hsound.filed
  obtain rfl : parents = r.parents := hsound.indexed
  exact ⟨run_update_encode he hsound.assigned hsound.settled hsound.linked hresendable hread,
    run_setStatus_encode he hsound.assigned hsound.settled.observed hresendable hread⟩

/-- The first assembly of the stack, as it is stored. -/
def stackedAssembly : Resource :=
  ⟨.assembly,
    { id := ⟨4⟩
      typeMeta := ⟨"Assembly", "v1"⟩
      objectMeta :=
        { name := "web1"
          account := "9"
          clusterName := "west"
          ownerReferences := [⟨"AssemblyFactory", "v1", "web", "3", false⟩]
          createdAt := "t2"
          gracePeriodSeconds := 30
          finalizers := ["orphan"] }
      status := .ofPhase "pending" },
    ({} : Assembly)⟩

/-- An assembly that no client ever sent can be sent back. -/
theorem resent_of_stackedAssembly :
    stackState.store.get? .assembly ⟨4⟩ = some stackedAssembly ∧
      (tenReplicas.update .assembly "4" (.ofJson stackedAssembly.encode)).run stackState =
        (.ok stackedAssembly, stackState) ∧
      (setStatus .assembly "4"
        (.ofJson (.object [("status", Status.shape.encode stackedAssembly.status)]))).run
          stackState = (.ok stackedAssembly, stackState) := by
  have hreachable : tenReplicas.Reachable stackState := ⟨_, planThenStack, rfl⟩
  have hstored : stackState.store.get? .assembly ⟨4⟩ = some stackedAssembly := rfl
  have hread : (Json.Payload.ofJson stackedAssembly.encode).value =
      .ok stackedAssembly.encode.sorted := rfl
  exact ⟨hstored, resent_of_reachable hreachable (by decide) hstored hread⟩

end Registry

end ClusterRegistry
