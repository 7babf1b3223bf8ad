import ClusterRegistry.Proofs.Registry.Numbered
import ClusterRegistry.Proofs.Registry.Resent
import ClusterRegistry.Proofs.Registry.ServerOwned

/-!
# Sending the same write again

A client that has lost the answer to an update or to a status update sends it again. It receives the
answer that it has lost, also if this was a failure, and nothing more becomes of the store
(`Registry.puts_idempotent`).

A write that fails has changed nothing, so it fails again. After an update that was answered two
things are different: another copy of the resource is read, and references are resolved in another
store. But what an update takes from the stored copy is what it leaves as it is; and references are
looked up under the kinds of parents, of which the resource is none.
-/

namespace ClusterRegistry

/-- Whether a request replaces what is stored under a path. -/
def Request.Puts : Request → Prop
  | .update _ _ _ | .setStatus _ _ _ => True
  | _ => False

namespace Resource

variable {r stored incoming : Resource}

/-- Of the stored resource no more than the account is kept in the incoming one. -/
theorem keepAccount_congr {other : Resource} (h : other.account = stored.account) :
    r.keepAccount other = r.keepAccount stored := by
  rw [keepAccount, keepAccount, h]

/-- An update leaves in the stored resource what it would take from there. -/
theorem updatedWith_updatedWith (h : incoming.kind = stored.kind) :
    (stored.updatedWith incoming).updatedWith incoming = stored.updatedWith incoming := by
  have hagain : incoming.kind = (stored.updatedWith incoming).kind :=
    h.trans (kind_updatedWith h).symm
  apply eq_of_parts
  · rw [clientPart_updatedWith hagain, clientPart_updatedWith h]
  · exact serverPart_updatedWith hagain
  · rw [updatedWith_eq hagain]
    rfl

end Resource

namespace Script

variable {α β : Type} {x : Script α} {s : State}

/-- A script that is done as a whole or not at all may be run again if what it has done when it has
come to an answer need not be done again. -/
theorem Atomic.run_again (hx : x.Atomic)
    (hok : ∀ a t, x.run s = (.ok a, t) → x.run t = (.ok a, t)) : x.run (x.run s).2 = x.run s := by
  cases hrun : x.run s with
  | mk outcome t =>
    cases outcome with
    | ok a => exact hok a t hrun
    | error e =>
      obtain rfl := hx s e t hrun
      exact hrun

theorem run_again_map (h : x.run (x.run s).2 = x.run s) (f : α → β) :
    (f <$> x).run ((f <$> x).run s).2 = (f <$> x).run s := by
  simp only [run_map, h]

end Script

namespace Registry

open Script

variable {reg : Registry} {s t : State} {r : Resource} {kind : Kind} {rawId : String}
  {payload : Json.Payload}

/-! ## Updates -/

theorem atomic_update : (reg.update kind rawId payload).Atomic := by
  apply (reads_ofExcept (pathId kind rawId)).bind_atomic
  intro id
  apply (reads_fetch kind id).bind_atomic
  intro stored
  apply (reads_ofExcept (decodePayload kind payload)).bind_atomic
  intro sent
  apply (reads_ofExcept _).bind_atomic
  intro _
  apply (looksUp_resolved _).reads.bind_atomic
  intro incoming
  exact atomic_orFail (.notStored kind id) (run_setSpec _)

/-- What is resolved is resolved alike after the resource itself was replaced: no resource is among
its own parents. -/
theorem run_resolved_of_replaced {q : Resource} {id : Id} {new : Entry} (hkind : q.kind = kind)
    (ht : ∀ a, t.store.at? a = if a = ⟨kind, id⟩ then some new else s.store.at? a) :
    (resolved q).run t = (((resolved q).run s).1, t) := by
  apply (looksUp_resolved q).run_eq
  intro parent hparent i
  have hother : (⟨parent, i⟩ : Address) ≠ ⟨kind, id⟩ := by
    intro heq
    obtain rfl : parent = kind := congrArg Address.kind heq
    rw [hkind] at hparent
    exact Kind.not_mem_parents_self parent hparent
  rw [Store.get?_eq_map_at?, Store.get?_eq_map_at?, ht, if_neg hother]

/-- An update that was answered is answered alike the second time, and changes nothing more. -/
theorem run_update_of_run_update (hs : s.store.Sound reg.apiVersion reg.maxReplicas)
    (h : (reg.update kind rawId payload).run s = (.ok r, t)) :
    (reg.update kind rawId payload).run t = (.ok r, t) := by
  obtain ⟨id, e, sent, incoming, hid, he, hsent, hresolved, hkind, -, rfl, -, ht⟩ :=
    exists_of_run_update reg hs h
  have hstored : s.store.get? kind id = some e.resource :=
    Store.get?_eq_some_iff.mpr ⟨e, he, rfl⟩
  have haddress : (e.resource.updatedWith incoming).address = ⟨kind, id⟩ :=
    (Resource.address_updatedWith hkind).trans (hs _ e he).filed
  -- the second time the copy is read that was written the first time
  have hwritten : t.store.at? (e.resource.updatedWith incoming).address =
      some (.ofResource (e.resource.updatedWith incoming)) := by
    rw [ht, if_pos haddress]
  have hread : t.store.get? kind id = some (e.resource.updatedWith incoming) :=
    Store.get?_eq_some_iff.mpr ⟨_, haddress ▸ hwritten, rfl⟩
  have haccount : (e.resource.updatedWith incoming).account = e.resource.account :=
    congrArg ServerPart.account (Resource.serverPart_updatedWith hkind)
  have hsentKind : sent.kind = kind := kind_of_decodePayload hsent
  have hof : (sent.canonical.keepAccount e.resource).kind = kind := hsentKind
  have hagain : (resolved (sent.canonical.keepAccount e.resource)).run t = (.ok incoming, t) := by
    rw [run_resolved_of_replaced hof ht, hresolved]
  have hchecked : (sent.canonical.keepAccount e.resource).check reg.maxReplicas = .ok () := by
    rw [run_update_of_decodePayload hid hstored hsent, merge] at h
    obtain ⟨_, hchecked, -⟩ := exists_of_run_ofExcept_bind h
    exact hchecked
  rw [run_update_of_decodePayload hid hread hsent, merge, Resource.keepAccount_congr haccount,
    hchecked]
  show (resolved (sent.canonical.keepAccount e.resource) >>= _).run t = _
  rw [run_bind_of_ok hagain, Resource.updatedWith_updatedWith hkind, orFail,
    run_bind_of_ok (run_setSpec_self hwritten)]
  rfl

/-! ## Status updates -/

theorem atomic_setStatus : (setStatus kind rawId payload).Atomic := by
  apply (reads_ofExcept (pathId kind rawId)).bind_atomic
  intro id
  apply (reads_ofExcept _).bind_atomic
  intro update
  split
  · exact (reads_fail _).atomic
  · exact atomic_orFail (.notStored kind id) (run_setStatus kind id _)

/-- A status update that was answered is answered alike the second time, and changes nothing
more. -/
theorem run_setStatus_of_run_setStatus (h : (setStatus kind rawId payload).run s = (.ok r, t)) :
    (setStatus kind rawId payload).run t = (.ok r, t) := by
  obtain ⟨id, e, status, hid, -, hstatus, hphase, rfl, -, ht⟩ := exists_of_run_setStatus h
  have hwritten : t.store.at? ⟨kind, id⟩ = some ⟨e.resource.withStatus status, e.parents⟩ := by
    rw [ht, if_pos rfl]
  have hself : (Script.setStatus kind id status).run t =
      (.ok (some (e.resource.withStatus status)), t) := run_setStatus_self hwritten
  rw [run_setStatus_of_ofPayload hid hstatus hphase, orFail, run_bind_of_ok hself]
  rfl

/-! ## Both writes -/

theorem run_update_again (hs : s.store.Sound reg.apiVersion reg.maxReplicas) (kind : Kind)
    (rawId : String) (payload : Json.Payload) :
    (reg.update kind rawId payload).run ((reg.update kind rawId payload).run s).2 =
      (reg.update kind rawId payload).run s :=
  atomic_update.run_again fun _ _ => run_update_of_run_update hs

theorem run_setStatus_again (kind : Kind) (rawId : String) (payload : Json.Payload) (s : State) :
    (setStatus kind rawId payload).run ((setStatus kind rawId payload).run s).2 =
      (setStatus kind rawId payload).run s :=
  atomic_setStatus.run_again fun _ _ => run_setStatus_of_run_setStatus

/-- Arrivals that are served by a script which need not be run again have the same answer. -/
theorem answerAll_of_run_again {x : Script Answer} (hx : x.run (x.run s).2 = x.run s)
    {again : List Arrival} (h : ∀ a ∈ again, reg.script a = x) :
    reg.answerAll again (x.run s).2 = (List.replicate again.length (x.run s).1, (x.run s).2) := by
  induction again with
  | nil => rfl
  | cons a rest ih =>
    obtain ⟨ha, hrest⟩ := List.forall_mem_cons.mp h
    rw [answerAll, ha, hx, ih hrest]
    rfl

/-- **Updates and status updates may be sent again.** In every reachable state an update that is run
twice in a row, of whatever kind, at whatever path and with whatever payload, has the same outcome
both times, be it an answer or a failure, and leaves the state as it is after the first time. So does
a status update. If more arrivals ask for the same write, at whatever time, all of them are answered
as the first one is, and the state is the one after the first. -/
theorem puts_idempotent (h : reg.Reachable s) :
    (∀ kind rawId payload,
      (reg.update kind rawId payload).run ((reg.update kind rawId payload).run s).2 =
        (reg.update kind rawId payload).run s) ∧
    (∀ kind rawId payload,
      (setStatus kind rawId payload).run ((setStatus kind rawId payload).run s).2 =
        (setStatus kind rawId payload).run s) ∧
    ∀ a again, a.request.Puts → (∀ b ∈ again, b.request = a.request) →
      reg.answerAll (a :: again) s =
        (List.replicate (again.length + 1) ((reg.script a).run s).1, ((reg.script a).run s).2) := by
  refine ⟨run_update_again h.sound, fun kind rawId payload => run_setStatus_again kind rawId payload s,
    fun a again hputs hsame => ?_⟩
  obtain ⟨now, metrics, request⟩ := a
  -- neither the time nor the readings of an arrival matter to these requests
  have hrepeated : ((reg.script ⟨now, metrics, request⟩).run
        ((reg.script ⟨now, metrics, request⟩).run s).2 =
          (reg.script ⟨now, metrics, request⟩).run s) ∧
      ∀ b ∈ again, reg.script b = reg.script ⟨now, metrics, request⟩ := by
    cases request with
    | update kind rawId payload =>
      refine ⟨run_again_map (run_update_again h.sound kind rawId payload) Answer.resource, fun b hb => ?_⟩
      rw [script, hsame b hb]
      rfl
    | setStatus kind rawId payload =>
      refine ⟨run_again_map (run_setStatus_again kind rawId payload s) Answer.resource, fun b hb => ?_⟩
      rw [script, hsame b hb]
      rfl
    | _ => exact hputs.elim
  rw [answerAll, answerAll_of_run_again hrepeated.1 hrepeated.2]
  rfl

/-- An assembly of the stack is renamed, and nothing more becomes of it when it is renamed again. -/
theorem assembly_renamed_again :
    ∃ r t, (tenReplicas.update .assembly "4" sentAssembly).run stackState = (.ok r, t) ∧
      r.objectMeta.name = "web4" ∧
      r.objectMeta.ownerReferences = [⟨"AssemblyFactory", "v1", "web", "3", false⟩] ∧
      (tenReplicas.update .assembly "4" sentAssembly).run t = (.ok r, t) := by
  have hreachable : tenReplicas.Reachable stackState := ⟨_, planThenStack, rfl⟩
  have hrun : (tenReplicas.update .assembly "4" sentAssembly).run stackState = (.ok _, _) := rfl
  have hagain := (puts_idempotent hreachable).1 .assembly "4" sentAssembly
  rw [hrun] at hagain
  exact ⟨_, _, hrun, rfl, rfl, hagain⟩

end Registry

end ClusterRegistry
