import ClusterRegistry.Proofs.Registry.Reachable
import ClusterRegistry.Proofs.Script.Runs

/-!
# What a write that succeeds has done

There are three ways of writing, and for each of them one statement says all that has happened when
it has succeeded: what was read, what was drawn, what stands in the store now
(`Registry.exists_of_run_create`, `Registry.exists_of_run_update`,
`Registry.exists_of_run_setStatus`). What a write keeps and what it brings is read off these
statements, and no script is opened again.
-/

namespace ClusterRegistry

namespace Registry

open Script

variable (reg : Registry) {s t : State} {r q : Resource} {kind : Kind} {payload : Json.Payload}
  {rawId : String}

/-- A payload that was accepted was decoded, passes the check in canonical shape and was resolved;
nothing has changed. -/
theorem exists_of_run_accept (h : (reg.accept kind payload).run s = (.ok r, t)) :
    t = s ∧ ∃ sent, decodePayload kind payload = .ok sent ∧
      sent.canonical.check reg.maxReplicas = .ok () ∧
      (resolved sent.canonical).run s = (.ok r, s) := by
  obtain rfl : t = s := by
    rw [← (reg.reads_accept kind payload).run s, h]
  rw [accept] at h
  obtain ⟨sent, hsent, h⟩ := exists_of_run_ofExcept_bind h
  obtain ⟨_, hcheck, hresolved⟩ := exists_of_run_ofExcept_bind h
  exact ⟨rfl, sent, hsent, hcheck, hresolved⟩

/-- A resource that was entered has the first id that was drawn, its children have those after it,
and the whole family stands where nothing stood. -/
theorem exists_of_run_enter (h : (reg.enter q).run s = (.ok r, t)) :
    r = reg.asCreated q (s.source.ids s.source.drawn) ∧
      s.store.Inserted t.store (r.family ((s.source.skip 1).next r.childCount)) ∧
      t.source = s.source.skip (1 + r.childCount) := by
  rw [enter, run_drawId_bind] at h
  obtain ⟨ids, u, hids, h⟩ := exists_of_run_bind h
  rw [run_drawIds] at hids
  cases hids
  obtain ⟨_, v, hinsert, h⟩ := exists_of_run_bind h
  cases h
  obtain ⟨hinserted, hsource⟩ := inserted_of_run_insert hinsert
  exact ⟨rfl, hinserted, hsource.trans (s.source.skip_skip 1 _)⟩

/-- A resource that was created was accepted as it was sent, and was entered in the account of the
route if there is one. -/
theorem exists_of_run_create {account : Option String}
    (h : (reg.create kind payload account).run s = (.ok r, t)) :
    ∃ route admitted, account.mapM pathAccount = .ok route ∧
      (reg.accept kind payload).run s = (.ok admitted, s) ∧
      (reg.enter (admitted.inAccount route)).run s = (.ok r, t) := by
  rw [create_eq] at h
  obtain ⟨route, hroute, h⟩ := exists_of_run_ofExcept_bind h
  obtain ⟨admitted, hadmitted, h⟩ := (reg.reads_accept kind payload).exists_of_run_bind h
  exact ⟨route, admitted, hroute, hadmitted, h⟩

/-- An update that succeeds has found the resource, has checked and resolved what was sent, and has
written both together in one entry. -/
theorem exists_of_run_update (hs : s.store.Sound reg.apiVersion reg.maxReplicas)
    (h : (reg.update kind rawId payload).run s = (.ok r, t)) :
    ∃ id e sent incoming, pathId kind rawId = .ok id ∧ s.store.at? ⟨kind, id⟩ = some e ∧
      decodePayload kind payload = .ok sent ∧
      (resolved (sent.canonical.keepAccount e.resource)).run s = (.ok incoming, s) ∧
      incoming.kind = e.resource.kind ∧ incoming.check reg.maxReplicas = .ok () ∧
      r = e.resource.updatedWith incoming ∧ t.source = s.source ∧
      ∀ a, t.store.at? a = if a = ⟨kind, id⟩ then some (.ofResource r) else s.store.at? a := by
  rw [update] at h
  obtain ⟨id, hid, h⟩ := exists_of_run_ofExcept_bind h
  obtain ⟨stored, hfetch, h⟩ := (reads_fetch kind id).exists_of_run_bind h
  obtain ⟨sent, hsent, h⟩ := exists_of_run_ofExcept_bind h
  obtain ⟨_, hcheck, h⟩ := exists_of_run_ofExcept_bind h
  obtain ⟨incoming, hresolved, h⟩ := (looksUp_resolved _).reads.exists_of_run_bind h
  have hwritten := run_of_run_orFail h
  have hstored : s.store.get? kind id = some stored :=
    get?_of_run_get? (run_of_run_orFail hfetch)
  obtain ⟨e, he, rfl⟩ := Store.get?_eq_some_iff.mp hstored
  -- what was resolved is of the kind that was asked for, and so is what is stored
  have hkeeps : (resolved (sent.canonical.keepAccount e.resource)).Keeps
      (sharedStore reg.apiVersion reg.maxReplicas fun _ => True) _ s := keeps_resolved _
  have hincoming := (hkeeps.run hs).2.2 incoming (congrArg Prod.fst hresolved)
  have hkind : incoming.kind = e.resource.kind := by
    rw [hincoming.kind_eq, hs.kind_eq hstored, ← kind_of_decodePayload hsent]
    rfl
  have haddress : (e.resource.updatedWith incoming).address = ⟨kind, id⟩ :=
    (Resource.address_updatedWith hkind).trans (hs.address_eq hstored)
  obtain ⟨e', he', hr, hsource, hstore⟩ := exists_of_run_setSpec hwritten
  rw [haddress] at he' hstore
  obtain rfl : e = e' := Option.some.inj (he.symm.trans he')
  have hr' : r = e.resource.updatedWith incoming := by
    rw [hr, Resource.updatedWith_eq hkind]
    rfl
  exact ⟨id, e, sent, incoming, hid, he, hsent, hresolved, hkind, hincoming.check hcheck, hr',
    hsource, hstore⟩

/-- A status update that says a phase writes the status that it says. -/
theorem run_setStatus_of_ofPayload {id : Id} {status : Status} (hid : pathId kind rawId = .ok id)
    (hstatus : StatusUpdate.shape.ofPayload payload = .ok ⟨status⟩) (hphase : status.phase ≠ "") :
    (setStatus kind rawId payload).run s =
      ((Script.setStatus kind id status).orFail (.notStored kind id)).run s := by
  rw [setStatus, hid, hstatus]
  show (if status.phase = "" then _ else _ : Script Resource).run s = _
  rw [if_neg hphase]
  rfl

/-- A status that was written is the one that was sent. -/
theorem exists_of_run_setStatus (h : (setStatus kind rawId payload).run s = (.ok r, t)) :
    ∃ id e status, pathId kind rawId = .ok id ∧ s.store.at? ⟨kind, id⟩ = some e ∧
      StatusUpdate.shape.ofPayload payload = .ok ⟨status⟩ ∧ status.phase ≠ "" ∧
      r = e.resource.withStatus status ∧ t.source = s.source ∧
      ∀ a, t.store.at? a = if a = ⟨kind, id⟩ then some ⟨r, e.parents⟩ else s.store.at? a := by
  rw [setStatus] at h
  obtain ⟨id, hid, h⟩ := exists_of_run_ofExcept_bind h
  obtain ⟨update, hupdate, h⟩ := exists_of_run_ofExcept_bind h
  have hdecoded := eq_ok_of_mapError_eq_ok hupdate
  split at h
  · cases h
  · next hphase =>
    obtain ⟨e, he, hr, hsource, hstore⟩ := Script.exists_of_run_setStatus (run_of_run_orFail h)
    exact ⟨id, e, update.status, hid, he, hdecoded, hphase, hr, hsource, hstore⟩

end Registry

end ClusterRegistry
