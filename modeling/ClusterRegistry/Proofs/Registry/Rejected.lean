import ClusterRegistry.Proofs.Registry.Reachable
import ClusterRegistry.Proofs.Script.Traceless

/-!
# Rejected requests

A request that is rejected leaves no trace: it is admitted before it draws an id or writes, and
of the store that refuses a batch nothing has changed (`Script.Traceless`). A refused batch has
cost the ids that were drawn for it. With fresh ids no batch is refused, and so a rejected request
leaves not only the store but the whole state as it was.
-/

namespace ClusterRegistry

/-! ## New resources spend what they draw -/

namespace Script

theorem succeeds_drawIds (count : Nat) {held : List Id} :
    (drawIds count).Succeeds (fun ids after => ids.length = count ∧ after = held ++ ids) held := by
  induction count generalizing held with
  | zero => exact succeeds_pure ⟨rfl, (List.append_nil held).symm⟩
  | succ count ih =>
    apply succeeds_drawId.bind
    intro id after hid
    subst hid
    apply ih.bind
    intro ids after hids
    obtain ⟨hlength, rfl⟩ := hids
    exact succeeds_pure ⟨congrArg Nat.succ hlength, List.append_assoc held [id] ids⟩

end Script

namespace Registry

open Script

variable (reg : Registry)

/-- A new resource is entered unless it is refused, and all ids that were drawn for it are
spent. -/
theorem succeeds_enter (r : Resource) : (reg.enter r).Succeeds (fun _ after => after = []) [] := by
  unfold enter
  apply succeeds_drawId.bind
  intro id after hid
  subst hid
  apply (succeeds_drawIds _).bind
  intro ids after hids
  obtain ⟨hlength, rfl⟩ := hids
  apply (succeeds_insert (Resource.map_id_family hlength)).bind
  intro _ after hdone
  exact succeeds_pure hdone

/-! ## Requests read first -/

/-- How a request may end once it has read what it needs. -/
inductive Ending : Script Answer → Prop
  | answer (a : Answer) : Ending (pure a)
  | enter (r : Resource) : Ending (.resource <$> reg.enter r)
  | setSpec (r : Resource) (e : ApiError) :
    Ending (.resource <$> (Script.setSpec r).orFail e)
  | setStatus (kind : Kind) (id : Id) (status : Status) (e : ApiError) :
    Ending (.resource <$> (Script.setStatus kind id status).orFail e)

theorem readsThen_create (kind : Kind) (payload : Json.Payload) (account : Option String) :
    (reg.serve (.create kind payload account)).ReadsThen reg.Ending := by
  rw [serve, create_eq]
  apply (reads_ofExcept (account.mapM pathAccount)).map_bind_readsThen
  intro route
  apply (reg.reads_accept kind payload).map_bind_readsThen
  intro admitted
  exact readsThen_of_final (.enter _)

theorem readsThen_update (kind : Kind) (rawId : String) (payload : Json.Payload) :
    (reg.serve (.update kind rawId payload)).ReadsThen reg.Ending := by
  rw [serve, update]
  apply (reads_ofExcept (pathId kind rawId)).map_bind_readsThen
  intro id
  apply (reads_fetch kind id).map_bind_readsThen
  intro stored
  apply (reads_ofExcept (decodePayload kind payload)).map_bind_readsThen
  intro sent
  apply (reads_ofExcept _).map_bind_readsThen
  intro _
  apply (looksUp_resolved _).reads.map_bind_readsThen
  intro incoming
  exact readsThen_of_final (.setSpec _ (.notStored kind id))

theorem readsThen_setStatus (kind : Kind) (rawId : String) (payload : Json.Payload) :
    (reg.serve (.setStatus kind rawId payload)).ReadsThen reg.Ending := by
  rw [serve, setStatus]
  apply (reads_ofExcept (pathId kind rawId)).map_bind_readsThen
  intro id
  apply (reads_ofExcept _).map_bind_readsThen
  intro update
  by_cases hphase : update.status.phase = ""
  · -- a blank phase is rejected before anything is written
    rw [if_pos hphase]
    trivial
  · rw [if_neg hphase]
    exact readsThen_of_final (.setStatus _ _ _ (.notStored kind id))

/-- Every request reads first, and then it enters one resource, writes one spec or one status, or
answers. -/
theorem readsThen_serve (request : Request) :
    (reg.serve request).ReadsThen reg.Ending := by
  -- a request that only reads answers in the end
  have hreads : ∀ {x : Script Answer}, x.Reads → x.ReadsThen reg.Ending :=
    fun hx => hx.readsThen fun a => .answer a
  cases request with
  | create kind payload account => exact reg.readsThen_create kind payload account
  | update kind rawId payload => exact reg.readsThen_update kind rawId payload
  | setStatus kind rawId payload => exact reg.readsThen_setStatus kind rawId payload
  | get kind rawId => exact hreads ((reads_get kind rawId).map _)
  | list kind => exact hreads ((reg.reads_listAll kind).map _)
  | listSome kind => exact hreads ((reg.reads_listSome kind).map _)
  | listInAccount kind rawAccount => exact hreads ((reg.reads_listInAccount kind rawAccount).map _)
  | listUnder kind parent rawParentId =>
    exact hreads ((reg.reads_listUnder kind parent rawParentId).map _)
  | describe kind rawId => exact hreads ((reg.reads_describe kind rawId).map _)
  | planReplicas rawId => exact hreads ((reads_planReplicas rawId).map _)
  | recommendResources rawId => exact hreads ((reg.reads_recommendResources rawId).map _)

/-- Every request spends the ids that it draws. -/
theorem spends_serve (request : Request) : (reg.serve request).Spends (fun _ _ => True) [] := by
  refine (reg.readsThen_serve request).spends (fun y hy => ?_) fun _ => trivial
  cases hy with
  | answer a => trivial
  | enter r => exact (reg.succeeds_enter r).map _
  | setSpec r e => exact ((succeeds_setSpec r).orFail e).map _
  | setStatus kind id status e => exact ((succeeds_setStatus kind id status).orFail e).map _

/-! ## No trace -/

/-- A resource that is not entered was refused by the store. -/
theorem run_enter_eq_error {r : Resource} {s t : State} {e : ApiError}
    (h : (reg.enter r).run s = (.error e, t)) :
    t.store = s.store ∧ ∃ cause, e = .storeRefused cause := by
  rw [enter, run_drawId_bind, run_bind, run_drawIds] at h
  dsimp only at h
  rw [run_bind] at h
  split at h
  · cases h
  · next hinsert =>
    cases h
    obtain ⟨rfl, hcause⟩ := run_insert_eq_error hinsert
    exact ⟨rfl, hcause⟩

/-- However a request ends, if it fails it leaves no trace. -/
theorem Ending.traceless {x : Script Answer} (hx : reg.Ending x) : x.Traceless := by
  cases hx with
  | answer a =>
    intro s e t h
    cases h
  | enter r =>
    refine Traceless.map (fun s e t h => .inr ?_) _
    obtain ⟨hstore, hcause⟩ := reg.run_enter_eq_error h
    refine ⟨hstore, hcause, fun hfresh => ?_⟩
    -- with fresh ids the resource would have been entered
    have hrun : ((reg.enter r).run s).2.source.Fresh := by
      rw [h]
      exact hfresh.2
    obtain ⟨after, -, q, hok, -⟩ := (reg.succeeds_enter r).run hfresh.1 hrun
    rw [h] at hok
    cases hok
  | setSpec r e => exact (atomic_orFail e (run_setSpec r)).traceless.map _
  | setStatus kind id status e =>
    exact (atomic_orFail e (run_setStatus kind id status)).traceless.map _

/-- A request that is rejected leaves no trace. -/
theorem traceless_serve (request : Request) : (reg.serve request).Traceless :=
  (reg.readsThen_serve request).traceless fun _ hx => hx.traceless

end Registry

end ClusterRegistry
