import ClusterRegistry.Proofs.Registry.Admitted
import ClusterRegistry.Proofs.Registry.Family
import ClusterRegistry.Proofs.Registry.Reading

/-!
# Requests

A `Request` is what a client asks of a registry, and `Registry.serve` is the script that serves
it. All requests keep one contract (`Registry.keeps_serve`): whatever others write in between,
a request makes lawful calls only, and the calls that write are those that `Registry.Issues`
derives from what the client sent. An update, say, writes a copy that it read before others
wrote; the contract holds nevertheless, since a copy is never out of date in the parts that the
update takes from it.
-/

namespace ClusterRegistry

/-! ## What is asked and answered -/

/-- What a client asks of a registry. -/
inductive Request
  | create (kind : Kind) (payload : Json.Payload) (account : Option String)
  | update (kind : Kind) (rawId : String) (payload : Json.Payload)
  | setStatus (kind : Kind) (rawId : String) (payload : Json.Payload)
  | get (kind : Kind) (rawId : String)
  | list (kind : Kind)
  | listSome (kind : Kind)
  | listInAccount (kind : Kind) (rawAccount : String)
  | listUnder (kind parent : Kind) (rawParentId : String)
  | describe (kind : Kind) (rawId : String)
  | planReplicas (rawId : String)
  | recommendResources (rawId : String)

/-- What a registry answers. -/
inductive Answer
  | resource (r : Resource)
  | list (l : ResourceList)
  | scaled (s : ScaledFactory)
  | recommendation (r : Recommendation)

/-- The script that serves a request. -/
def Registry.serve (reg : Registry) : Request → Script Answer
  | .create kind payload account => .resource <$> reg.create kind payload account
  | .update kind rawId payload => .resource <$> reg.update kind rawId payload
  | .setStatus kind rawId payload => .resource <$> setStatus kind rawId payload
  | .get kind rawId => .resource <$> get kind rawId
  | .list kind => .list <$> reg.list kind
  | .listSome kind => .list <$> reg.listSome kind
  | .listInAccount kind rawAccount => .list <$> reg.listInAccount kind rawAccount
  | .listUnder kind parent rawParentId => .list <$> reg.listUnder kind parent rawParentId
  | .describe kind rawId => .list <$> reg.describe kind rawId
  | .planReplicas rawId => .scaled <$> planReplicas rawId
  | .recommendResources rawId => .recommendation <$> reg.recommendResources rawId

/-- The calls that write on behalf of a request. -/
def Registry.Issues (reg : Registry) : Request → Call → Prop
  | .create kind payload account, .insert batch =>
    ∃ sent admitted route id ids, decodePayload kind payload = .ok sent ∧
      sent.AdmittedAs admitted ∧ account.mapM pathAccount = .ok route ∧
      batch = (reg.asCreated (admitted.inAccount route) id).family ids
  | .update kind rawId payload, .setSpec r =>
    r.kind = kind ∧ pathId kind rawId = .ok r.id ∧ ∃ sent admitted,
      decodePayload kind payload = .ok sent ∧ sent.AdmittedAs admitted ∧
      r.clientPart = admitted.clientPart
  | .setStatus kind rawId payload, .setStatus kind' id status =>
    kind' = kind ∧ pathId kind rawId = .ok id ∧
      StatusUpdate.shape.ofPayload payload = .ok ⟨status⟩
  | _, _ => False

/-! ## Requests keep the contract -/

namespace Registry

open Script

variable (reg : Registry) {own : Call → Prop} {s : State}

/-- A payload that is accepted is one that was sent, passes the check and refers to nothing but
what is stored. -/
theorem keeps_accept (kind : Kind) (payload : Json.Payload) :
    (reg.accept kind payload).Keeps (sharedStore reg.apiVersion reg.maxReplicas own)
      (fun admitted t => admitted.check reg.maxReplicas = .ok () ∧ admitted.Linked t.store.Has ∧
        ∃ sent, decodePayload kind payload = .ok sent ∧ sent.AdmittedAs admitted) s := by
  unfold accept
  apply (keeps_step (decodePayload kind payload)).bind
  intro sent t _ hsent
  apply (keeps_step (sent.canonical.check reg.maxReplicas)).bind
  intro _ u _ hcheck
  apply (keeps_resolved sent.canonical).imp
  intro admitted v _ hadmitted
  exact ⟨hadmitted.check hcheck, hadmitted.linked hcheck, sent, hsent,
    hadmitted.mono fun _ _ _ => trivial⟩

/-- A new resource with an id of its own, inserted with its family. -/
def enter (r : Resource) : Script Resource := do
  let id ← drawId
  let ids ← drawIds (reg.asCreated r id).childCount
  insert ((reg.asCreated r id).family ids)
  pure (reg.asCreated r id)

/-- Creating a resource comes down to admitting the payload and entering the result. -/
theorem create_eq (kind : Kind) (payload : Json.Payload) (account : Option String) :
    reg.create kind payload account =
      (do let route ← ofExcept (account.mapM pathAccount)
          let admitted ← reg.accept kind payload
          reg.enter (admitted.inAccount route)) := by
  unfold create enter
  simp only [expand_eq, bind_assoc, pure_bind]

/-- What passes the check and is linked may be entered. -/
theorem keeps_enter {r : Resource} (hcheck : r.check reg.maxReplicas = .ok ())
    (hlinked : r.Linked s.store.Has)
    (hown : ∀ id ids, own (.insert ((reg.asCreated r id).family ids))) :
    (reg.enter r).Keeps (sharedStore reg.apiVersion reg.maxReplicas own) (fun _ _ => True) s := by
  unfold enter
  apply keeps_drawId.bind
  intro id t hst _
  apply (keeps_drawIds _).bind
  intro ids u htu _
  refine Keeps.bind (P := fun _ _ => True) (keeps_insert fun v huv _ => ?_)
    fun _ _ _ _ => keeps_pure trivial
  refine ⟨fun hassigned => ?_, fun _ => hown id ids⟩
  -- only ids were drawn since the resource was linked, and it still is
  have hgrows : s.store.Grows v.store := (Store.Grows.trans hst htu).trans huv
  have hentered : (reg.asCreated r id).Linked (v.store.HasWith ((reg.asCreated r id).family ids)) :=
    (reg.linked_asCreated hlinked id).mono fun _ _ hhas => .inl (hgrows.has hhas)
  exact (reg.settled_asCreated hcheck id).children hentered fun q hq =>
    ⟨hassigned q hq, .inr ⟨q, hq, rfl⟩⟩

theorem keeps_create (kind : Kind) (payload : Json.Payload) (account : Option String) :
    (reg.create kind payload account).Keeps
      (sharedStore reg.apiVersion reg.maxReplicas (reg.Issues (.create kind payload account)))
      (fun _ _ => True) s := by
  rw [create_eq]
  apply (keeps_step (account.mapM pathAccount)).bind
  intro route _ _ hroute
  apply (reg.keeps_accept kind payload).bind
  intro admitted _ _ hadmitted
  obtain ⟨hcheck, hlinked, sent, hsent, hsentAs⟩ := hadmitted
  -- the account of the route comes in after the check
  have hmoved := Resource.check_inAccount hcheck (ne_empty_of_mapM_pathAccount hroute)
  exact reg.keeps_enter hmoved (hlinked.withEnvelope _ rfl) fun id ids =>
    ⟨sent, admitted, route, id, ids, hsent, hsentAs, hroute, rfl⟩

/-- What is fetched is stored under the kind and the id asked for. -/
theorem keeps_fetch {C : Contract} (kind : Kind) (id : Id) :
    (fetch kind id).Keeps C
      (fun r t => C.inv t ∧ t.store.get? kind id = some r) s := by
  apply ((keeps_get? kind id).orFail (.notStored kind id)).imp
  intro r t _ hfound
  exact ⟨hfound.2.1, hfound.2.2.symm⟩

/-- An update writes an older copy, which is as good as a fresh one. -/
theorem keeps_update (kind : Kind) (rawId : String) (payload : Json.Payload) :
    (reg.update kind rawId payload).Keeps
      (sharedStore reg.apiVersion reg.maxReplicas (reg.Issues (.update kind rawId payload)))
      (fun _ _ => True) s := by
  unfold update
  apply (keeps_step (pathId kind rawId)).bind
  intro id t₁ _ hid
  apply (keeps_fetch kind id).bind
  intro stored t₂ _ hfetched
  obtain ⟨hsound, hstored⟩ := hfetched
  apply (keeps_step (decodePayload kind payload)).bind
  intro sent t₃ h₃ hsent
  apply (keeps_step ((sent.canonical.keepAccount stored).check reg.maxReplicas)).bind
  intro _ t₄ h₄ hcheck
  apply (keeps_resolved _).bind
  intro incoming t₅ h₅ hincoming
  have hkind : incoming.kind = stored.kind := by
    rw [hincoming.kind_eq, hsound.kind_eq hstored, ← kind_of_decodePayload hsent]
    rfl
  obtain ⟨admitted, hadmitted, hparts⟩ := hincoming.ofKeepAccount
  -- whatever is stored when the copy is written, writing it is lawful
  have hwrite : (Script.setSpec (stored.updatedWith incoming)).Keeps
      (sharedStore reg.apiVersion reg.maxReplicas (reg.Issues (.update kind rawId payload)))
      (fun _ _ => True) t₅ := by
    apply keeps_ask
    intro t₆ h₆ _
    have hgrows : t₂.store.Grows t₆.store := ((h₃.trans h₄).trans h₅).trans h₆
    have hlinked : incoming.Linked t₆.store.Has :=
      (hincoming.linked hcheck).mono fun _ _ => Store.Grows.has h₆
    refine ⟨⟨?_, fun _ => ?_⟩, trivial⟩
    · exact Call.lawful_updatedWith hsound hstored hgrows hkind (hincoming.check hcheck) hlinked
    · refine ⟨?_, ?_, sent, admitted, hsent, hadmitted, ?_⟩
      · rw [Resource.kind_updatedWith hkind, hsound.kind_eq hstored]
      · rw [Resource.id_updatedWith hkind, hsound.id_eq hstored]
        exact hid
      · rw [Resource.clientPart_updatedWith hkind]
        exact hparts
  exact hwrite.orFail (.notStored kind id)

/-- A status that is written has a phase. -/
theorem keeps_setStatus (kind : Kind) (rawId : String) (payload : Json.Payload) :
    (setStatus kind rawId payload).Keeps
      (sharedStore reg.apiVersion reg.maxReplicas (reg.Issues (.setStatus kind rawId payload)))
      (fun _ _ => True) s := by
  unfold setStatus
  apply (keeps_step (pathId kind rawId)).bind
  intro id _ _ hid
  apply (keeps_step ((StatusUpdate.shape.ofPayload payload).mapError .malformedBody)).bind
  intro update t _ hupdate
  have hdecoded := eq_ok_of_mapError_eq_ok hupdate
  by_cases hphase : update.status.phase = ""
  · rw [if_pos hphase]
    exact keeps_fail _
  · rw [if_neg hphase]
    have hwrite : (Script.setStatus kind id update.status).Keeps
        (sharedStore reg.apiVersion reg.maxReplicas (reg.Issues (.setStatus kind rawId payload)))
        (fun _ _ => True) t := by
      apply keeps_ask
      intro u _ _
      exact ⟨⟨hphase, fun _ => ⟨rfl, hid, hdecoded⟩⟩, trivial⟩
    exact hwrite.orFail (.notStored kind id)

/-- Every request keeps the contract: of the calls that write it makes its own alone, and these
are lawful whatever others have written. -/
theorem keeps_serve (request : Request) :
    (reg.serve request).Keeps
      (sharedStore reg.apiVersion reg.maxReplicas (reg.Issues request)) (fun _ _ => True) s := by
  cases request with
  | create kind payload account =>
    exact (reg.keeps_create kind payload account).map _ fun _ _ _ _ => trivial
  | update kind rawId payload =>
    exact (reg.keeps_update kind rawId payload).map _ fun _ _ _ _ => trivial
  | setStatus kind rawId payload =>
    exact (reg.keeps_setStatus kind rawId payload).map _ fun _ _ _ _ => trivial
  -- the other requests only read, which is always allowed
  | get kind rawId => exact ((reads_get kind rawId).map _).keeps _ s
  | list kind => exact ((reg.reads_listAll kind).map _).keeps _ s
  | listSome kind => exact ((reg.reads_listSome kind).map _).keeps _ s
  | listInAccount kind rawAccount =>
    exact ((reg.reads_listInAccount kind rawAccount).map _).keeps _ s
  | listUnder kind parent rawParentId =>
    exact ((reg.reads_listUnder kind parent rawParentId).map _).keeps _ s
  | describe kind rawId => exact ((reg.reads_describe kind rawId).map _).keeps _ s
  | planReplicas rawId => exact ((reads_planReplicas rawId).map _).keeps _ s
  | recommendResources rawId => exact ((reg.reads_recommendResources rawId).map _).keeps _ s

end Registry

end ClusterRegistry
