import ClusterRegistry.Proofs.Registry.Deletion
import ClusterRegistry.Proofs.Registry.Scaled
import ClusterRegistry.Proofs.Script.Blameless

/-!
# Failures that are not the server's own

A request fails by what was sent or by what is not stored. A failure of the server's own, which is
answered as internal, has three sources: a batch that the store refuses, a resource that is filed
under another kind than its own, and readings that are missing. With fresh ids no batch is refused,
and in a reachable state nothing is misfiled. So only missing readings are left
(`Registry.policies_scale_of_reachable`).

Of most requests this is shown call by call (`Script.Blameless`). The two that scale something
depend on what is stored, and are told by what they answer.
-/

namespace ClusterRegistry

/-! ## Operations -/

namespace Registry

open Script

variable (reg : Registry) {e : ApiError}

theorem ordinary_of_pathId {kind : Kind} {rawId : String} (h : pathId kind rawId = .error e) :
    e.Ordinary := by
  unfold pathId at h
  split at h
  · cases h
  · cases h
    nofun
  · cases h
    nofun

theorem ordinary_of_pathAccount {raw : String} (h : pathAccount raw = .error e) : e.Ordinary := by
  unfold pathAccount at h
  split at h
  · cases h
  · cases h
    nofun

theorem ordinary_of_mapM_pathAccount {account : Option String}
    (h : account.mapM pathAccount = .error e) : e.Ordinary := by
  cases account with
  | none => cases h
  | some raw =>
    have hpath : (some <$> pathAccount raw) = .error e := h
    cases hraw : pathAccount raw with
    | ok a =>
      rw [hraw] at hpath
      cases hpath
    | error e' =>
      rw [hraw] at hpath
      cases hpath
      exact ordinary_of_pathAccount hraw

/-- A body that cannot be read is the client's fault. -/
theorem ordinary_of_mapError {α : Type} {r : Except Mismatch α}
    (h : r.mapError ApiError.malformedBody = .error e) : e.Ordinary := by
  cases r with
  | ok a => cases h
  | error cause =>
    cases h
    nofun

theorem ordinary_of_check {r : Resource} {limit : UInt32} (h : r.check limit = .error e) :
    e.Ordinary := by
  unfold Resource.check at h
  split at h
  · cases h
  · cases h
    nofun

theorem ordinary_of_nonemptyList {kind : Kind} {otherwise : ApiError} {items : List Resource}
    (hotherwise : otherwise.Ordinary) (h : reg.nonemptyList kind otherwise items = .error e) :
    e.Ordinary := by
  unfold nonemptyList at h
  split at h
  · cases h
    exact hotherwise
  · cases h

theorem blameless_pathId (kind : Kind) (rawId : String) :
    (ofExcept (pathId kind rawId)).Blameless fun _ => True :=
  blameless_ofExcept fun _ => ordinary_of_pathId

/-- What is not stored is not there by the client's choice. -/
theorem ordinary_notStored (kind : Kind) (id : Id) : (ApiError.notStored kind id).Ordinary := nofun

theorem blameless_fetch (kind : Kind) (id : Id) : (fetch kind id).Blameless fun _ => True :=
  (blameless_get? kind id).orFail (ordinary_notStored kind id)

theorem blameless_get (kind : Kind) (rawId : String) :
    (get kind rawId).Blameless fun _ => True :=
  (blameless_pathId kind rawId).bind fun id _ => blameless_fetch kind id

theorem blameless_accept (kind : Kind) (payload : Json.Payload) :
    (reg.accept kind payload).Blameless fun _ => True := by
  apply (blameless_ofExcept fun _ => ordinary_of_mapError).bind
  intro sent _
  apply (blameless_ofExcept fun _ => ordinary_of_check).bind
  intro _ _
  exact blameless_resolved _

theorem blameless_create (kind : Kind) (payload : Json.Payload) (account : Option String) :
    (reg.create kind payload account).Blameless fun _ => True := by
  rw [create_eq]
  apply (blameless_ofExcept fun _ => ordinary_of_mapM_pathAccount).bind
  intro route _
  apply (reg.blameless_accept kind payload).bind
  intro admitted _
  exact (reg.succeeds_enter _).blameless

theorem blameless_update (kind : Kind) (rawId : String) (payload : Json.Payload) :
    (reg.update kind rawId payload).Blameless fun _ => True := by
  unfold update
  apply (blameless_pathId kind rawId).bind
  intro id _
  apply (blameless_fetch kind id).bind
  intro stored _
  apply (blameless_ofExcept fun _ => ordinary_of_mapError).bind
  intro sent _
  apply (blameless_ofExcept fun _ => ordinary_of_check).bind
  intro _ _
  apply (blameless_resolved _).bind
  intro incoming _
  exact (succeeds_setSpec _).blameless.orFail (ordinary_notStored kind id)

theorem blameless_setStatus (kind : Kind) (rawId : String) (payload : Json.Payload) :
    (setStatus kind rawId payload).Blameless fun _ => True := by
  unfold setStatus
  apply (blameless_pathId kind rawId).bind
  intro id _
  apply (blameless_ofExcept fun _ => ordinary_of_mapError).bind
  intro update _
  split
  · exact blameless_fail nofun
  · exact (succeeds_setStatus _ _ _).blameless.orFail (ordinary_notStored kind id)

theorem blameless_list (kind : Kind) : (reg.list kind).Blameless fun _ => True :=
  (Script.blameless_list kind {}).bind fun _ _ => blameless_pure trivial

theorem blameless_listSome (kind : Kind) : (reg.listSome kind).Blameless fun _ => True := by
  apply (Script.blameless_list kind {}).bind
  intro items _
  have hnone : (ApiError.noneStored kind).Ordinary := nofun
  exact blameless_ofExcept fun _ => reg.ordinary_of_nonemptyList hnone

theorem blameless_listInAccount (kind : Kind) (rawAccount : String) :
    (reg.listInAccount kind rawAccount).Blameless fun _ => True := by
  apply (blameless_ofExcept fun _ => ordinary_of_pathAccount).bind
  intro account _
  apply (Script.blameless_list kind _).bind
  intro items _
  have hnone : (ApiError.noneInAccount kind account).Ordinary := nofun
  exact blameless_ofExcept fun _ => reg.ordinary_of_nonemptyList hnone

theorem blameless_listUnder (kind parent : Kind) (rawParentId : String) :
    (reg.listUnder kind parent rawParentId).Blameless fun _ => True := by
  apply (blameless_pathId parent rawParentId).bind
  intro id _
  apply (Script.blameless_list kind _).bind
  intro items _
  have hnone : (ApiError.noneUnder kind parent id).Ordinary := nofun
  exact blameless_ofExcept fun _ => reg.ordinary_of_nonemptyList hnone

theorem blameless_describe (kind : Kind) (rawId : String) :
    (reg.describe kind rawId).Blameless fun _ => True := by
  apply (blameless_get kind rawId).bind
  intro r _
  split
  · exact (Script.blameless_list _ _).bind fun _ _ => blameless_pure trivial
  · exact blameless_fail nofun

/-- Every request but the two that scale something is blameless. -/
theorem blameless_serve (request : Request) (hplan : ∀ rawId, request ≠ .planReplicas rawId)
    (hrecommend : ∀ rawId, request ≠ .recommendResources rawId) :
    (reg.serve request).Blameless fun _ => True := by
  cases request with
  | create kind payload account => exact (reg.blameless_create kind payload account).map _
  | update kind rawId payload => exact (reg.blameless_update kind rawId payload).map _
  | setStatus kind rawId payload => exact (blameless_setStatus kind rawId payload).map _
  | get kind rawId => exact (blameless_get kind rawId).map _
  | list kind => exact (reg.blameless_list kind).map _
  | listSome kind => exact (reg.blameless_listSome kind).map _
  | listInAccount kind rawAccount => exact (reg.blameless_listInAccount kind rawAccount).map _
  | listUnder kind parent rawParentId =>
    exact (reg.blameless_listUnder kind parent rawParentId).map _
  | describe kind rawId => exact (reg.blameless_describe kind rawId).map _
  | planReplicas rawId => exact absurd rfl (hplan rawId)
  | recommendResources rawId => exact absurd rfl (hrecommend rawId)

/-! ## Requests that scale -/

variable {reg} {s t : State}

/-- Something is found under a text, or it is the client's fault that nothing is. -/
theorem run_get_cases (kind : Kind) (rawId : String) (s : State) :
    (∃ e, e.Ordinary ∧ (get kind rawId).run s = (.error e, s)) ∨
      ∃ id r, pathId kind rawId = .ok id ∧ s.store.get? kind id = some r := by
  cases hid : pathId kind rawId with
  | error e =>
    refine .inl ⟨e, ordinary_of_pathId hid, ?_⟩
    rw [get, hid]
    rfl
  | ok id =>
    cases hr : s.store.get? kind id with
    | none =>
      refine .inl ⟨.notStored kind id, ordinary_notStored kind id, ?_⟩
      rw [get, hid]
      exact run_fetch_of_none hr
    | some r => exact .inr ⟨id, r, rfl, hr⟩

/-- No plan fails by a fault of the server. -/
theorem ordinary_of_run_planReplicas (hs : s.store.Sound reg.apiVersion reg.maxReplicas)
    {rawId : String} {e : ApiError} (h : (planReplicas rawId).run s = (.error e, t)) :
    e.Ordinary := by
  rcases run_get_cases .horizontalScaling rawId s with ⟨e', he', hrun⟩ | ⟨id, policy, hid, hr⟩
  · have herror : (planReplicas rawId).run s = (.error e', s) := run_bind_of_error hrun
    rw [herror] at h
    cases h
    exact he'
  · obtain ⟨_, _, _, _, _, _, -, -, -, hrun, -⟩ := run_planReplicas hs hid hr
    rw [hrun] at h
    cases h

/-- A recommendation fails by a fault of the server only where the readings for the factory of the
policy are missing. -/
theorem run_recommendResources_cases (hs : s.store.Sound reg.apiVersion reg.maxReplicas)
    {rawId : String} {e : ApiError}
    (h : (reg.recommendResources rawId).run s = (.error e, t)) :
    e.Ordinary ∨ ∃ id policy o fid cause, pathId .verticalScaling rawId = .ok id ∧
      s.store.get? .verticalScaling id = some policy ∧ policy.ScaledBy o fid ∧
      reg.metrics fid = .error cause ∧ e = .metricsFailed id cause := by
  rcases run_get_cases .verticalScaling rawId s with ⟨e', he', hrun⟩ | ⟨id, policy, hid, hr⟩
  · have herror : (reg.recommendResources rawId).run s = (.error e', s) := run_bind_of_error hrun
    rw [herror] at h
    cases h
    exact .inl he'
  · obtain ⟨o, fid, factory, hscaled, -, hok, hfailed⟩ := run_recommendResources hs hid hr
    cases hmetrics : reg.metrics fid with
    | ok usage =>
      obtain ⟨recommendation, hrun, -⟩ := hok usage hmetrics
      rw [hrun] at h
      cases h
    | error cause =>
      rw [hfailed cause hmetrics] at h
      cases h
      exact .inr ⟨id, policy, o, fid, cause, hid, hr, hscaled, hmetrics, rfl⟩

/-! ## Reachable states -/

/-- A request that is served with fresh ids and fails by a fault of the server is for a
recommendation, and there are no readings for the factory of the policy. -/
theorem missing_metrics_of_internal (h : reg.Reachable s) {a : Arrival} {e : ApiError}
    (hrun : (reg.script a).run s = (.error e, t)) (hfresh : t.source.Fresh)
    (hinternal : e.category = .internal) :
    ∃ rawId id policy o fid cause, a.request = .recommendResources rawId ∧
      pathId .verticalScaling rawId = .ok id ∧ s.store.get? .verticalScaling id = some policy ∧
      policy.ScaledBy o fid ∧ a.metrics fid = .error cause ∧ e = .metricsFailed id cause := by
  obtain ⟨now, metrics, request⟩ := a
  have hplan : ∀ rawId, request ≠ .planReplicas rawId := by
    rintro rawId rfl
    exact ordinary_of_run_planReplicas h.sound (run_eq_error_of_map hrun) hinternal
  by_cases hrecommend : ∃ rawId, request = .recommendResources rawId
  · obtain ⟨rawId, rfl⟩ := hrecommend
    rcases (reg.during ⟨now, metrics, _⟩).run_recommendResources_cases h.sound
      (run_eq_error_of_map hrun) with hordinary | ⟨id, policy, o, fid, cause, hfound⟩
    · exact absurd hinternal hordinary
    · exact ⟨rawId, id, policy, o, fid, cause, rfl, hfound⟩
  · have hblameless := (reg.during ⟨now, metrics, request⟩).blameless_serve request hplan
      fun rawId heq => hrecommend ⟨rawId, heq⟩
    have hafter : ((reg.script ⟨now, metrics, request⟩).run s).2.source.Fresh := by
      rw [hrun]
      exact hfresh
    -- with fresh ids the request was not refused
    have htidy : s.Tidy := h.tidy (hafter.of_leads (source_run _ s))
    obtain ⟨after, -, -, hdecent⟩ := hblameless.run htidy hafter
    have houtcome : Decent (fun _ => True) ((reg.script ⟨now, metrics, request⟩).run s).1 := hdecent
    rw [hrun] at houtcome
    exact absurd hinternal houtcome

/-- In a reachable state every stored horizontal policy is answered by the factory that owns it with
a plan within its bounds; every stored vertical policy is answered by a recommendation if there are
readings for the factory that owns it; and every stored resource of a kind that has children is
described. No other request fails by a fault of the server, if ids are fresh, and none for a
recommendation does but where there are no readings. -/
theorem policies_scale_of_reachable (h : reg.Reachable s) :
    (∀ rawId id policy, pathId .horizontalScaling rawId = .ok id →
      s.store.get? .horizontalScaling id = some policy →
      ∃ envelope p o fid factory plan,
        policy = ⟨.horizontalScaling, envelope, (p : HorizontalScaling)⟩ ∧
        policy.ScaledBy o fid ∧ s.store.get? .assemblyFactory fid = some factory ∧
        (planReplicas rawId).run s = (.ok ⟨factory, plan⟩, s) ∧ plan.factory = fid ∧
        p.spec.minReplicas ≤ plan.desiredReplicas ∧
        plan.desiredReplicas ≤ p.spec.maxReplicas) ∧
    (∀ rawId id policy, pathId .verticalScaling rawId = .ok id →
      s.store.get? .verticalScaling id = some policy →
      ∃ o fid factory, policy.ScaledBy o fid ∧ s.store.get? .assemblyFactory fid = some factory ∧
        ∀ usage, reg.metrics fid = .ok usage → ∃ recommendation,
          (reg.recommendResources rawId).run s = (.ok recommendation, s) ∧
          recommendation.factory = fid) ∧
    (∀ kind child rawId id r, kind.row.child = some child → pathId kind rawId = .ok id →
      s.store.get? kind id = some r → ∃ l, (reg.describe kind rawId).run s = (.ok l, s)) ∧
    ∀ a e t, (reg.script a).run s = (.error e, t) → t.source.Fresh → e.category = .internal →
      ∃ rawId id policy o fid cause, a.request = .recommendResources rawId ∧
        pathId .verticalScaling rawId = .ok id ∧ s.store.get? .verticalScaling id = some policy ∧
        policy.ScaledBy o fid ∧ a.metrics fid = .error cause ∧ e = .metricsFailed id cause := by
  refine ⟨fun rawId id policy hid hr => run_planReplicas h.sound hid hr,
    fun rawId id policy hid hr => ?_, fun kind child rawId id r hchild hid hr => ?_,
    fun a e t => missing_metrics_of_internal h⟩
  · obtain ⟨o, fid, factory, hscaled, hfactory, hok, -⟩ := run_recommendResources h.sound hid hr
    exact ⟨o, fid, factory, hscaled, hfactory, hok⟩
  · exact ⟨_, run_describe h.sound hchild hid hr⟩

/-- A policy as it is sent, for the factory with the id 3. -/
def sentPolicy (fields : List (String × Json)) : Json.Payload :=
  .ofJson (.object (("object_meta", .object [("account", .text "9"), ("name", .text "policy"),
    ("owner_references", .array [.object [("uid", .text "3")]])]) :: fields))

/-- A horizontal policy that asks for at least five assemblies. -/
def sentFiveOrMore : Json.Payload :=
  sentPolicy [("scale_type", .text "auto"), ("state", .text "on"),
    ("spec", .object [("min_replicas", .number (.integer 5)),
      ("max_replicas", .number (.integer 8))])]

/-- The stack with a policy of each kind for its factory. -/
def policiesState : State :=
  (tenReplicas.answerAll (planThenStack ++
    [⟨"t3", noMetrics, .create .horizontalScaling sentFiveOrMore none⟩,
      ⟨"t4", noMetrics, .create .verticalScaling (sentPolicy [("scale_type", .text "auto")])
        none⟩]) initialState).2

/-- The factory of the stack has two assemblies and is scaled to five of them; a recommendation for
it fails for lack of readings, and by a fault of the server no other request fails. -/
theorem policies_of_stack_scale :
    (∃ policy, policiesState.store.get? .horizontalScaling ⟨6⟩ = some policy ∧
      ∃ envelope p o fid factory plan,
        policy = ⟨.horizontalScaling, envelope, (p : HorizontalScaling)⟩ ∧
        policy.ScaledBy o fid ∧ policiesState.store.get? .assemblyFactory fid = some factory ∧
        (planReplicas "6").run policiesState = (.ok ⟨factory, plan⟩, policiesState) ∧
        plan.factory = fid ∧ p.spec.minReplicas ≤ plan.desiredReplicas ∧
        plan.desiredReplicas ≤ p.spec.maxReplicas) ∧
    ((planReplicas "6").run policiesState).1.toOption.map (·.plan.desiredReplicas) = some 5 ∧
    policiesState.store.Has .verticalScaling ⟨7⟩ ∧
    ∀ a e t, (tenReplicas.script a).run policiesState = (.error e, t) → t.source.Fresh →
      e.category = .internal → ∃ rawId, a.request = .recommendResources rawId := by
  have hreachable : tenReplicas.Reachable policiesState := ⟨_, _, rfl⟩
  have hvertical : policiesState.store.Has .verticalScaling ⟨7⟩ := by
    rw [Store.Has]
    decide +kernel
  have hhorizontal : (policiesState.store.get? .horizontalScaling ⟨6⟩).isSome = true := by
    decide +kernel
  obtain ⟨policy, hpolicy⟩ := Option.isSome_iff_exists.mp hhorizontal
  obtain ⟨hplans, -, -, hinternal⟩ := policies_scale_of_reachable hreachable
  refine ⟨⟨policy, hpolicy, hplans "6" ⟨6⟩ policy rfl hpolicy⟩, by decide +kernel, hvertical, ?_⟩
  intro a e t hrun hfresh he
  obtain ⟨rawId, _, _, _, _, _, hrequest, -⟩ := hinternal a e t hrun hfresh he
  exact ⟨rawId, hrequest⟩

end Registry

end ClusterRegistry
