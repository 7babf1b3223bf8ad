import ClusterRegistry.Proofs.Registry.Effect
import ClusterRegistry.Proofs.Registry.Scaled

/-!
# What is written is read back

The answer to a write is what stands in the store when the write is done
(`Request.Effect.stored_of_writes`), and it stands there until a request writes the same resource
again (`Registry.get?_answerAll`), whatever is added around it, is written to others or is rejected.
So it is found under every spelling of its id, and listed once in its place
(`Registry.reads_back`). None of this needs fresh ids: a store that is offered an id again refuses
the batch.
-/

namespace ClusterRegistry

namespace Request

/-- Whether a request has written the resource of a kind with an id: it asks for a write to the
kind, and was answered with the resource. -/
def Wrote (kind : Kind) (id : Id) (request : Request) (outcome : Except ApiError Answer) : Prop :=
  request.Writes kind ∧ ∃ r, outcome = .ok (.resource r) ∧ r.id = id

variable {s t : State} {request : Request} {outcome : Except ApiError Answer} {kind : Kind}
  {id : Id} {r : Resource}

/-- What was answered to a write is stored. -/
theorem Effect.stored_of_writes (h : request.Effect s t (.ok (.resource r)))
    (hwrites : request.Writes kind) : r.kind = kind ∧ t.store.get? kind r.id = some r := by
  have hstored : ∀ {e : Entry}, t.store.at? r.address = some e → e.resource = r → r.kind = kind →
      r.kind = kind ∧ t.store.get? kind r.id = some r := by
    rintro e he hr rfl
    exact ⟨rfl, Store.get?_eq_some_iff.mpr ⟨e, he, hr⟩⟩
  cases h with
  | read hreads hstate => exact absurd hwrites (hreads kind)
  | created hcount hinserted => exact hstored (hinserted.there r List.mem_cons_self) rfl hwrites
  | updated hpath hreplaced hserver hstatus => exact hstored hreplaced.after rfl hwrites
  | observed hpath hreplaced hstatus => exact hstored hreplaced.after rfl hwrites

/-- What is stored stays as it is while other requests are served. -/
theorem Effect.get?_of_not_wrote (h : request.Effect s t outcome)
    (hr : s.store.get? kind id = some r) (hwrote : ¬ request.Wrote kind id outcome) :
    t.store.get? kind id = some r := by
  have hat : s.store.resourceAt ⟨kind, id⟩ = some r := hr
  have helsewhere : ∀ q, request.Writes q.kind → outcome = .ok (.resource q) →
      ⟨kind, id⟩ ≠ q.address := by
    intro q hwrites hanswer heq
    obtain rfl : kind = q.kind := congrArg Address.kind heq
    exact hwrote ⟨hwrites, q, hanswer, (congrArg Address.id heq).symm⟩
  show t.store.resourceAt ⟨kind, id⟩ = some r
  cases h with
  | rejected hstore => rw [hstore, hat]
  | read hreads hstate => rw [hstate, hat]
  | created hcount hinserted =>
    obtain ⟨e, he, rfl⟩ := Store.get?_eq_some_iff.mp hr
    exact Store.resourceAt_of_at? (hinserted.at?_of_some he)
  | @updated q old rawId payload hpath hreplaced hserver hstatus =>
    rw [hreplaced.resourceAt_eq, if_neg (helsewhere q rfl rfl), hat]
  | @observed q old status rawId payload hpath hreplaced hstatus =>
    rw [hreplaced.resourceAt_eq, if_neg (helsewhere q rfl rfl), hat]

end Request

namespace Registry

variable {reg : Registry} {s t u : State} {kind : Kind} {id : Id} {r : Resource}

/-- What is stored stays as it is along a run that does not write it. -/
theorem get?_answerAll (hs : s.store.Sound reg.apiVersion reg.maxReplicas)
    (hr : s.store.get? kind id = some r) {arrivals : List Arrival}
    (hothers : List.Forall₂ (fun a outcome => ¬ a.request.Wrote kind id outcome) arrivals
      (reg.answerAll arrivals s).1) :
    (reg.answerAll arrivals s).2.store.get? kind id = some r := by
  induction arrivals generalizing s with
  | nil => exact hr
  | cons a rest ih =>
    obtain ⟨hfirst, hrest⟩ := List.forall₂_cons.mp hothers
    exact ih (sound_run a hs) ((effect_run hs a).get?_of_not_wrote hr hfirst) hrest

/-- What is stored is in the list of its kind, once and in its place. -/
theorem exists_list_of_stored (hs : s.store.Sound reg.apiVersion reg.maxReplicas)
    (hr : s.store.get? kind id = some r) :
    ∃ before after, (reg.list kind).run s = (.ok (reg.asList kind (before ++ r :: after)), s) ∧
      (before ++ r :: after).Pairwise Store.Earlier ∧ r ∉ before ∧ r ∉ after := by
  have hget : s.store.get? kind r.id = some r := by rw [hs.id_eq hr, hr]
  have hmem : r ∈ s.store.list kind {} :=
    hs.indexed.mem_list_iff.mpr ⟨hget, Filter.selects_all r⟩
  obtain ⟨before, after, hlist⟩ := List.append_of_mem hmem
  have hascending : (before ++ r :: after).Pairwise Store.Earlier := by
    rw [← hlist]
    exact hs.indexed.pairwise_list
  have hnodup : (before ++ r :: after).Nodup := by
    rw [← hlist]
    exact hs.indexed.nodup_list
  have honce : r ∉ before ++ after := (List.nodup_cons.mp (List.nodup_middle.mp hnodup)).1
  have hout : r ∉ before ∧ r ∉ after := by simpa using honce
  refine ⟨before, after, ?_, hascending, hout⟩
  rw [← hlist]
  rfl

/-- **What is written is read back.** When a create, an update or a status update was answered with
a resource, and whatever was asked since then, as long as no request has written the resource of
that kind and id again: it is found, exactly as it was answered, under every spelling of its id, and
the list of its kind holds it once, in its place in the ascending order of ids. -/
theorem reads_back (h : reg.Reachable s) {a : Arrival} (hwrites : a.request.Writes kind)
    (hrun : (reg.script a).run s = (.ok (.resource r), t)) {others : List Arrival}
    (hothers : List.Forall₂ (fun b outcome => ¬ b.request.Wrote kind r.id outcome) others
      (reg.answerAll others t).1)
    (hu : (reg.answerAll others t).2 = u) :
    r.kind = kind ∧
      (∀ raw, r.id.SpelledBy raw → (get kind raw).run u = (.ok r, u)) ∧
      ∃ before after, (reg.list kind).run u = (.ok (reg.asList kind (before ++ r :: after)), u) ∧
        (before ++ r :: after).Pairwise Store.Earlier ∧ r ∉ before ∧ r ∉ after := by
  have heffect := effect_run h.sound a
  have ht : t.store.Sound reg.apiVersion reg.maxReplicas := by
    have hsound := sound_run a h.sound
    rwa [hrun] at hsound
  rw [hrun] at heffect
  obtain ⟨hkind, hstored⟩ := heffect.stored_of_writes hwrites
  have hread : u.store.get? kind r.id = some r := by
    rw [← hu]
    exact get?_answerAll ht hstored hothers
  have hsound : u.store.Sound reg.apiVersion reg.maxReplicas := by
    rw [← hu]
    exact sound_answerAll others ht
  refine ⟨hkind, fun raw hraw => ?_, exists_list_of_stored hsound hread⟩
  exact run_get (pathId_of_spelledBy kind hraw (hsound.isAssigned hread)) hread

/-- A stack that runs under the plan, and an update of a plan that is not there. -/
def stackThenMissing : List Arrival :=
  [⟨"t2", noMetrics, .create .stacksFactory (sentStack 2) none⟩,
    ⟨"t3", noMetrics, .update .plan "7" sentPlan⟩]

/-- The plan is read back after a stack was created under it and another update was rejected. -/
theorem reads_back_plan :
    ∃ r u, (tenReplicas.script ⟨"t1", noMetrics, .create .plan sentPlan none⟩).run initialState =
        (.ok (.resource r), planState) ∧ (tenReplicas.answerAll stackThenMissing planState).2 = u ∧
      (get .plan "001").run u = (.ok r, u) ∧
      ∃ before after, (tenReplicas.list .plan).run u =
        (.ok (tenReplicas.asList .plan (before ++ r :: after)), u) := by
  have hreachable : tenReplicas.Reachable initialState := ⟨_, [], rfl⟩
  have hwrites : (Request.create .plan sentPlan none).Writes .plan := rfl
  have hrun : (tenReplicas.script ⟨"t1", noMetrics, .create .plan sentPlan none⟩).run
      initialState = (.ok (.resource _), planState) := rfl
  have hrejected : ((tenReplicas.answerAll stackThenMissing planState).1.map (·.isOk))[1]? =
      some false := by decide +kernel
  have hothers : List.Forall₂ (fun b outcome => ¬ b.request.Wrote .plan ⟨1⟩ outcome)
      stackThenMissing (tenReplicas.answerAll stackThenMissing planState).1 := by
    refine .cons (fun hwrote => nomatch hwrote.1) (.cons ?_ .nil)
    rintro ⟨-, r, hr, -⟩
    cases (congrArg Except.isOk hr).symm.trans (Option.some.inj hrejected)
  obtain ⟨-, hget, before, after, hlist, -⟩ := reads_back hreachable hwrites hrun hothers rfl
  exact ⟨_, _, hrun, rfl, hget "001" ⟨rfl, rfl⟩, before, after, hlist⟩

end Registry

end ClusterRegistry
