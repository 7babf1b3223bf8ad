import ClusterRegistry.Proofs.Registry.Outcome
import ClusterRegistry.Proofs.Store.History

/-!
# What a write leaves alone

A create adds and changes nothing; an update changes one entry, and of it neither the part that the
server has settled nor the status; a status is written into one entry and changes nothing else of
it (`Registry.writes_frame`). What the payload says of the other parts does not matter. So along a
run nothing that is stored is ever lost, and what the server has settled of it stays as it is.
-/

namespace ClusterRegistry

/-- A state differs from an earlier one in one entry. -/
structure State.Replaced (s t : State) (a : Address) (old new : Entry) : Prop where
  before : s.store.at? a = some old
  after : t.store.at? a = some new
  elsewhere : ∀ b, b ≠ a → t.store.at? b = s.store.at? b
  source : t.source = s.source

theorem State.replaced_of_at? {s t : State} {a : Address} {old new : Entry}
    (hold : s.store.at? a = some old) (hsource : t.source = s.source)
    (h : ∀ b, t.store.at? b = if b = a then some new else s.store.at? b) :
    s.Replaced t a old new where
  before := hold
  after := (h a).trans (if_pos rfl)
  elsewhere b hb := (h b).trans (if_neg hb)
  source := hsource

/-- What stands at the address of the new entry, and what stands elsewhere. -/
theorem State.Replaced.resourceAt_eq {s t : State} {a : Address} {old new : Entry}
    (h : s.Replaced t a old new) (b : Address) :
    t.store.resourceAt b = if b = a then some new.resource else s.store.resourceAt b := by
  split
  · next hb => rw [hb, Store.resourceAt_of_at? h.after]
  · next hb => exact Store.resourceAt_congr (h.elsewhere b hb)

namespace Registry

variable {reg : Registry} {s t : State} {r : Resource} {kind : Kind} {payload : Json.Payload}
  {rawId : String}

/-- A create adds a resource and its children and leaves all other entries as they are. -/
theorem inserted_of_run_create {account : Option String}
    (h : (reg.create kind payload account).run s = (.ok r, t)) :
    ∃ children, s.store.Inserted t.store (r :: children) := by
  obtain ⟨_, _, -, -, henter⟩ := reg.exists_of_run_create h
  exact ⟨_, (reg.exists_of_run_enter henter).2.1⟩

/-- An update replaces the entry that is addressed, by one of the same kind in which the server
part and the status are as they were. -/
theorem replaced_of_run_update (hs : s.store.Sound reg.apiVersion reg.maxReplicas)
    (h : (reg.update kind rawId payload).run s = (.ok r, t)) :
    ∃ id old, pathId kind rawId = .ok id ∧ s.Replaced t ⟨kind, id⟩ old (.ofResource r) ∧
      r.kind = old.resource.kind ∧ r.serverPart = old.resource.serverPart ∧
      r.status = old.resource.status := by
  obtain ⟨id, old, _, incoming, hid, hold, -, -, hkind, -, rfl, hsource, hstore⟩ :=
    reg.exists_of_run_update hs h
  refine ⟨id, old, hid, State.replaced_of_at? hold hsource hstore,
    Resource.kind_updatedWith hkind, Resource.serverPart_updatedWith hkind, ?_⟩
  rw [Resource.updatedWith_eq hkind]
  rfl

/-- A status is written into the entry that is addressed, the rest of which stays as it is. -/
theorem replaced_of_run_setStatus (h : (setStatus kind rawId payload).run s = (.ok r, t)) :
    ∃ id old status, pathId kind rawId = .ok id ∧
      s.Replaced t ⟨kind, id⟩ old ⟨old.resource.withStatus status, old.parents⟩ ∧
      r = old.resource.withStatus status := by
  obtain ⟨id, old, status, hid, hold, -, -, rfl, hsource, hstore⟩ := exists_of_run_setStatus h
  exact ⟨id, old, status, hid, State.replaced_of_at? hold hsource hstore, rfl⟩

/-- Any number of requests lose nothing and leave alone what the server has settled. -/
theorem grows_answerAll (arrivals : List Arrival)
    (hs : s.store.Sound reg.apiVersion reg.maxReplicas) :
    s.store.Grows (reg.answerAll arrivals s).2.store := by
  induction arrivals generalizing s with
  | nil => exact .refl _
  | cons a rest ih =>
    obtain ⟨hsound, hgrows, -⟩ := ((reg.during a).keeps_serve a.request).run hs
    exact hgrows.trans (ih hsound)

/-- A create leaves all entries as they are and adds its answer, which was not there. An update
replaces the entry that is addressed by its answer, in which kind, server part and status are those
that were stored, whatever was sent. A status update replaces the status in the entry that is
addressed. And after any further requests each entry is still there, with the same server part. -/
theorem writes_frame (h : reg.Reachable s) :
    (∀ kind payload account r t, (reg.create kind payload account).run s = (.ok r, t) →
      (∀ a e, s.store.at? a = some e → t.store.at? a = some e) ∧
        s.store.at? r.address = none ∧ t.store.at? r.address = some (.ofResource r)) ∧
    (∀ kind rawId payload r t, (reg.update kind rawId payload).run s = (.ok r, t) →
      ∃ id old, pathId kind rawId = .ok id ∧ s.Replaced t ⟨kind, id⟩ old (.ofResource r) ∧
        r.kind = old.resource.kind ∧ r.serverPart = old.resource.serverPart ∧
        r.status = old.resource.status) ∧
    (∀ kind rawId payload r t, (setStatus kind rawId payload).run s = (.ok r, t) →
      ∃ id old status, pathId kind rawId = .ok id ∧
        s.Replaced t ⟨kind, id⟩ old ⟨old.resource.withStatus status, old.parents⟩ ∧
        r = old.resource.withStatus status) ∧
    ∀ arrivals a e, s.store.at? a = some e →
      ∃ e', (reg.answerAll arrivals s).2.store.at? a = some e' ∧
        e'.resource.serverPart = e.resource.serverPart := by
  refine ⟨fun kind payload account r t hrun => ?_,
    fun kind rawId payload r t => replaced_of_run_update h.sound,
    fun kind rawId payload r t => replaced_of_run_setStatus,
    fun arrivals => grows_answerAll arrivals h.sound⟩
  obtain ⟨children, hinserted⟩ := inserted_of_run_create hrun
  exact ⟨fun a e => hinserted.at?_of_some, hinserted.free r List.mem_cons_self,
    hinserted.there r List.mem_cons_self⟩

/-- A plan that is sent with an id, a kind, a time, an account and a status of the client's own. -/
def sentOverreachingPlan : Json.Payload :=
  .ofJson (.object [("category", .text "application"), ("id", .text "7"),
    ("object_meta", .object [("account", .text "5"), ("created_at", .text "never"),
      ("finalizers", .array []), ("name", .text "large")]),
    ("status", .text "broken"), ("type_meta", .object [("kind", .text "Node")]),
    ("version", .text "2")])

/-- An update takes the name and the version of a plan, and nothing else of what was sent. -/
theorem frame_of_overreaching_plan :
    ∃ r t id old, (tenReplicas.update .plan "1" sentOverreachingPlan).run stackState = (.ok r, t) ∧
      r.objectMeta.name = "large" ∧ pathId .plan "1" = .ok id ∧
      stackState.Replaced t ⟨.plan, id⟩ old (.ofResource r) ∧ r.kind = old.resource.kind ∧
      r.serverPart = old.resource.serverPart ∧ r.status = old.resource.status := by
  have hreachable : tenReplicas.Reachable stackState := ⟨_, planThenStack, rfl⟩
  obtain ⟨-, hupdate, -, -⟩ := writes_frame hreachable
  have hname : ((tenReplicas.update .plan "1" sentOverreachingPlan).run stackState).1.toOption.map
      (·.objectMeta.name) = some "large" := by decide +kernel
  cases hrun : (tenReplicas.update .plan "1" sentOverreachingPlan).run stackState with
  | mk outcome t =>
    rw [hrun] at hname
    cases outcome with
    | error e => cases hname
    | ok r =>
      obtain ⟨id, old, hid, hreplaced, hkept⟩ := hupdate .plan "1" sentOverreachingPlan r t hrun
      exact ⟨r, t, id, old, rfl, Option.some.inj hname, hid, hreplaced, hkept⟩

end Registry

end ClusterRegistry
