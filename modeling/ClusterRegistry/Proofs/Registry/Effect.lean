import ClusterRegistry.Proofs.Registry.Expanded
import ClusterRegistry.Proofs.Registry.Frame
import ClusterRegistry.Proofs.Registry.Rejected

/-!
# What a request has done

Serving a request ends in one of five ways, and for each of them `Request.Effect` says what has
become of the store: a rejected request has left it as it was, one that only reads too, and each of
the three ways of writing has changed it where its answer stands. What holds along a run is shown by
one case for each of the five (`Registry.effect_run`); no script is looked at again.
-/

namespace ClusterRegistry

namespace Request

/-- Whether a request writes a resource of a kind. -/
def Writes (kind : Kind) : Request → Prop
  | .create k _ _ => k = kind
  | .update k _ _ => k = kind
  | .setStatus k _ _ => k = kind
  | _ => False

/-- What a request has done to the store when it ends with an outcome. -/
inductive Effect (s t : State) : Request → Except ApiError Answer → Prop
  | rejected {request : Request} {e : ApiError} (store : t.store = s.store) :
    Effect s t request (.error e)
  | read {request : Request} {answer : Answer} (reads : ∀ kind, ¬ request.Writes kind)
      (state : t = s) : Effect s t request (.ok answer)
  /-- A resource was added together with its family. -/
  | created {r : Resource} {ids : List Id} {payload : Json.Payload} {account : Option String}
      (count : ids.length = r.childCount) (inserted : s.store.Inserted t.store (r.family ids)) :
    Effect s t (.create r.kind payload account) (.ok (.resource r))
  /-- A resource was replaced, but for what the server has settled and its status. -/
  | updated {r : Resource} {old : Entry} {rawId : String} {payload : Json.Payload}
      (path : pathId r.kind rawId = .ok r.id)
      (replaced : s.Replaced t r.address old (.ofResource r))
      (server : r.serverPart = old.resource.serverPart)
      (status : r.status = old.resource.status) :
    Effect s t (.update r.kind rawId payload) (.ok (.resource r))
  /-- The status of a resource was replaced. -/
  | observed {r : Resource} {old : Entry} {status : Status} {rawId : String}
      {payload : Json.Payload} (path : pathId r.kind rawId = .ok r.id)
      (replaced : s.Replaced t r.address old ⟨r, old.parents⟩)
      (status : r = old.resource.withStatus status) :
    Effect s t (.setStatus r.kind rawId payload) (.ok (.resource r))

variable {s t : State} {request : Request} {outcome : Except ApiError Answer} {kind : Kind}
  {id : Id}

end Request

namespace Registry

open Script

variable {reg : Registry} {s t : State} {kind : Kind} {payload : Json.Payload} {rawId : String}
  {answer : Answer}

theorem effect_run_create {account : Option String}
    (hs : s.store.Sound reg.apiVersion reg.maxReplicas)
    (h : (reg.serve (.create kind payload account)).run s = (.ok answer, t)) :
    (Request.create kind payload account).Effect s t (.ok answer) := by
  obtain ⟨r, hrun, rfl⟩ := exists_of_run_map h
  obtain ⟨rfl, -, -, -⟩ := admitted_of_run_create hs hrun
  obtain ⟨_, _, -, -, henter⟩ := reg.exists_of_run_create hrun
  obtain ⟨-, hinserted, -⟩ := reg.exists_of_run_enter henter
  exact .created (IdSource.length_next _ _) hinserted

theorem effect_run_update (hs : s.store.Sound reg.apiVersion reg.maxReplicas)
    (h : (reg.serve (.update kind rawId payload)).run s = (.ok answer, t)) :
    (Request.update kind rawId payload).Effect s t (.ok answer) := by
  obtain ⟨r, hrun, rfl⟩ := exists_of_run_map h
  obtain ⟨id, old, hid, hreplaced, hkind, hserver, hstatus⟩ := replaced_of_run_update hs hrun
  have hold : old.resource.address = ⟨kind, id⟩ := (hs _ old hreplaced.before).filed
  -- what was written stands where the old resource stood
  have hrkind : r.kind = kind := hkind.trans (congrArg Address.kind hold)
  have hrid : r.id = id := (congrArg ServerPart.id hserver).trans (congrArg Address.id hold)
  subst hrkind hrid
  exact .updated hid hreplaced hserver hstatus

theorem effect_run_setStatus (hs : s.store.Sound reg.apiVersion reg.maxReplicas)
    (h : (reg.serve (.setStatus kind rawId payload)).run s = (.ok answer, t)) :
    (Request.setStatus kind rawId payload).Effect s t (.ok answer) := by
  obtain ⟨r, hrun, rfl⟩ := exists_of_run_map h
  obtain ⟨id, old, status, hid, hreplaced, hr⟩ := replaced_of_run_setStatus hrun
  have hold : old.resource.address = ⟨kind, id⟩ := (hs _ old hreplaced.before).filed
  have haddress : r.address = ⟨kind, id⟩ := by
    rw [hr]
    exact hold
  have hrkind : r.kind = kind := congrArg Address.kind haddress
  have hrid : r.id = id := congrArg Address.id haddress
  subst hrkind hrid
  rw [← hr] at hreplaced
  exact .observed hid hreplaced hr

/-- Every request ends in one of the five ways. -/
theorem effect_serve (hs : s.store.Sound reg.apiVersion reg.maxReplicas) (request : Request) :
    request.Effect s ((reg.serve request).run s).2 ((reg.serve request).run s).1 := by
  cases hrun : (reg.serve request).run s with
  | mk outcome t =>
    cases outcome with
    | error e =>
      rcases reg.traceless_serve request s e t hrun with rfl | ⟨hstore, -⟩
      · exact .rejected rfl
      · exact .rejected hstore
    | ok answer =>
      have hreads : ∀ {α : Type} {x : Script α} {f : α → Answer}, x.Reads →
          (∀ kind, ¬ request.Writes kind) → (f <$> x).run s = (.ok answer, t) →
          request.Effect s t (.ok answer) := by
        intro α x f hx hkind hrun
        have hstate : t = s := by rw [← (hx.map f).run s, hrun]
        exact .read hkind hstate
      cases request with
      | create kind payload account => exact effect_run_create hs hrun
      | update kind rawId payload => exact effect_run_update hs hrun
      | setStatus kind rawId payload => exact effect_run_setStatus hs hrun
      | get kind rawId => exact hreads (reads_get kind rawId) (fun _ => id) hrun
      | list kind => exact hreads (reg.reads_listAll kind) (fun _ => id) hrun
      | listSome kind => exact hreads (reg.reads_listSome kind) (fun _ => id) hrun
      | listInAccount kind rawAccount =>
        exact hreads (reg.reads_listInAccount kind rawAccount) (fun _ => id) hrun
      | listUnder kind parent rawParentId =>
        exact hreads (reg.reads_listUnder kind parent rawParentId) (fun _ => id) hrun
      | describe kind rawId => exact hreads (reg.reads_describe kind rawId) (fun _ => id) hrun
      | planReplicas rawId => exact hreads (reads_planReplicas rawId) (fun _ => id) hrun
      | recommendResources rawId =>
        exact hreads (reg.reads_recommendResources rawId) (fun _ => id) hrun

/-- Every request that arrives ends in one of the five ways. -/
theorem effect_run (hs : s.store.Sound reg.apiVersion reg.maxReplicas) (a : Arrival) :
    a.request.Effect s ((reg.script a).run s).2 ((reg.script a).run s).1 :=
  (reg.during a).effect_serve hs a.request

end Registry

end ClusterRegistry
