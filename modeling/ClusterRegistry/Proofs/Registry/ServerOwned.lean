import ClusterRegistry.Proofs.Registry.Reachable
import ClusterRegistry.Proofs.Resource.Sent
import ClusterRegistry.Proofs.Script.Runs

/-!
# What belongs to the server

A payload may say anything of what belongs to the server, and no request looks at it. Two payloads
that are decoded and agree under all other keys are created alike, and update a stored resource
alike (`Registry.writes_ignore_owned`).

Such payloads are decoded to resources that agree in what clients write. So each stage of a request
is followed for one resource with two versions of the rest (`Resource.withRest`): the check asks of
the rest whether there is an account, and nothing else (`Resource.check_withRest`); to resolve a
payload is to put other owner references into it (`Script.resolved_eq`); and what is written has the
rest from the server or from what is stored (`Registry.asCreated_withRest`,
`Registry.merge_withRest`).
-/

namespace ClusterRegistry

/-! ## Admission looks at what clients write -/

/-- Requirements that are met alike report the same paths. -/
theorem unmet_congr {α : Type} {requirements : List (Requirement α)} {a b : α}
    (h : ∀ q ∈ requirements, q.met a = q.met b) : unmet requirements a = unmet requirements b := by
  have hfilter : (requirements.filter fun q => !q.met a) = requirements.filter fun q => !q.met b :=
    List.filter_congr fun q hq => congrArg (!·) (h q hq)
  rw [unmet, unmet, hfilter]

namespace Resource

variable {r : Resource} {server : ServerPart} {status : Status} {limit : UInt32}

/-- Of what the server settles, the check looks at the account alone, and only where one is
needed. -/
theorem check_withRest
    (h : r.kind.row.needsAccount = true → (server.account != "") = (r.account != "")) :
    (r.withRest server status).check limit = r.check limit := by
  have hmet : ∀ q ∈ r.kind.envelopeRequirements,
      q.met (r.withRest server status).objectMeta = q.met r.objectMeta := by
    have haccount : (!r.kind.row.needsAccount || server.account != "") =
        (!r.kind.row.needsAccount || r.account != "") := by
      cases hneeds : r.kind.row.needsAccount with
      | false => rfl
      | true => rw [h hneeds]
    simp only [Kind.envelopeRequirements, List.forall_mem_cons]
    exact ⟨rfl, haccount, rfl, rfl, rfl, fun _ hq => absurd hq List.not_mem_nil⟩
  have hmissing : (r.withRest server status).missing = r.missing :=
    congrArg (· ++ unmet r.kind.form.requirements r.spec) (unmet_congr hmet)
  have hfaults : (r.withRest server status).faults limit = r.faults limit :=
    congrArg (· ++ if r.exceeds limit then ["replicas"] else []) hmissing
  rw [check, check, hfaults]

end Resource

namespace Script

/-- The owner references of a payload resolved, and its fields looked up. -/
def resolvedOwners (kind : Kind) (owners : List OwnerReference)
    (references : List FieldReference) : Script (List OwnerReference) := do
  let (owners, fault) ← matchOwners kind owners
  match fault with
  | some e => .fail e
  | none =>
    match ← checkReferences references with
    | some e => .fail e
    | none => pure owners

/-- Resolving a payload comes to resolving its owner references and writing them into it. -/
theorem resolved_eq (r : Resource) :
    resolved r = (do
      let owners ← resolvedOwners r.kind r.objectMeta.ownerReferences r.references
      pure (r.mapMeta fun m => { m with ownerReferences := owners })) := by
  rw [resolved, resolution, resolvedOwners, bind_assoc, bind_assoc]
  refine congrArg _ (funext fun found => ?_)
  obtain ⟨owners, fault⟩ := found
  cases fault with
  | some e => rfl
  | none =>
    dsimp only
    rw [bind_assoc, bind_assoc]
    refine congrArg _ (funext fun fault => ?_)
    cases fault <;> rfl

end Script

namespace Registry

open Script

variable {reg : Registry} {s : State} {kind : Kind} {p q : Json.Payload} {r r' : Resource}

/-! ## Creates -/

theorem accept_of_decodePayload (hp : decodePayload kind p = .ok r) :
    reg.accept kind p = (do
      ofExcept (r.canonical.check reg.maxReplicas)
      let owners ← resolvedOwners r.kind r.canonical.objectMeta.ownerReferences r.references
      pure (r.canonical.mapMeta fun m => { m with ownerReferences := owners })) := by
  rw [accept, hp]
  show (ofExcept (r.canonical.check reg.maxReplicas) >>= fun _ => resolved r.canonical) = _
  rw [resolved_eq]
  rfl

/-- What is entered is told by what the server makes of it. -/
theorem enter_congr (h : ∀ id, reg.asCreated r id = reg.asCreated r' id) :
    reg.enter r = reg.enter r' := by
  simp only [enter, h]

/-- What the server makes of a resource depends on what clients write, on the account and on the
status. -/
theorem asCreated_withRest {server : ServerPart} {owners : List OwnerReference}
    {route : Option String} (h : server.account = r.account) (id : Id) :
    reg.asCreated (((r.withRest server r.status).canonical.mapMeta fun m =>
        { m with ownerReferences := owners }).inAccount route) id =
      reg.asCreated ((r.canonical.mapMeta fun m =>
        { m with ownerReferences := owners }).inAccount route) id := by
  obtain ⟨_, _, account, _, _, _, _⟩ := server
  obtain rfl : account = r.account := h
  rfl

/-- Creates with payloads that agree under all keys of clients are the same. -/
theorem create_eq_of_agree (h : p.AgreeOutside ownedOnCreate kind q)
    (hp : decodePayload kind p = .ok r) (hq : decodePayload kind q = .ok r')
    (account : Option String) : reg.create kind p account = reg.create kind q account := by
  have hclient := Resource.clientPart_eq_of_agree (h.mono (by decide) (by decide)) hp hq
  have haccount := Resource.account_eq_of_agree h hp hq
  have hstatus := Resource.status_eq_of_agree h hp hq
  obtain ⟨server, status, rfl⟩ := Resource.exists_withRest hclient
  change r.account = server.account at haccount
  obtain rfl : r.status = status := hstatus
  have hcheck : (r.withRest server r.status).canonical.check reg.maxReplicas =
      r.canonical.check reg.maxReplicas :=
    Resource.check_withRest (r := r.canonical) fun _ => congrArg (· != "") haccount.symm
  rw [create_eq, create_eq, accept_of_decodePayload hp, accept_of_decodePayload hq, hcheck]
  simp only [bind_assoc, pure_bind]
  refine congrArg _ (funext fun route => congrArg _ (funext fun _ => ?_))
  refine congrArg _ (funext fun owners => enter_congr fun id => ?_)
  exact (asCreated_withRest haccount.symm id).symm

/-! ## Updates -/

/-- What an update does with a stored resource and with what was sent, once both are there. -/
def merge (reg : Registry) (kind : Kind) (id : Id) (stored sent : Resource) : Script Resource := do
  ofExcept (sent.check reg.maxReplicas)
  let incoming ← resolved sent
  (setSpec (stored.updatedWith incoming)).orFail (.notStored kind id)

theorem run_update_of_decodePayload {id : Id} {stored : Resource} {rawId : String}
    (hid : pathId kind rawId = .ok id) (hstored : s.store.get? kind id = some stored)
    (hp : decodePayload kind p = .ok r) :
    (reg.update kind rawId p).run s =
      (reg.merge kind id stored (r.canonical.keepAccount stored)).run s := by
  rw [update, hid]
  show (fetch kind id >>= _).run s = _
  rw [run_bind_of_ok (run_fetch hstored), hp]
  rfl

/-- What is merged into a stored resource depends on what clients write alone, and on whether there
is an account where one is needed. -/
theorem merge_withRest {id : Id} {stored : Resource} {server : ServerPart} {status : Status}
    (h : r.kind.row.needsAccount = true → (server.account != "") = (r.account != "")) :
    reg.merge kind id stored (r.withRest server status) = reg.merge kind id stored r := by
  rw [merge, merge, Resource.check_withRest h, resolved_eq, resolved_eq]
  simp only [bind_assoc, pure_bind]
  rfl

/-- Where the stored resource has an account, no blank one is kept. -/
theorem account_keepAccount_bne {stored : Resource} (h : stored.account ≠ "") :
    ((r.keepAccount stored).account != "") = true := by
  show ((if r.account = "" then stored.account else r.account) != "") = true
  split
  · exact bne_iff_ne.mpr h
  · next hfilled => exact bne_iff_ne.mpr hfilled

/-- Updates with payloads that agree under all keys from which an update takes something run alike
where all that is stored is sound. -/
theorem run_update_eq_of_agree (hs : s.store.Sound reg.apiVersion reg.maxReplicas)
    (h : p.AgreeOutside ownedOnUpdate kind q) (hp : decodePayload kind p = .ok r)
    (hq : decodePayload kind q = .ok r') (rawId : String) :
    (reg.update kind rawId p).run s = (reg.update kind rawId q).run s := by
  cases hid : pathId kind rawId with
  | error e =>
    rw [update, update, hid]
    rfl
  | ok id =>
    cases hstored : s.store.get? kind id with
    | none =>
      rw [update, update, hid]
      show (fetch kind id >>= _).run s = (fetch kind id >>= _).run s
      rw [run_bind_of_error (run_fetch_of_none hstored),
        run_bind_of_error (run_fetch_of_none hstored)]
    | some stored =>
      have hkind : r.kind = stored.kind := by
        rw [kind_of_decodePayload hp, hs.kind_eq hstored]
      -- a kind that needs an account has one stored, and that of the payload does not count
      have haccount : r.kind.row.needsAccount = true → stored.account ≠ "" := by
        rw [hkind]
        exact ((Resource.check_eq_ok_iff stored _).mp (hs.settled hstored).admissible).1.account
      rw [run_update_of_decodePayload hid hstored hp, run_update_of_decodePayload hid hstored hq]
      obtain ⟨server, status, rfl⟩ :=
        Resource.exists_withRest (Resource.clientPart_eq_of_agree h hp hq)
      have hkeep : (r.withRest server status).canonical.keepAccount stored =
          (r.canonical.keepAccount stored).withRest
            { server with
              account := ((r.withRest server status).canonical.keepAccount stored).account }
            status := rfl
      rw [hkeep, merge_withRest]
      intro hneeds
      have hstoredAccount := haccount hneeds
      exact (account_keepAccount_bne hstoredAccount).trans
        (account_keepAccount_bne hstoredAccount).symm

/-! ## Both writes -/

/-- In every reachable state, two payloads that are decoded and agree under all keys but those that
the server owns are created alike: the answer or the failure is the same, and so is everything that
is stored, children included. And they update a stored resource alike, even if they differ in the
status and in the account. -/
theorem writes_ignore_owned (h : reg.Reachable s) (hp : decodePayload kind p = .ok r)
    (hq : decodePayload kind q = .ok r') :
    (p.AgreeOutside ownedOnCreate kind q → ∀ account,
      (reg.create kind p account).run s = (reg.create kind q account).run s) ∧
    (p.AgreeOutside ownedOnUpdate kind q → ∀ rawId,
      (reg.update kind rawId p).run s = (reg.update kind rawId q).run s) :=
  ⟨fun hagree account => by rw [create_eq_of_agree hagree hp hq],
    fun hagree => run_update_eq_of_agree h.sound hagree hp hq⟩

/-- A stack of two assemblies that is sent with an id, a kind and upkeep of the client's own, and with
some more members. -/
def sentOverreachingStack (account : String) (more : List (String × Json)) : Json.Payload :=
  .ofJson (.object (more ++ [("id", .text "99"),
    ("object_meta", .object [("account", .text account), ("cluster_name", .text "west"),
      ("created_at", .text "never"), ("deleted_at", .text "now"),
      ("deletion_grace_period_seconds", .number (.integer 0)), ("finalizers", .array []),
      ("name", .text "web")]),
    ("plan", .text "1"), ("replicas", .number (.integer 2)),
    ("resources", .object [("compute_type", .text "cpu"), ("storage_type", .text "ssd")]),
    ("type_meta", .object [("kind", .text "Node")])]))

/-- A stack with fields of the server and one of another kind is created as the plain one is. A stack
with a status too, and without an account, updates a stored one as the plain one does. -/
theorem overreaching_stack_ignored :
    (∃ r t, (tenReplicas.create .stacksFactory
        (sentOverreachingStack "9" [("category", .text "batch")]) none).run stackState = (.ok r, t) ∧
      (tenReplicas.create .stacksFactory (sentStack 2) none).run stackState = (.ok r, t)) ∧
    ∃ r t, (tenReplicas.update .stacksFactory "2"
        (sentOverreachingStack "" [("status", .text "broken")])).run stackState = (.ok r, t) ∧
      (tenReplicas.update .stacksFactory "2" (sentStack 2)).run stackState = (.ok r, t) := by
  have hreachable : tenReplicas.Reachable stackState := ⟨_, planThenStack, rfl⟩
  obtain ⟨plain, hplain⟩ : ∃ r, decodePayload .stacksFactory (sentStack 2) = .ok r := ⟨_, rfl⟩
  constructor
  · have hagree : (sentOverreachingStack "9" [("category", .text "batch")]).AgreeOutside
        ownedOnCreate .stacksFactory (sentStack 2) := .of_map_eq rfl rfl rfl
    obtain ⟨sent, hsent⟩ : ∃ r, decodePayload .stacksFactory
        (sentOverreachingStack "9" [("category", .text "batch")]) = .ok r := ⟨_, rfl⟩
    have hsame := (writes_ignore_owned hreachable hsent hplain).1 hagree none
    have hcreated : ((tenReplicas.create .stacksFactory (sentStack 2) none).run stackState).1.isOk =
        true := by decide +kernel
    obtain ⟨r, t, hrun⟩ := exists_run_of_isOk hcreated
    exact ⟨r, t, hsame.trans hrun, hrun⟩
  · have hagree : (sentOverreachingStack "" [("status", .text "broken")]).AgreeOutside
        ownedOnUpdate .stacksFactory (sentStack 2) := .of_map_eq rfl rfl rfl
    obtain ⟨sent, hsent⟩ : ∃ r, decodePayload .stacksFactory
        (sentOverreachingStack "" [("status", .text "broken")]) = .ok r := ⟨_, rfl⟩
    have hsame := (writes_ignore_owned hreachable hsent hplain).2 hagree "2"
    have hupdated : ((tenReplicas.update .stacksFactory "2" (sentStack 2)).run stackState).1.isOk =
        true := by decide +kernel
    obtain ⟨r, t, hrun⟩ := exists_run_of_isOk hupdated
    exact ⟨r, t, hsame.trans hrun, hrun⟩

end Registry

end ClusterRegistry
