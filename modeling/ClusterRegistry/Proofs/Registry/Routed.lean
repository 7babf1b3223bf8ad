import ClusterRegistry.Proofs.Registry.Listed
import ClusterRegistry.Proofs.Registry.Matched

/-!
# What an ingress routes

An ingress is owned by the factory that it routes from and by the service that it routes to. What is
asked of it when it is admitted is two owner references, each to a stored factory or to a stored
service; that there is one of each is not asked. So an ingress routes exactly if its owners are of
two kinds (`Registry.ingress_routes_iff`), and one that was sent with the same factory twice is
stored without a service (`Registry.ingress_without_service`).
-/

namespace ClusterRegistry

/-- Whether an owner reference of a child leads to a stored resource of a kind. -/
def OwnerReference.LeadsToKind (s : Store) (child : Kind) (o : OwnerReference) (kind : Kind) :
    Prop :=
  ∃ owner, o.LeadsTo s child owner ∧ owner.kind = kind

/-- The owner references of an ingress that routes lead from a factory to a service. -/
@[mk_iff]
structure Store.Routes (s : Store) (owners : List OwnerReference) : Prop where
  factory : ∃ o ∈ owners, o.LeadsToKind s .ingress .assemblyFactory
  service : ∃ o ∈ owners, o.LeadsToKind s .ingress .service

/-- Whether what is stored for an owner reference tells the kind that the reference leads to. -/
def OwnerReference.ToldBy (s : Store) (child : Kind) (o stored : OwnerReference) : Prop :=
  ∀ kind : Kind, o.LeadsToKind s child kind ↔ stored.kind = kind.name

section

variable {version : String} {limit : UInt32} {s t : Store} {child kind : Kind}
  {o stored : OwnerReference} {owners owners' : List OwnerReference} {id : Id} {r owner : Resource}

/-! ## Kinds of owners -/

/-- An owner reference leads to one resource at most. -/
theorem OwnerReference.LeadsTo.unique {owner' : Resource} (h : o.LeadsTo s child owner)
    (h' : o.LeadsTo s child owner') : owner = owner' := by
  obtain ⟨kinds, id, hkinds, hparse, hfound⟩ := h
  obtain ⟨kinds', id', hkinds', hparse', hfound'⟩ := h'
  obtain rfl : kinds = kinds' := Except.ok.inj (hkinds.symm.trans hkinds')
  obtain rfl : id = id' := Id.Reading.assigned.inj (hparse.symm.trans hparse')
  exact Option.some.inj (hfound.symm.trans hfound')

/-- An owner reference that leads somewhere leads to the kind of what it leads to. -/
theorem OwnerReference.LeadsTo.kind_iff (h : o.LeadsTo s child owner) :
    o.LeadsToKind s child kind ↔ owner.kind.name = kind.name := by
  constructor
  · rintro ⟨owner', h', hkind⟩
    rw [h.unique h', hkind]
  · intro hname
    exact ⟨owner, h, Kind.name_inj hname⟩

/-- The kind that a reference leads to is filled in when the reference is matched. -/
theorem OwnerReference.MatchedAs.toldBy (h : o.MatchedAs s child stored) :
    o.ToldBy s child stored := by
  obtain ⟨owner, hleads, rfl⟩ := h
  intro kind
  exact hleads.kind_iff

/-- A stored owner reference leads to a stored resource of the kind that it says. -/
theorem Store.Sound.exists_leadsTo (h : s.Sound version limit) (hr : s.get? child id = some r)
    (ho : o ∈ r.objectMeta.ownerReferences) :
    ∃ owner, o.LeadsTo s child owner ∧ o.kind = owner.kind.name := by
  obtain ⟨parent, hparent, hname, uid, hparse, hhas⟩ := (h.linked hr).owners o ho
  rw [h.kind_eq hr] at hparent
  obtain ⟨owner, howner⟩ := Option.isSome_iff_exists.mp hhas
  have hfound : s.findUnder [parent] uid = some owner := by
    rw [findUnder, List.findSome?_cons, howner]
  have hcandidates : o.candidates child = .ok [parent] :=
    OwnerReference.candidates_of_kind hname hparent
  refine ⟨owner, ⟨[parent], uid, hcandidates, hparse, hfound⟩, ?_⟩
  rw [h.kind_eq howner, hname]

/-- A stored owner reference tells the kind that it leads to. -/
theorem Store.Sound.toldBy_self (h : s.Sound version limit) (hr : s.get? child id = some r)
    (ho : o ∈ r.objectMeta.ownerReferences) : o.ToldBy s child o := by
  obtain ⟨owner, hleads, hname⟩ := h.exists_leadsTo hr ho
  intro kind
  rw [hname]
  exact hleads.kind_iff

/-- Some reference leads to a kind exactly if some stored one says the kind. -/
theorem exists_leadsToKind_iff (h : List.Forall₂ (OwnerReference.ToldBy s child) owners owners') :
    (∃ o ∈ owners, o.LeadsToKind s child kind) ↔ ∃ o ∈ owners', o.kind = kind.name := by
  induction h with
  | nil => simp
  | cons hfirst _ ih =>
    rw [List.exists_mem_cons_iff, List.exists_mem_cons_iff, ih, hfirst kind]

/-! ## Routes -/

/-- Owner references route exactly if what is stored for them says both kinds. -/
theorem Store.routes_iff_kinds
    (h : List.Forall₂ (OwnerReference.ToldBy s .ingress) owners owners') :
    s.Routes owners ↔ (∃ o ∈ owners', o.kind = Kind.assemblyFactory.name) ∧
      ∃ o ∈ owners', o.kind = Kind.service.name := by
  rw [routes_iff, exists_leadsToKind_iff h, exists_leadsToKind_iff h]

/-- A stored ingress routes exactly if its owner references say both kinds. -/
theorem Store.Sound.routes_iff (h : s.Sound version limit) (hr : s.get? .ingress id = some r) :
    s.Routes r.objectMeta.ownerReferences ↔
      (∃ o ∈ r.objectMeta.ownerReferences, o.kind = Kind.assemblyFactory.name) ∧
        ∃ o ∈ r.objectMeta.ownerReferences, o.kind = Kind.service.name :=
  routes_iff_kinds (List.forall₂_same.mpr fun _ ho => h.toldBy_self hr ho)

/-- What is stored of an ingress leads to factories and services only. -/
theorem Store.Sound.exists_backend (h : s.Sound version limit) (hr : s.get? .ingress id = some r)
    (ho : o ∈ r.objectMeta.ownerReferences) :
    ∃ owner, o.LeadsTo s .ingress owner ∧ o.kind = owner.kind.name ∧
      (owner.kind = .assemblyFactory ∨ owner.kind = .service) := by
  obtain ⟨owner, hleads, hname⟩ := h.exists_leadsTo hr ho
  obtain ⟨hkind, -⟩ := h.of_leadsTo hleads
  have hbackend : owner.kind ∈ [Kind.assemblyFactory, .service] := hkind
  exact ⟨owner, hleads, hname, by simpa using hbackend⟩

/-- An ingress routes exactly if it is owned by two kinds. -/
theorem Store.Sound.routes_iff_ne (h : s.Sound version limit)
    (hr : s.get? .ingress id = some r) :
    s.Routes r.objectMeta.ownerReferences ↔
      ∃ o ∈ r.objectMeta.ownerReferences, ∃ o' ∈ r.objectMeta.ownerReferences,
        o.kind ≠ o'.kind := by
  rw [h.routes_iff hr]
  constructor
  · rintro ⟨⟨o, ho, hfactory⟩, o', ho', hservice⟩
    refine ⟨o, ho, o', ho', ?_⟩
    rw [hfactory, hservice]
    decide
  · rintro ⟨o, ho, o', ho', hne⟩
    obtain ⟨owner, -, hname, hkind⟩ := h.exists_backend hr ho
    obtain ⟨owner', -, hname', hkind'⟩ := h.exists_backend hr ho'
    rw [hname, hname'] at hne
    -- of two owners of different kinds one is a factory and the other a service
    rcases hkind with hkind | hkind
    · have hservice : owner'.kind = .service :=
        hkind'.resolve_left fun hsame => hne (by rw [hkind, hsame])
      rw [hkind] at hname
      rw [hservice] at hname'
      exact ⟨⟨o, ho, hname⟩, o', ho', hname'⟩
    · have hfactory : owner'.kind = .assemblyFactory :=
        hkind'.resolve_right fun hsame => hne (by rw [hkind, hsame])
      rw [hkind] at hname
      rw [hfactory] at hname'
      exact ⟨⟨o', ho', hname'⟩, o, ho, hname⟩

end

namespace Registry

variable {reg : Registry} {s : State}

/-- **What an ingress routes.** A stored ingress has at least two owner references, each of which
leads to a stored factory or to a stored service; it routes, with one that leads to a factory and
one that leads to a service, exactly if two of them are of different kinds. What was created or
updated routes exactly if what was sent did, in the state in which it was sent. -/
theorem ingress_routes_iff (h : reg.Reachable s) :
    (∀ id r, s.store.get? .ingress id = some r →
      2 ≤ r.objectMeta.ownerReferences.length ∧
      (∀ o ∈ r.objectMeta.ownerReferences, ∃ owner, o.LeadsTo s.store .ingress owner ∧
        (owner.kind = .assemblyFactory ∨ owner.kind = .service) ∧
        s.store.get? owner.kind owner.id = some owner) ∧
      (s.store.Routes r.objectMeta.ownerReferences ↔
        ∃ o ∈ r.objectMeta.ownerReferences, ∃ o' ∈ r.objectMeta.ownerReferences,
          o.kind ≠ o'.kind)) ∧
    ∀ (a : Arrival) payload r t, a.request.sent? = some (.ingress, payload) →
      (reg.script a).run s = (.ok (.resource r), t) →
      t.store.get? .ingress r.id = some r ∧ ∃ sent, decodePayload .ingress payload = .ok sent ∧
        (t.store.Routes r.objectMeta.ownerReferences ↔
          s.store.Routes sent.canonical.objectMeta.ownerReferences) := by
  have hs := h.sound
  constructor
  · intro id r hr
    have hcomplete := ((Resource.check_eq_ok_iff r _).mp (hs.settled hr).admissible).1
    have hcount := hcomplete.ownerCount
    rw [hs.kind_eq hr] at hcount
    refine ⟨of_decide_eq_true hcount, fun o ho => ?_, hs.routes_iff_ne hr⟩
    obtain ⟨owner, hleads, -, hkind⟩ := hs.exists_backend hr ho
    obtain ⟨-, uid, -, hget⟩ := hs.of_leadsTo hleads
    have hstored : s.store.get? owner.kind owner.id = some owner := by rw [hs.id_eq hget, hget]
    exact ⟨owner, hleads, hkind, hstored⟩
  · intro a payload r t hsent hrun
    obtain ⟨hstored, sent, hdecoded, hmatched⟩ := matched_of_run hs hsent hrun
    have ht : t.store.Sound reg.apiVersion reg.maxReplicas := by
      have hsound := sound_run a hs
      rwa [hrun] at hsound
    refine ⟨hstored, sent, hdecoded, ?_⟩
    have htold := hmatched.imp fun _ _ ho => ho.toldBy
    rw [ht.routes_iff hstored, Store.routes_iff_kinds htold]

/-- A service as it is sent, for the factory with the id 3. -/
def sentService : Json.Payload :=
  .ofJson (.object [("object_meta", .object [("account", .text "9"), ("name", .text "backend"),
      ("owner_references", .array [.object [("uid", .text "3")]])]),
    ("spec", .object [("service_type", .text "LoadBalancer")])])

/-- An ingress as it is sent, with the `uid`s of its owners. -/
def sentIngress (uids : List String) : Json.Payload :=
  .ofJson (.object [("object_meta", .object [("account", .text "9"), ("name", .text "front"),
      ("owner_references", .array (uids.map fun uid => .object [("uid", .text uid)]))]),
    ("spec", .object [("rules", .array [.object [("host", .text "example.org")]])])])

/-- The stack with a service for its factory and an ingress from the one to the other. -/
def routedState : State :=
  (tenReplicas.answerAll (planThenStack ++
    [⟨"t3", noMetrics, .create .service sentService none⟩,
      ⟨"t4", noMetrics, .create .ingress (sentIngress ["3", "6"]) none⟩]) initialState).2

/-- The ingress that names the factory and the service routes from the one to the other. -/
theorem ingress_routes_stack :
    ∃ r, routedState.store.get? .ingress ⟨7⟩ = some r ∧
      routedState.store.Routes r.objectMeta.ownerReferences := by
  have hreachable : tenReplicas.Reachable routedState := ⟨_, _, rfl⟩
  have hkinds : (routedState.store.get? .ingress ⟨7⟩).map
      (·.objectMeta.ownerReferences.map (·.kind)) = some ["AssemblyFactory", "Service"] := by
    decide +kernel
  obtain ⟨r, hr, hkinds⟩ := Option.map_eq_some_iff.mp hkinds
  obtain ⟨hstored, -⟩ := ingress_routes_iff hreachable
  obtain ⟨-, -, hroutes⟩ := hstored ⟨7⟩ r hr
  have hfactory : "AssemblyFactory" ∈ r.objectMeta.ownerReferences.map (·.kind) := by
    rw [hkinds]
    decide
  have hservice : "Service" ∈ r.objectMeta.ownerReferences.map (·.kind) := by
    rw [hkinds]
    decide
  obtain ⟨o, ho, hkind⟩ := List.mem_map.mp hfactory
  obtain ⟨o', ho', hkind'⟩ := List.mem_map.mp hservice
  refine ⟨r, hr, hroutes.mpr ⟨o, ho, o', ho', ?_⟩⟩
  rw [hkind, hkind']
  decide

/-- The stack with an ingress that was sent with the factory twice. -/
def unroutedState : State :=
  (tenReplicas.answerAll (planThenStack ++
    [⟨"t3", noMetrics, .create .ingress (sentIngress ["3", "3"]) none⟩]) initialState).2

/-- An ingress is stored although there is no service to which it could route. -/
theorem ingress_without_service :
    ¬ ∀ (reg : Registry) (s : State) (id : Id) (r : Resource), reg.Reachable s →
      s.store.get? .ingress id = some r → s.store.Routes r.objectMeta.ownerReferences := by
  intro hall
  have hreachable : tenReplicas.Reachable unroutedState := ⟨_, _, rfl⟩
  have hstored : (unroutedState.store.get? .ingress ⟨6⟩).isSome = true := by decide +kernel
  have hservices : unroutedState.store.list .service {} = [] := by
    rw [← List.isEmpty_iff]
    decide +kernel
  obtain ⟨r, hr⟩ := Option.isSome_iff_exists.mp hstored
  have hroutes := hall tenReplicas unroutedState ⟨6⟩ r hreachable hr
  obtain ⟨o, -, owner, hleads, hkind⟩ := hroutes.service
  obtain ⟨-, id, -, hget⟩ := hreachable.sound.of_leadsTo hleads
  -- whatever it leads to would be listed among the services
  have hown : unroutedState.store.get? .service owner.id = some owner := by
    rw [← hkind, hreachable.sound.id_eq hget, hget]
  have hlisted := hreachable.sound.indexed.mem_list_iff.mpr ⟨hown, Filter.selects_all owner⟩
  rw [hservices] at hlisted
  exact absurd hlisted List.not_mem_nil

end Registry

end ClusterRegistry
