import ClusterRegistry.Proofs.Admission.Resolvable
import ClusterRegistry.Proofs.Registry.Outcome
import ClusterRegistry.Proofs.Registry.Rejected
import ClusterRegistry.Proofs.Resource.Observed

/-!
# What is stored can be sent again

Whatever a registry stores can be sent to it again (`Resource.Resendable`): it was decoded once, or
made from something that was, so its parts are found again in what they are written as; and its
owner references were filled in when it was admitted, or were written by the server. Only of what a
status update observes less is known (`Status.Parsed`), for it is kept as it was read.

Each of the three writes leaves a store of such resources (`Registry.resendable_run_create`,
`Registry.resendable_run_update`, `Registry.resendable_run_setStatus`), and so they are all that is
stored in a reachable state (`Registry.Reachable.resendable`).
-/

namespace ClusterRegistry

/-! ## Resources that can be sent again -/

theorem OwnerReference.fits_shape (o : OwnerReference) : OwnerReference.shape.Fits o :=
  ⟨trivial, trivial, trivial, trivial, trivial, trivial⟩

theorem Condition.fits_shape (c : Condition) : Condition.shape.Fits c :=
  ⟨trivial, trivial, trivial, trivial, trivial, trivial, trivial, trivial⟩

namespace Resource

/-- A resource that can be sent again: its own fields and its initializers are found again in what
they are written as, its status is parsed, and its owner references leave nothing blank. -/
structure Resendable (r : Resource) : Prop where
  spec : r.kind.form.fields.Fit r.spec
  initializers : Initializers.shape.Fits r.objectMeta.initializers
  status : r.status.Parsed
  owners : ∀ o ∈ r.objectMeta.ownerReferences, o.Filled

/-- Most of an envelope is found again whatever it is. -/
theorem fits_iff {r : Resource} :
    r.Fits ↔ r.kind.form.fields.Fit r.spec ∧ Initializers.shape.Fits r.objectMeta.initializers ∧
      ∀ e ∈ r.status.extra.entries, e.1 ∉ (Status.fields .required).keys ∧ e.2.Literal := by
  constructor
  · rintro ⟨⟨-, -, hmeta, ⟨-, hextra⟩, -⟩, hspec⟩
    obtain ⟨-, -, -, -, -, -, -, -, -, -, hinitializers, -⟩ := hmeta
    exact ⟨hspec, hinitializers, hextra⟩
  · rintro ⟨hspec, hinitializers, hextra⟩
    have hmeta : ObjectMeta.shape.Fits r.objectMeta :=
      ⟨trivial, trivial, trivial, trivial, trivial, fun o _ => o.fits_shape, trivial, trivial,
        trivial, fun _ _ => trivial, hinitializers, trivial⟩
    have hstatus : Status.shape.Fits r.status :=
      ⟨⟨trivial, trivial, trivial, fun c _ => c.fits_shape, trivial⟩, hextra⟩
    exact ⟨⟨r.id.fits_shape, ⟨trivial, trivial, trivial⟩, hmeta, hstatus, trivial⟩, hspec⟩

/-- Metadata may be changed but for the initializers. -/
theorem Fits.mapMeta {r : Resource} (h : r.Fits) {f : ObjectMeta → ObjectMeta}
    (hf : ∀ m, (f m).initializers = m.initializers) : (r.mapMeta f).Fits := by
  obtain ⟨hspec, hinitializers, hextra⟩ := fits_iff.mp h
  refine fits_iff.mpr ⟨hspec, ?_, hextra⟩
  show Initializers.shape.Fits (f r.objectMeta).initializers
  rw [hf]
  exact hinitializers

theorem Fits.canonical {r : Resource} (h : r.Fits) : r.canonical.Fits :=
  h.mapMeta fun _ => rfl

theorem Fits.keepAccount {r : Resource} (h : r.Fits) (stored : Resource) :
    (r.keepAccount stored).Fits :=
  h.mapMeta fun _ => rfl

/-- What can be sent again is found again in what it is written as if its status observes only what
stands for itself. -/
theorem Resendable.fits {r : Resource} (h : r.Resendable)
    (hextra : ∀ e ∈ r.status.extra.entries, e.2.Literal) : r.Fits :=
  fits_iff.mpr ⟨h.spec, h.initializers, fun e he => ⟨(h.status e he).1, hextra e he⟩⟩

/-- What fits can be sent again once its owner references leave nothing blank. -/
theorem Fits.resendable {r : Resource} (h : r.Fits)
    (howners : ∀ o ∈ r.objectMeta.ownerReferences, o.Filled) : r.Resendable := by
  obtain ⟨hspec, hinitializers, hextra⟩ := fits_iff.mp h
  exact ⟨hspec, hinitializers,
    fun e he => ⟨(hextra e he).1, Json.parsed_of_settle (hextra e he).2.settled⟩, howners⟩

variable {version : String} {limit : UInt32} {r owner stored incoming : Resource}

/-- An update can be sent again if what it was made of can. -/
theorem Resendable.updatedWith (hstored : stored.Resendable) (hincoming : incoming.Resendable)
    (hkind : incoming.kind = stored.kind) : (stored.updatedWith incoming).Resendable := by
  rw [updatedWith_eq hkind]
  exact ⟨hincoming.spec, hincoming.initializers, hstored.status, hincoming.owners⟩

/-- A child can be sent again if its own fields can, since the link to its owner leaves nothing
blank. -/
theorem resendable_child (kind : Kind) {spec : kind.Spec} (howner : owner.Settled version limit)
    (hversion : version ≠ "") (hspec : kind.form.fields.Fit spec) (name : String) (id : Id) :
    (⟨kind, owner.envelopeFor kind name id, spec⟩ : Resource).Resendable := by
  refine ⟨hspec, Initializers.lawful_shape.2, nofun, fun o ho => ?_⟩
  rw [List.mem_singleton.mp ho]
  refine ⟨?_, ((check_eq_ok_iff owner limit).mp howner.admissible).1.name⟩
  show owner.envelope.typeMeta.apiVersion ≠ ""
  rw [howner.typed]
  exact hversion

/-- The assemblies of a factory can be sent again. -/
theorem resendable_assembliesOf {envelope : Envelope} {f : Factory} {ids : List Id}
    (h : (Resource.ofFactory envelope f).Settled version limit) (hversion : version ≠ "") :
    ∀ q ∈ assembliesOf envelope f ids, q.Resendable := by
  intro q hq
  obtain ⟨name, -, id, rfl⟩ := exists_of_mem_assembliesOf hq
  have hspec : (Kind.form .assembly).fields.Fit ({ metadata := f.metadata } : Assembly) :=
    ⟨nofun, trivial, nofun, trivial⟩
  exact resendable_child .assembly h hversion hspec name id

/-- Whatever is stored with a resource can be sent again if the resource can. -/
theorem Resendable.family {ids : List Id} (h : r.Resendable) (hversion : version ≠ "")
    (hsettled : ∀ q ∈ r.family ids, q.Settled version limit) :
    ∀ q ∈ r.family ids, q.Resendable := by
  refine List.forall_mem_cons.mpr ⟨h, ?_⟩
  obtain ⟨hr, hchildren⟩ := List.forall_mem_cons.mp hsettled
  obtain ⟨kind, envelope, spec⟩ := r
  cases kind
  case assemblyFactory => exact resendable_assembliesOf hr hversion
  case stacksFactory =>
    cases ids with
    | nil => exact fun q hq => absurd hq List.not_mem_nil
    | cons id ids =>
      -- the factory has the fields of the stack
      have hinner : (innerFactory envelope spec id).Resendable :=
        resendable_child .assemblyFactory hr hversion h.spec _ id
      exact List.forall_mem_cons.mpr
        ⟨hinner, resendable_assembliesOf (hchildren _ List.mem_cons_self) hversion⟩
  -- the other kinds have no children
  all_goals
    intro q hq
    exact absurd hq List.not_mem_nil

end Resource

/-- What a payload says is found again in what it is written as. -/
theorem fits_of_decodePayload {kind : Kind} {payload : Json.Payload} {r : Resource}
    (h : decodePayload kind payload = .ok r) : r.Fits := by
  have hdecode : Resource.ofPayload kind payload = .ok r := eq_ok_of_mapError_eq_ok h
  obtain ⟨v, hv, hdecode⟩ := exists_of_bind_eq_ok hdecode
  have hparsed := Json.parsed_of_payload (eq_ok_of_mapError_eq_ok hv)
  exact Resource.fits_of_decode hdecode (.inl hparsed)

namespace Script

variable {version : String} {limit : UInt32} {s t : State} {r resolved : Resource}

/-- What was resolved can be sent again. -/
theorem resendable_of_run_resolved (hs : s.store.Sound version limit) (hr : r.Fits)
    (h : (Script.resolved r).run s = (.ok resolved, t)) : resolved.Resendable := by
  obtain ⟨owners, rfl, howners⟩ := exists_of_run_resolved h
  have hfits : (r.mapMeta fun m => { m with ownerReferences := owners }).Fits :=
    hr.mapMeta fun _ => rfl
  refine hfits.resendable fun o' ho' => ?_
  obtain ⟨o, -, ho⟩ := exists_mem_of_forall₂ howners ho'
  exact ho.filled hs

end Script

/-! ## Stores -/

/-- Everything that is stored can be sent again. -/
def Store.Resendable (s : Store) : Prop :=
  ∀ a e, s.at? a = some e → e.resource.Resendable

theorem Store.resendable_empty : Store.empty.Resendable := by
  intro a e he
  cases he

namespace Registry

open Script

variable {reg : Registry} {s t : State} {r : Resource} {kind : Kind} {payload : Json.Payload}
  {rawId : String}

theorem resendable_of_run_accept (hs : s.store.Sound reg.apiVersion reg.maxReplicas)
    (h : (reg.accept kind payload).run s = (.ok r, t)) : r.Resendable := by
  obtain ⟨-, sent, hsent, -, hresolved⟩ := reg.exists_of_run_accept h
  exact resendable_of_run_resolved hs (fits_of_decodePayload hsent).canonical hresolved

/-- A create adds a family that can be sent again. -/
theorem resendable_run_create (hversion : reg.apiVersion ≠ "") {account : Option String}
    (hs : s.store.Sound reg.apiVersion reg.maxReplicas) (h : s.store.Resendable)
    (hrun : (reg.create kind payload account).run s = (.ok r, t)) : t.store.Resendable := by
  have hsound : t.store.Sound reg.apiVersion reg.maxReplicas := by
    have hkeeps := (reg.keeps_create kind payload account).run hs
    rw [hrun] at hkeeps
    exact hkeeps.1
  obtain ⟨route, admitted, -, haccept, henter⟩ := reg.exists_of_run_create hrun
  obtain ⟨hr, hinserted, -⟩ := reg.exists_of_run_enter henter
  have hadmitted := resendable_of_run_accept hs haccept
  have hentered : r.Resendable := by
    rw [hr]
    exact ⟨hadmitted.spec, hadmitted.initializers, hadmitted.status, hadmitted.owners⟩
  intro a e he
  rcases hinserted.cases he with he | ⟨q, hq, rfl, rfl⟩
  · exact h a e he
  · -- the whole family is stored now, and so it is settled
    exact hentered.family hversion
      (fun p hp => (hsound p.address _ (hinserted.there p hp)).settled) q hq

/-- What stands at other addresses is as it was. -/
theorem resendable_of_replaced {a : Address} {new : Entry} (h : s.store.Resendable)
    (hnew : new.resource.Resendable)
    (ht : ∀ b, t.store.at? b = if b = a then some new else s.store.at? b) :
    t.store.Resendable := by
  intro b e he
  rw [ht b] at he
  split at he
  · cases he
    exact hnew
  · exact h b e he

theorem resendable_run_update (hs : s.store.Sound reg.apiVersion reg.maxReplicas)
    (h : s.store.Resendable) (hrun : (reg.update kind rawId payload).run s = (.ok r, t)) :
    t.store.Resendable := by
  obtain ⟨id, e, sent, incoming, -, he, hsent, hresolved, hkind, -, rfl, -, hstore⟩ :=
    reg.exists_of_run_update hs hrun
  have hincoming := resendable_of_run_resolved hs
    ((fits_of_decodePayload hsent).canonical.keepAccount e.resource) hresolved
  exact resendable_of_replaced h ((h _ e he).updatedWith hincoming hkind) hstore

theorem resendable_run_setStatus (h : s.store.Resendable)
    (hrun : (setStatus kind rawId payload).run s = (.ok r, t)) : t.store.Resendable := by
  obtain ⟨id, e, status, -, he, hupdate, -, rfl, -, hstore⟩ := exists_of_run_setStatus hrun
  have hstored := h _ e he
  refine resendable_of_replaced h ?_ hstore
  exact ⟨hstored.spec, hstored.initializers, StatusUpdate.parsed_of_ofPayload hupdate,
    hstored.owners⟩

/-- One request leaves a store in which everything can be sent again. -/
theorem resendable_serve (reg : Registry) (hversion : reg.apiVersion ≠ "")
    (hs : s.store.Sound reg.apiVersion reg.maxReplicas) (h : s.store.Resendable)
    (request : Request) : ((reg.serve request).run s).2.store.Resendable := by
  cases hrun : (reg.serve request).run s with
  | mk outcome t =>
    cases outcome with
    | error e =>
      -- a request that is rejected leaves the store as it was
      rcases reg.traceless_serve request s e t hrun with rfl | ⟨hstore, -⟩
      · exact h
      · exact hstore ▸ h
    | ok answer =>
      have hreads : ∀ {α : Type} {x : Script α} {f : α → Answer}, x.Reads →
          (f <$> x).run s = (.ok answer, t) → t.store.Resendable := by
        intro α x f hx hrun
        have hstate : t = s := by rw [← (hx.map f).run s, hrun]
        rw [hstate]
        exact h
      cases request with
      | create kind payload account =>
        obtain ⟨r, hrun, -⟩ := exists_of_run_map hrun
        exact resendable_run_create hversion hs h hrun
      | update kind rawId payload =>
        obtain ⟨r, hrun, -⟩ := exists_of_run_map hrun
        exact resendable_run_update hs h hrun
      | setStatus kind rawId payload =>
        obtain ⟨r, hrun, -⟩ := exists_of_run_map hrun
        exact resendable_run_setStatus h hrun
      | get kind rawId => exact hreads (reads_get kind rawId) hrun
      | list kind => exact hreads (reg.reads_listAll kind) hrun
      | listSome kind => exact hreads (reg.reads_listSome kind) hrun
      | listInAccount kind rawAccount => exact hreads (reg.reads_listInAccount kind rawAccount) hrun
      | listUnder kind parent rawParentId =>
        exact hreads (reg.reads_listUnder kind parent rawParentId) hrun
      | describe kind rawId => exact hreads (reg.reads_describe kind rawId) hrun
      | planReplicas rawId => exact hreads (reads_planReplicas rawId) hrun
      | recommendResources rawId => exact hreads (reg.reads_recommendResources rawId) hrun

/-- Any number of requests leave a store in which everything can be sent again. -/
theorem resendable_answerAll (hversion : reg.apiVersion ≠ "") (arrivals : List Arrival)
    (hs : s.store.Sound reg.apiVersion reg.maxReplicas) (h : s.store.Resendable) :
    (reg.answerAll arrivals s).2.store.Resendable := by
  induction arrivals generalizing s with
  | nil => exact h
  | cons a rest ih =>
    exact ih (sound_run a hs) (resendable_serve (reg.during a) hversion hs h a.request)

theorem Reachable.resendable (h : reg.Reachable s) (hversion : reg.apiVersion ≠ "") :
    s.store.Resendable := by
  obtain ⟨ids, arrivals, rfl⟩ := h
  exact resendable_answerAll hversion arrivals Store.sound_empty Store.resendable_empty

end Registry

end ClusterRegistry
