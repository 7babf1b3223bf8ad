import ClusterRegistry.Registry
import ClusterRegistry.Proofs.Admission.Complete
import ClusterRegistry.Proofs.Resource.Parts
import ClusterRegistry.Proofs.Script.Contract
import ClusterRegistry.Proofs.Store.Writes

/-!
# Sound stores

What a registry guarantees of everything it stores is a property of one entry at a time:
the resource stands at its own address, is settled (`Resource.Settled`: it passes the check and
carries what the server writes) and linked (`Resource.Linked`: whatever it refers to is stored).
A store is sound if all its entries are.

Which writes keep a store sound says `Call.Lawful`, without a word about requests. A lawful
write never takes anything away, nor does it touch what the server has settled
(`Store.Grows`), and so what one request has seen stays true while others write. That is the
contract under which requests share a store (`sharedStore`).
-/

namespace ClusterRegistry

/-! ## Settled and linked resources -/

namespace Resource

/-- What holds of a stored resource by itself, in a registry of some version and with some limit
on replicas. -/
structure Settled (version : String) (limit : UInt32) (r : Resource) : Prop where
  admissible : r.check limit = .ok ()
  typed : r.envelope.typeMeta = ⟨r.kind.name, version⟩
  observed : r.status.phase ≠ ""
  finalizers : r.objectMeta.finalizers = standardFinalizers
  gracePeriod : r.objectMeta.gracePeriodSeconds = graceSeconds
  notDeleted : r.objectMeta.deletedAt = ""

/-- Everything that a resource refers to is there. -/
structure Linked (there : Kind → Id → Prop) (r : Resource) : Prop where
  owners : ∀ o ∈ r.objectMeta.ownerReferences, ∃ kind ∈ r.kind.owners,
    o.kind = kind.name ∧ ∃ id, Id.parse o.uid = .assigned id ∧ there kind id
  required : ∀ f ∈ r.references, f.required = true → f.uid ≠ ""
  fields : ∀ f ∈ r.references, f.uid ≠ "" →
    ∃ id, Id.parse f.uid = .assigned id ∧ there f.kind id

variable {version : String} {limit : UInt32} {r : Resource} {there there' : Kind → Id → Prop}

/-- A resource stays linked where more is there. -/
theorem Linked.mono (h : r.Linked there) (hmore : ∀ kind id, there kind id → there' kind id) :
    r.Linked there' := by
  refine ⟨fun o ho => ?_, h.required, fun f hf hfilled => ?_⟩
  · obtain ⟨kind, hkind, hname, id, hparse, hthere⟩ := h.owners o ho
    exact ⟨kind, hkind, hname, id, hparse, hmore kind id hthere⟩
  · obtain ⟨id, hparse, hthere⟩ := h.fields f hf hfilled
    exact ⟨id, hparse, hmore f.kind id hthere⟩

/-- The links of a resource do not depend on its status. -/
theorem Linked.withStatus (h : r.Linked there) (s : Status) : (r.withStatus s).Linked there :=
  ⟨h.owners, h.required, h.fields⟩

/-- A settled resource may take any status with a phase. -/
theorem Settled.withStatus (h : r.Settled version limit) {s : Status} (hs : s.phase ≠ "") :
    (r.withStatus s).Settled version limit := by
  have hcheck : (r.withStatus s).check limit = .ok () :=
    check_withEnvelope h.admissible { r.envelope with status := s } rfl rfl rfl
      ((check_eq_ok_iff r limit).mp h.admissible).1.account
  exact ⟨hcheck, h.typed, hs, h.finalizers, h.gracePeriod, h.notDeleted⟩

end Resource

/-! ## Sound entries and stores -/

/-- What holds of an entry at an address. -/
structure Entry.Sound (version : String) (limit : UInt32) (there : Kind → Id → Prop)
    (a : Address) (e : Entry) : Prop where
  filed : e.resource.address = a
  indexed : e.parents = e.resource.parents
  assigned : a.id.isAssigned = true
  settled : e.resource.Settled version limit
  linked : e.resource.Linked there

namespace Store

variable {version : String} {limit : UInt32} {s t u : Store} {kind : Kind} {id : Id}
  {r : Resource} {batch : List Resource}

/-- Every entry of a store is sound, what it refers to being stored in the same store. -/
def Sound (version : String) (limit : UInt32) (s : Store) : Prop :=
  ∀ a e, s.at? a = some e → e.Sound version limit s.Has a

/-- Whether a resource is stored or part of a batch. -/
def HasWith (s : Store) (batch : List Resource) (kind : Kind) (id : Id) : Prop :=
  s.Has kind id ∨ ∃ r ∈ batch, r.address = ⟨kind, id⟩

theorem sound_empty : empty.Sound version limit := by
  intro a e he
  cases he

/-- What is stored in a sound store stands at its own address. -/
theorem Sound.address_eq (h : s.Sound version limit) (hr : s.get? kind id = some r) :
    r.address = ⟨kind, id⟩ := by
  obtain ⟨e, he, rfl⟩ := get?_eq_some_iff.mp hr
  exact (h _ e he).filed

theorem Sound.kind_eq (h : s.Sound version limit) (hr : s.get? kind id = some r) :
    r.kind = kind := congrArg Address.kind (h.address_eq hr)

theorem Sound.id_eq (h : s.Sound version limit) (hr : s.get? kind id = some r) : r.id = id :=
  congrArg Address.id (h.address_eq hr)

theorem Sound.isAssigned (h : s.Sound version limit) (hr : s.get? kind id = some r) :
    id.isAssigned = true := by
  obtain ⟨e, he, -⟩ := get?_eq_some_iff.mp hr
  exact (h _ e he).assigned

theorem Sound.settled (h : s.Sound version limit) (hr : s.get? kind id = some r) :
    r.Settled version limit := by
  obtain ⟨e, he, rfl⟩ := get?_eq_some_iff.mp hr
  exact (h _ e he).settled

theorem Sound.linked (h : s.Sound version limit) (hr : s.get? kind id = some r) :
    r.Linked s.Has := by
  obtain ⟨e, he, rfl⟩ := get?_eq_some_iff.mp hr
  exact (h _ e he).linked

/-! ## Growing stores -/

/-- Everything stored is still there, with what the server has settled unchanged. -/
def Grows (s t : Store) : Prop :=
  ∀ a e, s.at? a = some e →
    ∃ e', t.at? a = some e' ∧ e'.resource.serverPart = e.resource.serverPart

theorem Grows.refl (s : Store) : s.Grows s := fun _ e he => ⟨e, he, rfl⟩

theorem Grows.trans (hst : s.Grows t) (htu : t.Grows u) : s.Grows u := by
  intro a e he
  obtain ⟨e', he', hserver⟩ := hst a e he
  obtain ⟨e'', he'', hserver'⟩ := htu a e' he'
  exact ⟨e'', he'', hserver'.trans hserver⟩

/-- What was stored is still stored. -/
theorem Grows.has (h : s.Grows t) (hs : s.Has kind id) : t.Has kind id := by
  rw [has_iff, Option.isSome_iff_exists] at hs
  obtain ⟨e, he⟩ := hs
  obtain ⟨e', he', -⟩ := h _ e he
  rw [has_iff, he']
  rfl

/-- A stored resource is found again with what the server has settled. -/
theorem Grows.get? (h : s.Grows t) (hr : s.get? kind id = some r) :
    ∃ r', t.get? kind id = some r' ∧ r'.serverPart = r.serverPart := by
  obtain ⟨e, he, rfl⟩ := get?_eq_some_iff.mp hr
  obtain ⟨e', he', hserver⟩ := h _ e he
  exact ⟨e'.resource, get?_eq_some_iff.mpr ⟨e', he', rfl⟩, hserver⟩

theorem Inserted.grows (h : s.Inserted t batch) : s.Grows t :=
  fun _ e he => ⟨e, h.at?_of_some he, rfl⟩

/-- What is stored or part of a batch is stored once the batch was inserted. -/
theorem Inserted.has (h : s.Inserted t batch) (hs : s.HasWith batch kind id) : t.Has kind id := by
  rcases hs with hs | ⟨r, hr, haddress⟩
  · exact h.grows.has hs
  · rw [has_iff, ← haddress, h.there r hr]
    rfl

/-- A sound store after a batch was inserted whose members are settled, and linked as far as
they refer to what is stored or to each other. -/
theorem Sound.of_inserted (h : s.Sound version limit) (ht : s.Inserted t batch)
    (hbatch : ∀ r ∈ batch, r.Settled version limit ∧ r.Linked (s.HasWith batch)) :
    t.Sound version limit := by
  intro a e he
  rcases ht.cases he with he | ⟨r, hr, rfl, rfl⟩
  · have hsound := h a e he
    exact { hsound with linked := hsound.linked.mono fun _ _ => ht.grows.has }
  · obtain ⟨hsettled, hlinked⟩ := hbatch r hr
    exact ⟨rfl, rfl, ht.assigned r hr, hsettled, hlinked.mono fun _ _ => ht.has⟩

/-- A store where one entry has been replaced by another with the same server part. -/
theorem grows_of_replaced {a : Address} {e : Entry} (e' : Entry) (he : s.at? a = some e)
    (hserver : e'.resource.serverPart = e.resource.serverPart)
    (ht : ∀ b, t.at? b = if b = a then some e' else s.at? b) : s.Grows t := by
  intro b eb hb
  rw [ht b]
  by_cases hba : b = a
  · subst hba
    rw [he] at hb
    cases hb
    exact ⟨e', if_pos rfl, hserver⟩
  · exact ⟨eb, by rw [if_neg hba, hb], rfl⟩

/-- A sound store where one entry has been replaced by a sound one with the same server part is
sound, and has lost nothing. -/
theorem Sound.of_replaced {a : Address} {e : Entry} (h : s.Sound version limit) (e' : Entry)
    (he : s.at? a = some e) (hserver : e'.resource.serverPart = e.resource.serverPart)
    (ht : ∀ b, t.at? b = if b = a then some e' else s.at? b)
    (he' : e'.Sound version limit s.Has a) : t.Sound version limit ∧ s.Grows t := by
  have hgrows : s.Grows t := grows_of_replaced e' he hserver ht
  have hhas : ∀ kind id, s.Has kind id → t.Has kind id := fun _ _ => hgrows.has
  refine ⟨fun b eb hb => ?_, hgrows⟩
  rw [ht b] at hb
  by_cases hba : b = a
  · rw [if_pos hba] at hb
    cases hb
    subst hba
    exact { he' with linked := he'.linked.mono hhas }
  · -- the other entries stand where they stood, and refer to what is still there
    rw [if_neg hba] at hb
    have heb := h b eb hb
    exact { heb with linked := heb.linked.mono hhas }

end Store

/-! ## Lawful writes -/

/-- The calls that keep a store sound. What is asked of a batch is asked only if its ids are
assigned; otherwise the store refuses it. -/
def Call.Lawful (version : String) (limit : UInt32) (s : Store) : Call → Prop
  | .insert batch => (∀ r ∈ batch, r.id.isAssigned = true) →
      ∀ r ∈ batch, r.Settled version limit ∧ r.Linked (s.HasWith batch)
  | .setSpec r => r.Settled version limit ∧ r.Linked s.Has ∧
      ∃ stored, s.get? r.kind r.id = some stored ∧ stored.serverPart = r.serverPart
  | .setStatus _ _ status => status.phase ≠ ""
  | _ => True

section

variable {version : String} {limit : UInt32} {s : State} {c : Call}

/-- A lawful call leaves a sound store sound, and takes nothing away from it. -/
theorem Call.Lawful.answer (hs : s.store.Sound version limit)
    (hc : c.Lawful version limit s.store) :
    (c.answer s).2.store.Sound version limit ∧ s.store.Grows (c.answer s).2.store := by
  cases c with
  | get kind id => exact ⟨hs, .refl _⟩
  | list kind filter => exact ⟨hs, .refl _⟩
  | drawId => exact ⟨hs, .refl _⟩
  | insert batch =>
    rcases Call.answer_insert s batch with ⟨e, hanswer⟩ | ⟨t, hanswer, ht⟩
    · rw [hanswer]
      exact ⟨hs, .refl _⟩
    · rw [hanswer]
      exact ⟨hs.of_inserted ht (hc ht.assigned), ht.grows⟩
  | setSpec r =>
    obtain ⟨hsettled, hlinked, stored, hstored, hserver⟩ := hc
    rcases Call.answer_setSpec s r with ⟨-, hanswer⟩ | ⟨e, t, he, hanswer, ht⟩
    · rw [hanswer]
      exact ⟨hs, .refl _⟩
    · rw [hanswer]
      obtain ⟨e', he', rfl⟩ := Store.get?_eq_some_iff.mp hstored
      obtain rfl : e' = e := Option.some.inj (he'.symm.trans he)
      have hsound := hs _ _ he
      -- the status that is stored takes the place of the one that was written
      refine hs.of_replaced _ he hserver.symm ht ?_
      exact ⟨rfl, rfl, hsound.assigned, hsettled.withStatus hsound.settled.observed,
        hlinked.withStatus _⟩
  | setStatus kind id status =>
    rcases Call.answer_setStatus s kind id status with ⟨-, hanswer⟩ | ⟨e, t, he, hanswer, ht⟩
    · rw [hanswer]
      exact ⟨hs, .refl _⟩
    · rw [hanswer]
      have hsound := hs _ _ he
      refine hs.of_replaced ⟨e.resource.withStatus status, e.parents⟩ he rfl ht ?_
      exact ⟨hsound.filed, hsound.indexed, hsound.assigned, hsound.settled.withStatus hc,
        hsound.linked.withStatus _⟩

end

/-- Whether a call may change the store. -/
def Call.writes : Call → Bool
  | .insert _ | .setSpec _ | .setStatus _ _ _ => true
  | _ => false

/-- The contract under which requests share a store. A request makes lawful calls only, and of
the calls that write only its own. -/
def sharedStore (version : String) (limit : UInt32) (own : Call → Prop) : Contract where
  inv s := s.store.Sound version limit
  leads s t := s.store.Grows t.store
  may s c := c.Lawful version limit s.store ∧ (c.writes = true → own c)
  leads_refl s := .refl s.store
  leads_trans hst htu := hst.trans htu
  inv_answer hs hc := (hc.1.answer hs).1
  leads_answer hs hc := (hc.1.answer hs).2
  may_get _ _ _ := ⟨trivial, nofun⟩
  may_list _ _ _ := ⟨trivial, nofun⟩
  may_drawId _ := ⟨trivial, nofun⟩

end ClusterRegistry
