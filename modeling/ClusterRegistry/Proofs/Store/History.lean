import Mathlib.Data.List.Nodup
import ClusterRegistry.Proofs.Store.Sound

/-!
# What is stored, told by its history

Of the three parts of a stored resource each has calls that write it: its status is written with
the resource or by itself, the part of the client with the resource or as a spec, and what the
server settles with the resource alone. So each part is that of the last such call, and if there
was none, what it was in the beginning. Here this is shown for one call, whoever makes it.
-/

namespace ClusterRegistry

/-! ## What a call has written -/

namespace Call

/-- The resources that a call has stored. -/
def created : (c : Call) → c.Reply → List Resource
  | insert batch, .ok _ => batch
  | _, _ => []

/-- The resource that a call has stored at an address. -/
def createdAt (a : Address) (c : Call) (reply : c.Reply) : Option Resource :=
  (c.created reply).find? fun r => decide (r.address = a)

/-- The resource whose spec a call has written at an address. -/
def specAt (a : Address) : (c : Call) → c.Reply → Option Resource
  | setSpec r, some _ => if r.address = a then some r else none
  | _, _ => none

/-- The status that a call has written at an address, by itself. -/
def statusAt (a : Address) : (c : Call) → c.Reply → Option Status
  | setStatus kind id status, some _ => if ⟨kind, id⟩ = a then some status else none
  | _, _ => none

end Call

/-- A call that was made, by whom, and what was replied. -/
structure Event where
  caller : Nat
  call : Call
  reply : call.Reply

namespace Event

/-- The status that an event has left at an address, if it has written it. -/
def status? (a : Address) (e : Event) : Option Status :=
  (e.call.statusAt a e.reply).or ((e.call.createdAt a e.reply).map (·.status))

/-- The part of the client that an event has left at an address, if it has written it. -/
def clientPart? (a : Address) (e : Event) : Option ClientPart :=
  ((e.call.specAt a e.reply).map (·.clientPart)).or
    ((e.call.createdAt a e.reply).map (·.clientPart))

/-- The part of the server that an event has left at an address, if it has written it. -/
def serverPart? (a : Address) (e : Event) : Option ServerPart :=
  (e.call.createdAt a e.reply).map (·.serverPart)

/-- The addresses at which an event has stored something new. -/
def newAddresses (e : Event) : List Address := (e.call.created e.reply).map (·.address)

end Event

/-! ## Inserted batches -/

namespace Store

variable {s t : Store} {batch : List Resource}

/-- The resource at an address. -/
def resourceAt (s : Store) (a : Address) : Option Resource := s.get? a.kind a.id

theorem resourceAt_of_at? {a : Address} {e : Entry} (h : s.at? a = some e) :
    s.resourceAt a = some e.resource :=
  get?_eq_some_iff.mpr ⟨e, h, rfl⟩

theorem resourceAt_congr {a : Address} (h : t.at? a = s.at? a) :
    t.resourceAt a = s.resourceAt a := by
  show (t.at? a).map (·.resource) = (s.at? a).map (·.resource)
  rw [h]

/-- After a batch was inserted, what is found at an address is part of the batch or was there
before. -/
theorem Inserted.resourceAt_eq (h : s.Inserted t batch) (a : Address) :
    t.resourceAt a = (batch.find? fun r => decide (r.address = a)).or (s.resourceAt a) := by
  cases hfind : batch.find? fun r => decide (r.address = a) with
  | none =>
    refine resourceAt_congr (h.elsewhere a fun r hr ha => ?_)
    rw [List.find?_eq_none] at hfind
    exact hfind r hr (decide_eq_true ha.symm)
  | some r =>
    have ha : r.address = a := of_decide_eq_true (List.find?_some hfind :)
    rw [← ha]
    exact resourceAt_of_at? (h.there r (List.mem_of_find?_eq_some hfind))

/-- An inserted batch adds its addresses, each once. -/
theorem Inserted.addresses_perm (h : s.Inserted t batch) :
    t.addresses.Perm (s.addresses ++ batch.map (·.address)) := by
  have hbatch : (batch.map (·.address)).Nodup := by
    refine List.Nodup.of_map Address.id ?_
    rw [List.map_map]
    exact h.distinct
  have hdisjoint : s.addresses.Disjoint (batch.map (·.address)) := by
    intro a hs hmem
    obtain ⟨r, hr, rfl⟩ := List.mem_map.mp hmem
    rw [mem_addresses_iff, h.free r hr] at hs
    cases hs
  -- neither list has an address twice, so it is enough that they have the same ones
  rw [List.perm_ext_iff_of_nodup t.addresses_nodup
    (s.addresses_nodup.append hbatch hdisjoint)]
  intro a
  rw [List.mem_append, mem_addresses_iff, mem_addresses_iff, h.at?_isSome_iff]

/-- Where one entry was replaced there are the same addresses as before. -/
theorem addresses_perm_of_replaced {a : Address} {e e' : Entry} (he : s.at? a = some e)
    (ht : ∀ b, t.at? b = if b = a then some e' else s.at? b) : t.addresses.Perm s.addresses := by
  rw [List.perm_ext_iff_of_nodup t.addresses_nodup s.addresses_nodup]
  intro b
  rw [mem_addresses_iff, mem_addresses_iff, ht b]
  by_cases hb : b = a
  · rw [if_pos hb, hb, he]
    rfl
  · rw [if_neg hb]

variable {α : Type} {a : Address} {e e' : Entry}

/-- A part of a resource after the entry at one address was replaced. -/
theorem map_resourceAt_of_replaced (part : Resource → α)
    (ht : ∀ b, t.at? b = if b = a then some e' else s.at? b) (b : Address) :
    (t.resourceAt b).map part =
      if a = b then some (part e'.resource) else (s.resourceAt b).map part := by
  by_cases hb : b = a
  · have hat : t.at? b = some e' := by rw [ht b, if_pos hb]
    rw [if_pos hb.symm, resourceAt_of_at? hat]
    rfl
  · have hat : t.at? b = s.at? b := by rw [ht b, if_neg hb]
    rw [if_neg (Ne.symm hb), resourceAt_congr hat]

/-- A part that the new entry has from the old one is what it was, at every address. -/
theorem map_resourceAt_of_kept (part : Resource → α) (he : s.at? a = some e)
    (ht : ∀ b, t.at? b = if b = a then some e' else s.at? b)
    (hkept : part e'.resource = part e.resource) (b : Address) :
    (t.resourceAt b).map part = (s.resourceAt b).map part := by
  rw [map_resourceAt_of_replaced part ht b]
  split
  · next heq => rw [← heq, resourceAt_of_at? he, hkept, Option.map_some]
  · rfl

end Store

/-! ## One call -/

namespace Call

section

variable {α : Type} (part : Resource → α) (s : State) (a : Address)

/-- Every part of an inserted resource is that with which it was inserted. -/
theorem resourceAt_insert (batch : List Resource) :
    (((insert batch).answer s).2.store.resourceAt a).map part =
      (((insert batch).createdAt a ((insert batch).answer s).1).map part).or
        ((s.store.resourceAt a).map part) := by
  rcases Call.answer_insert s batch with ⟨e, hanswer⟩ | ⟨t, hanswer, ht⟩
  · rw [hanswer]
    rfl
  · rw [hanswer, ht.resourceAt_eq a, Option.map_or]
    rfl

/-- A part that a written spec has is written with it. -/
theorem resourceAt_setSpec (r : Resource) (hpart : ∀ status, part (r.withStatus status) = part r) :
    (((setSpec r).answer s).2.store.resourceAt a).map part =
      (((setSpec r).specAt a ((setSpec r).answer s).1).map part).or
        ((s.store.resourceAt a).map part) := by
  rcases Call.answer_setSpec s r with ⟨-, hanswer⟩ | ⟨e, t, he, hanswer, ht⟩
  · rw [hanswer]
    rfl
  · rw [hanswer, Store.map_resourceAt_of_replaced part ht]
    show _ = ((if r.address = a then some r else none).map part).or _
    by_cases heq : r.address = a
    · rw [if_pos heq, if_pos heq]
      exact congrArg some (hpart e.resource.status)
    · rw [if_neg heq, if_neg heq]
      rfl

/-- A part that a written spec has as it was stored is kept. -/
theorem resourceAt_setSpec_of_kept (r : Resource)
    (hkept : ∀ stored, s.store.resourceAt r.address = some stored →
      part (r.withStatus stored.status) = part stored) :
    (((setSpec r).answer s).2.store.resourceAt a).map part = (s.store.resourceAt a).map part := by
  rcases Call.answer_setSpec s r with ⟨-, hanswer⟩ | ⟨e, t, he, hanswer, ht⟩
  · rw [hanswer]
  · rw [hanswer]
    exact Store.map_resourceAt_of_kept part he ht (hkept _ (Store.resourceAt_of_at? he)) a

/-- A status is written by itself. -/
theorem resourceAt_setStatus (kind : Kind) (id : Id) (status : Status) :
    (((setStatus kind id status).answer s).2.store.resourceAt a).map (·.status) =
      ((setStatus kind id status).statusAt a ((setStatus kind id status).answer s).1).or
        ((s.store.resourceAt a).map (·.status)) := by
  rcases Call.answer_setStatus s kind id status with ⟨-, hanswer⟩ | ⟨e, t, he, hanswer, ht⟩
  · rw [hanswer]
    rfl
  · rw [hanswer, Store.map_resourceAt_of_replaced _ ht]
    show _ = (if ⟨kind, id⟩ = a then some status else none).or _
    by_cases heq : ⟨kind, id⟩ = a
    · rw [if_pos heq, if_pos heq]
      rfl
    · rw [if_neg heq, if_neg heq]
      rfl

/-- All parts but the status are kept when a status is written. -/
theorem resourceAt_setStatus_of_kept (kind : Kind) (id : Id) (status : Status)
    (hkept : ∀ stored : Resource, part (stored.withStatus status) = part stored) :
    (((setStatus kind id status).answer s).2.store.resourceAt a).map part =
      (s.store.resourceAt a).map part := by
  rcases Call.answer_setStatus s kind id status with ⟨-, hanswer⟩ | ⟨e, t, he, hanswer, ht⟩
  · rw [hanswer]
  · rw [hanswer]
    exact Store.map_resourceAt_of_kept part he ht (hkept e.resource) a

end

variable (c : Call) (s : State) (caller : Nat) (a : Address)

/-- The event that a call makes. -/
def event : Event := ⟨caller, c, (c.answer s).1⟩

/-- After a call a resource has the status that was written, or else the one it had. -/
theorem status_answer :
    ((c.answer s).2.store.resourceAt a).map (·.status) =
      ((c.event s caller).status? a).or ((s.store.resourceAt a).map (·.status)) := by
  cases c with
  | get kind id => rfl
  | list kind filter => rfl
  | drawId => rfl
  | insert batch => exact resourceAt_insert _ s a batch
  | setSpec r => exact resourceAt_setSpec_of_kept _ s a r fun _ _ => rfl
  | setStatus kind id status =>
    refine (resourceAt_setStatus s a kind id status).trans ?_
    rw [Event.status?, Option.or_assoc]
    rfl

/-- After a call a resource has the part of the client that was written, or else the one it
had. -/
theorem clientPart_answer :
    ((c.answer s).2.store.resourceAt a).map (·.clientPart) =
      ((c.event s caller).clientPart? a).or ((s.store.resourceAt a).map (·.clientPart)) := by
  cases c with
  | get kind id => rfl
  | list kind filter => rfl
  | drawId => rfl
  | insert batch => exact resourceAt_insert _ s a batch
  | setSpec r =>
    refine (resourceAt_setSpec _ s a r fun _ => rfl).trans ?_
    rw [Event.clientPart?, Option.or_assoc]
    rfl
  | setStatus kind id status =>
    exact resourceAt_setStatus_of_kept _ s a kind id status fun _ => rfl

/-- After a lawful call a resource has the part of the server that it had, or was stored with. -/
theorem serverPart_answer {version : String} {limit : UInt32}
    (hc : c.Lawful version limit s.store) :
    ((c.answer s).2.store.resourceAt a).map (·.serverPart) =
      ((c.event s caller).serverPart? a).or ((s.store.resourceAt a).map (·.serverPart)) := by
  cases c with
  | get kind id => rfl
  | list kind filter => rfl
  | drawId => rfl
  | insert batch => exact resourceAt_insert _ s a batch
  | setSpec r =>
    obtain ⟨-, -, stored, hstored, hserver⟩ := hc
    -- the written copy has the same part of the server as what it is written over
    refine resourceAt_setSpec_of_kept _ s a r fun stored' hstored' => ?_
    obtain rfl : stored = stored' := Option.some.inj (hstored.symm.trans hstored')
    exact hserver.symm
  | setStatus kind id status =>
    exact resourceAt_setStatus_of_kept _ s a kind id status fun _ => rfl

/-- A call loses no address, and adds each of its own once. -/
theorem addresses_answer :
    (c.answer s).2.store.addresses.Perm
      (s.store.addresses ++ (c.event s caller).newAddresses) := by
  have hsame : s.store.addresses.Perm (s.store.addresses ++ []) := by rw [List.append_nil]
  unfold event
  cases c with
  | get kind id => exact hsame
  | list kind filter => exact hsame
  | drawId => exact hsame
  | insert batch =>
    rcases Call.answer_insert s batch with ⟨e, hanswer⟩ | ⟨t, hanswer, ht⟩
    · rw [hanswer]
      exact hsame
    · rw [hanswer]
      exact ht.addresses_perm
  | setSpec r =>
    rcases Call.answer_setSpec s r with ⟨-, hanswer⟩ | ⟨e, t, he, hanswer, ht⟩
    · rw [hanswer]
      exact hsame
    · rw [hanswer]
      exact (Store.addresses_perm_of_replaced he ht).trans hsame
  | setStatus kind id status =>
    rcases Call.answer_setStatus s kind id status with ⟨-, hanswer⟩ | ⟨e, t, he, hanswer, ht⟩
    · rw [hanswer]
      exact hsame
    · rw [hanswer]
      exact (Store.addresses_perm_of_replaced he ht).trans hsame

end Call

end ClusterRegistry
