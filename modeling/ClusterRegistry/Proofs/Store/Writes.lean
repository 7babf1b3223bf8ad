import ClusterRegistry.Proofs.Table.Entries
import ClusterRegistry.Store.Script

/-!
# What each write does to the store

A store is looked at through `Store.at?`: what stands at an address, the resource together
with its parents. Each of the three writes gets one statement that says what stands where
afterwards; nothing later looks at the table behind a store again.

* a batch that is accepted stands at addresses where nothing stood before, and nothing else has
  changed (`Store.Inserted`);
* a spec or a status that is written changes the entry at one address (`at?_of_setSpec`,
  `at?_of_setStatus`).
-/

namespace ClusterRegistry

namespace Table

variable {κ : Type} [Ord κ] {α : Type}

/-- Reading after a write, for keys that compare as equal only if they are. -/
theorem get?_insert_eq [Std.TransOrd κ] [Std.LawfulEqOrd κ] [DecidableEq κ] (t : Table κ α)
    (k k' : κ) (v : α) : (t.insert k v).get? k' = if k' = k then some v else t.get? k' := by
  rw [get?_insert]
  by_cases h : k' = k
  · rw [if_pos h, if_pos (h ▸ Std.compare_self)]
  · rw [if_neg h, if_neg (fun he => h (Std.LawfulEqOrd.eq_of_compare he))]

/-- A key that leads to a value is among the keys. -/
theorem mem_keys_iff [Std.TransOrd κ] [Std.LawfulEqOrd κ] (t : Table κ α) (k : κ) :
    k ∈ t.keys ↔ (t.get? k).isSome = true := by
  unfold keys get?
  induction t.entries with
  | nil => simp [lookup]
  | cons e rest ih =>
    rw [List.map_cons, List.mem_cons, lookup, ih]
    by_cases h : compare k e.1 = .eq
    · simp [Std.LawfulEqOrd.eq_of_compare h]
    · have hne : k ≠ e.1 := fun he => h (he ▸ Std.compare_self)
      simp [h, hne]

/-- No key occurs twice. -/
theorem keys_nodup [Std.TransOrd κ] (t : Table κ α) : t.keys.Nodup :=
  nodup_keys_of_ascending t.ascending

end Table

namespace Store

variable {s t : Store} {r : Resource} {batch : List Resource}

/-! ## Looking at a store -/

/-- What stands at an address. -/
def at? (s : Store) (a : Address) : Option Entry := s.table.get? a

/-- Whether a resource of a kind is stored under an id. -/
def Has (s : Store) (kind : Kind) (id : Id) : Prop := (s.get? kind id).isSome = true

/-- The addresses where something stands. -/
def addresses (s : Store) : List Address := s.table.keys

theorem get?_eq_map_at? (s : Store) (kind : Kind) (id : Id) :
    s.get? kind id = (s.at? ⟨kind, id⟩).map (·.resource) := rfl

theorem get?_eq_some_iff {kind : Kind} {id : Id} :
    s.get? kind id = some r ↔ ∃ e, s.at? ⟨kind, id⟩ = some e ∧ e.resource = r := by
  rw [get?_eq_map_at?, Option.map_eq_some_iff]

theorem has_iff (s : Store) (kind : Kind) (id : Id) :
    s.Has kind id ↔ (s.at? ⟨kind, id⟩).isSome = true := by
  rw [Has, get?_eq_map_at?, Option.isSome_map]

theorem mem_addresses_iff (s : Store) (a : Address) :
    a ∈ s.addresses ↔ (s.at? a).isSome = true :=
  s.table.mem_keys_iff a

theorem addresses_nodup (s : Store) : s.addresses.Nodup := s.table.keys_nodup

@[simp] theorem at?_put (s : Store) (r : Resource) (a : Address) :
    (s.put r).at? a = if a = r.address then some (.ofResource r) else s.at? a :=
  s.table.get?_insert_eq r.address a _

/-! ## Inserting a batch -/

/-- A batch is not refused exactly if its ids are assigned, new among each other and among the
earlier ones, and free under their kinds. -/
theorem refusal_eq_none_iff (s : Store) (earlier : List Id) (batch : List Resource) :
    s.refusal earlier batch = none ↔
      (∀ r ∈ batch, r.id.isAssigned = true ∧ s.at? r.address = none ∧ r.id ∉ earlier) ∧
        (batch.map (·.id)).Nodup := by
  induction batch generalizing earlier with
  | nil => simp [refusal]
  | cons r rest ih =>
    have hfree : (s.get? r.kind r.id).isSome = (s.at? r.address).isSome := by
      rw [get?_eq_map_at?, Option.isSome_map]; rfl
    rw [refusal, hfree]
    by_cases ha : r.id.isAssigned = true
    · rw [if_neg (by simp [ha])]
      by_cases ht : s.at? r.address = none ∧ r.id ∉ earlier
      · rw [if_neg (by simp [ht.1, ht.2]), ih]
        simp only [List.mem_cons, not_or, List.map_cons, List.nodup_cons, List.mem_map,
          forall_eq_or_imp]
        -- both sides ask the same of the rest, but for where its ids must differ from this one
        constructor
        · rintro ⟨hrest, hnodup⟩
          refine ⟨⟨⟨ha, ht⟩, fun q hq => ?_⟩, ?_, hnodup⟩
          · exact ⟨(hrest q hq).1, (hrest q hq).2.1, (hrest q hq).2.2.2⟩
          · rintro ⟨q, hq, hid⟩
            exact (hrest q hq).2.2.1 hid
        · rintro ⟨⟨-, hrest⟩, hout, hnodup⟩
          refine ⟨fun q hq => ?_, hnodup⟩
          exact ⟨(hrest q hq).1, (hrest q hq).2.1, fun hid => hout ⟨q, hq, hid⟩, (hrest q hq).2.2⟩
      · -- something stands at the address, or the id has occurred before
        have htaken : ((s.at? r.address).isSome || earlier.contains r.id) = true := by
          rw [Bool.or_eq_true, List.contains_iff_mem, Option.isSome_iff_ne_none]
          by_cases hnone : s.at? r.address = none
          · exact .inr (Classical.not_not.mp fun hout => ht ⟨hnone, hout⟩)
          · exact .inl hnone
        rw [if_pos htaken]
        exact iff_of_false (by simp) fun hall => ht (hall.1 r List.mem_cons_self).2
    · rw [if_pos (by simpa using ha)]
      exact iff_of_false (by simp) fun hall => ha (hall.1 r List.mem_cons_self).1

/-- A store is another one with a batch put at addresses where nothing stood. -/
structure Inserted (s t : Store) (batch : List Resource) : Prop where
  assigned : ∀ r ∈ batch, r.id.isAssigned = true
  free : ∀ r ∈ batch, s.at? r.address = none
  distinct : (batch.map (·.id)).Nodup
  there : ∀ r ∈ batch, t.at? r.address = some (.ofResource r)
  elsewhere : ∀ a, (∀ r ∈ batch, a ≠ r.address) → t.at? a = s.at? a

/-- Resources that are put one after the other change nothing at other addresses. -/
theorem at?_foldl_put_of_ne (s : Store) {a : Address} (h : ∀ r ∈ batch, a ≠ r.address) :
    (batch.foldl put s).at? a = s.at? a := by
  induction batch generalizing s with
  | nil => rfl
  | cons r rest ih =>
    rw [List.foldl_cons, ih _ fun q hq => h q (List.mem_cons_of_mem _ hq), at?_put,
      if_neg (h r List.mem_cons_self)]

/-- Of resources with distinct ids that are put one after the other, each is found. -/
theorem at?_foldl_put_of_mem (s : Store) (hids : (batch.map (·.id)).Nodup)
    (hr : r ∈ batch) : (batch.foldl put s).at? r.address = some (.ofResource r) := by
  induction batch generalizing s with
  | nil => cases hr
  | cons q rest ih =>
    rw [List.map_cons, List.nodup_cons] at hids
    rw [List.foldl_cons]
    rcases List.mem_cons.mp hr with rfl | hr
    · -- whatever is put later has another id, and so another address
      rw [at?_foldl_put_of_ne, at?_put, if_pos rfl]
      intro q hq he
      exact hids.1 (List.mem_map.mpr ⟨q, hq, (congrArg Address.id he).symm⟩)
    · exact ih _ hids.2 hr

/-- What an accepted batch leaves behind. -/
theorem inserted_of_insert (h : s.insert batch = .ok t) : s.Inserted t batch := by
  unfold insert at h
  split at h
  · cases h
  · rename_i hnone
    cases h
    obtain ⟨hall, hids⟩ := (s.refusal_eq_none_iff [] batch).mp hnone
    exact ⟨fun r hr => (hall r hr).1, fun r hr => (hall r hr).2.1, hids,
      fun r hr => at?_foldl_put_of_mem s hids hr, fun a ha => at?_foldl_put_of_ne s ha⟩

/-- A batch of resources with assigned and distinct ids that are free under their kinds is
accepted. -/
theorem insert_of_free (hassigned : ∀ r ∈ batch, r.id.isAssigned = true)
    (hfree : ∀ r ∈ batch, s.at? r.address = none) (hids : (batch.map (·.id)).Nodup) :
    ∃ t, s.insert batch = .ok t := by
  have hnone : s.refusal [] batch = none :=
    (s.refusal_eq_none_iff [] batch).mpr
      ⟨fun r hr => ⟨hassigned r hr, hfree r hr, List.not_mem_nil⟩, hids⟩
  exact ⟨_, by rw [insert, hnone]⟩

/-- What stood somewhere before a batch was inserted still stands there. -/
theorem Inserted.at?_of_some (h : s.Inserted t batch) {a : Address} {e : Entry}
    (he : s.at? a = some e) : t.at? a = some e := by
  rw [h.elsewhere a, he]
  rintro r hr rfl
  rw [h.free r hr] at he
  cases he

/-- Where something stands after a batch was inserted, it stood there before or is part of the
batch. -/
theorem Inserted.cases (h : s.Inserted t batch) {a : Address} {e : Entry}
    (he : t.at? a = some e) :
    s.at? a = some e ∨ ∃ r ∈ batch, a = r.address ∧ e = .ofResource r := by
  by_cases hb : ∃ r ∈ batch, a = r.address
  · obtain ⟨r, hr, rfl⟩ := hb
    rw [h.there r hr] at he
    cases he
    exact .inr ⟨r, hr, rfl, rfl⟩
  · rw [h.elsewhere a fun r hr ha => hb ⟨r, hr, ha⟩] at he
    exact .inl he

/-- The addresses after a batch was inserted. -/
theorem Inserted.at?_isSome_iff (h : s.Inserted t batch) (a : Address) :
    (t.at? a).isSome = true ↔ (s.at? a).isSome = true ∨ a ∈ batch.map (·.address) := by
  constructor
  · intro ht
    obtain ⟨e, he⟩ := Option.isSome_iff_exists.mp ht
    rcases h.cases he with hs | ⟨r, hr, rfl, -⟩
    · exact .inl (by rw [hs]; rfl)
    · exact .inr (List.mem_map.mpr ⟨r, hr, rfl⟩)
  · rintro (hs | hb)
    · obtain ⟨e, he⟩ := Option.isSome_iff_exists.mp hs
      rw [h.at?_of_some he]; rfl
    · obtain ⟨r, hr, rfl⟩ := List.mem_map.mp hb
      rw [h.there r hr]; rfl

/-! ## Writing a spec or a status -/

/-- What a written spec leaves behind: the status that was stored, and everything else as it was
written. -/
theorem at?_of_setSpec {merged : Resource} (h : s.setSpec r = some (merged, t)) :
    ∃ e, s.at? r.address = some e ∧ merged = r.withStatus e.resource.status ∧
      ∀ a, t.at? a = if a = r.address then some (.ofResource merged) else s.at? a := by
  rw [setSpec, get?_eq_map_at?, Option.map_map, Option.map_eq_some_iff] at h
  obtain ⟨e, he, heq⟩ := h
  obtain ⟨rfl, rfl⟩ := Prod.mk.inj heq
  exact ⟨e, he, rfl, fun a => at?_put s _ a⟩

/-- A spec is written where a resource stands. -/
theorem setSpec_of_at? {e : Entry} (h : s.at? r.address = some e) :
    ∃ merged t, s.setSpec r = some (merged, t) := by
  have hget : s.get? r.kind r.id = some e.resource := get?_eq_some_iff.mpr ⟨e, h, rfl⟩
  exact ⟨_, _, by rw [setSpec, hget]; rfl⟩

/-- What a written status leaves behind: the entry at the address with the status replaced. -/
theorem at?_of_setStatus {kind : Kind} {id : Id} {status : Status} {changed : Resource}
    (h : s.setStatus kind id status = some (changed, t)) :
    ∃ e, s.at? ⟨kind, id⟩ = some e ∧ changed = e.resource.withStatus status ∧
      ∀ a, t.at? a =
        if a = ⟨kind, id⟩ then some ⟨changed, e.parents⟩ else s.at? a := by
  rw [setStatus, Option.map_eq_some_iff] at h
  obtain ⟨e, he, heq⟩ := h
  obtain ⟨rfl, rfl⟩ := Prod.mk.inj heq
  exact ⟨e, he, rfl, fun a => s.table.get?_insert_eq _ a _⟩

/-- Where one entry was replaced nothing stands where nothing stood. -/
theorem isSome_of_replaced {a b : Address} {e e' : Entry} (he : s.at? a = some e)
    (ht : ∀ b, t.at? b = if b = a then some e' else s.at? b) (hb : (t.at? b).isSome = true) :
    (s.at? b).isSome = true := by
  rw [ht b] at hb
  split at hb
  · next heq =>
    rw [heq, he]
    rfl
  · exact hb

end Store

/-! ## Calls

What the three calls that write can answer, and the state they leave behind. -/

namespace Call

/-- A batch is refused and nothing has changed, or it stands in the store. -/
theorem answer_insert (s : State) (batch : List Resource) :
    (∃ e, (insert batch).answer s = (.error e, s)) ∨
      ∃ t, (insert batch).answer s = (.ok (), { s with store := t }) ∧
        s.store.Inserted t batch := by
  cases h : s.store.insert batch with
  | error e => exact .inl ⟨e, by simp only [answer, h]⟩
  | ok t => exact .inr ⟨t, by simp only [answer, h], Store.inserted_of_insert h⟩

/-- A spec is written where a resource stands, and keeps the status that stands there. -/
theorem answer_setSpec (s : State) (r : Resource) :
    (s.store.at? r.address = none ∧ (setSpec r).answer s = (none, s)) ∨
      ∃ e t, s.store.at? r.address = some e ∧
        (setSpec r).answer s = (some (r.withStatus e.resource.status), { s with store := t }) ∧
        ∀ a, t.at? a =
          if a = r.address then some (.ofResource (r.withStatus e.resource.status))
          else s.store.at? a := by
  cases h : s.store.setSpec r with
  | none =>
    refine .inl ⟨?_, by simp only [answer, h]; rfl⟩
    cases he : s.store.at? r.address with
    | none => rfl
    | some e =>
      -- here the spec would have been written
      obtain ⟨merged, t, hm⟩ := Store.setSpec_of_at? he
      rw [h] at hm
      cases hm
  | some p =>
    obtain ⟨e, he, hmerged, ht⟩ := Store.at?_of_setSpec h
    refine .inr ⟨e, p.2, he, by simp only [answer, h, hmerged]; rfl, ?_⟩
    rw [← hmerged]
    exact ht

/-- A status is written where a resource stands, and everything else there is kept. -/
theorem answer_setStatus (s : State) (kind : Kind) (id : Id) (status : Status) :
    (s.store.at? ⟨kind, id⟩ = none ∧ (setStatus kind id status).answer s = (none, s)) ∨
      ∃ e t, s.store.at? ⟨kind, id⟩ = some e ∧
        (setStatus kind id status).answer s =
          (some (e.resource.withStatus status), { s with store := t }) ∧
        ∀ a, t.at? a =
          if a = ⟨kind, id⟩ then some ⟨e.resource.withStatus status, e.parents⟩
          else s.store.at? a := by
  cases h : s.store.setStatus kind id status with
  | none =>
    refine .inl ⟨?_, by simp only [answer, h]; rfl⟩
    rwa [Store.setStatus, Option.map_eq_none_iff] at h
  | some p =>
    obtain ⟨e, he, hchanged, ht⟩ := Store.at?_of_setStatus h
    refine .inr ⟨e, p.2, he, by simp only [answer, h, hchanged]; rfl, ?_⟩
    rw [← hchanged]
    exact ht

end Call

end ClusterRegistry
