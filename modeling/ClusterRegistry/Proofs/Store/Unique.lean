import ClusterRegistry.Proofs.Store.Contents

/-!
# Ids across kinds

The store keeps resources by kind and id. A batch in which an id occurs twice is refused, whatever
the kinds, and so is a batch with an id that is taken under the same kind. But a batch with an id
that is taken under another kind is stored (`Store.Clashes`), and then the id stands at two
addresses. Nothing else brings this about, and nothing takes it back: after any calls ids are unique
exactly if no batch has clashed (`ids_unique_iff`).
-/

namespace ClusterRegistry

/-- No id stands at two addresses. -/
def Store.IdsDistinct (s : Store) : Prop :=
  ∀ a b, (s.at? a).isSome = true → (s.at? b).isSome = true → a.id = b.id → a = b

namespace Store

variable {s t : Store} {batch : List Resource} {r q : Resource}

/-- Whether a resource is stored, wherever that may be. -/
def Holds (s : Store) (r : Resource) : Prop := ∃ kind id, s.get? kind id = some r

/-- Whether a batch is stored although one of its ids is stored already, which can only be under
another kind. -/
def Clashes (s : Store) (batch : List Resource) : Prop :=
  s.contents.Admits batch ∧ ∃ r ∈ batch, ∃ kind, s.Has kind r.id

/-! ## Resources and their addresses -/

/-- In an indexed store a resource is stored at its own address and nowhere else. -/
theorem Indexed.holds_iff (h : s.Indexed) : s.Holds r ↔ s.resourceAt r.address = some r := by
  constructor
  · rintro ⟨kind, id, hr⟩
    rw [h.address_eq hr]
    exact hr
  · intro hr
    exact ⟨r.kind, r.id, hr⟩

/-- Two resources of an indexed store with one kind and one id are the same. -/
theorem Indexed.eq_of_address_eq (h : s.Indexed) (hr : s.Holds r) (hq : s.Holds q)
    (haddress : r.address = q.address) : r = q := by
  rw [h.holds_iff] at hr hq
  rw [haddress, hq] at hr
  exact (Option.some.inj hr).symm

/-- In an indexed store ids are distinct exactly if no two resources carry the same one. -/
theorem Indexed.idsDistinct_iff (h : s.Indexed) :
    s.IdsDistinct ↔ ∀ r q, s.Holds r → s.Holds q → r.id = q.id → r = q := by
  constructor
  · intro hids r q hr hq hid
    have hstands : ∀ {p : Resource}, s.Holds p → (s.at? p.address).isSome = true := by
      intro p hp
      obtain ⟨e, he, -⟩ := get?_eq_some_iff.mp (h.holds_iff.mp hp)
      exact Option.isSome_iff_exists.mpr ⟨e, he⟩
    exact h.eq_of_address_eq hr hq (hids _ _ (hstands hr) (hstands hq) hid)
  · intro hall a b ha hb hid
    obtain ⟨e, he⟩ := Option.isSome_iff_exists.mp ha
    obtain ⟨e', he'⟩ := Option.isSome_iff_exists.mp hb
    have hfiled := (h a e he).filed
    have hfiled' := (h b e' he').filed
    have hsame : e.resource = e'.resource := by
      refine hall _ _ ⟨_, _, resourceAt_of_at? he⟩ ⟨_, _, resourceAt_of_at? he'⟩ ?_
      rw [← hfiled, ← hfiled'] at hid
      exact hid
    rw [← hfiled, ← hfiled', hsame]

/-! ## Writes -/

/-- An id under which a resource of one kind is stored leads to nothing under another kind. -/
theorem IdsDistinct.kind_eq (h : s.IdsDistinct) {kind kind' : Kind} {id : Id}
    (hkind : s.Has kind id) (hkind' : s.Has kind' id) : kind = kind' := by
  rw [has_iff] at hkind hkind'
  exact congrArg Address.kind (h _ _ hkind hkind' rfl)

/-- Ids are distinct after a batch was inserted exactly if they were before, and no id of the batch
was stored under any kind. -/
theorem Inserted.idsDistinct_iff (ht : s.Inserted t batch) :
    t.IdsDistinct ↔ s.IdsDistinct ∧ ∀ r ∈ batch, ∀ kind, ¬ s.Has kind r.id := by
  have hkept : ∀ a, (s.at? a).isSome = true → (t.at? a).isSome = true := fun a ha =>
    (ht.at?_isSome_iff a).mpr (.inl ha)
  constructor
  · intro h
    refine ⟨fun a b ha hb => h a b (hkept a ha) (hkept b hb), fun r hr kind hhas => ?_⟩
    rw [has_iff] at hhas
    have hnew : (t.at? r.address).isSome = true := by
      rw [ht.there r hr]
      rfl
    -- the id would stand at the address of the resource, which was free
    have haddress : ⟨kind, r.id⟩ = r.address := h _ _ (hkept _ hhas) hnew rfl
    rw [haddress, ht.free r hr] at hhas
    cases hhas
  · rintro ⟨h, hnew⟩ a b ha hb hid
    have hfree : ∀ c, (s.at? c).isSome = true → ∀ r ∈ batch, c.id ≠ r.id := by
      intro c hc r hr heq
      refine hnew r hr c.kind ?_
      rw [has_iff, ← heq]
      exact hc
    rw [ht.at?_isSome_iff] at ha hb
    rcases ha with ha | ha <;> rcases hb with hb | hb
    · exact h a b ha hb hid
    · obtain ⟨r, hr, rfl⟩ := List.mem_map.mp hb
      exact absurd hid (hfree a ha r hr)
    · obtain ⟨r, hr, rfl⟩ := List.mem_map.mp ha
      exact absurd hid.symm (hfree b hb r hr)
    · -- within the batch no id occurs twice
      obtain ⟨r, hr, rfl⟩ := List.mem_map.mp ha
      obtain ⟨q, hq, rfl⟩ := List.mem_map.mp hb
      rw [List.inj_on_of_nodup_map ht.distinct hr hq hid]

/-- Whether ids are distinct does not depend on what stands at the addresses. -/
theorem idsDistinct_congr (h : t.addresses.Perm s.addresses) : t.IdsDistinct ↔ s.IdsDistinct := by
  simp only [IdsDistinct, ← mem_addresses_iff, h.mem_iff]

end Store

/-! ## Calls -/

/-- Ids are distinct after a call exactly if they were before, and the call is no batch that
clashes. -/
theorem Call.idsDistinct_answer_iff (c : Call) (s : State) :
    (c.answer s).2.store.IdsDistinct ↔
      s.store.IdsDistinct ∧ ∀ batch, c = .insert batch → ¬ s.store.Clashes batch := by
  have hquiet : ∀ {p : Prop}, (∀ batch, c ≠ .insert batch) →
      (p ↔ p ∧ ∀ batch, c = .insert batch → ¬ s.store.Clashes batch) := fun hc =>
    (and_iff_left fun batch heq => absurd heq (hc batch)).symm
  cases c with
  | get kind id => exact hquiet (by simp)
  | list kind filter => exact hquiet (by simp)
  | drawId => exact hquiet (by simp)
  | insert batch =>
    have hadmits := s.store.admits_iff_exists_insert batch
    cases h : s.store.insert batch with
    | error e =>
      have hrefused : ¬ s.store.contents.Admits batch := by simp [hadmits, h]
      simp only [answer, h]
      refine (and_iff_left fun batch' heq hclash => ?_).symm
      obtain rfl := Call.insert.inj heq
      exact hrefused hclash.1
    | ok t =>
      have haccepted : s.store.contents.Admits batch := hadmits.mpr ⟨t, h⟩
      simp only [answer, h]
      rw [(Store.inserted_of_insert h).idsDistinct_iff]
      refine and_congr_right fun _ => ⟨?_, fun hcalm r hr kind hhas => ?_⟩
      · rintro hnew batch' heq ⟨-, r, hr, kind, hhas⟩
        obtain rfl := Call.insert.inj heq
        exact hnew r hr kind hhas
      · exact hcalm batch rfl ⟨haccepted, r, hr, kind, hhas⟩
  | setSpec r =>
    rcases Call.answer_setSpec s r with ⟨-, hanswer⟩ | ⟨e, t, he, hanswer, ht⟩
    · rw [hanswer]
      exact hquiet (by simp)
    · rw [hanswer, Store.idsDistinct_congr (Store.addresses_perm_of_replaced he ht)]
      exact hquiet (by simp)
  | setStatus kind id status =>
    rcases Call.answer_setStatus s kind id status with ⟨-, hanswer⟩ | ⟨e, t, he, hanswer, ht⟩
    · rw [hanswer]
      exact hquiet (by simp)
    · rw [hanswer, Store.idsDistinct_congr (Store.addresses_perm_of_replaced he ht)]
      exact hquiet (by simp)

/-- Ids are distinct after any calls exactly if they were before, and none of the batches has
clashed with what was stored when it came. -/
theorem State.idsDistinct_afterCalls_iff (s : State) (calls : List Call) :
    (s.afterCalls calls).store.IdsDistinct ↔
      s.store.IdsDistinct ∧ ∀ before batch after, calls = before ++ .insert batch :: after →
        ¬ (s.afterCalls before).store.Clashes batch := by
  induction calls generalizing s with
  | nil => simp [State.afterCalls]
  | cons c rest ih =>
    have hstep : (s.afterCalls (c :: rest)) = (c.answer s).2.afterCalls rest := rfl
    rw [hstep, ih, c.idsDistinct_answer_iff, and_assoc]
    -- a batch is the first call or comes later
    refine and_congr_right fun _ => ⟨?_, fun h => ⟨fun batch heq => ?_, ?_⟩⟩
    · rintro ⟨hfirst, hlater⟩ before batch after heq
      cases before with
      | nil => exact hfirst batch (List.cons.inj heq).1
      | cons b before =>
        obtain ⟨rfl, hrest⟩ := List.cons.inj heq
        exact hlater before batch after hrest
    · exact h [] batch rest (by rw [heq]; rfl)
    · intro before batch after heq
      exact h (c :: before) batch after (by rw [heq]; rfl)

/-- **When ids are unique.** After any calls to an empty store, whatever they write, no two stored
resources of one kind carry the same id. No two of different kinds do either, exactly if none of the
batches that were accepted has brought an id which was stored then, under whatever kind. -/
theorem ids_unique_iff (ids : Nat → Id) (calls : List Call) :
    let s := (State.afterCalls ⟨.empty, { ids }⟩ calls).store
    (∀ r q, s.Holds r → s.Holds q → r.kind = q.kind → r.id = q.id → r = q) ∧
      ((∀ r q, s.Holds r → s.Holds q → r.id = q.id → r = q) ↔
        ∀ before batch after, calls = before ++ .insert batch :: after →
          ¬ (State.afterCalls ⟨.empty, { ids }⟩ before).store.Clashes batch) := by
  intro s
  have hindexed : s.Indexed := State.indexed_afterCalls Store.indexed_empty calls
  have hempty : Store.empty.IdsDistinct := fun a b ha => by cases ha
  refine ⟨fun r q hr hq hkind hid => hindexed.eq_of_address_eq hr hq ?_, ?_⟩
  · rw [Resource.address, hkind, hid]
    rfl
  · rw [← hindexed.idsDistinct_iff, State.idsDistinct_afterCalls_iff]
    exact and_iff_right hempty

/-- A plan with the id 1. -/
def planOne : Resource := ⟨.plan, { id := ⟨1⟩ }, ({} : Plan)⟩

/-- A node with the same id. -/
def nodeOne : Resource := ⟨.node, { id := ⟨1⟩ }, ({} : Node)⟩

/-- One after the other the plan and the node are both stored, under the same id. -/
theorem ids_shared_across_batches :
    ¬ ∀ (ids : Nat → Id) (calls : List Call), (∀ c ∈ calls, c.writes = true) →
      let s := (State.afterCalls ⟨.empty, { ids }⟩ calls).store
      ∀ r q, s.Holds r → s.Holds q → r.id = q.id → r = q := by
  intro hall
  have hsame : planOne = nodeOne :=
    hall (fun _ => .unassigned) [.insert [planOne], .insert [nodeOne]] (by simp [Call.writes])
      planOne nodeOne ⟨.plan, ⟨1⟩, rfl⟩ ⟨.node, ⟨1⟩, rfl⟩ rfl
  cases congrArg Resource.kind hsame

end ClusterRegistry
