import ClusterRegistry.Proofs.Store.Writes

/-!
# The index of a store

Beside each resource the store keeps the ids of its parents, which were read off when the resource
was written. Whatever is written, by whomever and however little sense it makes, this index is that
of the resource which stands there now, and the resource stands at its own address
(`Store.Indexed`). A batch and a spec are indexed anew. A status is written in place and leaves the
index as it is, which is right because parents do not depend on the status.
-/

namespace ClusterRegistry

/-- What every entry of a store is, whatever was written: a resource at its own address, beside the
ids of its parents. -/
structure Entry.Indexed (a : Address) (e : Entry) : Prop where
  filed : e.resource.address = a
  indexed : e.parents = e.resource.parents

theorem Entry.indexed_ofResource (r : Resource) : (Entry.ofResource r).Indexed r.address :=
  ⟨rfl, rfl⟩

/-- A status that is written in place leaves address and parents of the resource as they are. -/
theorem Entry.Indexed.withStatus {a : Address} {e : Entry} (h : e.Indexed a) (status : Status) :
    Entry.Indexed a ⟨e.resource.withStatus status, e.parents⟩ :=
  ⟨h.filed, h.indexed⟩

namespace Store

variable {s t : Store} {batch : List Resource}

/-- Every entry of a store is indexed. -/
def Indexed (s : Store) : Prop := ∀ a e, s.at? a = some e → e.Indexed a

theorem indexed_empty : empty.Indexed := by
  intro a e he
  cases he

theorem Indexed.of_inserted (h : s.Indexed) (ht : s.Inserted t batch) : t.Indexed := by
  intro a e he
  rcases ht.cases he with he | ⟨r, -, rfl, rfl⟩
  · exact h a e he
  · exact Entry.indexed_ofResource r

/-- A store stays indexed where one entry was replaced by an indexed one. -/
theorem Indexed.of_replaced (h : s.Indexed) {a : Address} {new : Entry} (hnew : new.Indexed a)
    (ht : ∀ b, t.at? b = if b = a then some new else s.at? b) : t.Indexed := by
  intro b e he
  rw [ht b] at he
  by_cases hb : b = a
  · rw [if_pos hb] at he
    rw [hb, ← Option.some.inj he]
    exact hnew
  · rw [if_neg hb] at he
    exact h b e he

theorem Indexed.address_eq (h : s.Indexed) {kind : Kind} {id : Id} {r : Resource}
    (hr : s.get? kind id = some r) : r.address = ⟨kind, id⟩ := by
  obtain ⟨e, he, rfl⟩ := get?_eq_some_iff.mp hr
  exact (h _ e he).filed

end Store

/-- Every call leaves an indexed store indexed, whatever it writes. -/
theorem Call.indexed_answer (c : Call) {s : State} (h : s.store.Indexed) :
    (c.answer s).2.store.Indexed := by
  cases c with
  | get kind id => exact h
  | list kind filter => exact h
  | drawId => exact h
  | insert batch =>
    rcases Call.answer_insert s batch with ⟨e, hanswer⟩ | ⟨t, hanswer, ht⟩
    · rw [hanswer]
      exact h
    · rw [hanswer]
      exact h.of_inserted ht
  | setSpec r =>
    rcases Call.answer_setSpec s r with ⟨-, hanswer⟩ | ⟨e, t, -, hanswer, ht⟩
    · rw [hanswer]
      exact h
    · rw [hanswer]
      have hnew := Entry.indexed_ofResource (r.withStatus e.resource.status)
      exact h.of_replaced (a := r.address) hnew ht
  | setStatus kind id status =>
    rcases Call.answer_setStatus s kind id status with ⟨-, hanswer⟩ | ⟨e, t, he, hanswer, ht⟩
    · rw [hanswer]
      exact h
    · rw [hanswer]
      exact h.of_replaced ((h _ e he).withStatus status) ht

end ClusterRegistry
