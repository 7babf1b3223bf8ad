import Mathlib.Logic.Function.Basic
import ClusterRegistry.Proofs.Store.History
import ClusterRegistry.Proofs.Store.Listing

/-!
# What is stored, told without a store

The contents of a store say which resource stands at each address and nothing else: there is no
index and no order. What a call makes of contents is a short definition (`Contents.after`), and a
call makes the same of the contents of a store (`Call.contents_answer`). So whatever is written into
an empty store, what it finds is its contents, and its listings are the resources among them that
the filter selects, in ascending order of their ids (`listings_exact`).
-/

namespace ClusterRegistry

/-- Which resource stands at each address. -/
abbrev Contents := Address → Option Resource

namespace Contents

/-- Whether a batch may be added: its ids are assigned and distinct, and its addresses free. -/
structure Admits (m : Contents) (batch : List Resource) : Prop where
  assigned : ∀ r ∈ batch, r.id.isAssigned = true
  free : ∀ r ∈ batch, m r.address = none
  distinct : (batch.map (·.id)).Nodup

instance (m : Contents) (batch : List Resource) : Decidable (m.Admits batch) :=
  decidable_of_iff ((∀ r ∈ batch, r.id.isAssigned = true) ∧ (∀ r ∈ batch, m r.address = none) ∧
      (batch.map (·.id)).Nodup)
    ⟨fun ⟨hassigned, hfree, hdistinct⟩ => ⟨hassigned, hfree, hdistinct⟩,
      fun h => ⟨h.assigned, h.free, h.distinct⟩⟩

/-- The contents after a call. A batch is added as a whole or not at all; a spec is written where a
resource stands, and keeps its status; of a status that is written there is nothing else to keep. -/
def after (m : Contents) : Call → Contents
  | .insert batch =>
    if m.Admits batch then fun a => (batch.find? fun r => decide (r.address = a)).or (m a) else m
  | .setSpec r =>
    Function.update m r.address ((m r.address).map fun stored => r.withStatus stored.status)
  | .setStatus kind id status =>
    Function.update m ⟨kind, id⟩ ((m ⟨kind, id⟩).map (·.withStatus status))
  | _ => m

end Contents

namespace Store

variable {s t : Store}

/-- The contents of a store. -/
def contents (s : Store) : Contents := s.resourceAt

theorem contents_eq_none_iff {a : Address} : s.contents a = none ↔ s.at? a = none :=
  Option.map_eq_none_iff

/-- A batch is admitted exactly if it is stored. -/
theorem admits_iff_exists_insert (s : Store) (batch : List Resource) :
    s.contents.Admits batch ↔ ∃ t, s.insert batch = .ok t := by
  constructor
  · intro h
    have hfree : ∀ r ∈ batch, s.at? r.address = none := fun r hr =>
      contents_eq_none_iff.mp (h.free r hr)
    exact insert_of_free h.assigned hfree h.distinct
  · rintro ⟨t, ht⟩
    have h := inserted_of_insert ht
    exact ⟨h.assigned, fun r hr => contents_eq_none_iff.mpr (h.free r hr), h.distinct⟩

/-- Where one entry was replaced, the contents differ in its resource alone. -/
theorem contents_of_replaced {a : Address} {e : Entry}
    (ht : ∀ b, t.at? b = if b = a then some e else s.at? b) :
    t.contents = Function.update s.contents a (some e.resource) := by
  funext b
  by_cases hb : b = a
  · have hat : t.at? b = some e := by rw [ht b, if_pos hb]
    rw [hb, Function.update_self, ← hb]
    exact resourceAt_of_at? hat
  · have hat : t.at? b = s.at? b := by rw [ht b, if_neg hb]
    rw [Function.update_of_ne hb]
    exact resourceAt_congr hat

/-- Where nothing stands, nothing is replaced. -/
theorem update_contents_of_at?_eq_none {a : Address} (h : s.at? a = none)
    (f : Resource → Resource) :
    Function.update s.contents a ((s.contents a).map f) = s.contents := by
  rw [contents_eq_none_iff.mpr h, Option.map_none, ← contents_eq_none_iff.mpr h,
    Function.update_eq_self]

end Store

/-! ## Calls -/

/-- A call makes of the contents of a store what it makes of contents. -/
theorem Call.contents_answer (c : Call) (s : State) :
    (c.answer s).2.store.contents = s.store.contents.after c := by
  cases c with
  | get kind id => rfl
  | list kind filter => rfl
  | drawId => rfl
  | insert batch =>
    have hiff := s.store.admits_iff_exists_insert batch
    rw [Contents.after]
    cases h : s.store.insert batch with
    | error e =>
      have hrefused : ¬ s.store.contents.Admits batch := by simp [hiff, h]
      simp only [Call.answer, h, if_neg hrefused]
    | ok t =>
      simp only [Call.answer, h, if_pos (hiff.mpr ⟨t, h⟩)]
      exact funext (Store.inserted_of_insert h).resourceAt_eq
  | setSpec r =>
    rcases Call.answer_setSpec s r with ⟨hnone, hanswer⟩ | ⟨e, t, he, hanswer, ht⟩
    · rw [hanswer]
      exact (Store.update_contents_of_at?_eq_none hnone _).symm
    · rw [hanswer, Store.contents_of_replaced ht, Contents.after]
      have hstored : s.store.contents r.address = some e.resource := Store.resourceAt_of_at? he
      rw [hstored]
      rfl
  | setStatus kind id status =>
    rcases Call.answer_setStatus s kind id status with ⟨hnone, hanswer⟩ | ⟨e, t, he, hanswer, ht⟩
    · rw [hanswer]
      exact (Store.update_contents_of_at?_eq_none hnone _).symm
    · rw [hanswer, Store.contents_of_replaced ht, Contents.after]
      have hstored : s.store.contents ⟨kind, id⟩ = some e.resource := Store.resourceAt_of_at? he
      rw [hstored]
      rfl

/-- The state after calls that are made one after the other. -/
def State.afterCalls (s : State) (calls : List Call) : State :=
  calls.foldl (fun s c => (c.answer s).2) s

/-- The contents after calls that are made one after the other. -/
def Contents.afterCalls (m : Contents) (calls : List Call) : Contents := calls.foldl after m

theorem State.contents_afterCalls (s : State) (calls : List Call) :
    (s.afterCalls calls).store.contents = s.store.contents.afterCalls calls := by
  induction calls generalizing s with
  | nil => rfl
  | cons c rest ih =>
    have hrest := ih (c.answer s).2
    rw [c.contents_answer s] at hrest
    exact hrest

theorem State.indexed_afterCalls {s : State} (h : s.store.Indexed) (calls : List Call) :
    (s.afterCalls calls).store.Indexed := by
  induction calls generalizing s with
  | nil => exact h
  | cons c rest ih => exact ih (c.indexed_answer h)

/-- **Listings are exact.** After any calls to an empty store, whatever they write, let `m` be what
they make of empty contents. Then the store finds exactly what `m` says. It lists of a kind, each
once and in ascending order of their ids, exactly the resources that `m` says under the kind and the
filter selects: those of the account, if one is asked for, that name the parent in a uid, if one is
asked for. A resource is found by its id exactly if it is listed without a filter, and what stands
at an address has its kind and its id. -/
theorem listings_exact (ids : Nat → Id) (calls : List Call) :
    let s := (State.afterCalls ⟨.empty, { ids }⟩ calls).store
    let m := Contents.afterCalls (fun _ => none) calls
    (∀ kind id, s.get? kind id = m ⟨kind, id⟩) ∧
      (∀ kind filter, (s.list kind filter).Pairwise Store.Earlier ∧
        ∀ r, r ∈ s.list kind filter ↔ m ⟨kind, r.id⟩ = some r ∧ filter.Selects r) ∧
      (∀ kind id r, s.get? kind id = some r ↔ r ∈ s.list kind {} ∧ r.id = id) ∧
      ∀ kind id r, s.get? kind id = some r → r.kind = kind ∧ r.id = id := by
  intro s m
  have hindexed : s.Indexed := State.indexed_afterCalls Store.indexed_empty calls
  have hcontents : s.contents = m := State.contents_afterCalls ⟨.empty, { ids }⟩ calls
  have hget : ∀ kind id, s.get? kind id = m ⟨kind, id⟩ := fun kind id =>
    congrFun hcontents ⟨kind, id⟩
  have haddress : ∀ kind id r, s.get? kind id = some r → r.kind = kind ∧ r.id = id := by
    intro kind id r hr
    have h := hindexed.address_eq hr
    exact ⟨congrArg Address.kind h, congrArg Address.id h⟩
  refine ⟨hget, fun kind filter => ⟨hindexed.pairwise_list, fun r => ?_⟩, ?_, haddress⟩
  · rw [hindexed.mem_list_iff, hget]
  · intro kind id r
    rw [hindexed.mem_list_iff]
    constructor
    · intro hr
      have hid := (haddress kind id r hr).2
      exact ⟨⟨hid ▸ hr, Filter.selects_all r⟩, hid⟩
    · rintro ⟨⟨hr, -⟩, hid⟩
      exact hid ▸ hr

end ClusterRegistry
