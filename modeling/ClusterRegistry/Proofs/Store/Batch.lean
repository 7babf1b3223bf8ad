import ClusterRegistry.Proofs.Store.History
import ClusterRegistry.Proofs.Table.Entries

/-!
# Batches

A batch is looked at from its first resource on, and nothing is written before all of it was looked
at. So a batch is refused exactly if one of its resources is barred (`Store.Bars`), by what is
stored or by what stands before it in the batch, and the first one that is barred is blamed
(`Store.insert_eq_error_iff`). A batch that is not refused is added to what is stored, each resource
under its own kind and id and beside the ids of its parents, and replaces nothing
(`Store.Inserted.entries_perm`).
-/

namespace ClusterRegistry

/-- How a batch is refused for the sake of a resource. -/
def Resource.blamed (r : Resource) : StoreError :=
  if r.id.isAssigned then .taken r.kind r.id else .unassigned r.kind r.objectMeta.name

namespace Store

variable {s t : Store} {earlier : List Id} {batch : List Resource} {r : Resource} {e : StoreError}

/-- Whether a resource may not be stored in a batch after resources with the given ids: it has no
id, or its id is that of a stored resource of its kind or one of those before it, whatever the
kinds. -/
def Bars (s : Store) (earlier : List Id) (r : Resource) : Prop :=
  r.id.isAssigned = false ∨ s.Has r.kind r.id ∨ r.id ∈ earlier

/-! ## What is refused -/

theorem bars_congr {earlier' : List Id} (h : ∀ i, i ∈ earlier ↔ i ∈ earlier') :
    s.Bars earlier r ↔ s.Bars earlier' r := by
  rw [Bars, Bars, h]

theorem refusal_cons_of_bars {rest : List Resource} (h : s.Bars earlier r) :
    s.refusal earlier (r :: rest) = some r.blamed := by
  rw [refusal, Resource.blamed]
  by_cases hassigned : r.id.isAssigned = true
  · have htaken : ((s.get? r.kind r.id).isSome || earlier.contains r.id) = true := by
      rw [Bool.or_eq_true, List.contains_iff_mem]
      exact h.resolve_left (by simp [hassigned])
    rw [if_neg (by simp [hassigned]), if_pos htaken, if_pos hassigned]
  · rw [if_pos (by simpa using hassigned), if_neg hassigned]

theorem refusal_cons_of_not_bars {rest : List Resource} (h : ¬s.Bars earlier r) :
    s.refusal earlier (r :: rest) = s.refusal (r.id :: earlier) rest := by
  obtain ⟨hassigned, hfree⟩ := not_or.mp h
  have hclear : ¬((s.get? r.kind r.id).isSome || earlier.contains r.id) = true := by
    rw [Bool.or_eq_true, List.contains_iff_mem]
    exact hfree
  rw [refusal, if_neg (by simpa using hassigned), if_neg hclear]

/-- A batch is refused for the sake of the first of its resources that is barred. -/
theorem refusal_eq_some_iff :
    s.refusal earlier batch = some e ↔
      ∃ before r after, batch = before ++ r :: after ∧ s.refusal earlier before = none ∧
        s.Bars (earlier ++ before.map (·.id)) r ∧ r.blamed = e := by
  induction batch generalizing earlier with
  | nil => simp [refusal]
  | cons first rest ih =>
    by_cases hfirst : s.Bars earlier first
    · rw [refusal_cons_of_bars hfirst]
      constructor
      · intro he
        exact ⟨[], first, rest, rfl, rfl, by simpa using hfirst, Option.some.inj he⟩
      · rintro ⟨before, r, after, hbatch, hnone, -, rfl⟩
        cases before with
        | nil => rw [(List.cons.inj hbatch).1]
        | cons q before =>
          -- nothing before the blamed resource is barred, and so neither is the first one
          rw [← (List.cons.inj hbatch).1, refusal_cons_of_bars hfirst] at hnone
          cases hnone
    · have hsame : ∀ before i, i ∈ first.id :: earlier ++ before.map (·.id) ↔
          i ∈ earlier ++ (first :: before).map (·.id) := by
        intro before i
        simp only [List.mem_append, List.mem_cons, List.map_cons]
        tauto
      rw [refusal_cons_of_not_bars hfirst, ih]
      constructor
      · rintro ⟨before, r, after, rfl, hnone, hbars, he⟩
        refine ⟨first :: before, r, after, rfl, ?_, (bars_congr (hsame before)).mp hbars, he⟩
        rw [refusal_cons_of_not_bars hfirst]
        exact hnone
      · rintro ⟨before, r, after, hbatch, hnone, hbars, he⟩
        cases before with
        | nil =>
          rw [List.map_nil, List.append_nil, ← (List.cons.inj hbatch).1] at hbars
          exact absurd hbars hfirst
        | cons q before =>
          obtain ⟨rfl, rfl⟩ := List.cons.inj hbatch
          rw [refusal_cons_of_not_bars hfirst] at hnone
          exact ⟨before, r, after, rfl, hnone, (bars_congr (hsame before)).mpr hbars, he⟩

/-- A batch is refused for the sake of one of its resources that is barred where all before it might
have been stored. -/
theorem insert_eq_error_iff :
    s.insert batch = .error e ↔
      ∃ before r after, batch = before ++ r :: after ∧ (∃ t, s.insert before = .ok t) ∧
        s.Bars (before.map (·.id)) r ∧ r.blamed = e := by
  have herror : s.insert batch = .error e ↔ s.refusal [] batch = some e := by
    rw [insert]
    cases s.refusal [] batch <;> simp
  have hok : ∀ before, (∃ t, s.insert before = .ok t) ↔ s.refusal [] before = none := by
    intro before
    rw [insert]
    cases s.refusal [] before <;> simp
  rw [herror, refusal_eq_some_iff]
  simp only [hok, List.nil_append]

/-- A batch in which a resource is barred is refused, wherever this resource stands. -/
theorem not_insert_of_bars {before after : List Resource} (h : s.Bars (before.map (·.id)) r) :
    s.insert (before ++ r :: after) ≠ .ok t := by
  intro hinsert
  have hinserted := inserted_of_insert hinsert
  have hr : r ∈ before ++ r :: after := List.mem_append_right _ List.mem_cons_self
  rcases h with hnone | hhas | hmem
  · rw [hinserted.assigned r hr] at hnone
    cases hnone
  · rw [has_iff, show (⟨r.kind, r.id⟩ : Address) = r.address from rfl, hinserted.free r hr] at hhas
    cases hhas
  · have hdistinct := hinserted.distinct
    rw [List.map_append, List.map_cons, List.nodup_middle, List.nodup_cons] at hdistinct
    exact hdistinct.1 (List.mem_append_left _ hmem)

/-! ## What is stored -/

/-- An inserted batch adds its entries to those that are there. -/
theorem Inserted.entries_perm (h : s.Inserted t batch) :
    t.table.entries.Perm (s.table.entries ++ batch.map fun r => (r.address, .ofResource r)) := by
  -- neither list has an address twice, so it is enough that they have the same entries
  have hnodup : (t.table.entries.map (·.1)).Nodup := t.addresses_nodup
  have hnodup' : ((s.table.entries ++ batch.map fun r => (r.address, Entry.ofResource r)).map
      (·.1)).Nodup := by
    rw [List.map_append, List.map_map]
    exact h.addresses_perm.nodup_iff.mp t.addresses_nodup
  rw [List.perm_ext_iff_of_nodup hnodup.of_map hnodup'.of_map]
  rintro ⟨a, e⟩
  have hstored : ∀ u : Store, (a, e) ∈ u.table.entries ↔ u.at? a = some e := fun u =>
    u.table.mem_entries_iff
  rw [List.mem_append, List.mem_map, hstored, hstored]
  constructor
  · intro he
    refine (h.cases he).imp_right ?_
    rintro ⟨r, hr, rfl, rfl⟩
    exact ⟨r, hr, rfl⟩
  · rintro (he | ⟨r, hr, heq⟩)
    · exact h.at?_of_some he
    · obtain ⟨rfl, rfl⟩ := Prod.mk.inj heq
      exact h.there r hr

end Store

/-- **Batches are all or nothing.** Whatever is stored and whatever the batch, it is refused exactly
if one of its resources is barred: it has no id, or its id is stored under its kind, or a resource
before it in the batch has the same id, of whatever kind. Then the state is as it was, and the
refusal is for the sake of the first resource that is barred. A batch that is not refused is added
to what is stored, each resource under its kind and its id and beside the ids of its parents, where
nothing was stored; nothing else is added, and what was stored is there as it was. -/
theorem batches_exact (s : State) (batch : List Resource) :
    let reply : Except StoreError Unit := ((Call.insert batch).answer s).1
    let t := ((Call.insert batch).answer s).2
    ((∃ e, reply = .error e) ↔
      ∃ before r after, batch = before ++ r :: after ∧ s.store.Bars (before.map (·.id)) r) ∧
    (∀ e, reply = .error e → t = s ∧
      ∃ before r after, batch = before ++ r :: after ∧ (∃ u, s.store.insert before = .ok u) ∧
        s.store.Bars (before.map (·.id)) r ∧ r.blamed = e) ∧
    (reply = .ok () → t.source = s.source ∧
      t.store.table.entries.Perm
        (s.store.table.entries ++ batch.map fun r => (⟨r.kind, r.id⟩, ⟨r, r.parents⟩)) ∧
      (∀ r ∈ batch, s.store.at? ⟨r.kind, r.id⟩ = none ∧
        t.store.at? ⟨r.kind, r.id⟩ = some ⟨r, r.parents⟩) ∧
      ∀ a e, s.store.at? a = some e → t.store.at? a = some e) := by
  intro reply t
  cases h : s.store.insert batch with
  | error e =>
    have hreply : reply = .error e := by simp only [reply, Call.answer, h]
    have hstate : t = s := by simp only [t, Call.answer, h]
    rw [hreply, hstate]
    obtain ⟨before, r, after, hbatch, hfirst, hbars, he⟩ := Store.insert_eq_error_iff.mp h
    refine ⟨iff_of_true ⟨e, rfl⟩ ⟨before, r, after, hbatch, hbars⟩, fun e' he' => ?_, fun hok => ?_⟩
    · exact ⟨rfl, before, r, after, hbatch, hfirst, hbars, he.trans (Except.error.inj he')⟩
    · cases hok
  | ok u =>
    have hreply : reply = .ok () := by simp only [reply, Call.answer, h]
    have hstate : t = { s with store := u } := by simp only [t, Call.answer, h]
    rw [hreply, hstate]
    have hinserted := Store.inserted_of_insert h
    have haccepted : ∀ e : StoreError, (.ok () : Except StoreError Unit) ≠ .error e := by
      intro e he
      cases he
    refine ⟨iff_of_false ?_ ?_, fun e he => absurd he (haccepted e), fun _ =>
      ⟨rfl, hinserted.entries_perm, fun r hr => ?_, fun a e => hinserted.at?_of_some⟩⟩
    · rintro ⟨e, he⟩
      exact haccepted e he
    · rintro ⟨before, r, after, rfl, hbars⟩
      exact Store.not_insert_of_bars hbars h
    · exact ⟨hinserted.free r hr, hinserted.there r hr⟩

/-- A node, a job that belongs to it, and a plan with the id of the job. -/
def nodeJobPlan : List Resource :=
  [⟨.node, { id := ⟨7⟩ }, ({} : Node)⟩,
    ⟨.job, { id := ⟨8⟩, objectMeta := { ownerReferences := [{ kind := "Node", uid := "7" }] } },
      ({} : Job)⟩,
    ⟨.plan, { id := ⟨8⟩ }, ({} : Plan)⟩]

/-- With the plan the batch is refused and nothing is stored, not even the node. Without it the node
and the job are stored, and the job beside the id of the node. -/
theorem batch_of_node_and_job_stored :
    let s : State := ⟨.empty, .counting [] ⟨1⟩⟩
    ((Call.insert nodeJobPlan).answer s).2 = s ∧
      ∃ node job, nodeJobPlan.take 2 = [node, job] ∧
        ((Call.insert [node, job]).answer s).2.store.at? ⟨.node, ⟨7⟩⟩ = some ⟨node, []⟩ ∧
        ((Call.insert [node, job]).answer s).2.store.at? ⟨.job, ⟨8⟩⟩ = some ⟨job, [⟨7⟩]⟩ := by
  intro s
  obtain ⟨hfails, hrefused, -⟩ := batches_exact s nodeJobPlan
  obtain ⟨-, -, hstored⟩ := batches_exact s (nodeJobPlan.take 2)
  obtain ⟨-, -, hthere, -⟩ := hstored rfl
  obtain ⟨e, he⟩ := hfails.mpr ⟨nodeJobPlan.take 2, _, [], rfl, .inr (.inr (by decide))⟩
  refine ⟨(hrefused e he).1, _, _, rfl, ?_, ?_⟩
  · exact (hthere _ List.mem_cons_self).2
  · exact (hthere _ (List.mem_cons_of_mem _ List.mem_cons_self)).2

end ClusterRegistry
