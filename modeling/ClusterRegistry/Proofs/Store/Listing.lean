import Mathlib.Data.List.Sort
import ClusterRegistry.Proofs.Resource.Parents
import ClusterRegistry.Proofs.Store.Indexed
import ClusterRegistry.Proofs.Store.Sound
import ClusterRegistry.Proofs.Table.Entries

/-!
# What a listing holds

A listing holds the resources of a kind that a filter accepts and no others (`Store.mem_list_iff`),
in ascending order of their ids (`Store.Indexed.pairwise_list`). The two together fix it: an ascending
list of the same resources is the listing (`Store.Indexed.list_eq`). Which resources a filter accepts
is decided by the index of the store; in an indexed store these are the ones that it selects
(`Store.Indexed.mem_list_iff`).
-/

namespace ClusterRegistry

/-- Whether a filter selects a resource, told by the resource alone: it is in the account that is
asked for, and says the parent that is asked for. -/
structure Filter.Selects (f : Filter) (r : Resource) : Prop where
  account : ∀ account, f.account = some account → r.account = account
  parent : ∀ id, f.parent = some id → r.Mentions id

/-- The filter that asks for nothing selects everything. -/
theorem Filter.selects_all (r : Resource) : Filter.Selects {} r where
  account _ hnone := nomatch hnone
  parent _ hnone := nomatch hnone

/-- The children of a parent are the resources that name it. -/
theorem Filter.selects_parent_iff {r : Resource} {id : Id} :
    Filter.Selects { parent := some id } r ↔ r.Mentions id := by
  constructor
  · exact fun h => h.parent id rfl
  · intro h
    refine ⟨nofun, fun id' hid => ?_⟩
    rwa [← Option.some.inj hid]

/-- What is in an account are the resources that bear it. -/
theorem Filter.selects_account_iff {r : Resource} {account : String} :
    Filter.Selects { account := some account } r ↔ r.account = account := by
  constructor
  · exact fun h => h.account account rfl
  · intro h
    refine ⟨fun account' haccount => ?_, nofun⟩
    rwa [← Option.some.inj haccount]

/-- A filter accepts an indexed entry exactly if it selects the resource. -/
theorem Entry.Indexed.accepts_iff {a : Address} {e : Entry} (h : e.Indexed a) (f : Filter) :
    f.accepts e = true ↔ f.Selects e.resource := by
  have haccount : f.account.all (· == e.resource.account) = true ↔
      ∀ account, f.account = some account → e.resource.account = account := by
    cases f.account with
    | none => simp
    | some account => simp [@eq_comm _ account]
  have hparent : f.parent.all (e.parents.contains ·) = true ↔
      ∀ id, f.parent = some id → e.resource.Mentions id := by
    rw [h.indexed]
    cases f.parent with
    | none => simp
    | some id => simp [Resource.mem_parents_iff_mentions]
  rw [Filter.accepts, Bool.and_eq_true, haccount, hparent]
  exact ⟨fun ⟨hmatches, hsays⟩ => ⟨hmatches, hsays⟩, fun h => ⟨h.account, h.parent⟩⟩

namespace Store

variable {version : String} {limit : UInt32} {s : Store} {kind : Kind} {f : Filter} {r : Resource}

/-- What is listed is stored under the kind and accepted by the filter. -/
theorem mem_list_iff :
    r ∈ s.list kind f ↔
      ∃ id e, s.at? ⟨kind, id⟩ = some e ∧ f.accepts e = true ∧ e.resource = r := by
  simp only [list, List.mem_map, List.mem_filter, Bool.and_eq_true, beq_iff_eq]
  constructor
  · rintro ⟨⟨⟨kind', id⟩, e⟩, ⟨hmem, hkind, haccepts⟩, hr⟩
    obtain rfl : kind' = kind := hkind
    exact ⟨id, e, s.table.mem_entries_iff.mp hmem, haccepts, hr⟩
  · rintro ⟨id, e, he, haccepts, hr⟩
    exact ⟨(⟨kind, id⟩, e), ⟨s.table.mem_entries_iff.mpr he, rfl, haccepts⟩, hr⟩

/-- A resource comes before another if its id is less. -/
def Earlier (r q : Resource) : Prop := r.id.value < q.id.value

instance : Std.Irrefl Earlier where
  irrefl r := UInt64.lt_irrefl r.id.value

instance : Std.Antisymm Earlier where
  antisymm _ _ h h' := absurd (UInt64.lt_trans h h') (UInt64.lt_irrefl _)

/-- Of two addresses of one kind the one with the lesser id comes first. -/
theorem value_lt_of_compare {i j : Id} (h : compare (⟨kind, i⟩ : Address) ⟨kind, j⟩ = .lt) :
    i.value < j.value := by
  have hlex : (compare kind kind).then (compare i j) = .lt := h
  rw [Std.compare_self] at hlex
  exact Std.compare_eq_lt.mp hlex

/-- A listing of an indexed store is ascending. -/
theorem Indexed.pairwise_list (h : s.Indexed) : (s.list kind f).Pairwise Earlier := by
  rw [list, List.pairwise_map]
  refine (s.table.ascending.filter _).imp_of_mem fun {x y} hx hy hlt => ?_
  simp only [List.mem_filter, Bool.and_eq_true, beq_iff_eq] at hx hy
  obtain ⟨hx, hxkind, -⟩ := hx
  obtain ⟨hy, hykind, -⟩ := hy
  -- each resource stands at the address of its entry
  have hxfiled := (h x.1 x.2 (s.table.mem_entries_iff.mp hx)).filed
  have hyfiled := (h y.1 y.2 (s.table.mem_entries_iff.mp hy)).filed
  obtain ⟨⟨xkind, xid⟩, ex⟩ := x
  obtain ⟨⟨ykind, yid⟩, ey⟩ := y
  obtain rfl : xkind = kind := hxkind
  obtain rfl : ykind = xkind := hykind
  have hxid : ex.resource.id = xid := congrArg Address.id hxfiled
  have hyid : ey.resource.id = yid := congrArg Address.id hyfiled
  rw [Earlier, hxid, hyid]
  exact value_lt_of_compare hlt

/-- A listing holds nothing twice. -/
theorem Indexed.nodup_list (h : s.Indexed) : (s.list kind f).Nodup := by
  refine h.pairwise_list.imp fun {r q} hlt heq => ?_
  rw [heq] at hlt
  exact Std.Irrefl.irrefl q hlt

/-- An ascending list of exactly the resources that are listed is the listing. -/
theorem Indexed.list_eq (h : s.Indexed) {l : List Resource} (hl : l.Pairwise Earlier)
    (hmem : ∀ r, r ∈ s.list kind f ↔ r ∈ l) : s.list kind f = l :=
  h.pairwise_list.eq_of_mem_iff hl (fun {r} => hmem r)

/-- What is listed in an indexed store is stored under its own id and selected by the filter. -/
theorem Indexed.mem_list_iff (h : s.Indexed) :
    r ∈ s.list kind f ↔ s.get? kind r.id = some r ∧ f.Selects r := by
  rw [Store.mem_list_iff]
  constructor
  · rintro ⟨id, e, he, haccepts, rfl⟩
    have hentry := h _ e he
    have hid : e.resource.id = id := congrArg Address.id hentry.filed
    have hget : s.get? kind e.resource.id = some e.resource :=
      get?_eq_some_iff.mpr ⟨e, hid ▸ he, rfl⟩
    exact ⟨hget, (hentry.accepts_iff f).mp haccepts⟩
  · rintro ⟨hget, hselects⟩
    obtain ⟨e, he, rfl⟩ := get?_eq_some_iff.mp hget
    have hentry := h _ e he
    exact ⟨e.resource.id, e, he, (hentry.accepts_iff f).mpr hselects, rfl⟩

theorem Sound.indexed (h : s.Sound version limit) : s.Indexed := fun a e he =>
  ⟨(h a e he).filed, (h a e he).indexed⟩

end Store

end ClusterRegistry
