import Mathlib.Data.List.Sort
import ClusterRegistry.Table

/-!
# The entries of a table

A table is its list of entries, and this list is ascending. So a list that is already ascending is
the list of entries of the table that it denotes (`Table.entries_ofList`), and any other list with
distinct keys has the same members as the entries of its table (`Table.mem_entries_ofList_iff`).
-/

namespace ClusterRegistry.Table

variable {κ : Type} [Ord κ] {α : Type}

theorem entries_empty : (empty : Table κ α).entries = [] := rfl

section

variable [Std.LawfulEqOrd κ]

/-- The entries of a table are the keys that lead to a value, each with its value. -/
theorem mem_entries_iff (t : Table κ α) {k : κ} {v : α} :
    (k, v) ∈ t.entries ↔ t.get? k = some v := by
  obtain ⟨entries, hascending⟩ := t
  unfold get?
  induction entries with
  | nil => simp [lookup]
  | cons e rest ih =>
    obtain ⟨hfirst, hrest⟩ := List.pairwise_cons.mp hascending
    rw [List.mem_cons, ih hrest, lookup]
    by_cases hk : compare k e.1 = .eq
    · obtain rfl : k = e.1 := Std.LawfulEqOrd.eq_of_compare hk
      -- the key does not occur again
      have hnone : lookup e.1 rest ≠ some v := fun hv => by
        have hlt := hfirst (e.1, v) ((ih hrest).mpr hv)
        rw [Std.compare_self] at hlt
        cases hlt
      simp [hnone, Prod.ext_iff, eq_comm]
    · have hne : (k, v) ≠ e := fun he => hk (he ▸ Std.compare_self)
      simp [hk, hne]

end

variable [Std.TransOrd κ]

/-- Where keys ascend, none occurs twice. -/
theorem nodup_keys_of_ascending {l : List (κ × α)}
    (h : l.Pairwise fun a b => compare a.1 b.1 = .lt) : (l.map (·.1)).Nodup := by
  rw [List.Nodup, List.pairwise_map]
  refine h.imp fun {a b} hlt he => ?_
  rw [he, Std.compare_self] at hlt
  cases hlt

/-- A table is known by its entries, in whatever order they are told. -/
theorem eq_of_mem_iff {s t : Table κ α} (h : ∀ e, e ∈ s.entries ↔ e ∈ t.entries) : s = t := by
  have hirrefl : Std.Irrefl fun a b : κ × α => compare a.1 b.1 = .lt := ⟨fun a hlt => by
    rw [Std.compare_self] at hlt
    cases hlt⟩
  have hantisymm : Std.Antisymm fun a b : κ × α => compare a.1 b.1 = .lt := ⟨fun a b hab hba => by
    rw [Std.OrientedCmp.gt_iff_lt.mpr hba] at hab
    cases hab⟩
  exact ext (s.ascending.eq_of_mem_iff t.ascending h)

/-- Putting a value where it is already changes nothing. -/
theorem insert_eq_self [Std.LawfulEqOrd κ] {t : Table κ α} {k : κ} {v : α} (h : t.get? k = some v) :
    t.insert k v = t := by
  refine eq_of_mem_iff fun ⟨k', w⟩ => ?_
  rw [mem_entries_iff, mem_entries_iff, get?_insert]
  split
  · next hk => rw [Std.LawfulEqOrd.eq_of_compare hk, h]
  · exact Iff.rfl

/-- A value that is put under a key beyond all others comes last. -/
theorem put_of_forall_lt {k : κ} {v : α} {l : List (κ × α)} (h : ∀ e ∈ l, compare e.1 k = .lt) :
    put k v l = l ++ [(k, v)] := by
  induction l with
  | nil => rfl
  | cons e rest ih =>
    have hgt : compare k e.1 = .gt := Std.OrientedCmp.gt_iff_lt.mpr (h e List.mem_cons_self)
    rw [put, hgt]
    exact congrArg (e :: ·) (ih fun x hx => h x (List.mem_cons_of_mem _ hx))

/-- An ascending list is the list of entries of the table that it denotes. -/
theorem entries_ofList {l : List (κ × α)} (h : l.Pairwise fun a b => compare a.1 b.1 = .lt) :
    (ofList l).entries = l := by
  -- whatever has been put in already lies before the rest of the list
  have hgeneral : ∀ (t : Table κ α) (l : List (κ × α)),
      (t.entries ++ l).Pairwise (fun a b => compare a.1 b.1 = .lt) →
      (l.foldl (fun t e => t.insert e.1 e.2) t).entries = t.entries ++ l := by
    intro t l
    induction l generalizing t with
    | nil => exact fun _ => (List.append_nil _).symm
    | cons e rest ih =>
      intro hascending
      have hlast : (t.insert e.1 e.2).entries = t.entries ++ [e] :=
        put_of_forall_lt fun x hx =>
          (List.pairwise_append.mp hascending).2.2 x hx e List.mem_cons_self
      rw [List.foldl_cons, ih _ (by rwa [hlast, List.append_assoc]), hlast, List.append_assoc]
      rfl
  exact hgeneral empty l h

theorem ofList_entries (t : Table κ α) : ofList t.entries = t :=
  ext (entries_ofList t.ascending)

/-- What a key leads to in the table of a list with distinct keys. -/
theorem mem_entries_ofList_iff [Std.LawfulEqOrd κ] {l : List (κ × α)} (h : (l.map (·.1)).Nodup)
    {k : κ} {v : α} : (k, v) ∈ (ofList l).entries ↔ (k, v) ∈ l := by
  rw [mem_entries_iff]
  -- a key that is not among those still to come leads where it leads already
  have hgeneral : ∀ (t : Table κ α) (l : List (κ × α)), (l.map (·.1)).Nodup →
      ((l.foldl (fun t e => t.insert e.1 e.2) t).get? k = some v ↔
        (k, v) ∈ l ∨ k ∉ l.map (·.1) ∧ t.get? k = some v) := by
    intro t l
    induction l generalizing t with
    | nil => simp
    | cons e rest ih =>
      intro hnodup
      rw [List.map_cons, List.nodup_cons] at hnodup
      rw [List.foldl_cons, ih _ hnodup.2, get?_insert, List.map_cons, List.mem_cons, List.mem_cons]
      by_cases hk : compare k e.1 = .eq
      · obtain rfl : k = e.1 := Std.LawfulEqOrd.eq_of_compare hk
        have hout : ∀ w, (e.1, w) ∉ rest := fun w hw =>
          hnodup.1 (List.mem_map.mpr ⟨(e.1, w), hw, rfl⟩)
        simp [hnodup.1, hout, Prod.ext_iff, eq_comm]
      · have hne : k ≠ e.1 := fun he => hk (he ▸ Std.compare_self)
        have hneq : (k, v) ≠ e := fun he => hne (congrArg Prod.fst he)
        simp [hk, hne, hneq]
  rw [ofList, hgeneral empty l h]
  simp

end ClusterRegistry.Table
