/-!
# Tables with ascending keys

A `Table` is a finite map held as the list of its entries with strictly ascending keys.
The order is part of the value: two tables with the same entries are equal, listings come
out in key order, and a written table always has its keys sorted. Labels, metadata,
free-form objects and the store itself are tables.

`Table.get?_insert` and `Table.ascending` are all that later arguments need to know.
-/

namespace ClusterRegistry

/-- A finite map from `κ` to `α` whose entries stand in strictly ascending key order. -/
structure Table (κ : Type) [Ord κ] (α : Type) where
  /-- The entries, least key first. -/
  entries : List (κ × α)
  /-- No key occurs twice and the keys ascend. -/
  ascending : entries.Pairwise fun a b => compare a.1 b.1 = .lt

namespace Table

variable {κ : Type} [Ord κ] {α β : Type}

@[ext] theorem ext {s t : Table κ α} (h : s.entries = t.entries) : s = t := by
  cases s; cases t; cases h; rfl

/-- The table without entries. -/
def empty : Table κ α := ⟨[], .nil⟩

instance : Inhabited (Table κ α) := ⟨empty⟩

/-- The keys in ascending order. -/
def keys (t : Table κ α) : List κ := t.entries.map (·.1)

/-- The values in the order of their keys. -/
def values (t : Table κ α) : List α := t.entries.map (·.2)

/-- Whether the table has no entry. -/
def isEmpty (t : Table κ α) : Bool := t.entries.isEmpty

/-- The value under a key in a list of entries; the first one counts. -/
def lookup (k : κ) : List (κ × α) → Option α
  | [] => none
  | e :: rest => if compare k e.1 = .eq then some e.2 else lookup k rest

/-- The value under a key. -/
def get? (t : Table κ α) (k : κ) : Option α := lookup k t.entries

/-- Whether a key is present. -/
def contains (t : Table κ α) (k : κ) : Bool := (t.get? k).isSome

/-- Put a value under a key in an ascending list, replacing the one that is there. -/
def put (k : κ) (v : α) : List (κ × α) → List (κ × α)
  | [] => [(k, v)]
  | e :: rest =>
    match compare k e.1 with
    | .lt => (k, v) :: e :: rest
    | .eq => (k, v) :: rest
    | .gt => e :: put k v rest

theorem mem_put {k : κ} {v : α} {l : List (κ × α)} {x : κ × α} (h : x ∈ put k v l) :
    x = (k, v) ∨ x ∈ l := by
  induction l with
  | nil => simpa [put] using h
  | cons e rest ih =>
    rw [put] at h
    split at h
    · simpa using h
    · rcases List.mem_cons.mp h with h | h
      · exact .inl h
      · exact .inr (List.mem_cons_of_mem _ h)
    · rcases List.mem_cons.mp h with h | h
      · exact .inr (h ▸ List.mem_cons_self)
      · exact (ih h).imp id (List.mem_cons_of_mem _)

theorem put_ascending [Std.TransOrd κ] (k : κ) (v : α) {l : List (κ × α)}
    (h : l.Pairwise fun a b => compare a.1 b.1 = .lt) :
    (put k v l).Pairwise fun a b => compare a.1 b.1 = .lt := by
  induction l with
  | nil => simp [put]
  | cons e rest ih =>
    obtain ⟨he, hr⟩ := List.pairwise_cons.mp h
    rw [put]
    split
    · rename_i hk
      refine List.pairwise_cons.mpr ⟨fun x hx => ?_, h⟩
      rcases List.mem_cons.mp hx with rfl | hx
      · exact hk
      · exact Std.TransCmp.lt_trans hk (he x hx)
    · rename_i hk
      exact List.pairwise_cons.mpr ⟨fun x hx => Std.TransCmp.lt_of_eq_of_lt hk (he x hx), hr⟩
    · rename_i hk
      refine List.pairwise_cons.mpr ⟨fun x hx => ?_, ih hr⟩
      rcases mem_put hx with rfl | hx
      · exact Std.OrientedCmp.gt_iff_lt.mp hk
      · exact he x hx

/-- The table with a value put under a key. -/
def insert [Std.TransOrd κ] (t : Table κ α) (k : κ) (v : α) : Table κ α :=
  ⟨put k v t.entries, put_ascending k v t.ascending⟩

/-- The table that a list of entries denotes; of entries with one key the last counts. -/
def ofList [Std.TransOrd κ] (l : List (κ × α)) : Table κ α :=
  l.foldl (fun t e => t.insert e.1 e.2) empty

/-- Every value changed, every key kept. -/
def mapValues (f : κ → α → β) (t : Table κ α) : Table κ β where
  entries := t.entries.map fun e => (e.1, f e.1 e.2)
  ascending := List.pairwise_map.mpr t.ascending

theorem lookup_put_self [Std.ReflOrd κ] (k : κ) (v : α) (l : List (κ × α)) :
    lookup k (put k v l) = some v := by
  induction l with
  | nil => simp [put, lookup, Std.ReflCmp.compare_self]
  | cons e rest ih =>
    rw [put]
    split <;> simp_all [lookup, Std.ReflCmp.compare_self]

theorem lookup_put_of_ne [Std.TransOrd κ] {k k' : κ} (h : compare k' k ≠ .eq) (v : α)
    (l : List (κ × α)) : lookup k' (put k v l) = lookup k' l := by
  induction l with
  | nil => simp [put, lookup, h]
  | cons e rest ih =>
    rw [put]
    split
    · simp [lookup, h]
    · rename_i hk
      have hne : compare k' e.1 ≠ .eq := fun he =>
        h (Std.TransCmp.eq_trans he (Std.OrientedCmp.eq_symm hk))
      simp [lookup, h, hne]
    · simp [lookup, ih]

@[simp] theorem get?_empty (k : κ) : (empty : Table κ α).get? k = none := rfl

/-- Reading after a write sees the value written, and nothing else has changed. -/
theorem get?_insert [Std.TransOrd κ] (t : Table κ α) (k k' : κ) (v : α) :
    (t.insert k v).get? k' = if compare k' k = .eq then some v else t.get? k' := by
  split
  · rename_i h
    have hcongr : ∀ l : List (κ × α), lookup k' l = lookup k l := fun l => by
      induction l with
      | nil => rfl
      | cons e rest ih => simp [lookup, ih, Std.TransCmp.congr_left h]
    simpa [get?, insert, hcongr] using lookup_put_self k v t.entries
  · rename_i h
    exact lookup_put_of_ne h v t.entries

end Table

end ClusterRegistry
