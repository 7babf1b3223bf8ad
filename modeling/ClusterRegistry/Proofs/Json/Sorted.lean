import ClusterRegistry.Json.Embedded
import ClusterRegistry.Proofs.Fallible
import ClusterRegistry.Proofs.Table.Entries

/-!
# Values with their members in order

A JSON value that is held in memory has the members of its objects in ascending order of their
keys (`Json.Ordered`), and every value can be brought into this form (`Json.sorted`). A value that
stands for itself is one that `Json.settle` gives back. An ordered value does so if no object in it
starts with the key for embedded texts (`Json.Plain`). If one does, it stands for what the text says
where the text is all that it holds (otherwise the value is `Json.Unembedded`), and for nothing
where it holds more.
-/

namespace ClusterRegistry.Json

mutual

/-- A value with the members of all its objects in ascending order of their keys. -/
def sorted : Json → Json
  | .array items => .array (sortedItems items)
  | .object members => .object (Table.ofList (sortedMembers members)).entries
  | v => v

/-- Items with the members of all objects in order. -/
def sortedItems : List Json → List Json
  | [] => []
  | v :: rest => sorted v :: sortedItems rest

/-- Members, in the order in which they stand, with those of all objects inside in order. -/
def sortedMembers : List (String × Json) → List (String × Json)
  | [] => []
  | m :: rest => (m.1, sorted m.2) :: sortedMembers rest

end

theorem sortedItems_eq_map (items : List Json) : sortedItems items = items.map sorted := by
  induction items with
  | nil => rfl
  | cons v rest ih => rw [sortedItems, ih, List.map_cons]

theorem sortedMembers_eq_map (members : List (String × Json)) :
    sortedMembers members = members.map fun m => (m.1, sorted m.2) := by
  induction members with
  | nil => rfl
  | cons m rest ih => rw [sortedMembers, ih, List.map_cons]

/-- The members of an object with distinct keys are the same after sorting, but for what is sorted
inside them. -/
theorem mem_sorted_object_iff {members : List (String × Json)} (h : (members.map (·.1)).Nodup)
    {k : String} {v : Json} : (k, v) ∈ (Table.ofList (sortedMembers members)).entries ↔
      ∃ w, (k, w) ∈ members ∧ w.sorted = v := by
  have hkeys : (sortedMembers members).map (·.1) = members.map (·.1) := by
    rw [sortedMembers_eq_map, List.map_map]
    rfl
  rw [Table.mem_entries_ofList_iff (hkeys ▸ h), sortedMembers_eq_map, List.mem_map]
  constructor
  · rintro ⟨⟨k', w⟩, hmem, heq⟩
    cases heq
    exact ⟨w, hmem, rfl⟩
  · rintro ⟨w, hmem, rfl⟩
    exact ⟨(k, w), hmem, rfl⟩

/-! ## Ordered values -/

/-- The members of all objects stand in ascending order of their keys, each key once. -/
inductive Ordered : Json → Prop
  | null : Ordered .null
  | bool (b : Bool) : Ordered (.bool b)
  | number (n : Number) : Ordered (.number n)
  | text (s : String) : Ordered (.text s)
  | array {items : List Json} (hitems : ∀ v ∈ items, Ordered v) : Ordered (.array items)
  | object {members : List (String × Json)}
      (hkeys : members.Pairwise fun m n => compare m.1 n.1 = .lt)
      (hvalues : ∀ m ∈ members, Ordered m.2) : Ordered (.object members)

/-- No object consists of an embedded text. -/
inductive Unembedded : Json → Prop
  | null : Unembedded .null
  | bool (b : Bool) : Unembedded (.bool b)
  | number (n : Number) : Unembedded (.number n)
  | text (s : String) : Unembedded (.text s)
  | array {items : List Json} (hitems : ∀ v ∈ items, Unembedded v) : Unembedded (.array items)
  | object {members : List (String × Json)} (halone : ∀ s, members ≠ [(embeddedKey, .text s)])
      (hvalues : ∀ m ∈ members, Unembedded m.2) : Unembedded (.object members)

/-- No object starts with the key for embedded texts. -/
inductive Plain : Json → Prop
  | null : Plain .null
  | bool (b : Bool) : Plain (.bool b)
  | number (n : Number) : Plain (.number n)
  | text (s : String) : Plain (.text s)
  | array {items : List Json} (hitems : ∀ v ∈ items, Plain v) : Plain (.array items)
  | object {members : List (String × Json)} (hfirst : ∀ m ∈ members.head?, m.1 ≠ embeddedKey)
      (hvalues : ∀ m ∈ members, Plain m.2) : Plain (.object members)

theorem ordered_array_iff {items : List Json} :
    (Json.array items).Ordered ↔ ∀ v ∈ items, v.Ordered :=
  ⟨fun h => by cases h; assumption, .array⟩

theorem ordered_object_iff {members : List (String × Json)} :
    (Json.object members).Ordered ↔
      (members.Pairwise fun m n => compare m.1 n.1 = .lt) ∧ ∀ m ∈ members, m.2.Ordered :=
  ⟨fun h => by cases h; exact ⟨‹_›, ‹_›⟩, fun h => .object h.1 h.2⟩

theorem unembedded_array_iff {items : List Json} :
    (Json.array items).Unembedded ↔ ∀ v ∈ items, v.Unembedded :=
  ⟨fun h => by cases h; assumption, .array⟩

theorem unembedded_object_iff {members : List (String × Json)} :
    (Json.object members).Unembedded ↔
      (∀ s, members ≠ [(embeddedKey, .text s)]) ∧ ∀ m ∈ members, m.2.Unembedded :=
  ⟨fun h => by cases h; exact ⟨‹_›, ‹_›⟩, fun h => .object h.1 h.2⟩

mutual

/-- An ordered value is not changed by sorting. -/
theorem Ordered.sorted_eq : {v : Json} → v.Ordered → v.sorted = v
  | .null, _ | .bool _, _ | .number _, _ | .text _, _ => rfl
  | .array items, .array hitems => by
    rw [sorted, sortedItems_eq_self items hitems]
  | .object members, .object hkeys hvalues => by
    rw [sorted, sortedMembers_eq_self members hvalues, Table.entries_ofList hkeys]

theorem sortedItems_eq_self : (items : List Json) → (∀ v ∈ items, v.Ordered) →
    sortedItems items = items
  | [], _ => rfl
  | v :: rest, h => by
    rw [sortedItems, (h v List.mem_cons_self).sorted_eq,
      sortedItems_eq_self rest fun w hw => h w (List.mem_cons_of_mem _ hw)]

theorem sortedMembers_eq_self : (members : List (String × Json)) →
    (∀ m ∈ members, m.2.Ordered) → sortedMembers members = members
  | [], _ => rfl
  | m :: rest, h => by
    rw [sortedMembers, (h m List.mem_cons_self).sorted_eq,
      sortedMembers_eq_self rest fun n hn => h n (List.mem_cons_of_mem _ hn)]

end

/-! ## Values that stand for themselves -/

/-- An ordered value that stands for itself. -/
structure Literal (v : Json) : Prop where
  ordered : v.Ordered
  settled : v.settle = .ok v

mutual

/-- An ordered value stands for itself if none of its objects starts with the key for embedded
texts. -/
theorem settle_of_plain : {v : Json} → v.Ordered → v.Plain → v.settle = .ok v
  | .null, _, _ | .bool _, _, _ | .number _, _, _ | .text _, _, _ | .object [], _, _ => rfl
  | .array items, .array hordered, .array hplain => by
    rw [settle, settleItems_of_plain hordered hplain]
    rfl
  | .object (m :: rest), .object hkeys hordered, .object hfirst hplain => by
    rw [settle, if_neg (hfirst m rfl), settleMembers_of_plain hordered hplain]
    exact congrArg (Except.ok <| Json.object ·) (Table.entries_ofList hkeys)

theorem settleItems_of_plain : {vs : List Json} → (∀ v ∈ vs, v.Ordered) → (∀ v ∈ vs, v.Plain) →
    settleItems vs = .ok vs
  | [], _, _ => rfl
  | v :: rest, hordered, hplain => by
    obtain ⟨hvordered, hordered⟩ := List.forall_mem_cons.mp hordered
    obtain ⟨hvplain, hplain⟩ := List.forall_mem_cons.mp hplain
    rw [settleItems, settle_of_plain hvordered hvplain, settleItems_of_plain hordered hplain]
    rfl

theorem settleMembers_of_plain : {ms : List (String × Json)} → (∀ m ∈ ms, m.2.Ordered) →
    (∀ m ∈ ms, m.2.Plain) → settleMembers ms = .ok ms
  | [], _, _ => rfl
  | m :: rest, hordered, hplain => by
    obtain ⟨hmordered, hordered⟩ := List.forall_mem_cons.mp hordered
    obtain ⟨hmplain, hplain⟩ := List.forall_mem_cons.mp hplain
    rw [settleMembers, settle_of_plain hmordered hmplain, settleMembers_of_plain hordered hplain]
    rfl

end

mutual

/-- If none of its objects consists of an embedded text, a value stands for something only if none
of them starts with the key for embedded texts. -/
theorem plain_of_settle : {v w : Json} → v.Unembedded → v.settle = .ok w → v.Plain
  | .null, _, _, _ => .null
  | .bool b, _, _, _ => .bool b
  | .number n, _, _, _ => .number n
  | .text s, _, _, _ => .text s
  | .array items, _, .array hunembedded, h => by
    obtain ⟨ws, hws, -⟩ := exists_of_bind_eq_ok h
    exact .array (plain_of_settleItems hunembedded hws)
  | .object [], _, _, _ => .object nofun nofun
  | .object (m :: rest), w, .object halone hunembedded, h => by
    rw [settle] at h
    split at h
    · next hkey =>
      -- an embedded text in front is refused where it does not stand alone
      obtain ⟨key, v⟩ := m
      obtain rfl : key = embeddedKey := hkey
      cases v with
      | text s =>
        obtain ⟨u, -, h⟩ := exists_of_bind_eq_ok h
        cases rest with
        | nil => exact absurd rfl (halone s)
        | cons _ _ => cases h
      | _ => cases h
    · next hkey =>
      obtain ⟨ns, hns, -⟩ := exists_of_bind_eq_ok h
      refine .object (fun n hn => ?_) (plain_of_settleMembers hunembedded hns)
      cases hn
      exact hkey

theorem plain_of_settleItems : {vs ws : List Json} → (∀ v ∈ vs, v.Unembedded) →
    settleItems vs = .ok ws → ∀ v ∈ vs, v.Plain
  | [], _, _, _ => nofun
  | v :: rest, _, hunembedded, h => by
    obtain ⟨hvunembedded, hunembedded⟩ := List.forall_mem_cons.mp hunembedded
    obtain ⟨w, hw, h⟩ := exists_of_bind_eq_ok h
    obtain ⟨others, hothers, -⟩ := exists_of_bind_eq_ok h
    exact List.forall_mem_cons.mpr
      ⟨plain_of_settle hvunembedded hw, plain_of_settleItems hunembedded hothers⟩

theorem plain_of_settleMembers : {ms ns : List (String × Json)} → (∀ m ∈ ms, m.2.Unembedded) →
    settleMembers ms = .ok ns → ∀ m ∈ ms, m.2.Plain
  | [], _, _, _ => nofun
  | m :: rest, _, hunembedded, h => by
    obtain ⟨hmunembedded, hunembedded⟩ := List.forall_mem_cons.mp hunembedded
    obtain ⟨w, hw, h⟩ := exists_of_bind_eq_ok h
    obtain ⟨others, hothers, -⟩ := exists_of_bind_eq_ok h
    exact List.forall_mem_cons.mpr
      ⟨plain_of_settle hmunembedded hw, plain_of_settleMembers hunembedded hothers⟩

end

/-- If none of its objects consists of an embedded text, an ordered value stands for itself or for
nothing. -/
theorem eq_of_settle {v w : Json} (hordered : v.Ordered) (hunembedded : v.Unembedded)
    (h : v.settle = .ok w) : w = v := by
  have hself := settle_of_plain hordered (plain_of_settle hunembedded h)
  exact Except.ok.inj (h.symm.trans hself)

theorem eq_of_settleMembers {ms ns : List (String × Json)} (hordered : ∀ m ∈ ms, m.2.Ordered)
    (hunembedded : ∀ m ∈ ms, m.2.Unembedded) (h : settleMembers ms = .ok ns) : ns = ms := by
  have hself := settleMembers_of_plain hordered (plain_of_settleMembers hunembedded h)
  exact Except.ok.inj (h.symm.trans hself)

theorem settleMembers_of_literal {ms : List (String × Json)} (h : ∀ m ∈ ms, m.2.Literal) :
    settleMembers ms = .ok ms := by
  induction ms with
  | nil => rfl
  | cons m rest ih =>
    obtain ⟨hm, hrest⟩ := List.forall_mem_cons.mp h
    rw [settleMembers, hm.settled, ih hrest]
    rfl

end ClusterRegistry.Json
