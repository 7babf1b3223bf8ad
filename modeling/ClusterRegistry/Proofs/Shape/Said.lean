import ClusterRegistry.Proofs.Json.Parsed
import ClusterRegistry.Proofs.Shape.Field

/-!
# What a value says of a field

A record that is decoded takes each of its fields from one place of the value: the last member with
the key of the field or, where the record is given as an array, the item in the place of the field.
Where there is none, the field is as it is in the blank record (`Fields.Lenses.take_of_decode`). So
nothing else that a value says has a bearing on the field: two values that say the same of it give
it the same value (`Fields.Lenses.get_eq_of_said`).
-/

namespace ClusterRegistry

variable {α : Type}

/-! ## Members -/

namespace Json

variable {key : String} {v : Json}

/-- What a value says under a key of a record with the given keys. The items of an array stand for
the fields in the order of their declaration. -/
def said? (keys : List String) (key : String) : Json → Option Json
  | .array items => (object (keys.zip items)).member? key
  | v => v.member? key

/-- A later member with the key counts, or else the first one. -/
theorem member?_cons (m : String × Json) (rest : List (String × Json)) (key : String) :
    (object (m :: rest)).member? key =
      ((object rest).member? key).or (if m.1 = key then some m.2 else none) := by
  rw [member?, member?, List.reverse_cons, List.find?_append, List.find?_singleton]
  by_cases hkey : m.1 = key <;> cases rest.reverse.find? (·.1 == key) <;> simp [hkey]

theorem mem_of_member? {members : List (String × Json)}
    (h : (object members).member? key = some v) : (key, v) ∈ members := by
  obtain ⟨⟨k, w⟩, hfind, rfl⟩ := Option.map_eq_some_iff.mp h
  obtain rfl : k = key := by simpa using List.find?_some hfind
  exact List.mem_reverse.mp (List.mem_of_find?_eq_some hfind)

/-- Whatever a parsed value says is parsed. -/
theorem Parsed.said? {keys : List String} {w : Json} (h : v.Parsed)
    (hsaid : v.said? keys key = some w) : w.Parsed := by
  cases v with
  | object members => exact h.of_mem_object _ (mem_of_member? hsaid)
  | array items => exact h.of_mem_array _ (List.of_mem_zip (mem_of_member? hsaid)).2
  | _ => cases hsaid

end Json

/-! ## Fields taken from members -/

/-- The value that a field of a record takes from what is said of it; if nothing is, it keeps the
one that it has. -/
def Field.take (f : Field α) (a : α) : Option Json → Except Mismatch f.Value
  | some v => f.decode v
  | none => .ok (f.get a)

namespace Fields

variable {fields rest : Fields α} {f : Field α} {a a' : α} {k : String} {v w : Json}
  {members : List (String × Json)}

namespace Lenses

/-- One member is taken by the field with its key and by no other. -/
theorem take_of_assign (h : fields.Lenses) (hf : f ∈ fields.list)
    (hassign : fields.assign k v a = .ok a') :
    f.take a (if k = f.key then some v else Option.none) = .ok (f.get a') := by
  rw [assign_eq] at hassign
  cases hfind : fields.list.find? (·.key == k) with
  | none =>
    rw [hfind] at hassign
    cases hassign
    have hkey : k ≠ f.key := fun hkey =>
      List.find?_eq_none.mp hfind f hf (beq_iff_eq.mpr hkey.symm)
    rw [if_neg hkey]
    rfl
  | some g =>
    rw [hfind] at hassign
    obtain ⟨b, hb, rfl⟩ := exists_of_map_eq_ok hassign
    have hg : g ∈ fields.list := List.mem_of_find?_eq_some hfind
    obtain rfl : g.key = k := by simpa using List.find?_some hfind
    by_cases hkey : g.key = f.key
    · obtain rfl := h.eq_of_key hg hf hkey
      rw [if_pos rfl, h.get_set g hg]
      exact hb
    · rw [if_neg hkey, h.get_set_of_ne hf hg (Ne.symm hkey)]
      rfl

/-- Of members that are assigned one after the other a field takes the last one with its key. -/
theorem take_of_assigned (h : fields.Lenses) (hf : f ∈ fields.list)
    (hassigned : members.foldlM (fun a m => fields.assign m.1 m.2 a) a = .ok a') :
    f.take a ((Json.object members).member? f.key) = .ok (f.get a') := by
  induction members generalizing a with
  | nil =>
    cases hassigned
    rfl
  | cons m rest ih =>
    rw [List.foldlM_cons] at hassigned
    obtain ⟨next, hnext, hassigned⟩ := exists_of_bind_eq_ok hassigned
    have hrest := ih hassigned
    rw [Json.member?_cons]
    cases hlater : (Json.object rest).member? f.key with
    | some v =>
      rw [hlater] at hrest
      exact hrest
    | none =>
      -- the rest says nothing of the field, which is as the first member has left it
      rw [hlater] at hrest
      rw [Option.none_or, h.take_of_assign hf hnext]
      exact hrest

end Lenses

/-! ## Fields taken from items -/

/-- A member that does not belong to the first field belongs to the others. -/
theorem assign_of_ne (hlist : fields.list = f :: rest.list) (hk : k ≠ f.key) :
    fields.assign k v a = rest.assign k v a := by
  have hfirst : (f.key == k) = false := beq_eq_false_iff_ne.mpr (Ne.symm hk)
  rw [assign_eq, assign_eq, hlist, List.find?_cons, hfirst]

/-- The first item is assigned to the first field, and the others to the other fields. -/
theorem assigned_cons (hlist : fields.list = f :: rest.list) (hnodup : fields.keys.Nodup)
    (items : List Json) :
    (fields.keys.zip (v :: items)).foldlM (fun a m => fields.assign m.1 m.2 a) a =
      f.decode v >>= fun b =>
        (rest.keys.zip items).foldlM (fun a m => rest.assign m.1 m.2 a) (f.set b a) := by
  have hkeys : fields.keys = f.key :: rest.keys := by
    rw [keys_eq, hlist, List.map_cons, ← keys_eq]
  rw [hkeys] at hnodup ⊢
  obtain ⟨hfirst, -⟩ := List.nodup_cons.mp hnodup
  have hassign : fields.assign f.key v a = (f.decode v).map (f.set · a) := by
    rw [assign_eq, hlist, List.find?_cons, beq_self_eq_true]
  have hothers : ∀ members : List (String × Json), (∀ m ∈ members, m.1 ≠ f.key) → ∀ a,
      members.foldlM (fun a m => fields.assign m.1 m.2 a) a =
        members.foldlM (fun a m => rest.assign m.1 m.2 a) a := by
    intro members hmembers
    induction members with
    | nil => exact fun _ => rfl
    | cons m others ih =>
      obtain ⟨hm, hmembers⟩ := List.forall_mem_cons.mp hmembers
      intro a
      rw [List.foldlM_cons, List.foldlM_cons, assign_of_ne hlist hm]
      exact congrArg _ (funext (ih hmembers))
  rw [List.zip_cons_cons, List.foldlM_cons, hassign]
  cases f.decode v with
  | error e => rfl
  | ok b => exact hothers _ (fun m hm hkey => hfirst (hkey ▸ (List.of_mem_zip hm).1)) (f.set b a)

/-- The fields from a place on need not be there in an array. -/
def OptionalFrom : {α : Type} → Fields α → Nat → Prop
  | _, .none, _ => True
  | _, .cons presence _ _ _ _ rest, 0 => presence = .defaulted ∧ rest.OptionalFrom 0
  | _, .omittable _ _ _ _ rest, 0 => rest.OptionalFrom 0
  | _, .cons _ _ _ _ _ rest, n + 1 => rest.OptionalFrom n
  | _, .omittable _ _ _ _ rest, n + 1 => rest.OptionalFrom n

/-- If no field need be there, those from a place on need not. -/
theorem optionalFrom_of_zero : {α : Type} → (fields : Fields α) → fields.OptionalFrom 0 →
    ∀ n, fields.OptionalFrom n
  | _, .none, _, _ => trivial
  | _, .cons _ _ _ _ _ _, h, 0 => h
  | _, .cons _ _ _ _ _ rest, h, n + 1 => rest.optionalFrom_of_zero h.2 n
  | _, .omittable _ _ _ _ _, h, 0 => h
  | _, .omittable _ _ _ _ rest, h, n + 1 => rest.optionalFrom_of_zero h n

/-- Filling in the items of an array is assigning them under the keys of the fields, where the array
has an item for every field that must have one. -/
theorem fill_eq_ok_iff : {α : Type} → (fields : Fields α) → fields.keys.Nodup →
    (name : String) → (total index : Nat) → (items : List Json) → (a a' : α) →
    (fields.fill name total index items a = .ok a' ↔ fields.OptionalFrom items.length ∧
      (fields.keys.zip items).foldlM (fun a m => fields.assign m.1 m.2 a) a = .ok a')
  | _, .none, _, _, _, _, _, _, _ => (and_iff_right trivial).symm
  | _, .cons presence key get set shape rest, hnodup, name, total, index, items, a, a' => by
    have hrest := rest.fill_eq_ok_iff (List.nodup_cons.mp hnodup).2 name total (index + 1)
    cases items with
    | nil =>
      rw [List.zip_nil_right]
      cases presence with
      | defaulted => simpa [fill, OptionalFrom] using hrest [] a a'
      | _ => simp [fill, OptionalFrom]
    | cons v vs =>
      have hfill : (cons presence key get set shape rest).fill name total index (v :: vs) a =
          (Field.written presence key get set shape).decode v >>= fun b =>
            rest.fill name total (index + 1) vs (set b a) := by
        cases presence <;> rfl
      rw [hfill, assigned_cons (f := .written presence key get set shape) rfl hnodup vs]
      cases (Field.written presence key get set shape).decode v with
      | error e => exact ⟨nofun, fun h => nomatch h.2⟩
      | ok b => exact hrest vs (set b a) a'
  | _, .omittable key get set shape rest, hnodup, name, total, index, items, a, a' => by
    have hrest := rest.fill_eq_ok_iff (List.nodup_cons.mp hnodup).2 name total (index + 1)
    cases items with
    | nil =>
      rw [List.zip_nil_right]
      simpa [fill, OptionalFrom] using hrest [] a a'
    | cons v vs =>
      rw [fill_omittable, assigned_cons (f := .omittable key get set shape) rfl hnodup vs]
      cases (Field.omittable key get set shape).decode v with
      | error e => exact ⟨nofun, fun h => nomatch h.2⟩
      | ok b => exact hrest vs (set b a) a'

/-- Where no field need be there, filling in the items of an array is assigning them, mismatches
included. -/
theorem fill_eq_foldlM : {α : Type} → (fields : Fields α) → fields.keys.Nodup →
    fields.OptionalFrom 0 → (name : String) → (total index : Nat) → (items : List Json) → (a : α) →
    fields.fill name total index items a =
      (fields.keys.zip items).foldlM (fun a m => fields.assign m.1 m.2 a) a
  | _, .none, _, _, _, _, _, _, _ => rfl
  | _, .cons presence key get set shape rest, hnodup, hoptional, name, total, index, items, a => by
    obtain ⟨rfl, hrest⟩ := hoptional
    have ih := rest.fill_eq_foldlM (List.nodup_cons.mp hnodup).2 hrest name total (index + 1)
    cases items with
    | nil =>
      rw [fill, ih, List.zip_nil_right, List.zip_nil_right]
      rfl
    | cons v vs =>
      rw [fill, assigned_cons (f := .written .defaulted key get set shape) rfl hnodup vs]
      exact congrArg _ (funext fun b => ih vs (set b a))
  | _, .omittable key get set shape rest, hnodup, hrest, name, total, index, items, a => by
    have ih := rest.fill_eq_foldlM (List.nodup_cons.mp hnodup).2 hrest name total (index + 1)
    cases items with
    | nil =>
      rw [fill, ih, List.zip_nil_right, List.zip_nil_right]
      rfl
    | cons v vs =>
      rw [fill_omittable, assigned_cons (f := .omittable key get set shape) rfl hnodup vs]
      exact congrArg _ (funext fun b => ih vs (set b a))

/-! ## Fields of decoded records -/

namespace Lenses

variable {name : String} {blank : α}

/-- A field of a decoded record is what the value says of it, or what it is in the blank record. -/
theorem take_of_decode (h : fields.Lenses) (hf : f ∈ fields.list)
    (hdecode : (Shape.record name blank fields).decode v = .ok a) :
    f.take blank (v.said? fields.keys f.key) = .ok (f.get a) := by
  cases v with
  | object members =>
    obtain ⟨b, hb, hdecode⟩ := exists_of_bind_eq_ok hdecode
    obtain ⟨_, -, hdecode⟩ := exists_of_bind_eq_ok hdecode
    cases hdecode
    exact h.take_of_assigned hf hb
  | array items =>
    obtain ⟨b, hb, hdecode⟩ := exists_of_bind_eq_ok hdecode
    split at hdecode
    · cases hdecode
    · cases hdecode
      exact h.take_of_assigned hf ((fields.fill_eq_ok_iff h.nodup _ _ _ _ _ _).mp hb).2
  | _ => cases hdecode

/-- Two values that say the same of a field are decoded to records that agree in it. -/
theorem get_eq_of_said (h : fields.Lenses) (hf : f ∈ fields.list)
    (hv : (Shape.record name blank fields).decode v = .ok a)
    (hw : (Shape.record name blank fields).decode w = .ok a')
    (hsaid : v.said? fields.keys f.key = w.said? fields.keys f.key) : f.get a = f.get a' := by
  have htake := h.take_of_decode hf hv
  rw [hsaid, h.take_of_decode hf hw] at htake
  exact (Except.ok.inj htake).symm

end Lenses

end Fields

end ClusterRegistry
