import Mathlib.Data.List.Nodup
import Mathlib.Data.List.Pairwise
import ClusterRegistry.Proofs.Json.Sorted
import ClusterRegistry.Shape.Decode

/-!
# The fields of a record

What decoding and encoding do to a record they do to its fields, one by one. A `Field` is one
field taken out of the row in which it is declared, and `Fields.list` lists the fields of a row.
Of the accessors of the fields two things are needed: each of them gets what it has set, and leaves
the others alone (`Fields.Lenses`).

`Shape.Fits` says of a value that nothing in it is lost when it is written: everything that is kept
as it was read stands for itself, and the keys that a record keeps are not those of its fields.
`Shape.Legible` says only as much of it as decoding does not see to: what it is written as is not
taken for an embedded text or for something that was left out.
-/

namespace ClusterRegistry

/-! ## Values that are not lost when they are written -/

mutual

/-- A value all parts of which are found again in what is written. -/
def Shape.Fits : {α : Type} → Shape α → α → Prop
  | _, .text, _ | _, .flag, _ | _, .word16, _ | _, .word32, _ | _, .word64, _ => True
  | _, .any ofJson toJson, a => (toJson a).Literal ∧ ofJson (toJson a) = a
  | _, .list item, as => ∀ a ∈ as, item.Fits a
  | _, .texts, _ => True
  | _, .members, t => ∀ e ∈ t.entries, e.2.Literal
  | _, .option item, o => ∀ a, o = some a → item.Fits a ∧ item.encode a ≠ .null
  | _, .choice known nameOf, a => chooseNamed known (nameOf a) = .ok a
  | _, .record _ _ fields, a => fields.Fit a
  | _, .extensible _ _ fields others _, a =>
    fields.Fit a ∧ ∀ e ∈ (others a).entries, e.1 ∉ fields.keys ∧ e.2.Literal
  | _, .abbreviated _ _ _ form, a => form.Fits a

/-- A record whose fields are found again in what is written. -/
def Fields.Fit : {α : Type} → Fields α → α → Prop
  | _, .none, _ => True
  | _, .cons _ _ get _ shape rest, a => shape.Fits (get a) ∧ rest.Fit a
  | _, .omittable _ get _ shape rest, a =>
    (∀ b, get a = some b → shape.Fits b ∧ shape.encode b ≠ .null) ∧ rest.Fit a

end

mutual

/-- A value that is not mistaken for another one where it is written: no object that it keeps as it
was read starts with the key for embedded texts, and nothing that may be left out is `null`. -/
def Shape.Legible : {α : Type} → Shape α → α → Prop
  | _, .text, _ | _, .flag, _ | _, .word16, _ | _, .word32, _ | _, .word64, _ => True
  | _, .any _ toJson, a => (toJson a).Plain
  | _, .list item, as => ∀ a ∈ as, item.Legible a
  | _, .texts, _ => True
  | _, .members, t => ∀ e ∈ t.entries, e.2.Plain
  | _, .option item, o => ∀ a, o = some a → item.Legible a
  | _, .choice _ _, _ => True
  | _, .record _ _ fields, a => fields.Legible a
  | _, .extensible _ _ fields others _, a =>
    fields.Legible a ∧ ∀ e ∈ (others a).entries, e.2.Plain
  | _, .abbreviated _ _ _ form, a => form.Legible a

/-- A record none of whose fields is mistaken for another value. -/
def Fields.Legible : {α : Type} → Fields α → α → Prop
  | _, .none, _ => True
  | _, .cons _ _ get _ shape rest, a => shape.Legible (get a) ∧ rest.Legible a
  | _, .omittable _ get _ shape rest, a =>
    (∀ b, get a = some b → shape.Legible b ∧ shape.encode b ≠ .null) ∧ rest.Legible a

end

/-! ## Fields one by one -/

/-- A field of a record. -/
structure Field (α : Type) where
  key : String
  Value : Type
  get : α → Value
  set : Value → α → α
  decode : Json → Except Mismatch Value
  /-- The JSON value under the key, if the field is written. -/
  encode : Value → Option Json
  required : Bool
  Fits : Value → Prop
  Legible : Value → Prop

namespace Field

variable {α β : Type}

/-- A field that is always written. -/
def written (presence : Presence) (key : String) (get : α → β) (set : β → α → α)
    (shape : Shape β) : Field α where
  key := key
  Value := β
  get := get
  set := set
  decode := shape.decode
  encode b := some (shape.encode b)
  required := decide (presence = .required)
  Fits := shape.Fits
  Legible := shape.Legible

/-- A field that is not written where it has no value. -/
def omittable (key : String) (get : α → Option β) (set : Option β → α → α) (shape : Shape β) :
    Field α where
  key := key
  Value := Option β
  get := get
  set := set
  decode
    | .null => .ok none
    | v => (shape.decode v).map some
  encode := Option.map shape.encode
  required := false
  Fits o := ∀ b, o = some b → shape.Fits b ∧ shape.encode b ≠ .null
  Legible o := ∀ b, o = some b → shape.Legible b ∧ shape.encode b ≠ .null

/-- The member that is written for a field of a record. -/
def member? (f : Field α) (a : α) : Option (String × Json) :=
  (f.encode (f.get a)).map (f.key, ·)

/-- Neither of two fields is touched when the other is set. -/
def Apart (f g : Field α) : Prop :=
  (∀ b a, f.get (g.set b a) = f.get a) ∧ ∀ b a, g.get (f.set b a) = g.get a

instance : Std.Symm (@Apart α) where
  symm _ _ h := h.symm

end Field

/-- The fields of a shape that is a record. -/
def Shape.fields : {α : Type} → Shape α → Fields α
  | _, .record _ _ fields => fields
  | _, _ => .none

namespace Fields

variable {α : Type} {a : α} {k : String} {v : Json}

/-- The fields of a record, one by one. -/
def list : {α : Type} → Fields α → List (Field α)
  | _, .none => []
  | _, .cons presence key get set shape rest => .written presence key get set shape :: rest.list
  | _, .omittable key get set shape rest => .omittable key get set shape :: rest.list

theorem keys_eq : {α : Type} → (fields : Fields α) → fields.keys = fields.list.map (·.key)
  | _, .none => rfl
  | _, .cons _ key _ _ _ rest => congrArg (key :: ·) rest.keys_eq
  | _, .omittable key _ _ _ rest => congrArg (key :: ·) rest.keys_eq

theorem key_mem_keys {fields : Fields α} {f : Field α} (hf : f ∈ fields.list) :
    f.key ∈ fields.keys := by
  rw [keys_eq]
  exact List.mem_map_of_mem hf

theorem exists_of_mem_keys {fields : Fields α} (hk : k ∈ fields.keys) :
    ∃ f ∈ fields.list, f.key = k := by
  rwa [keys_eq, List.mem_map] at hk

theorem fit_iff : {α : Type} → (fields : Fields α) → (a : α) →
    (fields.Fit a ↔ ∀ f ∈ fields.list, f.Fits (f.get a))
  | _, .none, _ => by simp [Fit, list]
  | _, .cons _ _ _ _ _ rest, a => by
    rw [list, List.forall_mem_cons, ← rest.fit_iff a]
    rfl
  | _, .omittable _ _ _ _ rest, a => by
    rw [list, List.forall_mem_cons, ← rest.fit_iff a]
    rfl

theorem legible_iff : {α : Type} → (fields : Fields α) → (a : α) →
    (fields.Legible a ↔ ∀ f ∈ fields.list, f.Legible (f.get a))
  | _, .none, _ => by simp [Legible, list]
  | _, .cons _ _ _ _ _ rest, a => by
    rw [list, List.forall_mem_cons, ← rest.legible_iff a]
    rfl
  | _, .omittable _ _ _ _ rest, a => by
    rw [list, List.forall_mem_cons, ← rest.legible_iff a]
    rfl

theorem encode_eq : {α : Type} → (fields : Fields α) → (a : α) →
    fields.encode a = fields.list.filterMap (·.member? a)
  | _, .none, _ => rfl
  | _, .cons _ key get _ shape rest, a => by
    rw [encode, list, rest.encode_eq a]
    rfl
  | _, .omittable key get set shape rest, a => by
    rw [encode, list, List.filterMap_cons, rest.encode_eq a]
    cases hget : get a with
    | none => simp [Field.member?, Field.omittable, hget]
    | some b => simp [Field.member?, Field.omittable, hget]

/-- The members that are written are those of the fields. -/
theorem mem_encode_iff (fields : Fields α) :
    (k, v) ∈ fields.encode a ↔ ∃ f ∈ fields.list, f.encode (f.get a) = some v ∧ f.key = k := by
  simp [encode_eq, Field.member?]

/-- Fields are written in the order of their declaration. -/
theorem keys_encode_sublist : {α : Type} → (fields : Fields α) → (a : α) →
    ((fields.encode a).map (·.1)).Sublist fields.keys
  | _, .none, _ => .slnil
  | _, .cons _ _ _ _ _ rest, a => (rest.keys_encode_sublist a).cons_cons _
  | _, .omittable _ get _ _ rest, a => by
    rw [encode]
    cases get a with
    | none => exact (rest.keys_encode_sublist a).cons _
    | some b => exact (rest.keys_encode_sublist a).cons_cons _

/-- A field that must be there is always written. -/
theorem exists_encode_of_required : {α : Type} → (fields : Fields α) →
    ∀ f ∈ fields.list, f.required = true → ∀ b, ∃ v, f.encode b = some v
  | _, .none => fun _ hf => nomatch hf
  | _, .cons _ _ _ _ shape rest => by
    rw [list, List.forall_mem_cons]
    exact ⟨fun _ b => ⟨shape.encode b, rfl⟩, rest.exists_encode_of_required⟩
  | _, .omittable _ _ _ _ rest => by
    rw [list, List.forall_mem_cons]
    exact ⟨nofun, rest.exists_encode_of_required⟩

/-- Nothing is missing if and only if all fields that must be there are given. -/
theorem complete_eq_ok_iff : {α : Type} → (fields : Fields α) → {given : List String} →
    (fields.complete given = .ok () ↔ ∀ f ∈ fields.list, f.required = true → f.key ∈ given)
  | _, .none, _ => iff_of_true rfl nofun
  | _, .cons presence key get set shape rest, given => by
    rw [list, List.forall_mem_cons, ← rest.complete_eq_ok_iff, complete, missing]
    by_cases hlacking : presence = .required ∧ key ∉ given
    · rw [if_pos hlacking]
      exact iff_of_false nofun fun h => hlacking.2 (h.1 (decide_eq_true hlacking.1))
    · rw [if_neg hlacking]
      refine (and_iff_right fun hrequired => ?_).symm
      exact not_not.mp fun hkey => hlacking ⟨of_decide_eq_true hrequired, hkey⟩
  | _, .omittable _ _ _ _ rest, given => by
    rw [list, List.forall_mem_cons, ← rest.complete_eq_ok_iff]
    exact (and_iff_right nofun).symm

/-- What is missing depends only on which fields were given. -/
theorem missing_congr : {α : Type} → (fields : Fields α) → {given given' : List String} →
    (∀ k ∈ fields.keys, k ∈ given ↔ k ∈ given') → fields.missing given = fields.missing given'
  | _, .none, _, _, _ => rfl
  | _, .cons _ _ _ _ _ rest, _, _, h => by
    obtain ⟨hkey, hrest⟩ := List.forall_mem_cons.mp h
    simp only [missing, hkey, rest.missing_congr hrest]
  | _, .omittable _ _ _ _ rest, _, _, h => rest.missing_congr (List.forall_mem_cons.mp h).2

theorem complete_congr (fields : Fields α) {given given' : List String}
    (h : ∀ k ∈ fields.keys, k ∈ given ↔ k ∈ given') :
    fields.complete given = fields.complete given' := by
  rw [complete, complete, fields.missing_congr h]

/-- A member is assigned to the field with its key, if there is one. -/
theorem assign_eq : {α : Type} → (fields : Fields α) → (k : String) → (v : Json) → (a : α) →
    fields.assign k v a =
      match fields.list.find? (·.key == k) with
      | some f => (f.decode v).map (f.set · a)
      | .none => .ok a
  | _, .none, _, _, _ => rfl
  | _, .cons presence key get set shape rest, k, v, a => by
    rw [assign, list, List.find?_cons]
    by_cases hk : k = key
    · simp [hk, Field.written]
    · have hne : (key == k) = false := beq_eq_false_iff_ne.mpr (Ne.symm hk)
      simp only [hk, if_false, Field.written, hne]
      exact rest.assign_eq k v a
  | _, .omittable key get set shape rest, k, v, a => by
    unfold assign
    rw [list, List.find?_cons]
    by_cases hk : k = key
    · rw [if_pos hk, hk, Field.omittable, beq_self_eq_true]
      cases v with
      | null => rfl
      | _ =>
        dsimp only
        cases shape.decode _ <;> rfl
    · have hne : (key == k) = false := beq_eq_false_iff_ne.mpr (Ne.symm hk)
      simp only [hk, if_false, Field.omittable, hne]
      exact rest.assign_eq k v a

/-- What is not the key of a field belongs to none. -/
theorem assign_of_not_mem {fields : Fields α} (hk : k ∉ fields.keys) (v : Json) (a : α) :
    fields.assign k v a = .ok a := by
  have hnone : fields.list.find? (·.key == k) = .none :=
    List.find?_eq_none.mpr fun f hf hkey => hk (beq_iff_eq.mp hkey ▸ key_mem_keys hf)
  rw [assign_eq, hnone]

theorem fill_omittable {β : Type} (key : String) (get : α → Option β) (set : Option β → α → α)
    (shape : Shape β) (rest : Fields α) (name : String) (total index : Nat) (v : Json)
    (vs : List Json) (a : α) :
    (omittable key get set shape rest).fill name total index (v :: vs) a =
      (Field.omittable key get set shape).decode v >>= fun b =>
        rest.fill name total (index + 1) vs (set b a) := by
  conv_lhs => unfold fill
  cases v with
  | null => rfl
  | _ =>
    dsimp only [Field.omittable]
    cases shape.decode _ <;> rfl

/-! ## Accessors -/

/-- Each field gets what it has set, and is left alone when another one is set. -/
structure Lenses (fields : Fields α) : Prop where
  nodup : fields.keys.Nodup
  get_set : ∀ f ∈ fields.list, ∀ b a, f.get (f.set b a) = b
  apart : fields.list.Pairwise Field.Apart

namespace Lenses

variable {fields : Fields α} {f g : Field α}

theorem eq_of_key (h : fields.Lenses) (hf : f ∈ fields.list) (hg : g ∈ fields.list)
    (hkey : f.key = g.key) : f = g := by
  have hnodup := h.nodup
  rw [keys_eq] at hnodup
  exact List.inj_on_of_nodup_map hnodup hf hg hkey

theorem get_set_of_ne (h : fields.Lenses) (hf : f ∈ fields.list) (hg : g ∈ fields.list)
    (hkey : f.key ≠ g.key) (b : g.Value) (a : α) : f.get (g.set b a) = f.get a :=
  (h.apart.forall hf hg fun he => hkey (congrArg Field.key he)).1 b a

/-- A field takes a member with its key. -/
theorem assign_key (h : fields.Lenses) (hf : f ∈ fields.list) (v : Json) (a : α) :
    fields.assign f.key v a = (f.decode v).map (f.set · a) := by
  have hfind : fields.list.find? (·.key == f.key) = some f := by
    obtain ⟨g, hg⟩ := Option.isSome_iff_exists.mp
      (List.find?_isSome (p := fun g => g.key == f.key) |>.mpr ⟨f, hf, beq_self_eq_true f.key⟩)
    have hkey : g.key = f.key := by simpa using List.find?_some hg
    rw [hg, h.eq_of_key (List.mem_of_find?_eq_some hg) hf hkey]
  rw [assign_eq, hfind]

theorem assign_eq_ok (h : fields.Lenses) (hf : f ∈ fields.list) {b : f.Value}
    (hb : f.decode v = .ok b) (a : α) : fields.assign f.key v a = .ok (f.set b a) := by
  rw [h.assign_key hf, hb]
  rfl

/-- Where every member that belongs to a field says what the field has in `a`, assigning the members
to a record makes it agree with `a` in all fields that have a member, and in those in which it did
so before. -/
theorem exists_assigned (h : fields.Lenses) {members : List (String × Json)}
    (hmembers : ∀ f ∈ fields.list, ∀ v, (f.key, v) ∈ members → f.decode v = .ok (f.get a))
    (x : α) :
    ∃ y, members.foldlM (fun a m => fields.assign m.1 m.2 a) x = .ok y ∧
      ∀ f ∈ fields.list, f.key ∈ members.map (·.1) ∨ f.get x = f.get a → f.get y = f.get a := by
  induction members generalizing x with
  | nil => exact ⟨x, rfl, fun f _ hget => hget.resolve_left List.not_mem_nil⟩
  | cons m rest ih =>
    obtain ⟨k, v⟩ := m
    have hrest : ∀ f ∈ fields.list, ∀ v, (f.key, v) ∈ rest → f.decode v = .ok (f.get a) :=
      fun f hf v hv => hmembers f hf v (List.mem_cons_of_mem _ hv)
    by_cases hfield : ∃ f ∈ fields.list, f.key = k
    · obtain ⟨f, hf, rfl⟩ := hfield
      have hassign := h.assign_eq_ok hf (hmembers f hf v List.mem_cons_self) x
      obtain ⟨y, hy, hget⟩ := ih hrest (f.set (f.get a) x)
      refine ⟨y, by rw [List.foldlM_cons, hassign]; exact hy, fun g hg hgiven => hget g hg ?_⟩
      by_cases hkey : g.key = f.key
      · obtain rfl := h.eq_of_key hg hf hkey
        exact .inr (h.get_set g hg _ _)
      · rw [h.get_set_of_ne hg hf hkey]
        exact hgiven.imp_left fun hmem => (List.mem_cons.mp hmem).resolve_left hkey
    · have hassign : fields.assign k v x = .ok x :=
        assign_of_not_mem (fun hk => hfield (exists_of_mem_keys hk)) v x
      obtain ⟨y, hy, hget⟩ := ih hrest x
      refine ⟨y, by rw [List.foldlM_cons, hassign]; exact hy, fun g hg hgiven => hget g hg ?_⟩
      exact hgiven.imp_left fun hmem =>
        (List.mem_cons.mp hmem).resolve_left fun hkey => hfield ⟨g, hg, hkey⟩

end Lenses

end Fields

end ClusterRegistry
