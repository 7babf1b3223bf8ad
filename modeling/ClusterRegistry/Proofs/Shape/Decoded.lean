import ClusterRegistry.Proofs.Shape.Lawful

/-!
# What a record is decoded from

A record whose fields are all that it consists of is decoded from those values that say each field
of it, or leave it out where it is blank, and from no others (`Fields.Cover.decode_iff`). The same
is true of a record that keeps other members beside its fields, which are kept in the form in which
values come from texts (`Fields.CoverWith.decode_iff`). They are kept as they were given if and only
if they had this form before (`Json.kept_iff_unembedded`).
-/

namespace ClusterRegistry

variable {α : Type}

namespace Json

variable {members : List (String × Json)} {k : String} {v : Json}

/-- Distinct keys are distinct keys of members whatever stands under them. -/
theorem nodup_keys_zip {keys : List String} (h : keys.Nodup) (items : List Json) :
    ((keys.zip items).map (·.1)).Nodup := by
  induction keys generalizing items with
  | nil => exact .nil
  | cons k rest ih =>
    cases items with
    | nil => exact .nil
    | cons v vs =>
      obtain ⟨hfirst, hrest⟩ := List.nodup_cons.mp h
      rw [List.zip_cons_cons, List.map_cons, List.nodup_cons]
      refine ⟨fun hk => ?_, ih hrest vs⟩
      obtain ⟨m, hm, rfl⟩ := List.mem_map.mp hk
      exact hfirst (List.of_mem_zip hm).1

theorem member?_eq_none_iff : (object members).member? k = none ↔ k ∉ members.map (·.1) := by
  simp only [member?, Option.map_eq_none_iff, List.find?_eq_none, List.mem_reverse, beq_iff_eq,
    List.mem_map, not_exists, not_and]

/-- With distinct keys every member stands for itself. -/
theorem member?_eq_some_iff (hnodup : (members.map (·.1)).Nodup) :
    (object members).member? k = some v ↔ (k, v) ∈ members := by
  refine ⟨mem_of_member?, fun hmem => ?_⟩
  cases hfound : (object members).member? k with
  | none => exact absurd (List.mem_map_of_mem hmem) (member?_eq_none_iff.mp hfound)
  | some w =>
    have hsame := List.inj_on_of_nodup_map hnodup (mem_of_member? hfound) hmem rfl
    exact congrArg (fun m => some m.2) hsame

/-- Of members that are settled those are kept as they are in which no text is embedded. -/
theorem kept_iff_unembedded {keys : List String} {ms : List (String × Json)}
    (hordered : (object members).Ordered)
    (h : settleMembers (members.filter fun m => m.1 ∉ keys) = .ok ms) :
    (∀ k, k ∉ keys → (Table.ofList ms).get? k = (object members).member? k) ↔
      ∀ m ∈ members, m.1 ∉ keys → m.2.Unembedded := by
  obtain ⟨hkeys, hvalues⟩ := ordered_object_iff.mp hordered
  have hmember : ∀ {k v}, (object members).member? k = some v ↔ (k, v) ∈ members :=
    member?_eq_some_iff (Table.nodup_keys_of_ascending hkeys)
  have hothers : ∀ m, m ∈ members.filter (fun m => m.1 ∉ keys) ↔ m ∈ members ∧ m.1 ∉ keys :=
    fun m => by simp
  constructor
  · intro hkept m hm hkey
    have hget := (hkept m.1 hkey).trans (hmember.mpr hm)
    exact (parsed_of_settleMembers h m
      (Table.mem_of_mem_ofList ((Table.mem_entries_iff _).mpr hget))).unembedded
  · intro hunembedded k hk
    have hself : ms = members.filter fun m => m.1 ∉ keys :=
      eq_of_settleMembers (fun m hm => hvalues m ((hothers m).mp hm).1)
        (fun m hm => hunembedded m ((hothers m).mp hm).1 ((hothers m).mp hm).2) h
    ext v
    rw [← Table.mem_entries_iff, hself, Table.entries_ofList (hkeys.filter _), hothers, hmember]
    exact and_iff_left hk

end Json

namespace Fields

variable {fields : Fields α} {blank a : α} {members : List (String × Json)} {v : Json}

/-- Members with distinct keys make of a record one that agrees with `a` in all fields if and only
if this is what they say. -/
theorem Lenses.assigned_iff (h : fields.Lenses) (hnodup : (members.map (·.1)).Nodup) :
    (∃ b, members.foldlM (fun a m => fields.assign m.1 m.2 a) blank = .ok b ∧
        ∀ f ∈ fields.list, f.get b = f.get a) ↔
      ∀ f ∈ fields.list, f.take blank ((Json.object members).member? f.key) = .ok (f.get a) := by
  constructor
  · rintro ⟨b, hb, hget⟩ f hf
    rw [← hget f hf]
    exact h.take_of_assigned hf hb
  · intro htake
    obtain ⟨b, hb, hget⟩ := h.exists_assigned (a := a) (fun f hf v hv => by
      have hsaid := htake f hf
      rwa [(Json.member?_eq_some_iff hnodup).mpr hv] at hsaid) blank
    refine ⟨b, hb, fun f hf => hget f hf ?_⟩
    -- a field without a member is blank
    refine or_iff_not_imp_left.mpr fun hnone => ?_
    have hsaid := htake f hf
    rw [Json.member?_eq_none_iff.mpr hnone] at hsaid
    exact Except.ok.inj hsaid

/-- Whatever must be there is there in a value: under its key, or at its place in an array that is
not too long. -/
def Admits (fields : Fields α) : Json → Prop
  | .object members => fields.complete (members.map (·.1)) = .ok ()
  | .array items => items.length ≤ fields.keys.length ∧ fields.OptionalFrom items.length
  | _ => False

/-- **A record is decoded from exactly those values that say its fields.** -/
theorem Cover.decode_iff (h : fields.Cover) {name : String} (hordered : v.Ordered) :
    (Shape.record name blank fields).decode v = .ok a ↔
      fields.Admits v ∧
        ∀ f ∈ fields.list, f.take blank (v.said? fields.keys f.key) = .ok (f.get a) := by
  cases v with
  | object members =>
    have hnodup := Table.nodup_keys_of_ascending (Json.ordered_object_iff.mp hordered).1
    show _ ↔ fields.complete (members.map (·.1)) = .ok () ∧
      ∀ f ∈ fields.list, f.take blank ((Json.object members).member? f.key) = .ok (f.get a)
    rw [← h.assigned_iff hnodup]
    constructor
    · intro hdecode
      obtain ⟨b, hb, hdecode⟩ := exists_of_bind_eq_ok hdecode
      obtain ⟨_, hcomplete, hdecode⟩ := exists_of_bind_eq_ok hdecode
      cases hdecode
      exact ⟨hcomplete, a, hb, fun _ _ => rfl⟩
    · rintro ⟨hcomplete, b, hb, hget⟩
      obtain rfl : a = b := (h.ext b a hget).symm
      rw [Shape.decode, hb]
      show (do fields.complete _; return a) = _
      rw [hcomplete]
      rfl
  | array items =>
    show _ ↔ (items.length ≤ fields.keys.length ∧ fields.OptionalFrom items.length) ∧
      ∀ f ∈ fields.list,
        f.take blank ((Json.object (fields.keys.zip items)).member? f.key) = .ok (f.get a)
    rw [← h.assigned_iff (Json.nodup_keys_zip h.nodup items)]
    constructor
    · intro hdecode
      obtain ⟨b, hb, hdecode⟩ := exists_of_bind_eq_ok hdecode
      obtain ⟨hoptional, hb⟩ := (fields.fill_eq_ok_iff h.nodup _ _ _ _ _ _).mp hb
      split at hdecode
      · cases hdecode
      · next hlong =>
        cases hdecode
        exact ⟨⟨Nat.le_of_not_lt hlong, hoptional⟩, a, hb, fun _ _ => rfl⟩
    · rintro ⟨⟨hlength, hoptional⟩, b, hb, hget⟩
      obtain rfl : a = b := (h.ext b a hget).symm
      rw [Shape.decode, (fields.fill_eq_ok_iff h.nodup _ _ _ _ _ _).mpr ⟨hoptional, hb⟩]
      show (if fields.keys.length < items.length then _ else _) = _
      rw [if_neg (Nat.not_lt.mpr hlength)]
      rfl
  | _ =>
    constructor
    · intro hdecode
      cases hdecode
    · exact fun h => h.1.elim

/-- **A record that keeps other members is decoded from exactly those objects that say its fields
and whose other members stand for those that it keeps.** -/
theorem CoverWith.decode_iff {others : α → Table String Json}
    {withOthers : Table String Json → α → α} (h : fields.CoverWith others withOthers)
    {name : String} (hnodup : (members.map (·.1)).Nodup) :
    (Shape.extensible name blank fields others withOthers).decode (.object members) = .ok a ↔
      fields.complete (members.map (·.1)) = .ok () ∧
        (∀ f ∈ fields.list, f.take blank ((Json.object members).member? f.key) = .ok (f.get a)) ∧
        ∃ ms, Json.settleMembers (members.filter fun m => m.1 ∉ fields.keys) = .ok ms ∧
          others a = .ofList ms := by
  refine ⟨h.parts_of_decode, ?_⟩
  rw [← h.assigned_iff hnodup]
  rintro ⟨hcomplete, ⟨b, hb, hget⟩, ms, hms, hothers⟩
  have ha : withOthers (.ofList ms) b = a := hothers ▸ h.ext a b fun f hf => (hget f hf).symm
  rw [Shape.decode, hb]
  show (do
    fields.complete _
    let ms ← orFault (Json.settleMembers _)
    return withOthers (.ofList ms) b) = _
  rw [hcomplete, hms, ← ha]
  rfl

end Fields

end ClusterRegistry
