import ClusterRegistry.Proofs.Json.Parsed
import ClusterRegistry.Proofs.Shape.Field
import ClusterRegistry.Shape.Read

/-!
# Reading the text of a value

A value can be decoded as it is, or the text that says it can be read from left to right. The two
may fail in different ways. But where no key stands twice in an object, and the text can be read as
deep as it goes, they succeed alike (`Shape.Streams`). There is one rule for texts, lists, records
and records that keep other members. A record that keeps other members is read member by member
(`Shape.read_extensible`), as is any other record, while an array gives its items to the fields in
the order of their declaration.
-/

namespace ClusterRegistry

open Json (Document Fault)

namespace Json

theorem Document.ofItems_eq_map (items : List Json) : ofItems items = items.map ofJson := by
  induction items with
  | nil => rfl
  | cons v rest ih => rw [ofItems, ih, List.map_cons]

theorem Document.ofMembers_eq_map (members : List (String × Json)) :
    ofMembers members = members.map fun m => (.ok m.1, ofJson m.2) := by
  induction members with
  | nil => rfl
  | cons m rest ih => rw [ofMembers, ih, List.map_cons]

mutual

/-- The text that says a value can be passed over, however deep it is. -/
theorem skip_ofJson : (v : Json) → (Document.ofJson v).skip = .ok ()
  | .null | .bool _ | .number _ | .text _ => rfl
  | .array items => by
    rw [Document.ofJson, Document.skip, skipItems_ofItems items]
    rfl
  | .object members => by
    rw [Document.ofJson, Document.skip, skipMembers_ofMembers members]
    rfl

theorem skipItems_ofItems : (items : List Json) →
    Document.skipItems (Document.ofItems items) = .ok ()
  | [] => rfl
  | v :: rest => by
    rw [Document.ofItems, Document.skipItems, skip_ofJson v]
    exact skipItems_ofItems rest

theorem skipMembers_ofMembers : (members : List (String × Json)) →
    Document.skipMembers (Document.ofMembers members) = .ok ()
  | [] => rfl
  | m :: rest => by
    rw [Document.ofMembers, Document.skipMembers, skip_ofJson m.2]
    exact skipMembers_ofMembers rest

end

end Json

/-! ## Records that keep the keys they do not know -/

/-- What one member adds to a record that keeps the keys it does not know: to the fields, to the
keys of fields that were given, or to the other members, last one first. -/
def Fields.keepMember {α : Type} (fields : Fields α) (depth : Nat)
    (s : α × List String × List (String × Json)) (m : Except Fault String × Document) :
    Except Mismatch (α × List String × List (String × Json)) := do
  let k ← orFault m.1
  if k ∉ fields.keys then
    let v ← orFault (m.2.read .written depth)
    return (s.1, s.2.1, (k, v) :: s.2.2)
  if k ∈ s.2.1 then throw (.duplicateField k)
  let a ← fields.readMember k depth m.2 s.1
  return (a, k :: s.2.1, s.2.2)

/-- What one member adds to a record that passes over the keys it does not know. -/
def Fields.passMember {α : Type} (fields : Fields α) (depth : Nat) (s : α × List String)
    (m : Except Fault String × Document) : Except Mismatch (α × List String) := do
  let k ← orFault m.1
  if k ∉ fields.keys then
    orFault m.2.skip
    return s
  if k ∈ s.2 then throw (.duplicateField k)
  let a ← fields.readMember k depth m.2 s.1
  return (a, k :: s.2)

section

variable {α : Type} {fields : Fields α} {depth : Nat} {a : α} {given : List String}
  {others : List (String × Json)} {k : String} {d : Document} {v : Json}

/-- A record that keeps other members is read by adding its members one by one. -/
theorem Shape.read_extensible (name : String) (blank : α) (fields : Fields α)
    (others : α → Table String Json) (withOthers : Table String Json → α → α) (inner : Nat)
    (members : List (Except Fault String × Document)) (stop : Option Json.Break) :
    (Shape.extensible name blank fields others withOthers).read (inner + 2)
      (.object members stop) = (do
        let s ← members.foldlM (fields.keepMember (inner + 1)) (blank, [], [])
        orFault (Document.stopReading stop)
        fields.complete s.2.1
        return withOthers (.ofList (← orFault (Json.settleMembers s.2.2.reverse))) s.1) := rfl

/-- Any other record is read by adding the members of its fields one by one. -/
theorem Shape.read_record (name : String) (blank : α) (fields : Fields α) (inner : Nat)
    (members : List (Except Fault String × Document)) (stop : Option Json.Break) :
    (Shape.record name blank fields).read (inner + 2) (.object members stop) = (do
        let s ← members.foldlM (fields.passMember (inner + 1)) (blank, [])
        orFault (Document.stopReading stop)
        fields.complete s.2
        return s.1) := rfl

theorem Fields.keepMember_field (hk : k ∈ fields.keys) (hnew : k ∉ given) :
    fields.keepMember depth (a, given, others) (.ok k, d) =
      (fields.readMember k depth d a).map fun a => (a, k :: given, others) := by
  show (if k ∉ fields.keys then _ else if k ∈ given then _ else _) = _
  rw [if_neg (not_not.mpr hk), if_neg hnew]
  cases fields.readMember k depth d a <;> rfl

theorem Fields.keepMember_other (hk : k ∉ fields.keys) (hv : d.read .written depth = .ok v) :
    fields.keepMember depth (a, given, others) (.ok k, d) = .ok (a, given, (k, v) :: others) := by
  show (if k ∉ fields.keys then _ else _) = _
  rw [if_pos hk, hv]
  rfl

/-- A member is kept beside the fields, or it is the first one of its field and is read for it. -/
theorem Fields.keepMember_cases {s s' : α × List String × List (String × Json)}
    {m : Except Fault String × Document} (h : fields.keepMember depth s m = .ok s') :
    ∃ k, m.1 = .ok k ∧
      ((k ∉ fields.keys ∧ ∃ v, m.2.read .written depth = .ok v ∧
          s' = (s.1, s.2.1, (k, v) :: s.2.2)) ∨
        (k ∈ fields.keys ∧ k ∉ s.2.1 ∧ ∃ a, fields.readMember k depth m.2 s.1 = .ok a ∧
          s' = (a, k :: s.2.1, s.2.2))) := by
  obtain ⟨k, hk, h⟩ := exists_of_bind_eq_ok h
  refine ⟨k, eq_ok_of_mapError_eq_ok hk, ?_⟩
  split at h
  · next hkey =>
    obtain ⟨v, hv, h⟩ := exists_of_bind_eq_ok h
    cases h
    exact .inl ⟨hkey, v, eq_ok_of_mapError_eq_ok hv, rfl⟩
  · next hkey =>
    split at h
    · cases h
    · next hnew =>
      obtain ⟨a, ha, h⟩ := exists_of_bind_eq_ok h
      cases h
      exact .inr ⟨not_not.mp hkey, hnew, a, ha, rfl⟩

theorem Fields.passMember_field (hk : k ∈ fields.keys) (hnew : k ∉ given) :
    fields.passMember depth (a, given) (.ok k, d) =
      (fields.readMember k depth d a).map fun a => (a, k :: given) := by
  show (if k ∉ fields.keys then _ else if k ∈ given then _ else _) = _
  rw [if_neg (not_not.mpr hk), if_neg hnew]
  cases fields.readMember k depth d a <;> rfl

theorem Fields.passMember_other (hk : k ∉ fields.keys) :
    fields.passMember depth (a, given) (.ok k, .ofJson v) = .ok (a, given) := by
  show (if k ∉ fields.keys then _ else _) = _
  rw [if_pos hk, Json.skip_ofJson]
  rfl

end

/-! ## Shapes that are read as they are decoded -/

/-- Reading the text of a value and decoding the value succeed alike, where the value is in order
and its text can be read that deep. -/
def Shape.Streams {α : Type} (shape : Shape α) : Prop :=
  ∀ ⦃v : Json⦄ ⦃depth : Nat⦄, v.Ordered → v.Within depth →
    Alike (shape.read depth (.ofJson v)) (shape.decode v)

/-- Every field is read as it is decoded. -/
def Fields.Streams : {α : Type} → Fields α → Prop
  | _, .none => True
  | _, .cons _ _ _ _ shape rest => shape.Streams ∧ rest.Streams
  | _, .omittable _ _ _ shape rest => shape.Streams ∧ rest.Streams

theorem Shape.streams_text : Shape.text.Streams := by
  intro v depth _ _
  cases v with
  | text s => exact alike_ok s
  | _ => exact alike_error _ _

theorem Shape.Streams.list {α : Type} {item : Shape α} (h : item.Streams) :
    (Shape.list item).Streams := by
  intro v depth hordered hwithin
  cases v with
  | array items =>
    have hitems := Json.ordered_array_iff.mp hordered
    obtain ⟨inner, rfl, hdeep⟩ := Json.array_within_iff.mp hwithin
    have hread : Alike ((items.map Document.ofJson).mapM fun d => item.read (inner + 1) d)
        (items.mapM fun v => item.decode v) :=
      alike_mapM fun v hv => h (hitems v hv) (hdeep v hv)
    show Alike (do
      let as ← (Document.ofItems items).mapM fun d => item.read (inner + 1) d
      orFault (Document.stopReading none)
      return as) (items.mapM fun v => item.decode v)
    rw [Document.ofItems_eq_map, ← bind_pure (items.mapM _)]
    exact hread.bind fun as _ => alike_ok as
  | _ => exact alike_error _ _

section

variable {α : Type} {fields : Fields α} {depth : Nat} {v : Json} {members : List (String × Json)}

namespace Fields

/-- One member is read as it is assigned. -/
theorem Streams.readMember : {α : Type} → {fields : Fields α} → fields.Streams → v.Ordered →
    v.Within depth → ∀ k a, Alike (fields.readMember k depth (.ofJson v) a) (fields.assign k v a)
  | _, .none, _, _, _, _, a => alike_ok a
  | _, .cons _ key _ set shape rest, h, hordered, hwithin, k, a => by
    rw [Fields.readMember, assign]
    split
    · exact (h.1 hordered hwithin).map _
    · exact h.2.readMember hordered hwithin k a
  | _, .omittable key _ set shape rest, h, hordered, hwithin, k, a => by
    unfold Fields.readMember assign
    split
    · have hread := (h.1 hordered hwithin).map fun b => set (some b) a
      cases v with
      | null => exact alike_ok _
      | _ => exact hread
    · exact h.2.readMember hordered hwithin k a

/-- Items are read as they are filled in, and those that are left over are left. -/
theorem Streams.readItems : {α : Type} → {fields : Fields α} → fields.Streams →
    {items : List Json} → (∀ v ∈ items, v.Ordered) → (∀ v ∈ items, v.Within depth) →
    ∀ name total index a,
      Alike (fields.readItems name total index depth Option.none (items.map Document.ofJson) a)
        ((fields.fill name total index items a).map fun a =>
          (a, (items.drop fields.keys.length).map Document.ofJson))
  | _, .none, _, items, _, _, _, _, _, a => alike_ok (a, items.map Document.ofJson)
  | _, .cons presence _ _ _ _ rest, h, [], hordered, hwithin, name, total, index, a => by
    cases presence with
    | defaulted =>
      have hrest := h.2.readItems hordered hwithin name total (index + 1) a
      rw [List.drop_nil] at hrest
      exact hrest
    | _ => exact alike_error _ _
  | _, .cons presence _ _ set shape rest, h, v :: vs, hordered, hwithin, name, total, index, a => by
    obtain ⟨hv, hvs⟩ := List.forall_mem_cons.mp hordered
    obtain ⟨hvdeep, hvsdeep⟩ := List.forall_mem_cons.mp hwithin
    have hfirst := h.1 hv hvdeep
    have hrest := fun b => h.2.readItems hvs hvsdeep name total (index + 1) (set b a)
    cases presence <;> exact hfirst.bind_map fun b _ => hrest b
  | _, .omittable _ _ _ _ rest, h, [], hordered, hwithin, name, total, index, a => by
    have hrest := h.2.readItems hordered hwithin name total (index + 1) a
    rw [List.drop_nil] at hrest
    exact hrest
  | _, .omittable key get set shape rest, h, v :: vs, hordered, hwithin, name, total, index, a => by
    obtain ⟨hv, hvs⟩ := List.forall_mem_cons.mp hordered
    obtain ⟨hvdeep, hvsdeep⟩ := List.forall_mem_cons.mp hwithin
    have hfirst := h.1 hv hvdeep
    have hrest := fun b => h.2.readItems hvs hvsdeep name total (index + 1) (set b a)
    cases v with
    | null => exact hrest _
    | _ => exact hfirst.bind_map fun b _ => hrest (some b)

/-- The keys of fields among some members, last one first. -/
def given (fields : Fields α) (seen : List (String × Json)) : List String :=
  ((seen.map (·.1)).filter (· ∈ fields.keys)).reverse

/-- The members that belong to no field, last one first. -/
def strangers (fields : Fields α) (seen : List (String × Json)) : List (String × Json) :=
  (seen.filter fun m => m.1 ∉ fields.keys).reverse

variable {m : String × Json} {seen : List (String × Json)}

theorem given_append_of_mem (hm : m.1 ∈ fields.keys) :
    fields.given (seen ++ [m]) = m.1 :: fields.given seen := by
  simp [given, hm]

theorem given_append_of_not_mem (hm : m.1 ∉ fields.keys) :
    fields.given (seen ++ [m]) = fields.given seen := by
  simp [given, hm]

theorem strangers_append_of_mem (hm : m.1 ∈ fields.keys) :
    fields.strangers (seen ++ [m]) = fields.strangers seen := by
  simp [strangers, hm]

theorem strangers_append_of_not_mem (hm : m.1 ∉ fields.keys) :
    fields.strangers (seen ++ [m]) = m :: fields.strangers seen := by
  simp [strangers, hm]

/-- Where all fields are looked for, those that were given are those that have a member. -/
theorem complete_given (fields : Fields α) (members : List (String × Json)) :
    fields.complete (fields.given members) = fields.complete (members.map (·.1)) :=
  fields.complete_congr fun k hk => by simp [given, hk]

/-- A key that comes up for the first time was not given before. -/
theorem not_mem_given {rest : List (String × Json)}
    (hnodup : ((seen ++ m :: rest).map (·.1)).Nodup) : m.1 ∉ fields.given seen := by
  intro hm
  have hseen : m.1 ∈ seen.map (·.1) := (List.mem_filter.mp (List.mem_reverse.mp hm)).1
  rw [List.map_append, List.map_cons] at hnodup
  exact List.disjoint_of_nodup_append hnodup hseen List.mem_cons_self

/-- Members with distinct keys are read one by one as they are assigned. -/
theorem Streams.passMembers (h : fields.Streams) (hnodup : (members.map (·.1)).Nodup)
    (hordered : ∀ m ∈ members, m.2.Ordered) (hwithin : ∀ m ∈ members, m.2.Within depth) (a : α) :
    Alike ((Document.ofMembers members).foldlM (fields.passMember depth) (a, []))
      ((members.foldlM (fun a m => fields.assign m.1 m.2 a) a).map fun a =>
        (a, fields.given members)) := by
  rw [Document.ofMembers_eq_map]
  refine alike_foldlM (fun seen a => (a, fields.given seen)) ?_ a
  intro seen m rest hall a
  have hmem : m ∈ members := hall ▸ List.mem_append_right _ List.mem_cons_self
  by_cases hm : m.1 ∈ fields.keys
  · rw [passMember_field hm (not_mem_given (hall ▸ hnodup)), given_append_of_mem hm]
    exact (h.readMember (hordered m hmem) (hwithin m hmem) m.1 a).map _
  · rw [passMember_other hm, assign_of_not_mem hm, given_append_of_not_mem hm]
    exact alike_ok _

/-- Members with distinct keys are read one by one as they are assigned, and those that belong to no
field are kept as they are. -/
theorem Streams.keepMembers (h : fields.Streams) (hnodup : (members.map (·.1)).Nodup)
    (hordered : ∀ m ∈ members, m.2.Ordered) (hwithin : ∀ m ∈ members, m.2.Within depth) (a : α) :
    Alike ((Document.ofMembers members).foldlM (fields.keepMember depth) (a, [], []))
      ((members.foldlM (fun a m => fields.assign m.1 m.2 a) a).map fun a =>
        (a, fields.given members, fields.strangers members)) := by
  rw [Document.ofMembers_eq_map]
  refine alike_foldlM (fun seen a => (a, fields.given seen, fields.strangers seen)) ?_ a
  intro seen m rest hall a
  have hmem : m ∈ members := hall ▸ List.mem_append_right _ List.mem_cons_self
  by_cases hm : m.1 ∈ fields.keys
  · rw [keepMember_field hm (not_mem_given (hall ▸ hnodup)), given_append_of_mem hm,
      strangers_append_of_mem hm]
    exact (h.readMember (hordered m hmem) (hwithin m hmem) m.1 a).map _
  · rw [keepMember_other hm (hwithin m hmem), assign_of_not_mem hm, given_append_of_not_mem hm,
      strangers_append_of_not_mem hm]
    exact alike_ok _

end Fields

theorem Shape.Streams.record {name : String} {blank : α} (h : fields.Streams) :
    (Shape.record name blank fields).Streams := by
  intro v depth hordered hwithin
  cases v with
  | object members =>
    obtain ⟨hkeys, hvalues⟩ := Json.ordered_object_iff.mp hordered
    obtain ⟨inner, rfl, hdeep⟩ := Json.object_within_iff.mp hwithin
    rw [Document.ofJson, Shape.read_record]
    have hnodup := Table.nodup_keys_of_ascending hkeys
    refine (h.passMembers hnodup hvalues hdeep blank).bind_of_map fun a => ?_
    show Alike (fields.complete (fields.given members) >>= fun _ => .ok a) _
    rw [fields.complete_given]
    exact .refl _
  | array items =>
    have hitems := Json.ordered_array_iff.mp hordered
    obtain ⟨inner, rfl, hdeep⟩ := Json.array_within_iff.mp hwithin
    have hread := h.readItems hitems hdeep name fields.keys.length 0 blank
    rw [← Document.ofItems_eq_map] at hread
    refine hread.bind_of_map fun a => ?_
    show Alike (endItems ((items.drop fields.keys.length).map Document.ofJson) none >>= fun _ =>
      .ok a) (if fields.keys.length < items.length then _ else _)
    cases hleft : items.drop fields.keys.length with
    | nil =>
      rw [if_neg (List.drop_eq_nil_iff.mp hleft).not_gt]
      exact alike_ok a
    | cons v rest =>
      have hlong : fields.keys.length < items.length := by
        rw [← Nat.sub_pos_iff_lt, ← List.length_drop, hleft]
        exact Nat.succ_pos _
      rw [if_pos hlong]
      exact alike_error _ _
  | _ => exact alike_error _ _

theorem Shape.Streams.extensible {name : String} {blank : α} {others : α → Table String Json}
    {withOthers : Table String Json → α → α} (h : fields.Streams) :
    (Shape.extensible name blank fields others withOthers).Streams := by
  intro v depth hordered hwithin
  cases v with
  | object members =>
    obtain ⟨hkeys, hvalues⟩ := Json.ordered_object_iff.mp hordered
    obtain ⟨inner, rfl, hdeep⟩ := Json.object_within_iff.mp hwithin
    rw [Document.ofJson, Shape.read_extensible]
    have hnodup := Table.nodup_keys_of_ascending hkeys
    refine (h.keepMembers hnodup hvalues hdeep blank).bind_of_map fun a => ?_
    show Alike (fields.complete (fields.given members) >>= fun _ =>
      orFault (Json.settleMembers (fields.strangers members).reverse) >>= fun ms =>
        .ok (withOthers (.ofList ms) a)) _
    rw [fields.complete_given, Fields.strangers, List.reverse_reverse]
    exact .refl _
  | _ => exact alike_error _ _

/-- What was given has a member. -/
theorem Fields.mem_of_keepMembers {ds : List (Except Fault String × Document)} {a : α}
    {s : α × List String × List (String × Json)}
    (h : ds.foldlM (fields.keepMember depth) (a, [], []) = .ok s) :
    ∀ k ∈ s.2.1, .ok k ∈ ds.map (·.1) := by
  refine foldlM_keeps (P := fun s => ∀ k ∈ s.2.1, .ok k ∈ ds.map (·.1)) ?_ h nofun
  intro d hd s s' hstep hs
  obtain ⟨k, hk, ⟨-, v, -, rfl⟩ | ⟨-, -, b, -, rfl⟩⟩ := keepMember_cases hstep
  · exact hs
  · exact List.forall_mem_cons.mpr ⟨hk ▸ List.mem_map_of_mem hd, hs⟩

/-- A field that must be given has a member in what is read, however deep its text is. -/
theorem Shape.mem_of_read_extensible {name : String} {blank a : α} {others : α → Table String Json}
    {withOthers : Table String Json → α → α}
    (h : (Shape.extensible name blank fields others withOthers).read depth
      (.ofJson (.object members)) = .ok a) :
    ∀ f ∈ fields.list, f.required = true → f.key ∈ members.map (·.1) := by
  match depth with
  | 0 | 1 => cases h
  | inner + 2 =>
    rw [Document.ofJson, Shape.read_extensible] at h
    obtain ⟨s, hkept, h⟩ := exists_of_bind_eq_ok h
    obtain ⟨_, -, h⟩ := exists_of_bind_eq_ok h
    obtain ⟨_, hcomplete, -⟩ := exists_of_bind_eq_ok h
    intro f hf hrequired
    have hgiven := fields.complete_eq_ok_iff.mp hcomplete f hf hrequired
    have hmem := Fields.mem_of_keepMembers hkept f.key hgiven
    rw [Document.ofMembers_eq_map, List.map_map] at hmem
    obtain ⟨m, hm, hkey⟩ := List.mem_map.mp hmem
    exact List.mem_map.mpr ⟨m, hm, Except.ok.inj hkey⟩

end

end ClusterRegistry
