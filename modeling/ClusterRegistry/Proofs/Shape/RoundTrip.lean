import ClusterRegistry.Proofs.Shape.Decoded

/-!
# Decoding undoes encoding

What fits a lawful shape is decoded again from what it is written as (`Shape.roundTrips_of_fits`).
Only what is legible is (`Shape.legible_of_roundTrips`): an object that starts with the key for
embedded texts is not decoded, and what is `null` is taken for something that was left out.
-/

namespace ClusterRegistry

variable {α : Type}

/-- Decoding gives back what was written, once the members of all objects are in order. -/
def Shape.RoundTrips (shape : Shape α) (a : α) : Prop :=
  shape.decode (shape.encode a).sorted = .ok a

/-- Whatever fits a field is decoded again from the value that is written for it, and what is not
written is found in the blank record. -/
structure Field.Restores (f : Field α) (blank : α) : Prop where
  decode_encode : ∀ {b v}, f.Fits b → f.encode b = some v → f.decode v.sorted = .ok b
  omitted : ∀ {b}, f.encode b = none → b = f.get blank

theorem wordOf_ofNat {bits n : Nat} (h : n < Decimal.twoPow bits) :
    wordOf bits (.integer n) = .ok n := by
  have hrange : (0 : Int) ≤ n ∧ (n : Int) < Decimal.twoPow bits := by omega
  rw [wordOf, if_pos hrange, Int.toNat_natCast]

theorem Json.sorted_ne_null {v : Json} (h : v ≠ .null) : v.sorted ≠ .null := by
  cases v with
  | array items => nofun
  | object members => nofun
  | _ => exact h

theorem Shape.decode_option {item : Shape α} {v : Json} (h : v ≠ .null) :
    (Shape.option item).decode v = (item.decode v).map some := by
  cases v with
  | null => exact absurd rfl h
  | _ => rfl

theorem Field.decode_omittable {β : Type} {key : String} {get : α → Option β}
    {set : Option β → α → α} {shape : Shape β} {v : Json} (h : v ≠ .null) :
    (Field.omittable key get set shape).decode v = (shape.decode v).map some := by
  cases v with
  | null => exact absurd rfl h
  | _ => rfl

/-! ## Tables -/

theorem decodeTexts_entries (t : Table String String) :
    decodeTexts (t.mapValues fun _ s => Json.text s).entries = .ok t := by
  have hgeneral : ∀ (l : List (String × String)) (start : Table String String),
      (l.map fun e => (e.1, Json.text e.2)).foldlM
        (fun t m => (decodeText m.2).map (t.insert m.1)) start =
      .ok (l.foldl (fun t e => t.insert e.1 e.2) start) := by
    intro l
    induction l with
    | nil => exact fun _ => rfl
    | cons e rest ih => exact fun start => ih (start.insert e.1 e.2)
  exact (hgeneral t.entries .empty).trans (congrArg Except.ok t.ofList_entries)

/-- A table of texts is decoded again from what it is written as. -/
theorem Shape.roundTrips_texts (t : Table String String) : Shape.texts.RoundTrips t := by
  have hordered : (Shape.texts.encode t).Ordered := by
    refine .object (Table.ascending _) fun m hm => ?_
    obtain ⟨e, -, rfl⟩ := List.mem_map.mp hm
    exact .text e.2
  rw [RoundTrips, hordered.sorted_eq]
  exact decodeTexts_entries t

/-- A table of values that stand for themselves is decoded again from what it is written as. -/
theorem Shape.roundTrips_members {t : Table String Json} (h : ∀ e ∈ t.entries, e.2.Literal) :
    Shape.members.RoundTrips t := by
  have hordered : (Shape.members.encode t).Ordered :=
    .object t.ascending fun m hm => (h m hm).ordered
  rw [RoundTrips, hordered.sorted_eq]
  show (do return .ofList (← orFault (Json.settleMembers t.entries)) : Except Mismatch _) = .ok t
  rw [Json.settleMembers_of_literal h]
  exact congrArg Except.ok t.ofList_entries

/-- Only a table of plain values is decoded again from what it is written as. -/
theorem Shape.plain_of_roundTrips_members {t : Table String Json} (h : Shape.members.RoundTrips t) :
    ∀ e ∈ t.entries, e.2.Plain := by
  obtain ⟨ms, hms, h⟩ := exists_of_bind_eq_ok h
  obtain rfl : Table.ofList ms = t := Except.ok.inj h
  have hsettle := eq_ok_of_mapError_eq_ok hms
  have hparsed : ∀ e ∈ (Table.ofList ms).entries, e.2.Parsed := fun e he =>
    Json.parsed_of_settleMembers hsettle e (Table.mem_of_mem_ofList he)
  -- a parsed member is settled as it stands, so it cannot start with the key for embedded texts
  rw [Json.sortedMembers_eq_self _ fun e he => (hparsed e he).ordered, Table.ofList_entries]
    at hsettle
  exact Json.plain_of_settleMembers (fun e he => (hparsed e he).unembedded) hsettle

/-! ## Records -/

namespace Fields

variable {fields : Fields α} {others : α → Table String Json}
  {withOthers : Table String Json → α → α} {name : String} {blank a : α}
  {members rest : List (String × Json)} {v : Json}

/-- What is written under the key of a field is written for this field. -/
theorem Lenses.mem_encode_iff (h : fields.Lenses) {f : Field α} (hf : f ∈ fields.list) :
    (f.key, v) ∈ fields.encode a ↔ f.encode (f.get a) = some v := by
  rw [Fields.mem_encode_iff]
  constructor
  · rintro ⟨g, hg, hencode, hkey⟩
    rwa [h.eq_of_key hg hf hkey] at hencode
  · exact fun hencode => ⟨f, hf, hencode, rfl⟩

/-- Where fields are written once each, whatever else is written, the sorted members say of each
field what is written for it. -/
theorem member?_sorted {f : Field α} (hf : f ∈ fields.list) (hnodup : (members.map (·.1)).Nodup)
    (hwritten : ∀ f ∈ fields.list, ∀ v, (f.key, v) ∈ members ↔ f.encode (f.get a) = some v) :
    (Json.object (Table.ofList (Json.sortedMembers members)).entries).member? f.key =
      (f.encode (f.get a)).map Json.sorted := by
  refine Option.ext fun v => ?_
  rw [Json.member?_eq_some_iff (Table.nodup_keys_of_ascending (Table.ascending _)),
    Json.mem_sorted_object_iff hnodup, Option.map_eq_some_iff]
  exact exists_congr fun w => and_congr_left fun _ => hwritten f hf w

/-- Where lawful fields are written once each, decoding finds all fields again. -/
theorem Lenses.exists_restored (h : fields.Lenses) (hfields : ∀ f ∈ fields.list, f.Restores blank)
    (hfit : fields.Fit a) (hnodup : (members.map (·.1)).Nodup)
    (hwritten : ∀ f ∈ fields.list, ∀ v, (f.key, v) ∈ members ↔ f.encode (f.get a) = some v) :
    let sorted := (Table.ofList (Json.sortedMembers members)).entries
    ∃ y, sorted.foldlM (fun a m => fields.assign m.1 m.2 a) blank = .ok y ∧
      fields.complete (sorted.map (·.1)) = .ok () ∧ ∀ f ∈ fields.list, f.get y = f.get a := by
  intro sorted
  have hsaid : ∀ f ∈ fields.list, (Json.object sorted).member? f.key =
      (f.encode (f.get a)).map Json.sorted := fun f hf => member?_sorted hf hnodup hwritten
  rw [fit_iff] at hfit
  have htake : ∀ f ∈ fields.list,
      f.take blank ((Json.object sorted).member? f.key) = .ok (f.get a) := fun f hf => by
    rw [hsaid f hf]
    cases hw : f.encode (f.get a) with
    | none => exact congrArg Except.ok ((hfields f hf).omitted hw).symm
    | some w => exact (hfields f hf).decode_encode (hfit f hf) hw
  obtain ⟨y, hy, hget⟩ :=
    (h.assigned_iff (Table.nodup_keys_of_ascending (Table.ascending _))).mpr htake
  refine ⟨y, hy, fields.complete_eq_ok_iff.mpr fun f hf hrequired => ?_, hget⟩
  obtain ⟨w, hw⟩ := fields.exists_encode_of_required f hf hrequired (f.get a)
  refine List.mem_map_of_mem (Json.mem_of_member? (v := w.sorted) ?_)
  rw [hsaid f hf, hw]
  rfl

/-- A record is decoded again from any object in which its fields are written once each. -/
theorem Cover.decode_eq_ok (h : fields.Cover) (hfields : ∀ f ∈ fields.list, f.Restores blank)
    (hfit : fields.Fit a) (hnodup : (members.map (·.1)).Nodup)
    (hwritten : ∀ f ∈ fields.list, ∀ v, (f.key, v) ∈ members ↔ f.encode (f.get a) = some v) :
    (Shape.record name blank fields).decode
      (.object (Table.ofList (Json.sortedMembers members)).entries) = .ok a := by
  obtain ⟨y, hassign, hcomplete, hget⟩ := h.exists_restored hfields hfit hnodup hwritten
  obtain rfl := h.ext y a hget
  rw [Shape.decode, hassign]
  show (do fields.complete _; return y) = _
  rw [hcomplete]
  rfl

/-- Members that belong to no field do not count. -/
theorem Lenses.mem_encode_or_iff (h : fields.Lenses) (hrest : ∀ m ∈ rest, m.1 ∉ fields.keys)
    {f : Field α} (hf : f ∈ fields.list) :
    (f.key, v) ∈ fields.encode a ∨ (f.key, v) ∈ rest ↔ f.encode (f.get a) = some v := by
  rw [h.mem_encode_iff hf, or_iff_left fun hmem => hrest _ hmem (key_mem_keys hf)]

/-- The keys that are written are distinct. -/
theorem Lenses.nodup_keys_encode (h : fields.Lenses) (a : α) :
    ((fields.encode a).map (·.1)).Nodup := h.nodup.sublist (fields.keys_encode_sublist a)

theorem Lenses.nodup_keys_encode_append (h : fields.Lenses) (a : α) {t : Table String Json}
    (ht : ∀ e ∈ t.entries, e.1 ∉ fields.keys) :
    ((fields.encode a ++ t.entries).map (·.1)).Nodup := by
  rw [List.map_append, List.nodup_append]
  refine ⟨h.nodup_keys_encode a, Table.nodup_keys_of_ascending t.ascending, ?_⟩
  rintro k hk _ hk' rfl
  obtain ⟨e, he, rfl⟩ := List.mem_map.mp hk'
  exact ht e he ((fields.keys_encode_sublist a).subset hk)

/-- The members beside the fields are found again among all that are written. -/
theorem Lenses.filter_sorted (h : fields.Lenses) (a : α) {t : Table String Json}
    (ht : ∀ e ∈ t.entries, e.1 ∉ fields.keys ∧ e.2.Ordered) :
    (Table.ofList (Json.sortedMembers (fields.encode a ++ t.entries))).entries.filter
      (fun m => m.1 ∉ fields.keys) = t.entries := by
  rw [← Table.entries_ofList ((Table.ascending _).filter fun m => m.1 ∉ fields.keys)]
  refine congrArg Table.entries (Table.eq_of_mem_iff fun ⟨k, v⟩ => ?_)
  rw [Table.entries_ofList ((Table.ascending _).filter _), List.mem_filter,
    Json.mem_sorted_object_iff (h.nodup_keys_encode_append a fun e he => (ht e he).1)]
  simp only [decide_eq_true_eq]
  constructor
  · rintro ⟨⟨w, hw, rfl⟩, hkey⟩
    have hother : (k, w) ∈ t.entries := (List.mem_append.mp hw).resolve_left fun hmem =>
      hkey ((fields.keys_encode_sublist a).subset (List.mem_map_of_mem hmem))
    rwa [(ht _ hother).2.sorted_eq]
  · intro he
    obtain ⟨hkey, hordered⟩ := ht _ he
    exact ⟨⟨v, List.mem_append_right _ he, hordered.sorted_eq⟩, hkey⟩

/-- A record that keeps other members is decoded again from what it is written as. -/
theorem CoverWith.roundTrips (h : fields.CoverWith others withOthers)
    (hfields : ∀ f ∈ fields.list, f.Restores blank) (hfit : fields.Fit a)
    (hothers : ∀ e ∈ (others a).entries, e.1 ∉ fields.keys ∧ e.2.Literal) :
    (Shape.extensible name blank fields others withOthers).RoundTrips a := by
  have hkeys : ∀ e ∈ (others a).entries, e.1 ∉ fields.keys := fun e he => (hothers e he).1
  obtain ⟨y, hassign, hcomplete, hget⟩ := h.exists_restored hfields hfit
    (h.nodup_keys_encode_append a hkeys)
    fun f hf _ => List.mem_append.trans (h.mem_encode_or_iff hkeys hf)
  rw [Shape.RoundTrips, Shape.encode, Json.sorted, Shape.decode, hassign,
    h.filter_sorted a fun e he => ⟨hkeys e he, (hothers e he).2.ordered⟩,
    Json.settleMembers_of_literal fun e he => (hothers e he).2]
  show (do fields.complete _; return withOthers (.ofList (others a).entries) y) = _
  rw [hcomplete, Table.ofList_entries]
  exact congrArg Except.ok (h.ext a y fun f hf => (hget f hf).symm)

/-- Where the fields of a record are found again, each of them is decoded from what is written for
it. -/
theorem restored_of_take (hnodup : (members.map (·.1)).Nodup)
    (hwritten : ∀ f ∈ fields.list, ∀ v, (f.key, v) ∈ members ↔ f.encode (f.get a) = some v)
    (htake : ∀ f ∈ fields.list, f.take blank
      ((Json.object (Table.ofList (Json.sortedMembers members)).entries).member? f.key) =
        .ok (f.get a)) :
    ∀ f ∈ fields.list, ∀ w, f.encode (f.get a) = some w → f.decode w.sorted = .ok (f.get a) := by
  intro f hf w hw
  have hget := htake f hf
  rwa [member?_sorted hf hnodup hwritten, hw] at hget

/-- Where a record that keeps other members is found again, so is each of its fields, and the
members that it keeps are plain. -/
theorem CoverWith.restored_of_roundTrips (h : fields.CoverWith others withOthers)
    (hagain : (Shape.extensible name blank fields others withOthers).RoundTrips a) :
    (∀ f ∈ fields.list, ∀ w, f.encode (f.get a) = some w → f.decode w.sorted = .ok (f.get a)) ∧
      ∀ e ∈ (others a).entries, e.2.Plain := by
  have hothers := h.others_of_decode hagain
  have hkeys : ∀ e ∈ (others a).entries, e.1 ∉ fields.keys := fun e he => (hothers e he).1
  rw [Shape.RoundTrips, Shape.encode, Json.sorted] at hagain
  obtain ⟨-, htake, ms, hms, -⟩ := h.parts_of_decode hagain
  rw [h.filter_sorted a fun e he => ⟨hkeys e he, (hothers e he).2.ordered⟩] at hms
  refine ⟨restored_of_take (h.nodup_keys_encode_append a hkeys) (fun f hf _ => ?_) htake,
    Json.plain_of_settleMembers (fun e he => (hothers e he).2.unembedded) hms⟩
  exact List.mem_append.trans (h.mem_encode_or_iff hkeys hf)

end Fields

/-! ## What fits is decoded again -/

mutual

/-- What fits a lawful shape is decoded again from what it is written as. -/
theorem Shape.roundTrips_of_fits : {α : Type} → (shape : Shape α) → shape.Lawful → {a : α} →
    shape.Fits a → shape.RoundTrips a
  | _, .text, _, _, _ | _, .flag, _, _, _ => rfl
  | _, .word16, _, n, _ => by
    show (wordOf 16 (.integer n.toNat)).map UInt16.ofNat = .ok n
    rw [wordOf_ofNat n.toNat_lt, Except.map, UInt16.ofNat_toNat]
  | _, .word32, _, n, _ => by
    show (wordOf 32 (.integer n.toNat)).map UInt32.ofNat = .ok n
    rw [wordOf_ofNat n.toNat_lt, Except.map, UInt32.ofNat_toNat]
  | _, .word64, _, n, _ => by
    show (wordOf 64 (.integer n.toNat)).map UInt64.ofNat = .ok n
    rw [wordOf_ofNat n.toNat_lt, Except.map, UInt64.ofNat_toNat]
  | _, .any ofJson toJson, _, a, hfits => by
    obtain ⟨hliteral, hofJson⟩ := hfits
    show (do return ofJson (← orFault (toJson a).sorted.settle) : Except Mismatch _) = .ok a
    rw [hliteral.ordered.sorted_eq, hliteral.settled, ← hofJson]
    exact congrArg (Except.ok <| ofJson <| toJson ·) hofJson
  | _, .list item, hlawful, as, hfits => by
    show (Json.sortedItems (as.map item.encode)).mapM item.decode = .ok as
    rw [Json.sortedItems_eq_map, List.map_map]
    exact mapM_map_eq_ok_iff.mpr fun a ha => item.roundTrips_of_fits hlawful (hfits a ha)
  | _, .texts, _, t, _ => Shape.roundTrips_texts t
  | _, .members, _, _, hfits => Shape.roundTrips_members hfits
  | _, .option item, hlawful, .none, _ => rfl
  | _, .option item, hlawful, some a, hfits => by
    obtain ⟨hfits, hnull⟩ := hfits a rfl
    have hdecode : item.decode (item.encode a).sorted = .ok a :=
      item.roundTrips_of_fits hlawful.1 hfits
    show (Shape.option item).decode (item.encode a).sorted = .ok (some a)
    rw [Shape.decode_option (Json.sorted_ne_null hnull), hdecode]
    rfl
  | _, .choice known nameOf, _, a, hfits => hfits
  | _, .record _ blank fields, hlawful, a, hfits => by
    obtain ⟨hcover, hlawful⟩ := hlawful
    rw [Shape.RoundTrips, Shape.encode, Json.sorted]
    exact hcover.decode_eq_ok (fields.restores hlawful) hfits (hcover.nodup_keys_encode a)
      fun f hf _ => hcover.mem_encode_iff hf
  | _, .extensible _ _ fields _ _, hlawful, _, hfits =>
    hlawful.1.roundTrips (fields.restores hlawful.2) hfits.1 hfits.2
  | _, .abbreviated _ ofText absent form, hlawful, a, hfits => by
    obtain ⟨habbreviates, hlawful⟩ := hlawful
    have hdecode : form.decode (form.encode a).sorted = .ok a :=
      form.roundTrips_of_fits hlawful hfits
    obtain ⟨members, hmembers⟩ := habbreviates.encode_eq_object a
    rw [hmembers, Json.sorted] at hdecode
    rw [Shape.RoundTrips, Shape.encode, hmembers, Json.sorted, Shape.decode, hdecode]
    rfl

theorem Fields.restores : {α : Type} → (fields : Fields α) → {blank : α} → fields.Lawful blank →
    ∀ f ∈ fields.list, f.Restores blank
  | _, .none, _, _ => fun _ hf => nomatch hf
  | _, .cons _ _ _ _ shape rest, _, h => by
    rw [Fields.list, List.forall_mem_cons]
    refine ⟨⟨fun hfits hencode => ?_, nofun⟩, rest.restores h.2.2⟩
    cases hencode
    exact shape.roundTrips_of_fits h.1 hfits
  | _, .omittable _ _ _ shape rest, _, h => by
    obtain ⟨hshape, hblank, -, hrest⟩ := h
    rw [Fields.list, List.forall_mem_cons]
    refine ⟨⟨fun {o v} hfits hencode => ?_, fun {o} hencode => ?_⟩, rest.restores hrest⟩
    · obtain ⟨b, rfl, rfl⟩ := Option.map_eq_some_iff.mp hencode
      obtain ⟨hfits, hnull⟩ := hfits b rfl
      have hdecode : shape.decode (shape.encode b).sorted = .ok b :=
        shape.roundTrips_of_fits hshape hfits
      rw [Field.decode_omittable (Json.sorted_ne_null hnull), hdecode]
      rfl
    · exact (Option.map_eq_none_iff.mp hencode).trans hblank.symm

end

/-! ## What is decoded again is legible -/

mutual

/-- Of a lawful shape only what is legible is decoded again from what it is written as. -/
theorem Shape.legible_of_roundTrips : {α : Type} → (shape : Shape α) → shape.Lawful → {a : α} →
    shape.RoundTrips a → shape.Legible a
  | _, .text, _, _ | _, .flag, _, _ | _, .word16, _, _ | _, .word32, _, _ | _, .word64, _, _
  | _, .texts, _, _ | _, .choice _ _, _, _ => fun _ => trivial
  | _, .any ofJson toJson, hlawful, a => by
    intro h
    obtain ⟨w, hw, h⟩ := exists_of_bind_eq_ok h
    obtain rfl : ofJson w = a := Except.ok.inj h
    have hsettle := eq_ok_of_mapError_eq_ok hw
    -- what is kept is parsed, so that it is read as it stands
    have hparsed := (hlawful w (Json.parsed_of_settle hsettle)).1
    rw [Shape.encode, hparsed.ordered.sorted_eq] at hsettle
    exact Json.plain_of_settle hparsed.unembedded hsettle
  | _, .list item, hlawful, as => by
    intro h
    have hitems : (Json.sortedItems (as.map item.encode)).mapM item.decode = .ok as := h
    rw [Json.sortedItems_eq_map, List.map_map, mapM_map_eq_ok_iff] at hitems
    exact fun a ha => item.legible_of_roundTrips hlawful (hitems a ha)
  | _, .members, _, _ => Shape.plain_of_roundTrips_members
  | _, .option item, _, .none => fun _ => nofun
  | _, .option item, hlawful, some a => by
    intro h
    have hdecode : (Shape.option item).decode (item.encode a).sorted = .ok (some a) := h
    rw [Shape.decode_option (Json.sorted_ne_null (hlawful.2 a))] at hdecode
    obtain ⟨b, hb, hsome⟩ := exists_of_map_eq_ok hdecode
    cases hsome
    rintro _ ⟨⟩
    exact item.legible_of_roundTrips hlawful.1 hb
  | _, .record _ blank fields, hlawful, a => by
    intro h
    obtain ⟨hcover, hlawful⟩ := hlawful
    rw [Shape.RoundTrips, Shape.encode, Json.sorted] at h
    exact fields.legible_of_restored hlawful <| Fields.restored_of_take
      (hcover.nodup_keys_encode a) (fun f hf _ => hcover.mem_encode_iff hf)
      fun f hf => hcover.take_of_decode hf h
  | _, .extensible _ blank fields others withOthers, hlawful, a => by
    intro h
    obtain ⟨hrestored, hothers⟩ := hlawful.1.restored_of_roundTrips h
    exact ⟨fields.legible_of_restored hlawful.2 hrestored, hothers⟩
  | _, .abbreviated _ ofText absent form, hlawful, a => by
    intro h
    obtain ⟨habbreviates, hlawful⟩ := hlawful
    refine form.legible_of_roundTrips hlawful ?_
    obtain ⟨members, hmembers⟩ := habbreviates.encode_eq_object a
    rw [Shape.RoundTrips, Shape.encode, hmembers, Json.sorted] at h
    rw [Shape.RoundTrips, hmembers, Json.sorted]
    exact eq_ok_of_mapError_eq_ok h

theorem Fields.legible_of_restored : {α : Type} → (fields : Fields α) → {blank a : α} →
    fields.Lawful blank →
    (∀ f ∈ fields.list, ∀ w, f.encode (f.get a) = some w → f.decode w.sorted = .ok (f.get a)) →
    fields.Legible a
  | _, .none, _, _, _, _ => trivial
  | _, .cons _ _ _ _ shape rest, _, _, h, hrestored => by
    obtain ⟨hfirst, hrestored⟩ := List.forall_mem_cons.mp hrestored
    exact ⟨shape.legible_of_roundTrips h.1 (hfirst _ rfl),
      rest.legible_of_restored h.2.2 hrestored⟩
  | _, .omittable key get set shape rest, _, a, h, hrestored => by
    obtain ⟨hshape, -, -, hrest⟩ := h
    obtain ⟨hfirst, hrestored⟩ := List.forall_mem_cons.mp hrestored
    refine ⟨fun b hb => ?_, rest.legible_of_restored hrest hrestored⟩
    have hdecode : (Field.omittable key get set shape).decode (shape.encode b).sorted =
        .ok (get a) := hfirst _ (congrArg (Option.map shape.encode) hb)
    rw [hb] at hdecode
    -- what is `null` is taken for something that was left out
    have hnull : (shape.encode b).sorted ≠ .null := by
      intro heq
      rw [heq] at hdecode
      cases hdecode
    rw [Field.decode_omittable hnull] at hdecode
    obtain ⟨c, hc, hsome⟩ := exists_of_map_eq_ok hdecode
    cases hsome
    exact ⟨shape.legible_of_roundTrips hshape hc, fun heq => hnull (congrArg Json.sorted heq)⟩

end

end ClusterRegistry
