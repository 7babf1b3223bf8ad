import ClusterRegistry.Proofs.Shape.Said

/-!
# Lawful shapes

A shape is lawful if no two of its fields are in each other's way and all that is not given keeps
its place in the blank record (`Shape.Lawful`). What a lawful shape decodes fits it, however the
value was spelt, if the value came from a text or if what was decoded is legible
(`Shape.fits_of_decode`).
-/

namespace ClusterRegistry

variable {α : Type}

/-! ## Lawful shapes -/

namespace Fields

/-- The fields of a record are all that it consists of. -/
structure Cover (fields : Fields α) : Prop extends fields.Lenses where
  ext : ∀ a a', (∀ f ∈ fields.list, f.get a = f.get a') → a = a'

/-- The fields of a record and the members that it keeps beside them are all that it consists
of. -/
structure CoverWith (fields : Fields α) (others : α → Table String Json)
    (withOthers : Table String Json → α → α) : Prop extends fields.Lenses where
  ext : ∀ a a', (∀ f ∈ fields.list, f.get a = f.get a') → withOthers (others a) a' = a
  others_withOthers : ∀ t a, others (withOthers t a) = t
  get_withOthers : ∀ f ∈ fields.list, ∀ t a, f.get (withOthers t a) = f.get a

end Fields

/-- A text, `null` and an object may say the same as an object of the given shape. -/
structure Shape.Abbreviates (form : Shape α) (ofText : String → α) (absent : α) : Prop where
  encode_eq_object : ∀ a, ∃ members, form.encode a = .object members
  ofText : ∀ s, form.Fits (ofText s)
  absent : form.Fits absent

mutual

/-- A shape in which nothing that was decoded is lost when it is written. -/
def Shape.Lawful : {α : Type} → Shape α → Prop
  | _, .text | _, .flag | _, .word16 | _, .word32 | _, .word64 | _, .texts | _, .members => True
  | _, .any ofJson toJson => ∀ v, v.Parsed → (toJson (ofJson v)).Parsed ∧
      (v.Plain → (toJson (ofJson v)).Plain) ∧ ofJson (toJson (ofJson v)) = ofJson v
  | _, .list item => item.Lawful
  | _, .option item => item.Lawful ∧ ∀ a, item.encode a ≠ .null
  | _, .choice known nameOf => ∀ o ∈ known, chooseNamed known (nameOf o.2) = .ok o.2
  | _, .record _ blank fields => fields.Cover ∧ fields.Lawful blank
  | _, .extensible _ blank fields others withOthers =>
    fields.CoverWith others withOthers ∧ fields.Lawful blank
  | _, .abbreviated _ ofText absent form => form.Abbreviates ofText absent ∧ form.Lawful

/-- Fields of lawful shapes, whose values in the blank record fit them. -/
def Fields.Lawful : {α : Type} → Fields α → α → Prop
  | _, .none, _ => True
  | _, .cons _ _ get _ shape rest, blank =>
    shape.Lawful ∧ shape.Fits (get blank) ∧ rest.Lawful blank
  | _, .omittable _ get _ shape rest, blank =>
    shape.Lawful ∧ get blank = .none ∧
      (∀ v a, v.Ordered → v.Unembedded → v ≠ .null → shape.decode v = .ok a →
        shape.encode a ≠ .null) ∧
      rest.Lawful blank

end

/-! ## What is decoded fits -/

/-- What is decoded fits the field if the value is parsed or if what was decoded is legible. -/
def Field.DecodesFitting (f : Field α) : Prop :=
  ∀ {v b}, f.decode v = .ok b → v.Parsed ∨ f.Legible b → f.Fits b

namespace Fields

variable {fields : Fields α} {others : α → Table String Json}
  {withOthers : Table String Json → α → α} {name : String} {blank a : α} {v : Json}

/-- The blank record fits lawful fields. -/
theorem fit_blank : {α : Type} → (fields : Fields α) → {blank : α} → fields.Lawful blank →
    fields.Fit blank
  | _, .none, _, _ => trivial
  | _, .cons _ _ _ _ _ rest, _, h => ⟨h.2.1, rest.fit_blank h.2.2⟩
  | _, .omittable _ _ _ _ rest, _, h => by
    obtain ⟨-, hnone, -, hrest⟩ := h
    exact ⟨fun _ hsome => (Option.some_ne_none _ (hsome.symm.trans hnone)).elim,
      rest.fit_blank hrest⟩

/-- A record fits if each of its fields is blank or was taken from what is said of it. -/
theorem fit_of_take (said : String → Option Json) (hblank : fields.Fit blank)
    (hfields : ∀ f ∈ fields.list, f.DecodesFitting)
    (htake : ∀ f ∈ fields.list, f.take blank (said f.key) = .ok (f.get a))
    (h : (∀ k v, said k = some v → v.Parsed) ∨ fields.Legible a) : fields.Fit a := by
  rw [fit_iff] at hblank ⊢
  rw [legible_iff] at h
  intro f hf
  have hget := htake f hf
  cases hsaid : said f.key with
  | none =>
    rw [hsaid] at hget
    rw [← Except.ok.inj hget]
    exact hblank f hf
  | some v =>
    rw [hsaid] at hget
    exact hfields f hf hget (h.imp (fun hparsed => hparsed _ v hsaid) fun hlegible => hlegible f hf)

/-- The parts of which an object is made into a record that keeps other members. -/
theorem CoverWith.parts_of_decode (h : fields.CoverWith others withOthers)
    {members : List (String × Json)}
    (hdecode : (Shape.extensible name blank fields others withOthers).decode (.object members) =
      .ok a) :
    fields.complete (members.map (·.1)) = .ok () ∧
      (∀ f ∈ fields.list, f.take blank ((Json.object members).member? f.key) = .ok (f.get a)) ∧
      ∃ ms, Json.settleMembers (members.filter fun m => m.1 ∉ fields.keys) = .ok ms ∧
        others a = .ofList ms := by
  obtain ⟨b, hb, hdecode⟩ := exists_of_bind_eq_ok hdecode
  obtain ⟨_, hcomplete, hdecode⟩ := exists_of_bind_eq_ok hdecode
  obtain ⟨ms, hms, hdecode⟩ := exists_of_bind_eq_ok hdecode
  cases hdecode
  refine ⟨hcomplete, fun f hf => ?_, ms, eq_ok_of_mapError_eq_ok hms, h.others_withOthers _ _⟩
  rw [h.get_withOthers f hf]
  exact h.take_of_assigned hf hb

/-- The members that a record keeps are parsed, and none of them belongs to a field. -/
theorem CoverWith.others_of_decode (h : fields.CoverWith others withOthers)
    (hdecode : (Shape.extensible name blank fields others withOthers).decode v = .ok a) :
    ∀ e ∈ (others a).entries, e.1 ∉ fields.keys ∧ e.2.Parsed := by
  cases v with
  | object members =>
    obtain ⟨-, -, ms, hms, hothers⟩ := h.parts_of_decode hdecode
    intro e he
    rw [hothers] at he
    have hmem := Table.mem_of_mem_ofList he
    have hkey : e.1 ∈ (members.filter fun m => m.1 ∉ fields.keys).map (·.1) := by
      rw [← Json.keys_of_settleMembers hms]
      exact List.mem_map_of_mem hmem
    obtain ⟨m, hm, heq⟩ := List.mem_map.mp hkey
    refine ⟨?_, Json.parsed_of_settleMembers hms e hmem⟩
    rw [← heq]
    simpa using (List.mem_filter.mp hm).2
  | _ => cases hdecode

/-- A record that keeps other members fits if its fields decode fitting values. -/
theorem CoverWith.fits_of_decode (h : fields.CoverWith others withOthers)
    (hblank : fields.Fit blank) (hfields : ∀ f ∈ fields.list, f.DecodesFitting)
    (hdecode : (Shape.extensible name blank fields others withOthers).decode v = .ok a)
    (hor : v.Parsed ∨ (Shape.extensible name blank fields others withOthers).Legible a) :
    (Shape.extensible name blank fields others withOthers).Fits a := by
  have hothers := h.others_of_decode hdecode
  cases v with
  | object members =>
    obtain ⟨-, htake, ms, hms, hkept⟩ := h.parts_of_decode hdecode
    have hfit : fields.Fit a :=
      fit_of_take (fun k => (Json.object members).member? k) hblank hfields htake
        (hor.imp (fun hv _ _ hsaid => hv.of_mem_object _ (Json.mem_of_member? hsaid)) And.left)
    -- the members that are kept are literal although what they were made from need not be
    have hliteral : ∀ e ∈ (others a).entries, e.2.Literal := by
      rw [hkept]
      refine Json.literal_of_settleMembers hms (hor.imp (fun hv m hm => ?_) fun hlegible => ?_)
      · exact hv.of_mem_object m (List.mem_of_mem_filter hm)
      · exact hkept ▸ hlegible.2
    exact ⟨hfit, fun e he => ⟨(hothers e he).1, hliteral e he⟩⟩
  | _ => cases hdecode

end Fields

mutual

/-- What a lawful shape decodes fits it if the value is parsed or if what was decoded is legible. -/
theorem Shape.fits_of_decode : {α : Type} → (shape : Shape α) → shape.Lawful → {v : Json} →
    {a : α} → shape.decode v = .ok a → v.Parsed ∨ shape.Legible a → shape.Fits a
  | _, .text, _, _, _, _, _ | _, .flag, _, _, _, _, _ | _, .word16, _, _, _, _, _
  | _, .word32, _, _, _, _, _ | _, .word64, _, _, _, _, _ | _, .texts, _, _, _, _, _ => trivial
  | _, .any ofJson toJson, hlawful, v, a, h, hor => by
    obtain ⟨w, hw, h⟩ := exists_of_bind_eq_ok h
    cases h
    have hsettle := eq_ok_of_mapError_eq_ok hw
    obtain ⟨hparsed, hplain, hundone⟩ := hlawful w (Json.parsed_of_settle hsettle)
    refine ⟨hparsed.literal_iff.mpr (hor.elim (fun hv => hplain ?_) id), hundone⟩
    -- a parsed value stands for itself, and it would stand for nothing if it were not plain
    rw [Json.eq_of_settle hv.ordered hv.unembedded hsettle]
    exact Json.plain_of_settle hv.unembedded hsettle
  | _, .list item, hlawful, v, as, h, hor => by
    cases v with
    | array vs =>
      intro a ha
      obtain ⟨w, hw, hdecode⟩ := exists_mem_of_mapM_eq_ok h a ha
      exact item.fits_of_decode hlawful hdecode (hor.imp (·.of_mem_array w hw) (· a ha))
    | _ => cases h
  | _, .members, _, v, t, h, hor => by
    cases v with
    | object members =>
      obtain ⟨ms, hms, h⟩ := exists_of_bind_eq_ok h
      cases h
      exact Json.literal_of_settleMembers (eq_ok_of_mapError_eq_ok hms)
        (hor.imp_left (·.of_mem_object))
    | _ => cases h
  | _, .option item, hlawful, v, o, h, hor => by
    rintro a rfl
    refine ⟨?_, hlawful.2 a⟩
    cases v with
    | null => cases h
    | _ =>
      obtain ⟨b, hb, hsome⟩ := exists_of_map_eq_ok h
      cases hsome
      exact item.fits_of_decode hlawful.1 hb (hor.imp_right (· _ rfl))
  | _, .choice known nameOf, hlawful, v, a, h, _ => by
    obtain ⟨s, -, h⟩ := exists_of_bind_eq_ok h
    unfold chooseNamed at h
    split at h
    · next o ho =>
      cases h
      exact hlawful o (List.mem_of_find?_eq_some ho)
    · cases h
  | _, .record _ blank fields, hlawful, v, a, h, hor => by
    obtain ⟨hcover, hlawful⟩ := hlawful
    exact Fields.fit_of_take (fun k => v.said? fields.keys k) (fields.fit_blank hlawful)
      (fields.decodesFitting hlawful) (fun f hf => hcover.take_of_decode hf h)
      (hor.imp_left fun hv _ _ => hv.said?)
  | _, .extensible _ blank fields others withOthers, hlawful, v, a, h, hor => by
    obtain ⟨hcover, hlawful⟩ := hlawful
    exact hcover.fits_of_decode (fields.fit_blank hlawful) (fields.decodesFitting hlawful) h hor
  | _, .abbreviated _ ofText absent form, hlawful, v, a, h, hor => by
    obtain ⟨habbreviates, hlawful⟩ := hlawful
    cases v with
    | text s =>
      cases h
      exact habbreviates.ofText s
    | null =>
      cases h
      exact habbreviates.absent
    | object members => exact form.fits_of_decode hlawful (eq_ok_of_mapError_eq_ok h) hor
    | _ => cases h

theorem Fields.decodesFitting : {α : Type} → (fields : Fields α) → {blank : α} →
    fields.Lawful blank → ∀ f ∈ fields.list, f.DecodesFitting
  | _, .none, _, _ => fun _ hf => nomatch hf
  | _, .cons _ _ _ _ shape rest, _, h => by
    rw [Fields.list, List.forall_mem_cons]
    exact ⟨shape.fits_of_decode h.1, rest.decodesFitting h.2.2⟩
  | _, .omittable _ _ _ shape rest, _, h => by
    obtain ⟨hshape, -, hnull, hrest⟩ := h
    rw [Fields.list, List.forall_mem_cons]
    refine ⟨fun {v o} h hor => ?_, rest.decodesFitting hrest⟩
    rintro b rfl
    cases v with
    | null => cases h
    | _ =>
      obtain ⟨b', hb, hsome⟩ := exists_of_map_eq_ok h
      cases hsome
      refine ⟨shape.fits_of_decode hshape hb (hor.imp_right fun hlegible => (hlegible b rfl).1), ?_⟩
      exact hor.elim (fun hv => hnull _ b hv.ordered hv.unembedded nofun hb)
        fun hlegible => (hlegible b rfl).2

end

end ClusterRegistry
