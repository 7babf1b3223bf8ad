import ClusterRegistry.Proofs.Shape.Exchanged
import ClusterRegistry.Proofs.Shape.RoundTrip

/-!
# Keys that may be left out

Where every record takes the fields that are absent as blank ones (`Shape.Defaults`), nothing is
gained by saying that a field is blank: a value with such a key, in whatever record inside it, is
decoded as the value without that key is (`Shape.decode_of_omits`). What says that a field is blank
is told by the form of the value alone (`Shape.SaysBlank`): an empty text, `false`, zero, an empty
array or object, `null` where anything may stand, or an object of such members.
-/

namespace ClusterRegistry

variable {α : Type}

/-! ## Blank values -/

mutual

/-- Whether every record in a shape takes absent fields as blank ones, where the blank value of the
shape itself is the given one. -/
def Shape.Defaults : {α : Type} → Shape α → α → Prop
  | _, .text, s => s = ""
  | _, .flag, b => b = false
  | _, .word16, n => n = 0
  | _, .word32, n => n = 0
  | _, .word64, n => n = 0
  | _, .any ofJson _, a => a = ofJson .null
  | _, .list item, as => as = [] ∧ ∃ a, item.Defaults a
  | _, .texts, t => t = .empty
  | _, .members, t => t = .empty
  | _, .option _, _ | _, .choice _ _, _ => False
  | _, .record _ blank fields, a => a = blank ∧ fields.Defaults blank
  | _, .extensible _ blank fields others _, a =>
    a = blank ∧ others blank = .empty ∧ fields.Defaults blank
  | _, .abbreviated _ ofText absent form, a =>
    a = absent ∧ ofText "" = absent ∧ form.Defaults absent

/-- Whether the fields of a record may all be absent, and are blank then. -/
def Fields.Defaults : {α : Type} → Fields α → α → Prop
  | _, .none, _ => True
  | _, .cons presence _ get _ shape rest, blank =>
    presence = .defaulted ∧ shape.Defaults (get blank) ∧ rest.Defaults blank
  | _, .omittable _ get _ shape rest, blank =>
    get blank = .none ∧ (∃ b, shape.Defaults b) ∧ rest.Defaults blank

end

mutual

/-- Whether a value says what is blank in a shape. -/
def Shape.SaysBlank : {α : Type} → Shape α → Json → Prop
  | _, .text, v => v = .text ""
  | _, .flag, v => v = .bool false
  | _, .word16, v | _, .word32, v | _, .word64, v => v = .number (.integer 0)
  | _, .any ofJson _, v => ∃ w, v.settle = .ok w ∧ ofJson w = ofJson .null
  | _, .list _, v => v = .array []
  | _, .texts, v | _, .members, v => v = .object []
  | _, .option _, v => v = .null
  | _, .choice _ _, _ => False
  | _, .record _ _ fields, v =>
    ∃ members, v = .object members ∧ ∀ m ∈ members, fields.SaysBlank m.1 m.2
  | _, .extensible _ _ fields _ _, v =>
    ∃ members, v = .object members ∧ ∀ m ∈ members, m.1 ∈ fields.keys ∧ fields.SaysBlank m.1 m.2
  | _, .abbreviated _ _ _ form, v =>
    v = .text "" ∨ v = .null ∨ (∃ members, v = .object members) ∧ form.SaysBlank v

/-- Whether a member says of its field that it is blank. -/
def Fields.SaysBlank : {α : Type} → Fields α → String → Json → Prop
  | _, .none, _, _ => True
  | _, .cons _ key _ _ shape rest, k, v => (key = k → shape.SaysBlank v) ∧ rest.SaysBlank k v
  | _, .omittable key _ _ _ rest, k, v => (key = k → v = .null) ∧ rest.SaysBlank k v

end

namespace Fields

/-- Fields that may all be absent need not be there in an array. -/
theorem optionalFrom_of_defaults : {α : Type} → (fields : Fields α) → {blank : α} →
    fields.Defaults blank → fields.OptionalFrom 0
  | _, .none, _, _ => trivial
  | _, .cons _ _ _ _ _ rest, _, h => ⟨h.1, rest.optionalFrom_of_defaults h.2.2⟩
  | _, .omittable _ _ _ _ rest, _, h => rest.optionalFrom_of_defaults h.2.2

/-- Nothing is missing where no field need be there. -/
theorem complete_of_optionalFrom : {α : Type} → (fields : Fields α) → fields.OptionalFrom 0 →
    ∀ given, fields.complete given = .ok ()
  | _, .none, _, _ => rfl
  | _, .cons _ _ _ _ _ rest, h, given => by
    obtain ⟨rfl, hrest⟩ := h
    rw [complete, missing, if_neg (by simp)]
    exact rest.complete_of_optionalFrom hrest given
  | _, .omittable _ _ _ _ rest, h, given => rest.complete_of_optionalFrom h given

/-- Members that say what is blank of each field leave a blank record as it is in all of them. -/
theorem Lenses.exists_blank {fields : Fields α} (h : fields.Lenses) {blank : α}
    {members : List (String × Json)} (hmembers : ∀ m ∈ members, ∀ f ∈ fields.list, f.key = m.1 →
      f.decode m.2 = .ok (f.get blank)) :
    ∃ y, members.foldlM (fun a m => fields.assign m.1 m.2 a) blank = .ok y ∧
      ∀ f ∈ fields.list, f.get y = f.get blank := by
  obtain ⟨y, hy, hget⟩ := h.exists_assigned (a := blank)
    (fun f hf v hv => hmembers (f.key, v) hv f hf rfl) blank
  exact ⟨y, hy, fun f hf => hget f hf (.inr rfl)⟩

end Fields

mutual

/-- What says that something is blank is decoded as the blank value. -/
theorem Shape.decode_of_saysBlank : {α : Type} → (shape : Shape α) → shape.Lawful → {a : α} →
    shape.Defaults a → {v : Json} → shape.SaysBlank v → shape.decode v = .ok a
  | _, .text, _, _, rfl, _, rfl => rfl
  | _, .flag, _, _, rfl, _, rfl => rfl
  | _, .word16, _, _, rfl, _, rfl => rfl
  | _, .word32, _, _, rfl, _, rfl => rfl
  | _, .word64, _, _, rfl, _, rfl => rfl
  | _, .texts, _, _, rfl, _, rfl => rfl
  | _, .members, _, _, rfl, _, rfl => rfl
  | _, .list _, _, _, ha, _, hv => by
    obtain ⟨rfl, -⟩ := ha
    obtain rfl := hv
    rfl
  | _, .any ofJson toJson, _, _, ha, v, hv => by
    obtain rfl := ha
    obtain ⟨w, hw, heq⟩ := hv
    rw [Shape.decode, hw, ← heq]
    rfl
  | _, .option _, _, _, ha, _, _ => ha.elim
  | _, .choice _ _, _, _, ha, _, _ => ha.elim
  | _, .record name blank fields, hlawful, _, ha, v, hv => by
    obtain ⟨rfl, hdefaults⟩ := ha
    obtain ⟨members, rfl, hmembers⟩ := hv
    obtain ⟨hcover, hfields⟩ := hlawful
    -- every member leaves its field as it is in the blank record
    obtain ⟨y, hy, hget⟩ := hcover.exists_blank fun m hm =>
      fields.decode_of_saysBlank hfields hdefaults (hmembers m hm)
    obtain rfl := hcover.ext y _ hget
    have hcomplete := fields.complete_of_optionalFrom (fields.optionalFrom_of_defaults hdefaults)
      (members.map (·.1))
    rw [Shape.decode, hy]
    show (do fields.complete _; return y) = _
    rw [hcomplete]
    rfl
  | _, .extensible name blank fields others withOthers, hlawful, _, ha, v, hv => by
    obtain ⟨rfl, hothers, hdefaults⟩ := ha
    obtain ⟨members, rfl, hmembers⟩ := hv
    obtain ⟨hcover, hfields⟩ := hlawful
    obtain ⟨y, hy, hget⟩ := hcover.exists_blank fun m hm =>
      fields.decode_of_saysBlank hfields hdefaults (hmembers m hm).2
    have hcomplete := fields.complete_of_optionalFrom (fields.optionalFrom_of_defaults hdefaults)
      (members.map (·.1))
    -- all members belong to fields, so that there are no others to keep
    have hnone : (members.filter fun m => m.1 ∉ fields.keys) = [] := by
      rw [List.filter_eq_nil_iff]
      exact fun m hm hkey => of_decide_eq_true hkey (hmembers m hm).1
    have hblank := hcover.ext _ y fun f hf => (hget f hf).symm
    rw [hothers] at hblank
    rw [Shape.decode, hy, hnone]
    show (do
      fields.complete _
      return withOthers (.ofList []) y) = _
    rw [hcomplete]
    exact congrArg _ hblank
  | _, .abbreviated name ofText absent form, hlawful, _, ha, v, hv => by
    obtain ⟨rfl, htext, hform⟩ := ha
    rcases hv with rfl | rfl | ⟨⟨members, rfl⟩, hv⟩
    · exact congrArg _ htext
    · rfl
    · rw [Shape.decode, form.decode_of_saysBlank hlawful.2 hform hv]
      rfl

/-- A member that says that its field is blank is decoded as it is in the blank record. -/
theorem Fields.decode_of_saysBlank : {α : Type} → (fields : Fields α) → {blank : α} →
    fields.Lawful blank → fields.Defaults blank → {k : String} → {v : Json} →
    fields.SaysBlank k v → ∀ f ∈ fields.list, f.key = k → f.decode v = .ok (f.get blank)
  | _, .none, _, _, _, _, _, _ => fun _ hf => nomatch hf
  | _, .cons presence key get set shape rest, blank, hlawful, hdefaults, k, v, hv => by
    rw [Fields.list, List.forall_mem_cons]
    exact ⟨fun hkey => shape.decode_of_saysBlank hlawful.1 hdefaults.2.1 (hv.1 hkey),
      rest.decode_of_saysBlank hlawful.2.2 hdefaults.2.2 hv.2⟩
  | _, .omittable key get set shape rest, blank, hlawful, hdefaults, k, v, hv => by
    rw [Fields.list, List.forall_mem_cons]
    refine ⟨fun hkey => ?_, rest.decode_of_saysBlank hlawful.2.2.2 hdefaults.2.2 hv.2⟩
    obtain rfl := hv.1 hkey
    exact congrArg _ hdefaults.1.symm

end

/-! ## Leaving out a key -/

/-- A value is got from another one by leaving out a key that says of its field that it is blank. -/
inductive Fields.Drops (fields : Fields α) : Json → Json → Prop
  | key (before after : List (String × Json)) {key : String} {w : Json}
    (hkey : key ∈ fields.keys) (hblank : fields.SaysBlank key w) :
    fields.Drops (.object (before ++ (key, w) :: after)) (.object (before ++ after))

mutual

/-- Whether the second value is the first one without one key that says of its field that it is
blank, in whatever record inside it. -/
def Shape.Omits : {α : Type} → Shape α → Json → Json → Prop
  | _, .list item, v, v' =>
    ∃ before w w' after, v = .array (before ++ w :: after) ∧ v' = .array (before ++ w' :: after) ∧
      item.Omits w w'
  | _, .record _ _ fields, v, v' =>
    fields.Drops v v' ∨
      ∃ key w w', fields.Omits key w w' ∧ Json.Exchanged fields.keys key w w' v v'
  | _, .extensible _ _ fields _ _, v, v' =>
    fields.Drops v v' ∨ ∃ key w w', fields.Omits key w w' ∧ Json.Exchanged [] key w w' v v'
  | _, .abbreviated _ _ _ form, .object members, .object members' =>
    form.Omits (.object members) (.object members')
  | _, _, _, _ => False

/-- Whether what is said of a field has been put without a key of a record in it. -/
def Fields.Omits : {α : Type} → Fields α → String → Json → Json → Prop
  | _, .none, _, _, _ => False
  | _, .cons _ key _ _ shape rest, k, w, w' =>
    key = k ∧ shape.Omits w w' ∨ rest.Omits k w w'
  | _, .omittable key _ _ shape rest, k, w, w' =>
    key = k ∧ w ≠ .null ∧ w' ≠ .null ∧ shape.Omits w w' ∨ rest.Omits k w w'

end

/-- Two lists of members come to the same: assigning them fails for the same reason or makes records
that agree in all fields, and the members that belong to no field are the same. -/
structure Fields.SameMembers (fields : Fields α) (blank : α)
    (members members' : List (String × Json)) : Prop where
  assigned : InStep (fun a a' => ∀ f ∈ fields.list, f.get a' = f.get a)
    (members.foldlM (fun a m => fields.assign m.1 m.2 a) blank)
    (members'.foldlM (fun a m => fields.assign m.1 m.2 a) blank)
  others : (members'.filter fun m => m.1 ∉ fields.keys) =
    members.filter fun m => m.1 ∉ fields.keys

namespace Fields

variable {fields : Fields α} {f : Field α} {blank : α} {v v' w w' : Json} {key : String}
  {before after members members' : List (String × Json)}

theorem Drops.ordered (h : fields.Drops v v') (hordered : v.Ordered) : v'.Ordered := by
  cases h with
  | @key before after key w hkey hblank =>
    obtain ⟨hkeys, hvalues⟩ := Json.ordered_object_iff.mp hordered
    have hsublist : (before ++ after).Sublist (before ++ (key, w) :: after) :=
      (List.sublist_cons_self (key, w) after).append_left before
    exact .object (hkeys.sublist hsublist) fun m hm => hvalues m (hsublist.subset hm)

/-- A member whose field is the same without it may be left out. -/
theorem Lenses.sameMembers_dropped (h : fields.Lenses) (hf : f ∈ fields.list)
    (hblank : f.decode w = .ok (f.get blank))
    (hordered : (Json.object (before ++ (f.key, w) :: after)).Ordered) :
    fields.SameMembers blank (before ++ (f.key, w) :: after) (before ++ after) := by
  have hnodup := Table.nodup_keys_of_ascending (Json.ordered_object_iff.mp hordered).1
  obtain ⟨hbefore, hafter⟩ := Json.not_mem_of_nodup hnodup
  refine ⟨(h.inStep_dropped hf hblank hbefore hafter).mono fun a a' hchanges =>
    hchanges.get_eq h hf, ?_⟩
  rw [List.filter_append, List.filter_append, List.filter_cons_of_neg]
  simpa using key_mem_keys hf

/-- A member may stand for another one that its field decodes alike. -/
theorem Lenses.sameMembers_replaced (h : fields.Lenses) (hf : f ∈ fields.list)
    (hdecode : f.decode w' = f.decode w)
    (hordered : (Json.object (before ++ (f.key, w) :: after)).Ordered) :
    fields.SameMembers blank (before ++ (f.key, w) :: after) (before ++ (f.key, w') :: after) := by
  have hnodup := Table.nodup_keys_of_ascending (Json.ordered_object_iff.mp hordered).1
  obtain ⟨-, hafter⟩ := Json.not_mem_of_nodup hnodup
  have hsame : f.decode w' = (f.decode w).map id := by rw [hdecode, Except.map_id, id]
  refine ⟨(h.inStep_replaced hf hsame hafter blank).mono fun a a' hchanges =>
    hchanges.get_eq h hf, ?_⟩
  rw [List.filter_append, List.filter_append, List.filter_cons_of_neg, List.filter_cons_of_neg]
  · simpa using key_mem_keys hf
  · simpa using key_mem_keys hf

/-- Members that come to the same are decoded to the same record where no field need be there. -/
theorem SameMembers.decode_record (h : fields.SameMembers blank members members')
    (hcover : fields.Cover) (hoptional : fields.OptionalFrom 0) (name : String) :
    (Shape.record name blank fields).decode (.object members') =
      (Shape.record name blank fields).decode (.object members) := by
  have hassigned := (h.assigned.mono fun a a' => hcover.ext a' a).eq
  rw [Shape.decode, Shape.decode, hassigned, fields.complete_of_optionalFrom hoptional,
    fields.complete_of_optionalFrom hoptional]

/-- So are they where other members are kept. -/
theorem SameMembers.decode_extensible (h : fields.SameMembers blank members members')
    {others : α → Table String Json} {withOthers : Table String Json → α → α}
    (hcover : fields.CoverWith others withOthers) (hoptional : fields.OptionalFrom 0)
    (name : String) :
    (Shape.extensible name blank fields others withOthers).decode (.object members') =
      (Shape.extensible name blank fields others withOthers).decode (.object members) := by
  have hassigned := h.assigned
  rw [Shape.decode, Shape.decode, h.others, fields.complete_of_optionalFrom hoptional,
    fields.complete_of_optionalFrom hoptional]
  generalize members.foldlM (fun a m => fields.assign m.1 m.2 a) blank = x at hassigned
  generalize members'.foldlM (fun a m => fields.assign m.1 m.2 a) blank = x' at hassigned
  cases hassigned with
  | error e => rfl
  | @ok a a' hget =>
    -- the other members are set last, whatever the two records have there
    have hwith : ∀ t, withOthers t a' = withOthers t a := by
      intro t
      have hext := hcover.ext (withOthers t a) a' fun g hg => by
        rw [hcover.get_withOthers g hg, hget g hg]
      rwa [hcover.others_withOthers] at hext
    show (do
      let others ← orFault (Json.settleMembers _)
      return withOthers (.ofList others) a') = (do
      let others ← orFault (Json.settleMembers _)
      return withOthers (.ofList others) a)
    simp only [hwith]

end Fields

mutual

/-- **A value is decoded as it is without a key that says of its field that it is blank.** -/
theorem Shape.decode_of_omits : {α : Type} → (shape : Shape α) → shape.Lawful → {a : α} →
    shape.Defaults a → {v v' : Json} → v.Ordered → shape.Omits v v' →
    v'.Ordered ∧ shape.decode v' = shape.decode v
  | _, .text, _, _, _, _, _, _, h | _, .flag, _, _, _, _, _, _, h
  | _, .word16, _, _, _, _, _, _, h | _, .word32, _, _, _, _, _, _, h
  | _, .word64, _, _, _, _, _, _, h | _, .any _ _, _, _, _, _, _, _, h
  | _, .texts, _, _, _, _, _, _, h | _, .members, _, _, _, _, _, _, h
  | _, .option _, _, _, _, _, _, _, h | _, .choice _ _, _, _, _, _, _, _, h => h.elim
  | _, .list item, hlawful, _, hdefaults, _, _, hordered, h => by
    obtain ⟨-, a, hitem⟩ := hdefaults
    obtain ⟨before, w, w', after, rfl, rfl, hw⟩ := h
    have hitems := Json.ordered_array_iff.mp hordered
    rw [List.forall_mem_append, List.forall_mem_cons] at hitems
    obtain ⟨hbefore, hwordered, hafter⟩ := hitems
    obtain ⟨hw', hdecode⟩ := item.decode_of_omits hlawful hitem hwordered hw
    refine ⟨Json.ordered_array_iff.mpr ?_, ?_⟩
    · rw [List.forall_mem_append, List.forall_mem_cons]
      exact ⟨hbefore, hw', hafter⟩
    · rw [Shape.decode, Shape.decode, List.mapM_append, List.mapM_append, List.mapM_cons,
        List.mapM_cons, hdecode]
  | _, .record name blank fields, hlawful, _, hdefaults, v, v', hordered, h => by
    obtain ⟨hcover, hfields⟩ := hlawful
    obtain ⟨-, hdefaults⟩ := hdefaults
    have hoptional := fields.optionalFrom_of_defaults hdefaults
    rcases h with hdrops | ⟨key, w, w', homits, hexchanged⟩
    -- the key is one of the record itself
    · refine ⟨hdrops.ordered hordered, ?_⟩
      cases hdrops with
      | key before after hkey hblank =>
        obtain ⟨f, hf, rfl⟩ := Fields.exists_of_mem_keys hkey
        have hdecode := fields.decode_of_saysBlank hfields hdefaults hblank f hf rfl
        exact (hcover.sameMembers_dropped hf hdecode hordered).decode_record hcover hoptional name
    -- the key stands in what is said of one of its fields
    · obtain ⟨hwordered, hv'⟩ := hexchanged.ordered hordered
      obtain ⟨f, hf, rfl, hw', hdecode⟩ := fields.decode_of_omits hfields hdefaults hwordered homits
      exact ⟨hv' hw', hcover.decode_eq_of_exchanged hoptional hf hdecode hordered hexchanged⟩
  | _, .extensible name blank fields others withOthers, hlawful, _, hdefaults, v, v', hordered,
      h => by
    obtain ⟨hcover, hfields⟩ := hlawful
    obtain ⟨-, -, hdefaults⟩ := hdefaults
    have hoptional := fields.optionalFrom_of_defaults hdefaults
    rcases h with hdrops | ⟨key, w, w', homits, hexchanged⟩
    · refine ⟨hdrops.ordered hordered, ?_⟩
      cases hdrops with
      | key before after hkey hblank =>
        obtain ⟨f, hf, rfl⟩ := Fields.exists_of_mem_keys hkey
        have hdecode := fields.decode_of_saysBlank hfields hdefaults hblank f hf rfl
        exact (hcover.sameMembers_dropped hf hdecode hordered).decode_extensible hcover hoptional
          name
    · obtain ⟨hwordered, hv'⟩ := hexchanged.ordered hordered
      obtain ⟨f, hf, rfl, hw', hdecode⟩ := fields.decode_of_omits hfields hdefaults hwordered homits
      refine ⟨hv' hw', ?_⟩
      cases hexchanged with
      | member before after =>
        exact (hcover.sameMembers_replaced hf hdecode hordered).decode_extensible hcover hoptional
          name
      | item before after hplace => cases hplace
  | _, .abbreviated name _ _ form, hlawful, _, hdefaults, .object members, .object members',
      hordered, h => by
    obtain ⟨-, -, hform⟩ := hdefaults
    obtain ⟨hordered', hdecode⟩ := form.decode_of_omits hlawful.2 hform hordered h
    exact ⟨hordered', by rw [Shape.decode, Shape.decode, hdecode]⟩

/-- What is said of a field is decoded as it is without such a key in it. -/
theorem Fields.decode_of_omits : {α : Type} → (fields : Fields α) → {blank : α} →
    fields.Lawful blank → fields.Defaults blank → {k : String} → {w w' : Json} → w.Ordered →
    fields.Omits k w w' →
    ∃ f ∈ fields.list, f.key = k ∧ w'.Ordered ∧ f.decode w' = f.decode w
  | _, .none, _, _, _, _, _, _, _, h => h.elim
  | _, .cons presence key get set shape rest, _, hlawful, hdefaults, k, w, w', hordered, h => by
    rcases h with ⟨rfl, h⟩ | h
    · exact ⟨_, List.mem_cons_self, rfl,
        shape.decode_of_omits hlawful.1 hdefaults.2.1 hordered h⟩
    · obtain ⟨f, hf, hdecode⟩ := rest.decode_of_omits hlawful.2.2 hdefaults.2.2 hordered h
      exact ⟨f, List.mem_cons_of_mem _ hf, hdecode⟩
  | _, .omittable key get set shape rest, _, hlawful, hdefaults, k, w, w', hordered, h => by
    rcases h with ⟨rfl, hw, hw', h⟩ | h
    · obtain ⟨b, hb⟩ := hdefaults.2.1
      obtain ⟨hordered', hdecode⟩ := shape.decode_of_omits hlawful.1 hb hordered h
      refine ⟨_, List.mem_cons_self, rfl, hordered', ?_⟩
      rw [Field.decode_omittable hw', Field.decode_omittable hw, hdecode]
    · obtain ⟨f, hf, hdecode⟩ := rest.decode_of_omits hlawful.2.2.2 hdefaults.2.2 hordered h
      exact ⟨f, List.mem_cons_of_mem _ hf, hdecode⟩

end

/-! ## Beside other records -/

theorem Fields.mem_keys_of_omits : {α : Type} → (fields : Fields α) → {k : String} →
    {w w' : Json} → fields.Omits k w w' → k ∈ fields.keys
  | _, .none, _, _, _, h => h.elim
  | _, .cons _ _ _ _ _ rest, _, _, _, h => by
    rcases h with ⟨rfl, -⟩ | h
    · exact List.mem_cons_self
    · exact List.mem_cons_of_mem _ (rest.mem_keys_of_omits h)
  | _, .omittable _ _ _ _ rest, _, _, _, h => by
    rcases h with ⟨rfl, -⟩ | h
    · exact List.mem_cons_self
    · exact List.mem_cons_of_mem _ (rest.mem_keys_of_omits h)

/-- Another record with none of its keys is not touched by it. -/
theorem Fields.decode_other_of_omits {β : Type} {fields : Fields α} {other : Fields β} {blank : α}
    {name : String} {members : List (String × Json)} {v' : Json}
    (hkeys : ∀ key ∈ fields.keys, key ∉ other.keys)
    (h : (Shape.record name blank fields).Omits (.object members) v')
    (name' : String) (blank' : β) :
    ∃ members', v' = .object members' ∧
      (Shape.record name' blank' other).decode (.object members') =
        (Shape.record name' blank' other).decode (.object members) := by
  rcases h with hdrops | ⟨key, w, w', homits, hexchanged⟩
  · cases hdrops with
    | key before after hkey hblank =>
      exact ⟨_, rfl, (decode_member_of_not_mem (hkeys _ hkey) name').symm⟩
  · cases hexchanged with
    | member before after =>
      have hkey := hkeys key (fields.mem_keys_of_omits homits)
      refine ⟨_, rfl, ?_⟩
      rw [decode_member_of_not_mem hkey, decode_member_of_not_mem hkey]

end ClusterRegistry
