import ClusterRegistry.Proofs.Shape.Decoded

/-!
# Values that differ in one place

Two values of a record differ in one place if one member of an object, or one item of an array,
stands for another one (`Json.Exchanged`). What becomes of it depends on the field with the key of
that place alone: the other fields are decoded alike, mismatches included, because none of them
looks at what another one has taken (`Fields.Lenses.inStep_exchanged`). A member that says what the
field is without it may as well be left out (`Fields.Lenses.inStep_dropped`), and a member that
belongs to no field makes no difference at all.
-/

namespace ClusterRegistry

variable {α : Type}

/-- The second value is the first one with `w'` in the place of `w`: under a key of an object, or at
the place that an array has for the field with that key of a record with the given keys. -/
inductive Json.Exchanged (keys : List String) (key : String) (w w' : Json) : Json → Json → Prop
  | member (before after : List (String × Json)) :
    Exchanged keys key w w' (.object (before ++ (key, w) :: after))
      (.object (before ++ (key, w') :: after))
  | item (before after : List Json) (h : keys[before.length]? = some key) :
    Exchanged keys key w w' (.array (before ++ w :: after)) (.array (before ++ w' :: after))

/-- A value with another one in the place of what it says under a key of a record with the given
keys. -/
def Json.withSaid (v : Json) (keys : List String) (key : String) (w : Json) : Json :=
  match v with
  | .object members => .object (members.map fun m => if m.1 = key then (m.1, w) else m)
  | .array items => .array (items.set (keys.idxOf key) w)
  | v => v

namespace Json

variable {keys : List String} {key : String} {v w : Json}

/-- No other member has the key of one of distinct keys. -/
theorem not_mem_of_nodup {before after : List (String × Json)}
    (h : ((before ++ (key, w) :: after).map (·.1)).Nodup) :
    key ∉ before.map (·.1) ∧ key ∉ after.map (·.1) := by
  rw [List.map_append, List.map_cons, List.nodup_middle, List.nodup_cons, List.mem_append,
    not_or] at h
  exact h.1

/-- An item that stands at the place of a key is the member with that key among the members that the
items of the array stand for. -/
theorem exists_zip_eq {before : List Json} (h : keys[before.length]? = some key)
    (after : List Json) :
    ∃ first last : List (String × Json),
      ∀ w, keys.zip (before ++ w :: after) = first ++ (key, w) :: last := by
  obtain ⟨hlt, rfl⟩ := List.getElem?_eq_some_iff.mp h
  have hkeys : keys = keys.take before.length ++ keys[before.length] ::
      keys.drop (before.length + 1) := by
    rw [← List.drop_eq_getElem_cons hlt, List.take_append_drop]
  refine ⟨(keys.take before.length).zip before, (keys.drop (before.length + 1)).zip after,
    fun w => ?_⟩
  have hlength : (keys.take before.length).length = before.length :=
    List.length_take_of_le hlt.le
  conv_lhs => rw [hkeys]
  rw [List.zip_append hlength, List.zip_cons_cons]

/-- Members with another key are left as they are. -/
theorem map_withSaid_eq_self {members : List (String × Json)} (h : key ∉ members.map (·.1)) :
    (members.map fun m => if m.1 = key then (m.1, w) else m) = members := by
  have hself : ∀ m ∈ members, (if m.1 = key then (m.1, w) else m) = m :=
    fun m hm => if_neg fun hkey : m.1 = key => h (hkey ▸ List.mem_map_of_mem hm)
  rw [List.map_congr_left hself, List.map_id']

/-- What an ordered value says is put in the place of what it has said. -/
theorem exchanged_withSaid (hordered : v.Ordered) (hkeys : keys.Nodup)
    (h : v.said? keys key = some w) (w' : Json) :
    Exchanged keys key w w' v (v.withSaid keys key w') := by
  cases v with
  | object members =>
    obtain ⟨before, after, rfl⟩ := List.append_of_mem (mem_of_member? h)
    have hnodup := Table.nodup_keys_of_ascending (ordered_object_iff.mp hordered).1
    obtain ⟨hbefore, hafter⟩ := not_mem_of_nodup hnodup
    rw [withSaid, List.map_append, List.map_cons, if_pos rfl, map_withSaid_eq_self hbefore,
      map_withSaid_eq_self hafter]
    exact .member before after
  | array items =>
    obtain ⟨i, hi, hzip⟩ := List.getElem_of_mem (mem_of_member? h)
    obtain ⟨hik, hii⟩ := Nat.lt_min.mp (List.length_zip ▸ hi)
    rw [List.getElem_zip, Prod.mk.injEq] at hzip
    obtain ⟨rfl, rfl⟩ := hzip
    have hlength : (items.take i).length = i := List.length_take_of_le hii.le
    rw [withSaid, hkeys.idxOf_getElem i hik, List.set_eq_take_append_cons_drop, if_pos hii]
    conv_lhs => rw [← List.take_append_drop i items, List.drop_eq_getElem_cons hii]
    exact .item _ _ (by rw [hlength, List.getElem?_eq_getElem hik])
  | _ => cases h

/-- What an ordered value says is ordered, and the value with something ordered in its place is
ordered, too. -/
theorem Exchanged.ordered {v' w' : Json} (h : Exchanged keys key w w' v v') (hordered : v.Ordered) :
    w.Ordered ∧ (w'.Ordered → v'.Ordered) := by
  cases h with
  | member before after =>
    obtain ⟨hkeys, hvalues⟩ := ordered_object_iff.mp hordered
    rw [List.forall_mem_append, List.forall_mem_cons] at hvalues
    obtain ⟨hbefore, hw, hafter⟩ := hvalues
    refine ⟨hw, fun hw' => ordered_object_iff.mpr ⟨?_, ?_⟩⟩
    · rw [← List.pairwise_map (f := Prod.fst) (R := fun k l => compare k l = .lt)] at hkeys ⊢
      rwa [List.map_append, List.map_cons] at hkeys ⊢
    · rw [List.forall_mem_append, List.forall_mem_cons]
      exact ⟨hbefore, hw', hafter⟩
  | item before after hplace =>
    have hitems := ordered_array_iff.mp hordered
    rw [List.forall_mem_append, List.forall_mem_cons] at hitems
    obtain ⟨hbefore, hw, hafter⟩ := hitems
    refine ⟨hw, fun hw' => ordered_array_iff.mpr ?_⟩
    rw [List.forall_mem_append, List.forall_mem_cons]
    exact ⟨hbefore, hw', hafter⟩

end Json

namespace Fields

variable {fields : Fields α} {f : Field α} {φ : f.Value → f.Value} {a a' blank : α} {w w' : Json}
  {before after : List (String × Json)}

/-- A record differs from another one in one field at most, where it has taken a value in another
form. -/
structure Changes (fields : Fields α) (f : Field α) (φ : f.Value → f.Value) (a a' : α) : Prop where
  others : ∀ g ∈ fields.list, g.key ≠ f.key → g.get a' = g.get a
  changed : f.get a' = φ (f.get a)

/-- Where nothing is put into another form all fields are the same. -/
theorem Changes.get_eq (h : fields.Changes f id a a') (hfields : fields.Lenses)
    (hf : f ∈ fields.list) : ∀ g ∈ fields.list, g.get a' = g.get a := by
  intro g hg
  by_cases hkey : g.key = f.key
  · obtain rfl := hfields.eq_of_key hg hf hkey
    exact h.changed
  · exact h.others g hg hkey

/-! ## Members -/

namespace Lenses

/-- A member of another field is assigned in step. -/
theorem inStep_assign (h : fields.Lenses) (hf : f ∈ fields.list) {k : String} (hk : k ≠ f.key)
    (v : Json) (hchanges : fields.Changes f φ a a') :
    InStep (fields.Changes f φ) (fields.assign k v a) (fields.assign k v a') := by
  rw [assign_eq, assign_eq]
  cases hfind : fields.list.find? (·.key == k) with
  | none => exact .ok hchanges
  | some g =>
    have hg : g ∈ fields.list := List.mem_of_find?_eq_some hfind
    obtain rfl : g.key = k := by simpa using List.find?_some hfind
    dsimp only
    cases g.decode v with
    | error e => exact .error e
    | ok b =>
      refine .ok ⟨fun g' hg' hkey => ?_, ?_⟩
      · by_cases hsame : g'.key = g.key
        · obtain rfl := h.eq_of_key hg' hg hsame
          rw [h.get_set g' hg, h.get_set g' hg]
        · rw [h.get_set_of_ne hg' hg hsame, h.get_set_of_ne hg' hg hsame]
          exact hchanges.others g' hg' hkey
      · rw [h.get_set_of_ne hf hg (Ne.symm hk), h.get_set_of_ne hf hg (Ne.symm hk)]
        exact hchanges.changed

/-- Members of other fields are assigned in step. -/
theorem inStep_assigned (h : fields.Lenses) (hf : f ∈ fields.list)
    (hafter : f.key ∉ after.map (·.1)) (hchanges : fields.Changes f φ a a') :
    InStep (fields.Changes f φ) (after.foldlM (fun a m => fields.assign m.1 m.2 a) a)
      (after.foldlM (fun a m => fields.assign m.1 m.2 a) a') := by
  refine InStep.foldlM (fun m hm a a' hchanges => ?_) hchanges
  have hne : m.1 ≠ f.key := fun hkey => hafter (hkey ▸ List.mem_map_of_mem hm)
  exact h.inStep_assign hf hne m.2 hchanges

/-- If a member stands for another one, what its field takes is all that changes. -/
theorem inStep_replaced (h : fields.Lenses) (hf : f ∈ fields.list)
    (hdecode : f.decode w' = (f.decode w).map φ) (hafter : f.key ∉ after.map (·.1)) (a : α) :
    InStep (fields.Changes f φ)
      ((before ++ (f.key, w) :: after).foldlM (fun a m => fields.assign m.1 m.2 a) a)
      ((before ++ (f.key, w') :: after).foldlM (fun a m => fields.assign m.1 m.2 a) a) := by
  rw [List.foldlM_append, List.foldlM_append]
  cases before.foldlM (fun a m => fields.assign m.1 m.2 a) a with
  | error e => exact .error e
  | ok x =>
    show InStep _ (List.foldlM _ x _) (List.foldlM _ x _)
    rw [List.foldlM_cons, List.foldlM_cons, h.assign_key hf, h.assign_key hf, hdecode]
    cases f.decode w with
    | error e => exact .error e
    | ok b =>
      refine h.inStep_assigned hf hafter ⟨fun g hg hkey => ?_, ?_⟩
      · rw [h.get_set_of_ne hg hf hkey, h.get_set_of_ne hg hf hkey]
      · rw [h.get_set f hf, h.get_set f hf]

/-- A member that says what its field would be without it may be left out. -/
theorem inStep_dropped (h : fields.Lenses) (hf : f ∈ fields.list)
    (hblank : f.decode w = .ok (f.get blank)) (hbefore : f.key ∉ before.map (·.1))
    (hafter : f.key ∉ after.map (·.1)) :
    InStep (fields.Changes f id)
      ((before ++ (f.key, w) :: after).foldlM (fun a m => fields.assign m.1 m.2 a) blank)
      ((before ++ after).foldlM (fun a m => fields.assign m.1 m.2 a) blank) := by
  rw [List.foldlM_append, List.foldlM_append]
  cases hx : before.foldlM (fun a m => fields.assign m.1 m.2 a) blank with
  | error e => exact .error e
  | ok x =>
    -- nothing has been said of the field so far
    have hget : f.get blank = f.get x := by
      have htake := h.take_of_assigned hf hx
      rw [Json.member?_eq_none_iff.mpr hbefore] at htake
      exact Except.ok.inj htake
    show InStep _ (List.foldlM _ x _) (List.foldlM _ x _)
    rw [List.foldlM_cons, h.assign_eq_ok hf hblank]
    refine h.inStep_assigned hf hafter ⟨fun g hg hkey => ?_, ?_⟩
    · rw [h.get_set_of_ne hg hf hkey]
    · rw [h.get_set f hf]
      exact hget.symm

end Lenses

/-! ## Records -/

namespace Lenses

variable {name : String} {v v' : Json}

/-- If two values of a record differ in one place, so do the records at most: in the field to which
the place belongs. -/
theorem inStep_exchanged (h : fields.Lenses) (hoptional : fields.OptionalFrom 0)
    (hf : f ∈ fields.list) (hdecode : f.decode w' = (f.decode w).map φ) (hordered : v.Ordered)
    (hexchanged : Json.Exchanged fields.keys f.key w w' v v') :
    InStep (fields.Changes f φ) ((Shape.record name blank fields).decode v)
      ((Shape.record name blank fields).decode v') := by
  cases hexchanged with
  | member before after =>
    have hnodup := Table.nodup_keys_of_ascending (Json.ordered_object_iff.mp hordered).1
    have hafter : f.key ∉ after.map (·.1) := (Json.not_mem_of_nodup hnodup).2
    have hkeys : (before ++ (f.key, w') :: after).map (·.1) =
        (before ++ (f.key, w) :: after).map (·.1) := by
      simp only [List.map_append, List.map_cons]
    rw [Shape.decode, Shape.decode, hkeys]
    refine (h.inStep_replaced hf hdecode hafter blank).bind fun a a' hchanges => ?_
    cases fields.complete _ with
    | error e => exact .error e
    | ok _ => exact .ok hchanges
  | item before after hplace =>
    obtain ⟨first, last, hzip⟩ := Json.exists_zip_eq hplace after
    have hnodup := Json.nodup_keys_zip h.nodup (before ++ w :: after)
    rw [hzip] at hnodup
    have hlast : f.key ∉ last.map (·.1) := (Json.not_mem_of_nodup hnodup).2
    have hlength : (before ++ w' :: after).length = (before ++ w :: after).length := by
      rw [List.length_append, List.length_append, List.length_cons, List.length_cons]
    rw [Shape.decode, Shape.decode, hlength, fields.fill_eq_foldlM h.nodup hoptional,
      fields.fill_eq_foldlM h.nodup hoptional, hzip, hzip]
    refine (h.inStep_replaced hf hdecode hlast blank).bind fun a a' hchanges => ?_
    split
    · exact .error _
    · exact .ok hchanges

end Lenses

/-- Records that differ in one field at most are got from each other by setting it. -/
theorem Cover.eq_set_of_changes (h : fields.Cover) (hf : f ∈ fields.list)
    (hchanges : fields.Changes f φ a a') : a' = f.set (φ (f.get a)) a := by
  refine h.ext _ _ fun g hg => ?_
  by_cases hkey : g.key = f.key
  · obtain rfl := h.eq_of_key hg hf hkey
    rw [h.get_set g hg]
    exact hchanges.changed
  · rw [h.get_set_of_ne hg hf hkey]
    exact hchanges.others g hg hkey

/-- **If two values of a record differ in one place, they are decoded alike, but for the field to
which the place belongs.** -/
theorem Cover.decode_exchanged (h : fields.Cover) (hoptional : fields.OptionalFrom 0)
    (hf : f ∈ fields.list) (hdecode : f.decode w' = (f.decode w).map φ) {v v' : Json}
    (hordered : v.Ordered) (hexchanged : Json.Exchanged fields.keys f.key w w' v v')
    {name : String} :
    (Shape.record name blank fields).decode v' =
      ((Shape.record name blank fields).decode v).map fun a => f.set (φ (f.get a)) a := by
  have hstep : InStep (fields.Changes f φ) ((Shape.record name blank fields).decode v) _ :=
    h.inStep_exchanged hoptional hf hdecode hordered hexchanged
  exact (hstep.mono fun a a' hchanges => h.eq_set_of_changes hf hchanges).eq_map

/-- If what stands in the one place is decoded alike, so are the values. -/
theorem Cover.decode_eq_of_exchanged (h : fields.Cover) (hoptional : fields.OptionalFrom 0)
    (hf : f ∈ fields.list) (hdecode : f.decode w' = f.decode w) {v v' : Json}
    (hordered : v.Ordered) (hexchanged : Json.Exchanged fields.keys f.key w w' v v')
    {name : String} :
    (Shape.record name blank fields).decode v' = (Shape.record name blank fields).decode v := by
  have hsame : f.decode w' = (f.decode w).map id := by rw [hdecode, Except.map_id, id]
  have hstep : InStep (fields.Changes f id) ((Shape.record name blank fields).decode v) _ :=
    h.inStep_exchanged hoptional hf hsame hordered hexchanged
  exact (hstep.mono fun a a' hchanges => h.ext a' a (hchanges.get_eq h.toLenses hf)).eq

/-- A member that belongs to no field makes no difference. -/
theorem decode_member_of_not_mem {key : String} (hkey : key ∉ fields.keys) (name : String) :
    (Shape.record name blank fields).decode (.object (before ++ (key, w) :: after)) =
      (Shape.record name blank fields).decode (.object (before ++ after)) := by
  have hassigned : ∀ a, (before ++ (key, w) :: after).foldlM
      (fun a m => fields.assign m.1 m.2 a) a =
        (before ++ after).foldlM (fun a m => fields.assign m.1 m.2 a) a := by
    intro a
    rw [List.foldlM_append, List.foldlM_append]
    refine congrArg _ (funext fun x => ?_)
    rw [List.foldlM_cons, assign_of_not_mem hkey]
    rfl
  have hcomplete : fields.complete ((before ++ (key, w) :: after).map (·.1)) =
      fields.complete ((before ++ after).map (·.1)) := by
    refine fields.complete_congr fun k hk => ?_
    have hne : k ≠ key := fun hsame => hkey (hsame ▸ hk)
    simp [hne]
  rw [Shape.decode, Shape.decode, hassigned, hcomplete]

end Fields

end ClusterRegistry
