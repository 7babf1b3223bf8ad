import ClusterRegistry.Proofs.Resource.Shapes
import ClusterRegistry.Proofs.Shape.Streamed

/-!
# Statuses that are written by themselves

A status update is read from left to right. What it observes under keys of its own is taken for
what it stands for, so it has the form in which values come from texts
(`StatusUpdate.parsed_of_ofPayload`), but it need not stand for itself. If it does, an update with
the status says this status (`StatusUpdate.ofPayload_encode`).
-/

namespace ClusterRegistry

open Json (Document Fault)

theorem Json.Document.ofMembers_append (xs ys : List (String × Json)) :
    ofMembers (xs ++ ys) = ofMembers xs ++ ofMembers ys := by
  simp only [ofMembers_eq_map, List.map_append]

/-! ## Records that keep the keys they do not know -/

section

variable {α : Type} {fields : Fields α} {depth : Nat} {a : α} {given : List String}
  {others : List (String × Json)} {d : Document}

/-- Members that belong to no field are kept in their order. -/
theorem Fields.keepMembers_others {members : List (String × Json)}
    (hkeys : ∀ m ∈ members, m.1 ∉ fields.keys)
    (hread : ∀ m ∈ members, m.2.Within depth) :
    (Document.ofMembers members).foldlM (fields.keepMember depth) (a, given, others) =
      .ok (a, given, members.reverse ++ others) := by
  induction members generalizing others with
  | nil => rfl
  | cons m rest ih =>
    obtain ⟨hkey, hkeys⟩ := List.forall_mem_cons.mp hkeys
    obtain ⟨hm, hread⟩ := List.forall_mem_cons.mp hread
    rw [Document.ofMembers, List.foldlM_cons, keepMember_other hkey hm, List.reverse_cons,
      List.append_assoc]
    exact ih hkeys hread

/-- Only members that belong to no field are kept. -/
theorem Fields.keys_of_keepMembers {members : List (Except Fault String × Document)}
    {s : α × List String × List (String × Json)}
    (h : members.foldlM (fields.keepMember depth) (a, given, []) = .ok s) :
    ∀ m ∈ s.2.2, m.1 ∉ fields.keys := by
  refine foldlM_keeps (P := fun s => ∀ m ∈ s.2.2, m.1 ∉ fields.keys) ?_ h nofun
  intro m _ s s' hstep hs
  obtain ⟨k, -, ⟨hk, v, -, rfl⟩ | ⟨-, -, b, -, rfl⟩⟩ := keepMember_cases hstep
  · exact List.forall_mem_cons.mpr ⟨hk, hs⟩
  · exact hs

/-- What is kept beside the fields has the form in which values come from texts. -/
theorem Shape.parsed_of_read_extensible {name : String} {blank : α}
    {others : α → Table String Json} {withOthers : Table String Json → α → α}
    (hothers : ∀ t a, others (withOthers t a) = t)
    (h : (Shape.extensible name blank fields others withOthers).read depth d = .ok a) :
    ∀ e ∈ (others a).entries, e.1 ∉ fields.keys ∧ e.2.Parsed := by
  cases d with
  | object members stop =>
    match depth with
    | 0 | 1 => cases h
    | inner + 2 =>
      rw [Shape.read_extensible] at h
      obtain ⟨s, hkept, h⟩ := exists_of_bind_eq_ok h
      obtain ⟨_, -, h⟩ := exists_of_bind_eq_ok h
      obtain ⟨_, -, h⟩ := exists_of_bind_eq_ok h
      obtain ⟨ms, hms, h⟩ := exists_of_bind_eq_ok h
      cases h
      have hsettle := eq_ok_of_mapError_eq_ok hms
      intro e he
      rw [hothers] at he
      have hmem := Table.mem_of_mem_ofList he
      refine ⟨?_, Json.parsed_of_settleMembers hsettle e hmem⟩
      have hkey : e.1 ∈ s.2.2.reverse.map (·.1) := by
        rw [← Json.keys_of_settleMembers hsettle]
        exact List.mem_map_of_mem hmem
      obtain ⟨m, hm, hme⟩ := List.mem_map.mp hkey
      rw [← hme]
      exact Fields.keys_of_keepMembers hkept m (List.mem_reverse.mp hm)
  | _ => cases h

end

/-! ## Statuses -/

/-- What a status observes has keys of its own and the form in which values come from texts. -/
def Status.Parsed (s : Status) : Prop :=
  ∀ e ∈ s.extra.entries, e.1 ∉ (Status.fields .required).keys ∧ e.2.Parsed

theorem Status.parsed_of_read {depth : Nat} {d : Document} {s : Status}
    (h : Status.patchShape.read depth d = .ok s) : s.Parsed :=
  Shape.parsed_of_read_extensible (fun _ _ => rfl) h

/-- A condition is read from what it is written as. -/
theorem Condition.read_encode (c : Condition) (depth : Nat) :
    Condition.shape.read (depth + 2) (.ofJson (Condition.shape.encode c)) = .ok c := rfl

/-- Conditions are read from what they are written as, where a text can be read that deep. -/
theorem Condition.read_encode_list {cs : List Condition} {depth : Nat}
    (h : ((Shape.list Condition.shape).encode cs).Within depth) :
    (Shape.list Condition.shape).read depth (.ofJson ((Shape.list Condition.shape).encode cs)) =
      .ok cs := by
  obtain ⟨inner, rfl, hitems⟩ := Json.array_within_iff.mp h
  have hread : ∀ c ∈ cs, Condition.shape.read (inner + 1)
      (.ofJson (Condition.shape.encode c)) = .ok c := by
    intro c hc
    obtain ⟨below, hbelow, -⟩ := Json.object_within_iff.mp (hitems _ (List.mem_map_of_mem hc))
    rw [hbelow]
    exact c.read_encode below
  show (do let cs ← (Document.ofItems (cs.map Condition.shape.encode)).mapM
                (Condition.shape.read (inner + 1))
           orFault (Document.stopReading none)
           return cs : Except Mismatch (List Condition)) = _
  rw [Document.ofItems_eq_map, List.map_map,
    mapM_map_eq_ok_iff (g := Document.ofJson ∘ Condition.shape.encode) |>.mpr hread]
  rfl

namespace Status

/-- The fields of a status are read from what they are written as. -/
theorem keepMembers_encode (s : Status) {depth : Nat}
    (h : (Shape.list Condition.shape).read depth
      (.ofJson ((Shape.list Condition.shape).encode s.conditions)) = .ok s.conditions) :
    (Document.ofMembers ((fields .required).encode s)).foldlM
      ((fields .required).keepMember depth) ({}, [], []) =
      .ok ({ s with extra := .empty }, ["conditions", "reason", "message", "phase"], []) := by
  -- the first three members are texts, and what is left is the list of conditions
  have hlast : (Document.ofMembers ((fields .required).encode s)).foldlM
      ((fields .required).keepMember depth) ({}, [], []) =
      (fields .required).keepMember depth
        ({ s with conditions := [], extra := .empty }, ["reason", "message", "phase"], [])
        (.ok "conditions", .ofJson ((Shape.list Condition.shape).encode s.conditions)) >>= pure :=
    rfl
  have hread : (fields .required).readMember "conditions" depth
      (.ofJson ((Shape.list Condition.shape).encode s.conditions))
      { s with conditions := [], extra := .empty } =
      ((Shape.list Condition.shape).read depth
        (.ofJson ((Shape.list Condition.shape).encode s.conditions))).map fun b =>
          { s with conditions := b, extra := .empty } := rfl
  rw [hlast, Fields.keepMember_field (by decide) (by decide), hread, h]
  rfl

/-- A status that observes only what stands for itself is read from what it is written as, where a
text can be read that deep. -/
theorem read_encode {s : Status} {depth : Nat}
    (hextra : ∀ e ∈ s.extra.entries, e.1 ∉ (fields .required).keys ∧ e.2.Literal)
    (h : (shape.encode s).Within depth) :
    patchShape.read depth (.ofJson (shape.encode s)) = .ok s := by
  obtain ⟨inner, rfl, hmembers⟩ := Json.object_within_iff.mp h
  have hconditions := Condition.read_encode_list <|
    hmembers ("conditions", (Shape.list Condition.shape).encode s.conditions)
      (List.mem_append_left _ (.tail _ (.tail _ (.tail _ (.head _)))))
  have hall : (Document.ofMembers ((fields .required).encode s ++ s.extra.entries)).foldlM
      ((fields .required).keepMember (inner + 1)) ({}, [], []) =
      .ok ({ s with extra := .empty }, ["conditions", "reason", "message", "phase"],
        s.extra.entries.reverse ++ []) := by
    rw [Document.ofMembers_append, List.foldlM_append,
      keepMembers_encode s hconditions]
    exact Fields.keepMembers_others (fun e he => (hextra e he).1)
      fun e he => hmembers e (List.mem_append_right _ he)
  have hread : patchShape.read (inner + 2) (.ofJson (shape.encode s)) = (do
      let t ← (Document.ofMembers ((fields .required).encode s ++ s.extra.entries)).foldlM
        ((fields .required).keepMember (inner + 1)) ({}, [], [])
      orFault (Document.stopReading none)
      (fields .required).complete t.2.1
      return { t.1 with
        extra := .ofList (← orFault (Json.settleMembers t.2.2.reverse)) }) := rfl
  rw [hread, hall, List.append_nil]
  show (do
    let e ← orFault (Json.settleMembers s.extra.entries.reverse.reverse)
    return { s with extra := .ofList e } : Except Mismatch Status) = _
  rw [List.reverse_reverse, Json.settleMembers_of_literal fun e he => (hextra e he).2]
  exact congrArg (fun t => Except.ok { s with extra := t }) s.extra.ofList_entries

end Status

namespace StatusUpdate

/-- The one field of an update. -/
abbrev fields : Fields StatusUpdate :=
  .required "status" (·.status) (fun v u => { u with status := v }) Status.patchShape .none

/-- The status in an update is parsed. -/
theorem parsed_of_ofPayload {p : Json.Payload} {update : StatusUpdate}
    (h : StatusUpdate.shape.ofPayload p = .ok update) : update.status.Parsed := by
  obtain ⟨u, hread, h⟩ := exists_of_bind_eq_ok h
  obtain ⟨_, -, h⟩ := exists_of_bind_eq_ok h
  cases h
  have hblank : ({} : Status).Parsed := nofun
  cases hroot : p.root with
  | object members stop =>
    rw [hroot] at hread
    obtain ⟨depth, -, hread⟩ := exists_of_bind_eq_ok hread
    obtain ⟨s, hmembers, hread⟩ := exists_of_bind_eq_ok hread
    obtain ⟨_, -, hread⟩ := exists_of_bind_eq_ok hread
    obtain ⟨_, -, hread⟩ := exists_of_bind_eq_ok hread
    cases hread
    refine foldlM_keeps (P := fun s => s.1.status.Parsed) ?_ hmembers hblank
    intro m _ s s' hstep hs
    obtain ⟨k, -, hstep⟩ := exists_of_bind_eq_ok hstep
    split at hstep
    · obtain ⟨_, -, hstep⟩ := exists_of_bind_eq_ok hstep
      cases hstep
      exact hs
    · split at hstep
      · cases hstep
      · obtain ⟨v, hv, hstep⟩ := exists_of_bind_eq_ok hstep
        cases hstep
        rw [Fields.readMember] at hv
        split at hv
        · obtain ⟨t, ht, rfl⟩ := exists_of_map_eq_ok hv
          exact Status.parsed_of_read ht
        · cases hv
          exact hs
  | array items stop =>
    rw [hroot] at hread
    obtain ⟨depth, -, hread⟩ := exists_of_bind_eq_ok hread
    obtain ⟨s, hitems, hread⟩ := exists_of_bind_eq_ok hread
    obtain ⟨_, -, hread⟩ := exists_of_bind_eq_ok hread
    cases hread
    cases items with
    | nil =>
      obtain ⟨_, -, hitems⟩ := exists_of_bind_eq_ok hitems
      cases hitems
    | cons d rest =>
      obtain ⟨t, ht, hitems⟩ := exists_of_bind_eq_ok hitems
      cases hitems
      exact Status.parsed_of_read ht
  | _ =>
    rw [hroot] at hread
    cases hread

/-- An update that consists of a status says this status and no other. -/
theorem ofPayload_eq_ok_iff {d : Document} {update : StatusUpdate} :
    StatusUpdate.shape.ofPayload ⟨.object [(.ok "status", d)] none, false⟩ = .ok update ↔
      Status.patchShape.read 127 d = .ok update.status := by
  have hpayload : StatusUpdate.shape.ofPayload ⟨.object [(.ok "status", d)] none, false⟩ = (do
      let u ← (do
        let t ← (do
          let u ← (Status.patchShape.read 127 d).map StatusUpdate.mk
          return (u, ["status"])) >>= pure
        orFault (Document.stopReading none)
        fields.complete t.2
        return t.1)
      orFault (Except.ok ())
      return u) := rfl
  rw [hpayload]
  cases Status.patchShape.read 127 d with
  | error e => exact ⟨nofun, nofun⟩
  | ok s =>
    show Except.ok (StatusUpdate.mk s) = .ok update ↔ _
    rw [Except.ok.injEq, Except.ok.injEq]
    exact ⟨fun h => congrArg status h, fun h => congrArg StatusUpdate.mk h⟩

/-- An update with a status that observes only what stands for itself says this status. -/
theorem ofPayload_encode {s : Status}
    (hextra : ∀ e ∈ s.extra.entries, e.1 ∉ (Status.fields .required).keys ∧ e.2.Literal)
    (h : (Status.shape.encode s).Within 127) :
    StatusUpdate.shape.ofPayload (.ofJson (.object [("status", Status.shape.encode s)])) =
      .ok ⟨s⟩ :=
  ofPayload_eq_ok_iff.mpr (Status.read_encode hextra h)

end StatusUpdate

end ClusterRegistry
