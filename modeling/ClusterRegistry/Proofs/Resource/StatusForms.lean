import ClusterRegistry.Proofs.Resource.Observed
import ClusterRegistry.Proofs.Shape.Decoded

/-!
# Two decoders of statuses

A status is decoded with its resource, as a value, and it is read by itself in a status update,
whose phase must be there. What an object says of a status is written down once (`Status.SaidBy`),
and both decoders find this status and no other (`statusForms_agree`). What a status observes beside
its fields is found as it was given if and only if no text is embedded in it.
-/

namespace ClusterRegistry

open Json (Document Payload)

/-! ## What a value says of a status -/

/-- What is said of a text is the text, and nothing need be said of the empty one. -/
def SaysText : Option Json → String → Prop
  | some v, s => v = .text s
  | none, s => s = ""

/-- The texts that a condition consists of, each with its key. -/
def Condition.texts (c : Condition) : List (String × String) :=
  [("condition_type", c.conditionType), ("status", c.status), ("reason", c.reason),
    ("message", c.message), ("last_transition_time", c.lastTransitionTime),
    ("last_probe_time", c.lastProbeTime), ("last_update_time", c.lastUpdateTime)]

/-- A condition is said by an object, or by an array with no more items than it has texts. -/
def Condition.Form : Json → Prop
  | .object _ => True
  | .array items => items.length ≤ 7
  | _ => False

/-- A value says all texts of a condition, and has the form of one. -/
structure Condition.SaidBy (c : Condition) (v : Json) : Prop where
  form : Form v
  texts : ∀ e ∈ c.texts, SaysText (v.said? Condition.shape.keys e.1) e.2

/-- What is said of conditions is an array of what is said of each, and nothing need be said of
none. -/
def SaysConditions : Option Json → List Condition → Prop
  | some v, cs => ∃ items, v = .array items ∧ List.Forall₂ (fun v c => c.SaidBy v) items cs
  | none, cs => cs = []

/-- The keys of the fields of a status, under which it observes nothing else. -/
abbrev Status.keys : List String := (fields .defaulted).keys

/-- The members of an object say a status: its fields and, under all other keys, what else it
observes, with every embedded text taken for what it says. -/
structure Status.SaidBy (s : Status) (members : List (String × Json)) : Prop where
  phase : SaysText ((Json.object members).member? "phase") s.phase
  message : SaysText ((Json.object members).member? "message") s.message
  reason : SaysText ((Json.object members).member? "reason") s.reason
  conditions : SaysConditions ((Json.object members).member? "conditions") s.conditions
  extra : ∃ ms, Json.settleMembers (members.filter fun m => m.1 ∉ keys) = .ok ms ∧
    s.extra = .ofList ms

variable {members : List (String × Json)} {v : Json}

/-- A text field takes exactly what is said of it. -/
theorem take_text_iff {α : Type} {presence : Presence} {key : String} {get : α → String}
    {set : String → α → α} {blank : α} (hblank : get blank = "") (said : Option Json) (s : String) :
    (Field.written presence key get set .text).take blank said = .ok s ↔ SaysText said s := by
  cases said with
  | none => exact ⟨fun h => (Except.ok.inj h).symm.trans hblank, fun h => by rw [h, ← hblank]; rfl⟩
  | some v =>
    show decodeText v = .ok s ↔ v = .text s
    cases v with
    | text t => exact ⟨fun h => congrArg Json.text (Except.ok.inj h), fun h => by cases h; rfl⟩
    | _ => exact ⟨nofun, nofun⟩

/-- A condition is decoded from exactly those values that say it. -/
theorem Condition.decode_iff (hordered : v.Ordered) (c : Condition) :
    Condition.shape.decode v = .ok c ↔ c.SaidBy v := by
  have hcover : Condition.shape.fields.Cover := Condition.lawful_shape.1.1
  have hform : Condition.shape.fields.Admits v ↔ Form v := by
    cases v with
    | object members => exact iff_true_intro <| Fields.complete_eq_ok_iff _ |>.mpr (by
        simp [Condition.shape, Shape.fields, Fields.list, Field.written])
    | array items =>
      have hoptional : Condition.shape.fields.OptionalFrom 0 := by
        simp [Condition.shape, Shape.fields, Fields.OptionalFrom]
      exact and_iff_left (Fields.optionalFrom_of_zero _ hoptional _)
    | _ => exact Iff.rfl
  have htexts : (∀ f ∈ Condition.shape.fields.list,
      f.take {} (v.said? Condition.shape.keys f.key) = .ok (f.get c)) ↔
      ∀ e ∈ c.texts, SaysText (v.said? Condition.shape.keys e.1) e.2 := by
    simp only [Condition.shape, Shape.fields, Fields.list, Condition.texts, List.forall_mem_cons]
    refine and_congr (take_text_iff rfl _ _) <| and_congr (take_text_iff rfl _ _) <|
      and_congr (take_text_iff rfl _ _) <| and_congr (take_text_iff rfl _ _) <|
      and_congr (take_text_iff rfl _ _) <| and_congr (take_text_iff rfl _ _) <|
      and_congr (take_text_iff rfl _ _) ?_
    simp only [List.not_mem_nil, false_implies, implies_true]
  calc Condition.shape.decode v = .ok c
    _ ↔ Condition.shape.fields.Admits v ∧ ∀ f ∈ Condition.shape.fields.list,
          f.take {} (v.said? Condition.shape.keys f.key) = .ok (f.get c) :=
        hcover.decode_iff hordered
    _ ↔ Form v ∧ ∀ e ∈ c.texts, SaysText (v.said? Condition.shape.keys e.1) e.2 :=
        and_congr hform htexts
    _ ↔ c.SaidBy v := ⟨fun h => ⟨h.1, h.2⟩, fun h => ⟨h.form, h.texts⟩⟩

/-- Conditions are decoded from exactly those values that say them. -/
theorem take_conditions_iff {presence : Presence} {said : Option Json}
    (hordered : ∀ v, said = some v → v.Ordered) (cs : List Condition) :
    (Field.written presence "conditions" (·.conditions) (fun v s => { s with conditions := v })
      (.list Condition.shape)).take ({} : Status) said = .ok cs ↔ SaysConditions said cs := by
  cases said with
  | none => exact ⟨fun h => (Except.ok.inj h).symm, fun h => congrArg Except.ok h.symm⟩
  | some v =>
    show (Shape.list Condition.shape).decode v = .ok cs ↔
      ∃ items, v = .array items ∧ List.Forall₂ (fun v c => c.SaidBy v) items cs
    cases v with
    | array items =>
      have hitems := Json.ordered_array_iff.mp (hordered _ rfl)
      rw [Shape.decode, mapM_eq_ok_iff fun v hv c => c.decode_iff (hitems v hv)]
      exact ⟨fun h => ⟨items, rfl, h⟩, fun ⟨_, he, h⟩ => by cases he; exact h⟩
    | _ => exact ⟨nofun, nofun⟩

namespace Status

/-- **A status is decoded from exactly those objects that say it**, where its phase is there if it
must be. -/
theorem decode_objectShape_iff (hordered : (Json.object members).Ordered) (name : String)
    (presence : Presence) (s : Status) :
    (objectShape name presence).decode (.object members) = .ok s ↔
      (presence = .required → "phase" ∈ members.map (·.1)) ∧ s.SaidBy members := by
  obtain ⟨hkeys, hvalues⟩ := Json.ordered_object_iff.mp hordered
  have hcover := (lawful_objectShape name presence).1.1
  have hcomplete : (fields presence).complete (members.map (·.1)) = .ok () ↔
      (presence = .required → "phase" ∈ members.map (·.1)) := by
    rw [Fields.complete_eq_ok_iff]
    simp [fields, Fields.list, Field.written]
  have hconditions : ∀ v, (Json.object members).member? "conditions" = some v → v.Ordered :=
    fun v hv => hvalues _ (Json.mem_of_member? hv)
  have hfields : (∀ f ∈ (fields presence).list,
      f.take {} ((Json.object members).member? f.key) = .ok (f.get s)) ↔
      SaysText ((Json.object members).member? "phase") s.phase ∧
      SaysText ((Json.object members).member? "message") s.message ∧
      SaysText ((Json.object members).member? "reason") s.reason ∧
      SaysConditions ((Json.object members).member? "conditions") s.conditions := by
    simp only [fields, Fields.list, List.forall_mem_cons]
    refine and_congr (take_text_iff rfl _ _) <| and_congr (take_text_iff rfl _ _) <|
      and_congr (take_text_iff rfl _ _) ?_
    exact (and_iff_left (List.forall_mem_nil _)).trans (take_conditions_iff hconditions _)
  rw [objectShape, hcover.decode_iff (Table.nodup_keys_of_ascending hkeys), hcomplete, hfields]
  refine and_congr_right fun _ => ⟨?_, fun h => ?_⟩
  · rintro ⟨⟨hphase, hmessage, hreason, hconditions⟩, hextra⟩
    exact ⟨hphase, hmessage, hreason, hconditions, hextra⟩
  · exact ⟨⟨h.phase, h.message, h.reason, h.conditions⟩, h.extra⟩

/-- Beside its members nothing has a bearing on the status of a resource. -/
theorem decode_iff (hordered : (Json.object members).Ordered) (s : Status) :
    shape.decode (.object members) = .ok s ↔ s.SaidBy members := by
  have hform : Alike (shape.decode (.object members))
      ((objectShape "StatusFields" .defaulted).decode (.object members)) := alike_mapError _ _
  rw [hform s, decode_objectShape_iff hordered]
  exact and_iff_right nofun

/-- The status in an update is the status of a resource, but its phase must be there. -/
theorem decode_patchShape_iff (hordered : (Json.object members).Ordered) (s : Status) :
    patchShape.decode (.object members) = .ok s ↔
      "phase" ∈ members.map (·.1) ∧ shape.decode (.object members) = .ok s := by
  rw [decode_iff hordered, patchShape, decode_objectShape_iff hordered]
  exact and_congr_left fun _ => forall_prop_of_true rfl

/-- The status in an update is read as it is decoded. -/
theorem streams_patchShape : patchShape.Streams := by
  have hcondition : Condition.shape.fields.Streams :=
    ⟨Shape.streams_text, Shape.streams_text, Shape.streams_text, Shape.streams_text,
      Shape.streams_text, Shape.streams_text, Shape.streams_text, trivial⟩
  have hconditions : (Shape.list Condition.shape).Streams := (Shape.Streams.record hcondition).list
  have hfields : (fields .required).Streams :=
    ⟨Shape.streams_text, Shape.streams_text, Shape.streams_text, hconditions, trivial⟩
  exact Shape.Streams.extensible hfields

end Status

namespace StatusUpdate

/-- The update with a value as its status. -/
def withStatus (v : Json) : Json := .object [("status", v)]

/-- An update is decoded to the status of a resource whose phase is there. -/
theorem decode_iff (hordered : (Json.object members).Ordered) (s : Status) :
    shape.decode (withStatus (.object members)) = .ok ⟨s⟩ ↔
      "phase" ∈ members.map (·.1) ∧ Status.shape.decode (.object members) = .ok s := by
  rw [← Status.decode_patchShape_iff hordered]
  have hdecode : shape.decode (withStatus (.object members)) = (do
      let u ← (Status.patchShape.decode (.object members)).map StatusUpdate.mk >>= pure
      fields.complete ["status"]
      return u) := rfl
  rw [hdecode]
  cases Status.patchShape.decode (.object members) with
  | error e => exact ⟨nofun, nofun⟩
  | ok t => exact ⟨fun h => by cases h; rfl, fun h => by cases h; rfl⟩

/-- What is read of an update is the status in it. -/
theorem ofPayload_withStatus_iff (v : Json) (s : Status) :
    shape.ofPayload (.ofJson (withStatus v)) = .ok ⟨s⟩ ↔
      Status.patchShape.read 127 (.ofJson v) = .ok s := ofPayload_eq_ok_iff

/-- An update that can be read at all is read as it is decoded. -/
theorem ofPayload_iff (hordered : (Json.object members).Ordered)
    (hwithin : (withStatus (.object members)).Within Document.maxDepth) (s : Status) :
    shape.ofPayload (.ofJson (withStatus (.object members))) = .ok ⟨s⟩ ↔
      "phase" ∈ members.map (·.1) ∧ Status.shape.decode (.object members) = .ok s := by
  obtain ⟨inner, hdepth, hdeep⟩ := Json.object_within_iff.mp hwithin
  obtain rfl : inner = 126 := by cases hdepth; rfl
  rw [ofPayload_withStatus_iff,
    Status.streams_patchShape hordered (hdeep _ List.mem_cons_self) s,
    Status.decode_patchShape_iff hordered]

/-- An update without a phase is not read, however deep its text is. -/
theorem phase_of_ofPayload {s : Status}
    (h : shape.ofPayload (.ofJson (withStatus (.object members))) = .ok ⟨s⟩) :
    "phase" ∈ members.map (·.1) :=
  Shape.mem_of_read_extensible ((ofPayload_withStatus_iff _ s).mp h) _ (.head _) rfl

end StatusUpdate

open StatusUpdate (withStatus)

/-- **The two decoders of statuses agree.** An update whose status is an object is decoded if and
only if the object has a phase and is decoded as the status of a resource, and to the same status.
The text of the update is read likewise, if it can be read as deep as it goes. Without a phase it is
never read, while a resource may have the status, whose phase is empty then. Decoding finds the
fields that the object says, in whatever form it says its conditions, and leaves the others blank.
What is observed beside the fields is found as it was given if and only if no text is embedded. -/
theorem statusForms_agree (members : List (String × Json))
    (hordered : (Json.object members).Ordered) (s : Status) :
    (StatusUpdate.shape.decode (withStatus (.object members)) = .ok ⟨s⟩ ↔
      "phase" ∈ members.map (·.1) ∧ Status.shape.decode (.object members) = .ok s) ∧
    ((withStatus (.object members)).Within Document.maxDepth →
      (StatusUpdate.shape.ofPayload (.ofJson (withStatus (.object members))) = .ok ⟨s⟩ ↔
        "phase" ∈ members.map (·.1) ∧ Status.shape.decode (.object members) = .ok s)) ∧
    ("phase" ∉ members.map (·.1) →
      StatusUpdate.shape.ofPayload (.ofJson (withStatus (.object members))) ≠ .ok ⟨s⟩ ∧
      (Status.shape.decode (.object members) = .ok s → s.phase = "")) ∧
    (Status.shape.decode (.object members) = .ok s ↔ s.SaidBy members) ∧
    (Status.shape.decode (.object members) = .ok s →
      ((∀ key, key ∉ Status.keys → s.observation? key = (Json.object members).member? key) ↔
        ∀ m ∈ members, m.1 ∉ Status.keys → m.2.Unembedded)) := by
  have hsaid := Status.decode_iff hordered s
  refine ⟨StatusUpdate.decode_iff hordered s, fun h => StatusUpdate.ofPayload_iff hordered h s, ?_,
    hsaid, ?_⟩
  · intro hphase
    refine ⟨fun h => hphase (StatusUpdate.phase_of_ofPayload h), fun h => ?_⟩
    have hsays := (hsaid.mp h).phase
    rw [Json.member?_eq_none_iff.mpr hphase] at hsays
    exact hsays
  · intro h
    obtain ⟨ms, hms, hextra⟩ := (hsaid.mp h).extra
    simp only [Status.observation?, hextra]
    exact Json.kept_iff_unembedded hordered hms

/-- The members of the status of a rollout, with one condition as an object and one as an array, and
a number that is observed beside the fields. -/
def rolloutMembers : List (String × Json) :=
  [("conditions", .array [.object [("reason", .text "Started"), ("status", .text "True")],
      .array [.text "Ready"]]),
    ("phase", .text "running"), ("ready_replicas", .number (.integer 2))]

/-- The status of a rollout. -/
def rolloutStatus : Status where
  phase := "running"
  conditions := [{ status := "True", reason := "Started" }, { conditionType := "Ready" }]
  extra := .ofList [("ready_replicas", .number (.integer 2))]

/-- Both decoders find the status of a rollout, and one of them finds the blank status where nothing
is said. -/
theorem statusForms_of_rollout :
    (Json.object rolloutMembers).Ordered ∧ (Json.object []).Ordered ∧
      (withStatus (.object rolloutMembers)).Within Document.maxDepth ∧
      StatusUpdate.shape.decode (withStatus (.object rolloutMembers)) = .ok ⟨rolloutStatus⟩ ∧
      StatusUpdate.shape.ofPayload (.ofJson (withStatus (.object rolloutMembers))) =
        .ok ⟨rolloutStatus⟩ ∧
      rolloutStatus.SaidBy rolloutMembers ∧
      (∀ key, key ∉ Status.keys →
        rolloutStatus.observation? key = (Json.object rolloutMembers).member? key) ∧
      Status.shape.decode (.object []) = .ok {} ∧
      StatusUpdate.shape.ofPayload (.ofJson (withStatus (.object []))) ≠ .ok ⟨{}⟩ := by
  have hordered : (Json.object rolloutMembers).Ordered := by
    simp [rolloutMembers, Json.ordered_object_iff, Json.ordered_array_iff, Json.Ordered.text,
      Json.Ordered.number]
    decide
  have hunembedded : (Json.object rolloutMembers).Unembedded := by
    simp [rolloutMembers, Json.unembedded_object_iff, Json.unembedded_array_iff,
      Json.Unembedded.number, Json.Unembedded.text]
  have hempty : (Json.object []).Ordered := .object .nil (List.forall_mem_nil _)
  have hwithin : (withStatus (.object rolloutMembers)).Within Document.maxDepth := rfl
  have hdecode : Status.shape.decode (.object rolloutMembers) = .ok rolloutStatus := rfl
  have hphase : "phase" ∈ rolloutMembers.map (·.1) := by decide
  obtain ⟨hupdate, hread, -, hsaid, hkept⟩ :=
    statusForms_agree rolloutMembers hordered rolloutStatus
  obtain ⟨-, -, hnone, -, -⟩ := statusForms_agree [] hempty {}
  exact ⟨hordered, hempty, hwithin, hupdate.mpr ⟨hphase, hdecode⟩,
    (hread hwithin).mpr ⟨hphase, hdecode⟩, hsaid.mp hdecode,
    (hkept hdecode).mpr fun m hm _ => (Json.unembedded_object_iff.mp hunembedded).2 m hm, rfl,
    (hnone List.not_mem_nil).1⟩

/-- The members of a status that observes a number as an embedded text. -/
def embeddingMembers : List (String × Json) :=
  [("load", .object [(Json.embeddedKey, .text "1")]), ("phase", .text "x")]

/-- Both decoders find a number where a status observes an object in which the number is embedded as
a text. -/
theorem embedded_observation_not_kept :
    (Json.object embeddingMembers).Ordered ∧ "load" ∉ Status.keys ∧ ∃ s,
      StatusUpdate.shape.decode (withStatus (.object embeddingMembers)) = .ok ⟨s⟩ ∧
      StatusUpdate.shape.ofPayload (.ofJson (withStatus (.object embeddingMembers))) = .ok ⟨s⟩ ∧
      Status.shape.decode (.object embeddingMembers) = .ok s ∧
      (s.observation? "load").bind Json.integer? = some 1 ∧
      s.observation? "load" ≠ (Json.object embeddingMembers).member? "load" := by
  have hordered : (Json.object embeddingMembers).Ordered := by
    simp [embeddingMembers, Json.ordered_object_iff, Json.Ordered.text]
    decide
  have hphase : "phase" ∈ embeddingMembers.map (·.1) := by decide
  have hload : (Status.shape.decode (.object embeddingMembers)).toOption.map
      (fun s => (s.observation? "load").bind Json.integer?) = some (some 1) := by
    decide +kernel
  refine ⟨hordered, by decide, ?_⟩
  cases h : Status.shape.decode (.object embeddingMembers) with
  | error e =>
    rw [h] at hload
    cases hload
  | ok s =>
    rw [h] at hload
    have hnumber : (s.observation? "load").bind Json.integer? = some 1 := Option.some.inj hload
    refine ⟨s, (StatusUpdate.decode_iff hordered s).mpr ⟨hphase, h⟩,
      (StatusUpdate.ofPayload_iff hordered rfl s).mpr ⟨hphase, h⟩, rfl, hnumber, fun hsame => ?_⟩
    rw [hsame] at hnumber
    cases hnumber

end ClusterRegistry
