import Mathlib.Logic.Relation
import ClusterRegistry.Proofs.Registry.Expanded
import ClusterRegistry.Proofs.Resource.Codec
import ClusterRegistry.Proofs.Shape.Omitted

/-!
# What may be left out of a payload

Every field of a resource, and of every record inside one, may be absent and is blank then
(`Envelope.defaults_fields`, `Kind.defaults_form`). So a payload in which fields are said to be
blank comes to the same as one in which they are not said at all: both are decoded to the same
resource, or fail for the same reason, and creating and updating answer them alike
(`Registry.answers_of_omits`). A status update, whose phase must be there, is not among them.
-/

namespace ClusterRegistry

/-! ## All fields may be absent -/

section

attribute [local simp] Shape.Defaults Fields.Defaults

theorem ObjectMeta.defaults_shape : ObjectMeta.shape.Defaults {} := by
  simp [shape, OwnerReference.shape, Initializers.shape, Initializer.shape]

theorem Status.defaults_shape : Status.shape.Defaults {} := by
  simp [shape, objectShape, fields, Condition.shape, ofPhase]

/-- All fields of envelopes may be absent, and so may those of the records inside. -/
theorem Envelope.defaults_fields : Envelope.fields.Defaults {} := by
  have hid : Id.unassigned = Id.ofJson .null := rfl
  simp [fields, Id.shape, hid, TypeMeta.shape, ObjectMeta.defaults_shape, Status.defaults_shape]

theorem PlanProperties.defaults_shape : PlanProperties.shape.Defaults {} := by
  simp [shape, ObjectMeta.defaults_shape, Status.defaults_shape]

theorem Metric.defaults_shape : Metric.shape.Defaults {} := by
  simp [shape, MetricResource.shape, TimeSpec.shape]

theorem Subsets.defaults_shape : Subsets.shape.Defaults {} := by
  simp [shape, EndpointAddress.shape, EndpointPort.shape]

theorem StorageInfo.defaults_shape : StorageInfo.shape.Defaults {} := by
  simp [shape, Disk.shape]

attribute [local simp] Assembly.form Factory.form Plan.form BuildConfig.form Build.form
  ImageReference.form ImageMarks.form Node.form Volume.form Job.form Secret.form Service.form
  Endpoint.form Ingress.form HorizontalScaling.form VerticalScaling.form Team.form Origin.form
  Role.form Permission.form StoragePool.form StorageConnector.form Network.form Datacenter.form
  License.form SettingsMap.form

/-- All fields of every kind may be absent, and so may those of the records inside. -/
theorem Kind.defaults_form (k : Kind) : k.form.fields.Defaults k.form.blank := by
  have hmetrics : ∃ m, Metric.shape.Defaults m := ⟨_, Metric.defaults_shape⟩
  have hplans : ∃ p, PlanProperties.shape.Defaults p := ⟨_, PlanProperties.defaults_shape⟩
  cases k <;> simp [Kind.form, SecretReference.shape, Placement.shape, Toleration.shape, hplans,
    ImageReferenceSpec.shape, JobSpec.shape, ServiceSpec.shape, Subsets.defaults_shape,
    IngressSpec.shape, IngressRule.shape, HorizontalScalingSpec.shape, VerticalScalingSpec.shape,
    UpdatePolicy.shape, hmetrics, StorageInfo.defaults_shape]

end

/-! ## Leaving out keys -/

/-- The second value is the first one, an object, without one key that says of its field that it is
blank: a key of the envelope or of the kind, or of a record inside. -/
def Kind.Omits (k : Kind) (v v' : Json) : Prop :=
  ∃ members, v = .object members ∧
    ((Shape.record "Envelope" {} Envelope.fields).Omits v v' ∨
      (Shape.record k.name k.form.blank k.form.fields).Omits v v')

variable {k : Kind} {v v' : Json} {p q : Json.Payload}

namespace Resource

/-- A resource is decoded as it is without a key that says of its field that it is blank. -/
theorem decode_of_omits (hordered : v.Ordered) (h : k.Omits v v') :
    v'.Ordered ∧ decode k v' = decode k v := by
  obtain ⟨members, rfl, h | h⟩ := h
  · have hkeys : ∀ key ∈ Envelope.fields.keys, key ∉ k.form.fields.keys :=
      fun key hkey hkind => k.notMem_keys_envelope key hkind hkey
    obtain ⟨members', rfl, hspec⟩ :=
      Fields.decode_other_of_omits hkeys h k.name k.form.blank
    obtain ⟨hordered', henvelope⟩ := Shape.decode_of_omits _ Envelope.lawful_shape.1
      ⟨rfl, Envelope.defaults_fields⟩ hordered h
    exact ⟨hordered', by rw [decode, decode, henvelope, hspec]⟩
  · obtain ⟨members', rfl, henvelope⟩ :=
      Fields.decode_other_of_omits k.notMem_keys_envelope h "Envelope" {}
    have hlawful : (Shape.record k.name k.form.blank k.form.fields).Lawful :=
      ⟨k.lawful_form.cover, k.lawful_form.fields⟩
    obtain ⟨hordered', hspec⟩ := Shape.decode_of_omits _ hlawful ⟨rfl, k.defaults_form⟩ hordered h
    exact ⟨hordered', by rw [decode, decode, henvelope, hspec]⟩

/-- So it is without any number of such keys. -/
theorem decode_of_omits_all (hordered : v.Ordered) (h : Relation.ReflTransGen k.Omits v v') :
    v'.Ordered ∧ decode k v' = decode k v := by
  induction h with
  | refl => exact ⟨hordered, rfl⟩
  | tail _ homits ih =>
    obtain ⟨hordered', hdecode⟩ := decode_of_omits ih.1 homits
    exact ⟨hordered', hdecode.trans ih.2⟩

end Resource

/-! ## Creating and updating -/

namespace Registry

/-- **What is blank may as well be absent.** If one payload is got from another one by leaving out
any number of keys, each of which says of its field that it is blank, both are decoded to the same
resource or fail for the same reason, and whoever creates or updates a resource with them gets the
same answer or the same failure, and leaves the same state. -/
theorem answers_of_omits (reg : Registry) (hp : p.value = .ok v) (hq : q.value = .ok v')
    (h : Relation.ReflTransGen k.Omits v v') :
    Resource.ofPayload k q = Resource.ofPayload k p ∧
    (∀ account s, (reg.create k q account).run s = (reg.create k p account).run s) ∧
    ∀ rawId s, (reg.update k rawId q).run s = (reg.update k rawId p).run s := by
  have hresource : Resource.ofPayload k q = Resource.ofPayload k p := by
    have hordered : v.Ordered := (Json.parsed_of_payload hp).ordered
    rw [Resource.ofPayload, Resource.ofPayload, hp, hq]
    exact (Resource.decode_of_omits_all hordered h).2
  have hdecode : decodePayload k q = decodePayload k p := by
    rw [decodePayload, decodePayload, hresource]
  refine ⟨hresource, fun account s => ?_, fun rawId s => ?_⟩
  · rw [create, create, accept, accept, hdecode]
  · rw [update, update, hdecode]

/-- A plan of one variant, with some more members of itself, of the owner of its variant and of a
condition in its status. -/
def sentVariant (plan owner condition : List (String × Json)) : Json :=
  .object (("category", .text "application") :: plan ++
    [("object_meta", .object [("name", .text "small")]),
      ("plans", .array [.object [("object_meta", .object
        [("owner_references", .array [.object (owner ++ [("uid", .text "3")])])])]]),
      ("status", .object
        [("conditions", .array [.object (condition ++ [("status", .text "yes")])])]),
      ("version", .text "1")])

/-- The plan says of its icon, of the name of the owner of its variant and of the reason for the
condition that they are blank. -/
def wordyVariant : Json :=
  sentVariant [("icon", .text "")] [("name", .text "")] [("reason", .text "")]

/-- The plan says nothing of them. -/
def terseVariant : Json := sentVariant [] [] []

/-- The plan with blank fields is created, and updates a stored one, as it does without them. -/
theorem variant_answers_of_omits :
    (∃ r t, (tenReplicas.create .plan (.ofJson wordyVariant) none).run initialState = (.ok r, t) ∧
      (tenReplicas.create .plan (.ofJson terseVariant) none).run initialState = (.ok r, t)) ∧
    ∃ r t, (tenReplicas.update .plan "1" (.ofJson wordyVariant)).run planState = (.ok r, t) ∧
      (tenReplicas.update .plan "1" (.ofJson terseVariant)).run planState = (.ok r, t) := by
  have hicon : Kind.Omits .plan wordyVariant
      (sentVariant [] [("name", .text "")] [("reason", .text "")]) := by
    have hblank : Plan.form.fields.SaysBlank "icon" (.text "") := by
      simp [Plan.form, Fields.SaysBlank, Shape.SaysBlank]
    exact ⟨_, rfl, .inr (.inl (.key [_] [_, _, _, _] (by decide) hblank))⟩
  have hname : Kind.Omits .plan (sentVariant [] [("name", .text "")] [("reason", .text "")])
      (sentVariant [] [] [("reason", .text "")]) := by
    have howner : OwnerReference.shape.Omits (.object [("name", .text ""), ("uid", .text "3")])
        (.object [("uid", .text "3")]) :=
      .inl (.key [] [_] (by decide) (by simp [Fields.SaysBlank, Shape.SaysBlank]))
    have howners : ObjectMeta.shape.fields.Omits "owner_references" (.array [.object _])
        (.array [.object _]) :=
      .inr (.inr (.inr (.inr (.inr (.inl ⟨rfl, [], _, _, [], rfl, rfl, howner⟩)))))
    have hvariant : PlanProperties.shape.fields.Omits "object_meta" (.object [_]) (.object [_]) :=
      .inl ⟨rfl, .inr ⟨_, _, _, howners, .member [] []⟩⟩
    have hplans : Plan.form.fields.Omits "plans" (.array [.object [_]]) (.array [.object [_]]) :=
      .inr (.inl ⟨rfl, [], _, _, [], rfl, rfl, .inr ⟨_, _, _, hvariant, .member [] []⟩⟩)
    exact ⟨_, rfl, .inr (.inr ⟨_, _, _, hplans, .member [_, _] [_, _]⟩)⟩
  have hreason : Kind.Omits .plan (sentVariant [] [] [("reason", .text "")]) terseVariant := by
    have hcondition : Condition.shape.Omits
        (.object [("reason", .text ""), ("status", .text "yes")])
        (.object [("status", .text "yes")]) :=
      .inl (.key [] [_] (by decide) (by simp [Fields.SaysBlank, Shape.SaysBlank]))
    have hconditions : (Status.fields .defaulted).Omits "conditions" (.array [.object _])
        (.array [.object _]) :=
      .inr (.inr (.inr (.inl ⟨rfl, [], _, _, [], rfl, rfl, hcondition⟩)))
    have hstatus : Envelope.fields.Omits "status" (.object [_]) (.object [_]) :=
      .inr (.inr (.inr (.inl ⟨rfl, .inr ⟨_, _, _, hconditions, .member [] []⟩⟩)))
    exact ⟨_, rfl, .inl (.inr ⟨_, _, _, hstatus, .member [_, _, _] [_]⟩)⟩
  have homits := ((Relation.ReflTransGen.single hicon).tail hname).tail hreason
  obtain ⟨-, hcreate, hupdate⟩ := answers_of_omits (p := .ofJson wordyVariant)
    (q := .ofJson terseVariant) tenReplicas rfl rfl homits
  have hcreated : ((tenReplicas.create .plan (.ofJson terseVariant) none).run
      initialState).1.isOk = true := by decide +kernel
  have hupdated : ((tenReplicas.update .plan "1" (.ofJson terseVariant)).run
      planState).1.isOk = true := by decide +kernel
  obtain ⟨r, t, hrun⟩ := Script.exists_run_of_isOk hcreated
  obtain ⟨r', t', hrun'⟩ := Script.exists_run_of_isOk hupdated
  exact ⟨⟨r, t, (hcreate none initialState).symm.trans hrun, hrun⟩,
    r', t', (hupdate "1" planState).symm.trans hrun', hrun'⟩

end Registry

end ClusterRegistry
