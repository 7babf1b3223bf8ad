import ClusterRegistry.Proofs.Id.Digits
import ClusterRegistry.Proofs.Shape.RoundTrip
import ClusterRegistry.Resource

/-!
# The shapes of resources are lawful

Every record that is part of a resource has a lawful shape, and so has every kind. For one record
this is a matter of computing: its keys are compared, its accessors are tried on each other, and
the shapes of its fields are lawful by the statements before it. So a record that changes has one
statement to go with it, and a new one needs one more.
-/

namespace ClusterRegistry

/-! ## What all records have in common -/

/-- A record is lawful if its fields are all that it consists of and are lawful themselves. -/
theorem lawful_record {α : Type} {name : String} {blank : α} {fields : Fields α}
    (hcover : fields.Cover) (hlawful : fields.Lawful blank) :
    (Shape.record name blank fields).Lawful ∧ (Shape.record name blank fields).Fits blank :=
  ⟨⟨hcover, hlawful⟩, fields.fit_blank hlawful⟩

/-- The fields of a kind are all that it consists of and are lawful themselves. -/
structure Form.Lawful {α : Type} (form : Form α) : Prop where
  cover : form.fields.Cover
  fields : form.fields.Lawful form.blank

theorem Json.literal_null : Json.Literal .null := ⟨.null, rfl⟩

/-- A value that is kept as it is read is `null` only if it was read from `null`. -/
theorem Json.ne_null_of_decode {v w : Json} (hordered : v.Ordered) (hunembedded : v.Unembedded)
    (hnull : v ≠ .null) (h : Shape.json.decode v = .ok w) : Shape.json.encode w ≠ .null := by
  obtain ⟨u, hu, h⟩ := exists_of_bind_eq_ok h
  cases h
  rwa [Json.eq_of_settle hordered hunembedded (eq_ok_of_mapError_eq_ok hu)]

attribute [local simp] Fields.list Field.written Field.omittable Field.Apart Fields.Lawful
  Shape.Lawful Shape.Fits Table.entries_empty Json.literal_null

/-! ## Metadata and status -/

/-- An id is found again in what it is written as, and so is the missing one. -/
theorem Id.fits_shape (i : Id) : Id.shape.Fits i := by
  refine ⟨⟨.text _, rfl⟩, ?_⟩
  rw [Id.toJson]
  split
  · next h =>
    show (Id.parse? _).getD _ = i
    rw [Id.parse?, Id.parse_digits h]
    rfl
  · next h =>
    have hzero : i.value = 0 := by simpa [Id.isAssigned] using h
    exact (congrArg Id.mk hzero).symm

theorem Id.lawful_shape : Id.shape.Lawful ∧ Id.shape.Fits .unassigned :=
  ⟨fun _ _ => ⟨⟨.text _, .text _⟩, fun _ => .text _, (Id.fits_shape _).2⟩, Id.fits_shape _⟩

theorem TypeMeta.lawful_shape : TypeMeta.shape.Lawful ∧ TypeMeta.shape.Fits {} :=
  lawful_record ⟨⟨by decide, by simp, by simp⟩, by rintro ⟨⟩ ⟨⟩; simp +contextual⟩
    (by simp)

theorem OwnerReference.lawful_shape : OwnerReference.shape.Lawful ∧ OwnerReference.shape.Fits {} :=
  lawful_record ⟨⟨by decide, by simp, by simp⟩, by rintro ⟨⟩ ⟨⟩; simp +contextual⟩
    (by simp)

theorem Initializer.lawful_shape : Initializer.shape.Lawful ∧ Initializer.shape.Fits {} :=
  lawful_record ⟨⟨by decide, by simp, by simp⟩, by rintro ⟨⟩ ⟨⟩; simp +contextual⟩
    (by simp)

theorem Initializers.lawful_shape : Initializers.shape.Lawful ∧ Initializers.shape.Fits {} :=
  lawful_record ⟨⟨by decide, by simp, by simp⟩, by rintro ⟨⟩ ⟨⟩; simp +contextual⟩
    ⟨Initializer.lawful_shape.1, nofun, by simp, rfl, fun _ _ => Json.ne_null_of_decode, trivial⟩

theorem ObjectMeta.lawful_shape : ObjectMeta.shape.Lawful ∧ ObjectMeta.shape.Fits {} :=
  lawful_record ⟨⟨by decide, by simp, by simp⟩, by rintro ⟨⟩ ⟨⟩; simp +contextual⟩
    (by simp [OwnerReference.lawful_shape, Initializers.lawful_shape])

theorem Condition.lawful_shape : Condition.shape.Lawful ∧ Condition.shape.Fits {} :=
  lawful_record ⟨⟨by decide, by simp, by simp⟩, by rintro ⟨⟩ ⟨⟩; simp +contextual⟩
    (by simp)

theorem Status.lawful_objectShape (name : String) (presence : Presence) :
    (Status.objectShape name presence).Lawful ∧ (Status.objectShape name presence).Fits {} := by
  have hcover : (Status.fields presence).CoverWith (·.extra) fun t s => { s with extra := t } := by
    refine ⟨⟨by cases presence <;> decide, ?_, ?_⟩, ?_, fun _ _ => rfl, ?_⟩
    · simp [Status.fields]
    · simp [Status.fields]
    · rintro ⟨⟩ ⟨⟩
      simp +contextual [Status.fields]
    · simp [Status.fields]
  have hlawful : (Status.fields presence).Lawful {} := by
    simp [Status.fields, Condition.lawful_shape]
  exact ⟨⟨hcover, hlawful⟩, Fields.fit_blank _ hlawful, nofun⟩

/-- Beside objects a status may be the bare phase or `null`, which are written as objects too. -/
theorem Status.lawful_shape : Status.shape.Lawful ∧ Status.shape.Fits {} := by
  obtain ⟨hlawful, hfits⟩ := Status.lawful_objectShape "StatusFields" .defaulted
  obtain ⟨⟨-, hmessage, hreason, hconditions⟩, hextra⟩ := hfits
  have hphase : ∀ s, (Status.objectShape "StatusFields" .defaulted).Fits (.ofPhase s) :=
    fun s => ⟨⟨trivial, hmessage, hreason, hconditions⟩, hextra⟩
  exact ⟨⟨⟨fun _ => ⟨_, rfl⟩, hphase, hphase ""⟩, hlawful⟩, hphase ""⟩

theorem Envelope.lawful_shape :
    (Shape.record "Envelope" ({} : Envelope) Envelope.fields).Lawful ∧ Envelope.fields.Fit {} := by
  refine lawful_record ⟨⟨by decide, ?_, ?_⟩, ?_⟩ ?_
  · simp [Envelope.fields]
  · simp [Envelope.fields]
  · rintro ⟨⟩ ⟨⟩
    simp +contextual [Envelope.fields]
  · simp [Envelope.fields, Id.lawful_shape, TypeMeta.lawful_shape, ObjectMeta.lawful_shape,
      Status.lawful_shape]

/-! ## Parts of kinds -/

theorem SecretReference.lawful_shape :
    SecretReference.shape.Lawful ∧ SecretReference.shape.Fits {} :=
  lawful_record ⟨⟨by decide, by simp, by simp⟩, by rintro ⟨⟩ ⟨⟩; simp +contextual⟩
    (by simp)

theorem Toleration.lawful_shape : Toleration.shape.Lawful ∧ Toleration.shape.Fits {} :=
  lawful_record ⟨⟨by decide, by simp, by simp⟩, by rintro ⟨⟩ ⟨⟩; simp +contextual⟩
    (by simp)

theorem Placement.lawful_shape : Placement.shape.Lawful ∧ Placement.shape.Fits {} :=
  lawful_record ⟨⟨by decide, by simp, by simp⟩, by rintro ⟨⟩ ⟨⟩; simp +contextual⟩
    (by simp [Toleration.lawful_shape])

theorem PlanProperties.lawful_shape : PlanProperties.shape.Lawful ∧ PlanProperties.shape.Fits {} :=
  lawful_record ⟨⟨by decide, by simp, by simp⟩, by rintro ⟨⟩ ⟨⟩; simp +contextual⟩
    (by simp [ObjectMeta.lawful_shape, Status.lawful_shape])

theorem JobSpec.lawful_shape : JobSpec.shape.Lawful ∧ JobSpec.shape.Fits {} :=
  lawful_record ⟨⟨by decide, by simp, by simp⟩, by rintro ⟨⟩ ⟨⟩; simp +contextual⟩
    (by simp)

theorem ImageReferenceSpec.lawful_shape :
    ImageReferenceSpec.shape.Lawful ∧ ImageReferenceSpec.shape.Fits {} :=
  lawful_record ⟨⟨by decide, by simp, by simp⟩, by rintro ⟨⟩ ⟨⟩; simp +contextual⟩
    (by simp)

theorem TimeSpec.lawful_shape : TimeSpec.shape.Lawful ∧ TimeSpec.shape.Fits {} :=
  lawful_record ⟨⟨by decide, by simp, by simp⟩, by rintro ⟨⟩ ⟨⟩; simp +contextual⟩
    (by simp)

theorem MetricResource.lawful_shape : MetricResource.shape.Lawful ∧ MetricResource.shape.Fits {} :=
  lawful_record ⟨⟨by decide, by simp, by simp⟩, by rintro ⟨⟩ ⟨⟩; simp +contextual⟩
    (by simp [TimeSpec.lawful_shape])

theorem Metric.lawful_shape : Metric.shape.Lawful ∧ Metric.shape.Fits {} :=
  lawful_record ⟨⟨by decide, by simp, by simp⟩, by rintro ⟨⟩ ⟨⟩; simp +contextual⟩
    (by simp [MetricResource.lawful_shape])

theorem HorizontalScalingSpec.lawful_shape :
    HorizontalScalingSpec.shape.Lawful ∧ HorizontalScalingSpec.shape.Fits {} :=
  lawful_record ⟨⟨by decide, by simp, by simp⟩, by rintro ⟨⟩ ⟨⟩; simp +contextual⟩
    (by simp [Metric.lawful_shape, Json.literal_null])

theorem VerticalScalingSpec.lawful_shape :
    VerticalScalingSpec.shape.Lawful ∧ VerticalScalingSpec.shape.Fits {} :=
  lawful_record ⟨⟨by decide, by simp, by simp⟩, by rintro ⟨⟩ ⟨⟩; simp +contextual⟩
    (by simp [Metric.lawful_shape, Json.literal_null])

theorem UpdatePolicy.lawful_shape : UpdatePolicy.shape.Lawful ∧ UpdatePolicy.shape.Fits {} :=
  lawful_record ⟨⟨by decide, by simp, by simp⟩, by rintro ⟨⟩ ⟨⟩; simp +contextual⟩
    (by simp)

theorem ServiceSpec.lawful_shape : ServiceSpec.shape.Lawful ∧ ServiceSpec.shape.Fits {} :=
  lawful_record ⟨⟨by decide, by simp, by simp⟩, by rintro ⟨⟩ ⟨⟩; simp +contextual⟩
    (by simp)

theorem EndpointAddress.lawful_shape :
    EndpointAddress.shape.Lawful ∧ EndpointAddress.shape.Fits {} :=
  lawful_record ⟨⟨by decide, by simp, by simp⟩, by rintro ⟨⟩ ⟨⟩; simp +contextual⟩
    (by simp)

theorem EndpointPort.lawful_shape : EndpointPort.shape.Lawful ∧ EndpointPort.shape.Fits {} :=
  lawful_record ⟨⟨by decide, by simp, by simp⟩, by rintro ⟨⟩ ⟨⟩; simp +contextual⟩
    (by simp)

theorem Subsets.lawful_shape : Subsets.shape.Lawful ∧ Subsets.shape.Fits {} :=
  lawful_record ⟨⟨by decide, by simp, by simp⟩, by rintro ⟨⟩ ⟨⟩; simp +contextual⟩
    (by simp [EndpointAddress.lawful_shape, EndpointPort.lawful_shape])

theorem IngressRule.lawful_shape : IngressRule.shape.Lawful ∧ IngressRule.shape.Fits {} :=
  lawful_record ⟨⟨by decide, by simp, by simp⟩, by rintro ⟨⟩ ⟨⟩; simp +contextual⟩
    (by simp)

theorem IngressSpec.lawful_shape : IngressSpec.shape.Lawful ∧ IngressSpec.shape.Fits {} :=
  lawful_record ⟨⟨by decide, by simp, by simp⟩, by rintro ⟨⟩ ⟨⟩; simp +contextual⟩
    (by simp [IngressRule.lawful_shape])

theorem Disk.lawful_shape : Disk.shape.Lawful ∧ Disk.shape.Fits {} :=
  lawful_record ⟨⟨by decide, by simp, by simp⟩, by rintro ⟨⟩ ⟨⟩; simp +contextual⟩
    (by simp)

theorem StorageInfo.lawful_shape : StorageInfo.shape.Lawful ∧ StorageInfo.shape.Fits {} :=
  lawful_record ⟨⟨by decide, by simp, by simp⟩, by rintro ⟨⟩ ⟨⟩; simp +contextual⟩
    (by simp [Disk.lawful_shape])

/-! ## Kinds -/

theorem Assembly.lawful_form : Assembly.form.Lawful where
  cover :=
    ⟨⟨by decide, by simp [form], by simp [form]⟩, by rintro ⟨⟩ ⟨⟩; simp +contextual [form]⟩
  fields := by simp [form]

theorem Factory.lawful_form : Factory.form.Lawful where
  cover :=
    ⟨⟨by decide, by simp [form], by simp [form]⟩, by rintro ⟨⟩ ⟨⟩; simp +contextual [form]⟩
  fields := by simp [form, SecretReference.lawful_shape, Placement.lawful_shape]

theorem Plan.lawful_form : Plan.form.Lawful where
  cover :=
    ⟨⟨by decide, by simp [form], by simp [form]⟩, by rintro ⟨⟩ ⟨⟩; simp +contextual [form]⟩
  fields := by simp [form, PlanProperties.lawful_shape]

theorem BuildConfig.lawful_form : BuildConfig.form.Lawful where
  cover :=
    ⟨⟨by decide, by simp [form], by simp [form]⟩, by rintro ⟨⟩ ⟨⟩; simp +contextual [form]⟩
  fields := by simp [form]

theorem Build.lawful_form : Build.form.Lawful where
  cover :=
    ⟨⟨by decide, by simp [form], by simp [form]⟩, by rintro ⟨⟩ ⟨⟩; simp +contextual [form]⟩
  fields := by simp [form]

theorem ImageReference.lawful_form : ImageReference.form.Lawful where
  cover :=
    ⟨⟨by decide, by simp [form], by simp [form]⟩, by rintro ⟨⟩ ⟨⟩; simp +contextual [form]⟩
  fields := by simp [form, ImageReferenceSpec.lawful_shape]

theorem ImageMarks.lawful_form : ImageMarks.form.Lawful where
  cover :=
    ⟨⟨by decide, by simp [form], by simp [form]⟩, by rintro ⟨⟩ ⟨⟩; simp +contextual [form]⟩
  fields := by simp [form]

theorem Node.lawful_form : Node.form.Lawful where
  cover :=
    ⟨⟨by decide, by simp [form], by simp [form]⟩, by rintro ⟨⟩ ⟨⟩; simp +contextual [form]⟩
  fields := by simp [form]

theorem Volume.lawful_form : Volume.form.Lawful where
  cover :=
    ⟨⟨by decide, by simp [form], by simp [form]⟩, by rintro ⟨⟩ ⟨⟩; simp +contextual [form]⟩
  fields := by simp [form]

theorem Job.lawful_form : Job.form.Lawful where
  cover :=
    ⟨⟨by decide, by simp [form], by simp [form]⟩, by rintro ⟨⟩ ⟨⟩; simp +contextual [form]⟩
  fields := by simp [form, JobSpec.lawful_shape]

theorem Secret.lawful_form : Secret.form.Lawful where
  cover :=
    ⟨⟨by decide, by simp [form], by simp [form]⟩, by rintro ⟨⟩ ⟨⟩; simp +contextual [form]⟩
  fields := by simp [form]

theorem Service.lawful_form : Service.form.Lawful where
  cover :=
    ⟨⟨by decide, by simp [form], by simp [form]⟩, by rintro ⟨⟩ ⟨⟩; simp +contextual [form]⟩
  fields := by simp [form, ServiceSpec.lawful_shape]

theorem Endpoint.lawful_form : Endpoint.form.Lawful where
  cover :=
    ⟨⟨by decide, by simp [form], by simp [form]⟩, by rintro ⟨⟩ ⟨⟩; simp +contextual [form]⟩
  fields := by simp [form, Subsets.lawful_shape]

theorem Ingress.lawful_form : Ingress.form.Lawful where
  cover :=
    ⟨⟨by decide, by simp [form], by simp [form]⟩, by rintro ⟨⟩ ⟨⟩; simp +contextual [form]⟩
  fields := by simp [form, IngressSpec.lawful_shape]

theorem HorizontalScaling.lawful_form : HorizontalScaling.form.Lawful where
  cover :=
    ⟨⟨by decide, by simp [form], by simp [form]⟩, by rintro ⟨⟩ ⟨⟩; simp +contextual [form]⟩
  fields := by simp [form, HorizontalScalingSpec.lawful_shape]

theorem VerticalScaling.lawful_form : VerticalScaling.form.Lawful where
  cover :=
    ⟨⟨by decide, by simp [form], by simp [form]⟩, by rintro ⟨⟩ ⟨⟩; simp +contextual [form]⟩
  fields := by simp [form, UpdatePolicy.lawful_shape, VerticalScalingSpec.lawful_shape]

theorem Team.lawful_form : Team.form.Lawful where
  cover :=
    ⟨⟨by decide, by simp [form], by simp [form]⟩, by rintro ⟨⟩ ⟨⟩; simp +contextual [form]⟩
  fields := by simp [form]

theorem Origin.lawful_form : Origin.form.Lawful where
  cover :=
    ⟨⟨by decide, by simp [form], by simp [form]⟩, by rintro ⟨⟩ ⟨⟩; simp +contextual [form]⟩
  fields := by simp [form]

theorem Role.lawful_form : Role.form.Lawful where
  cover :=
    ⟨⟨by decide, by simp [form], by simp [form]⟩, by rintro ⟨⟩ ⟨⟩; simp +contextual [form]⟩
  fields := by simp [form]

theorem Permission.lawful_form : Permission.form.Lawful where
  cover :=
    ⟨⟨by decide, by simp [form], by simp [form]⟩, by rintro ⟨⟩ ⟨⟩; simp +contextual [form]⟩
  fields := by simp [form]

theorem StoragePool.lawful_form : StoragePool.form.Lawful where
  cover :=
    ⟨⟨by decide, by simp [form], by simp [form]⟩, by rintro ⟨⟩ ⟨⟩; simp +contextual [form]⟩
  fields := by simp [form, StorageInfo.lawful_shape]

theorem StorageConnector.lawful_form : StorageConnector.form.Lawful where
  cover :=
    ⟨⟨by decide, by simp [form], by simp [form]⟩, by rintro ⟨⟩ ⟨⟩; simp +contextual [form]⟩
  fields := by simp [form, StorageInfo.lawful_shape]

theorem Network.lawful_form : Network.form.Lawful where
  cover :=
    ⟨⟨by decide, by simp [form], by simp [form]⟩, by rintro ⟨⟩ ⟨⟩; simp +contextual [form]⟩
  fields := by simp [form]

theorem Datacenter.lawful_form : Datacenter.form.Lawful where
  cover :=
    ⟨⟨by decide, by simp [form], by simp [form]⟩, by rintro ⟨⟩ ⟨⟩; simp +contextual [form]⟩
  fields := by simp [form]

theorem License.lawful_form : License.form.Lawful where
  cover :=
    ⟨⟨by decide, by simp [form], by simp [form]⟩, by rintro ⟨⟩ ⟨⟩; simp +contextual [form]⟩
  fields := by simp [form]

theorem SettingsMap.lawful_form : SettingsMap.form.Lawful where
  cover :=
    ⟨⟨by decide, by simp [form], by simp [form]⟩, by rintro ⟨⟩ ⟨⟩; simp +contextual [form]⟩
  fields := by simp [form]

/-- The fields of every kind are lawful. -/
theorem Kind.lawful_form : (k : Kind) → k.form.Lawful
  | .assembly => Assembly.lawful_form
  | .assemblyFactory => Factory.lawful_form
  | .stacksFactory => Factory.lawful_form
  | .plan => Plan.lawful_form
  | .buildConfig => BuildConfig.lawful_form
  | .build => Build.lawful_form
  | .imageReference => ImageReference.lawful_form
  | .imageMarks => ImageMarks.lawful_form
  | .node => Node.lawful_form
  | .volume => Volume.lawful_form
  | .job => Job.lawful_form
  | .secret => Secret.lawful_form
  | .service => Service.lawful_form
  | .endpoint => Endpoint.lawful_form
  | .ingress => Ingress.lawful_form
  | .horizontalScaling => HorizontalScaling.lawful_form
  | .verticalScaling => VerticalScaling.lawful_form
  | .team => Team.lawful_form
  | .origin => Origin.lawful_form
  | .role => Role.lawful_form
  | .permission => Permission.lawful_form
  | .storagePool => StoragePool.lawful_form
  | .storageConnector => StorageConnector.lawful_form
  | .network => Network.lawful_form
  | .datacenter => Datacenter.lawful_form
  | .license => License.lawful_form
  | .settingsMap => SettingsMap.lawful_form

end ClusterRegistry
