import ClusterRegistry.Proofs.Resource.Shapes

/-!
# Resources are found again in what they are written as

The members of a resource are those of its envelope and those of its kind, side by side in one
object, and no key is of both (`Kind.notMem_keys_envelope`). So each of the two walks through the
members finds its own fields again, and a resource that was decoded is decoded again from what it is
written as if and only if it is legible (`Resource.decode_encode_iff`).

What is decoded from a text is legible. Other values may hold an embedded text, in whose place is
put what the text says. This may be an object with the key for embedded texts and others, and an
object that starts with this key is not decoded again (`Resource.not_decode_encode_of_embedded`).
-/

namespace ClusterRegistry

/-- No field of an envelope has the key of a field of a kind. -/
theorem Kind.notMem_keys_envelope (k : Kind) :
    ∀ key ∈ k.form.fields.keys, key ∉ Envelope.fields.keys := by
  cases k <;> decide

namespace Resource

/-- A resource all parts of which are found again in what is written. -/
structure Fits (r : Resource) : Prop where
  envelope : Envelope.fields.Fit r.envelope
  spec : r.kind.form.fields.Fit r.spec

/-- A resource no part of which is mistaken for another value where it is written. -/
structure Legible (r : Resource) : Prop where
  envelope : Envelope.fields.Legible r.envelope
  spec : r.kind.form.fields.Legible r.spec

variable {k : Kind} {v w : Json} {r : Resource}

/-! ## Two walks through the members -/

/-- Decoding gives a resource of the kind that was asked for. -/
theorem kind_of_decode (h : decode k v = .ok r) : r.kind = k := by
  unfold decode at h
  split at h
  · obtain ⟨envelope, -, h⟩ := exists_of_bind_eq_ok h
    obtain ⟨spec, -, h⟩ := exists_of_bind_eq_ok h
    cases h
    rfl
  · cases h

/-- An object is walked through for the envelope and for the kind. -/
theorem walks_of_decode (h : decode r.kind v = .ok r) :
    (Shape.record "Envelope" {} Envelope.fields).decode v = .ok r.envelope ∧
      (Shape.record r.kind.name r.kind.form.blank r.kind.form.fields).decode v = .ok r.spec := by
  cases v with
  | object members =>
    obtain ⟨envelope, henvelope, h⟩ := exists_of_bind_eq_ok h
    obtain ⟨spec, hspec, h⟩ := exists_of_bind_eq_ok h
    obtain ⟨kind, envelope', spec'⟩ := r
    cases h
    exact ⟨henvelope, hspec⟩
  | _ => cases h

/-- What is decoded fits if the value is parsed or if what was decoded is legible. -/
theorem fits_of_decode (h : decode k v = .ok r) (hor : v.Parsed ∨ r.Legible) : r.Fits := by
  obtain rfl := kind_of_decode h
  obtain ⟨henvelope, hspec⟩ := walks_of_decode h
  have hlawful : (Shape.record r.kind.name r.kind.form.blank r.kind.form.fields).Lawful :=
    (lawful_record r.kind.lawful_form.cover r.kind.lawful_form.fields).1
  exact ⟨Shape.fits_of_decode _ Envelope.lawful_shape.1 henvelope (hor.imp_right (·.envelope)),
    Shape.fits_of_decode _ hlawful hspec (hor.imp_right (·.spec))⟩

/-! ## What is written -/

theorem not_mem_keys_of_mem_envelope (r : Resource) :
    ∀ m ∈ Envelope.fields.encode r.envelope, m.1 ∉ r.kind.form.fields.keys :=
  fun m hm hkey => r.kind.notMem_keys_envelope m.1 hkey
    ((Envelope.fields.keys_encode_sublist r.envelope).subset (List.mem_map_of_mem hm))

theorem not_mem_keys_of_mem_spec (r : Resource) :
    ∀ m ∈ r.kind.form.fields.encode r.spec, m.1 ∉ Envelope.fields.keys :=
  fun m hm => r.kind.notMem_keys_envelope m.1
    ((r.kind.form.fields.keys_encode_sublist r.spec).subset (List.mem_map_of_mem hm))

/-- No key is written twice. -/
theorem nodup_keys_members (r : Resource) :
    ((Envelope.fields.encode r.envelope ++ r.kind.form.fields.encode r.spec).map (·.1)).Nodup := by
  rw [List.map_append, List.nodup_append]
  refine ⟨Envelope.lawful_shape.1.1.nodup_keys_encode r.envelope,
    r.kind.lawful_form.cover.nodup_keys_encode r.spec, ?_⟩
  rintro key hkey _ hkey' rfl
  obtain ⟨m, hm, rfl⟩ := List.mem_map.mp hkey'
  exact r.not_mem_keys_of_mem_spec m hm
    ((Envelope.fields.keys_encode_sublist r.envelope).subset hkey)

/-- Under the key of a field of the envelope stands what is written for this field. -/
theorem mem_members_envelope_iff {f : Field Envelope} (hf : f ∈ Envelope.fields.list) :
    (f.key, w) ∈ Envelope.fields.encode r.envelope ++ r.kind.form.fields.encode r.spec ↔
      f.encode (f.get r.envelope) = some w :=
  List.mem_append.trans (Envelope.lawful_shape.1.1.mem_encode_or_iff r.not_mem_keys_of_mem_spec hf)

/-- Under the key of a field of the kind stands what is written for this field. -/
theorem mem_members_spec_iff {f : Field r.kind.Spec} (hf : f ∈ r.kind.form.fields.list) :
    (f.key, w) ∈ Envelope.fields.encode r.envelope ++ r.kind.form.fields.encode r.spec ↔
      f.encode (f.get r.spec) = some w :=
  List.mem_append.trans <| or_comm.trans <|
    r.kind.lawful_form.cover.mem_encode_or_iff r.not_mem_keys_of_mem_envelope hf

/-- A resource that fits is decoded again from what it is written as. -/
theorem Fits.decode_encode (h : r.Fits) : decode r.kind r.encode.sorted = .ok r := by
  obtain ⟨henvelope, henvelopeLawful⟩ := Envelope.lawful_shape.1
  obtain ⟨hspec, hspecLawful⟩ := r.kind.lawful_form
  have hdecodeEnvelope : (Shape.record "Envelope" {} Envelope.fields).decode (.object _) =
      .ok r.envelope :=
    henvelope.decode_eq_ok (Envelope.fields.restores henvelopeLawful) h.envelope
      r.nodup_keys_members fun f hf _ => mem_members_envelope_iff hf
  have hdecodeSpec :
      (Shape.record r.kind.name r.kind.form.blank r.kind.form.fields).decode (.object _) =
        .ok r.spec :=
    hspec.decode_eq_ok (r.kind.form.fields.restores hspecLawful) h.spec
      r.nodup_keys_members fun f hf _ => mem_members_spec_iff hf
  rw [encode, Json.sorted, decode, hdecodeEnvelope]
  show (do let spec ← Shape.decode _ _; return _) = _
  rw [hdecodeSpec]
  rfl

/-- Only a legible resource is decoded again from what it is written as. -/
theorem legible_of_decode_encode (h : decode r.kind r.encode.sorted = .ok r) : r.Legible := by
  obtain ⟨hcoverEnvelope, hlawfulEnvelope⟩ := Envelope.lawful_shape.1
  obtain ⟨hcoverSpec, hlawfulSpec⟩ := r.kind.lawful_form
  rw [encode, Json.sorted] at h
  obtain ⟨henvelope, hspec⟩ := walks_of_decode h
  have hrestoredEnvelope := Fields.restored_of_take r.nodup_keys_members
    (fun f hf _ => mem_members_envelope_iff hf)
    fun f hf => hcoverEnvelope.take_of_decode hf henvelope
  have hrestoredSpec := Fields.restored_of_take r.nodup_keys_members
    (fun f hf _ => mem_members_spec_iff hf)
    fun f hf => hcoverSpec.take_of_decode hf hspec
  exact ⟨Envelope.fields.legible_of_restored hlawfulEnvelope hrestoredEnvelope,
    r.kind.form.fields.legible_of_restored hlawfulSpec hrestoredSpec⟩

/-! ## What was decoded -/

/-- **A resource that was decoded is decoded again from what it is written as if and only if it is
legible**, however its parts were spelt. Whatever was decoded from a text is. -/
theorem decode_encode_iff (h : decode k v = .ok r) :
    (decode k r.encode.sorted = .ok r ↔ r.Legible) ∧
      (v.Parsed → decode k r.encode.sorted = .ok r) := by
  obtain rfl := kind_of_decode h
  refine ⟨⟨legible_of_decode_encode, fun hlegible => ?_⟩, fun hparsed => ?_⟩
  · exact (fits_of_decode h (.inr hlegible)).decode_encode
  · exact (fits_of_decode h (.inl hparsed)).decode_encode

/-- A policy in unusual spelling: its id is a number, its owner and its bounds are arrays of their
fields, one of its waiting times is an object, and its status is the bare phase. -/
def oddlySpeltPolicy : Json :=
  .object [("id", .number (.integer 7)),
    ("object_meta", .object [("initializers", .object [("result", .null)]),
      ("owner_references", .array [.array [.text "AssemblyFactory", .text "", .text "web"]])]),
    ("scale_type", .text "auto"),
    ("spec", .array [.number (.integer 1), .number (.integer 3),
      .object [("after", .array [.null]), ("at", .bool true)]]),
    ("status", .text "watching")]

/-- However oddly a policy was spelt, it is found again in what it is written as. -/
theorem decode_encode_of_oddlySpeltPolicy :
    ∃ r, decode .horizontalScaling oddlySpeltPolicy = .ok r ∧ oddlySpeltPolicy.Parsed ∧ r.Legible ∧
      decode .horizontalScaling r.encode.sorted = .ok r := by
  have hordered : oddlySpeltPolicy.Ordered := by
    simp [oddlySpeltPolicy, Json.ordered_object_iff, Json.ordered_array_iff, Json.Ordered.null,
      Json.Ordered.bool, Json.Ordered.number, Json.Ordered.text]
    decide
  have hunembedded : oddlySpeltPolicy.Unembedded := by
    simp [oddlySpeltPolicy, Json.unembedded_object_iff, Json.unembedded_array_iff,
      Json.Unembedded.null, Json.Unembedded.bool, Json.Unembedded.number, Json.Unembedded.text,
      Json.embeddedKey]
  have hdecoded : (decode .horizontalScaling oddlySpeltPolicy).toOption.isSome = true := by
    decide +kernel
  cases h : decode .horizontalScaling oddlySpeltPolicy with
  | error e =>
    rw [h] at hdecoded
    cases hdecoded
  | ok r =>
    obtain ⟨hiff, hagain⟩ := decode_encode_iff h
    have hparsed : oddlySpeltPolicy.Parsed := ⟨hordered, hunembedded⟩
    exact ⟨r, rfl, hparsed, hiff.mp (hagain hparsed), hagain hparsed⟩

/-- A plan in whose status a text is embedded. The text says an object with the key for embedded
texts among its keys. -/
def embeddingPlan : Json :=
  .object [("status", .object [("load",
    .object [(Json.embeddedKey,
      .text ("\x7b\"a\":null,\"" ++ Json.embeddedKey ++ "\":\"2\"\x7d"))])])]

/-- What is decoded from an embedded text is not always written as something that can be decoded. -/
theorem not_decode_encode_of_embedded :
    embeddingPlan.Ordered ∧ ∃ r, decode .plan embeddingPlan = .ok r ∧
      ∀ s, decode .plan r.encode.sorted ≠ .ok s := by
  have hordered : embeddingPlan.Ordered := by
    simp [embeddingPlan, Json.ordered_object_iff, Json.Ordered.text]
  -- what is decoded, and whether it is decoded again
  have hdecoded : (decode .plan embeddingPlan).toOption.map
      (fun r => (decode .plan r.encode.sorted).toOption.isSome) = some false := by
    decide +kernel
  refine ⟨hordered, ?_⟩
  cases h : decode .plan embeddingPlan with
  | error e =>
    rw [h] at hdecoded
    cases hdecoded
  | ok r =>
    refine ⟨r, rfl, fun s hagain => ?_⟩
    rw [h] at hdecoded
    have hnone : (decode .plan r.encode.sorted).toOption.isSome = false := Option.some.inj hdecoded
    rw [hagain] at hnone
    cases hnone

end Resource

end ClusterRegistry
