import ClusterRegistry.Proofs.Resource.Parts
import ClusterRegistry.Proofs.Resource.Shapes
import ClusterRegistry.Proofs.Shape.Said
import ClusterRegistry.Registry

/-!
# What a payload says of a resource

A payload says something under keys at the top and, below one of them, under the keys of the object
metadata. Some of these keys belong to the server, and clients may say anything under them that can
be decoded. Two payloads that say the same under all other keys of a kind
(`Json.Payload.AgreeOutside`) are decoded to resources that agree in what clients write
(`Resource.clientPart_eq_of_agree`).
-/

namespace ClusterRegistry

/-! ## Keys -/

/-- What a payload says under a key at the top. -/
def Json.Payload.said? (p : Json.Payload) (key : String) : Option Json :=
  p.value.toOption.bind (·.member? key)

/-- What a payload says under a key of the object metadata, which may be an object or an array. -/
def Json.Payload.saidOfMeta? (p : Json.Payload) (key : String) : Option Json :=
  (p.said? "object_meta").bind (·.said? ObjectMeta.shape.keys key)

/-- Keys of envelopes, and keys of the object metadata. -/
structure EnvelopeKeys where
  top : List String
  objectMeta : List String

/-- The keys under which the server writes when a resource is created. -/
def ownedOnCreate : EnvelopeKeys where
  top := ["id", "type_meta"]
  objectMeta := ["created_at", "deleted_at", "deletion_grace_period_seconds", "finalizers"]

/-- The keys under which an update leaves everything as it is stored. -/
def ownedOnUpdate : EnvelopeKeys where
  top := "status" :: ownedOnCreate.top
  objectMeta := "account" :: ownedOnCreate.objectMeta

/-- Two payloads say the same under all keys of a kind and of its envelope but the given ones. What
they say under keys that the kind does not know makes no difference. -/
structure Json.Payload.AgreeOutside (owned : EnvelopeKeys) (k : Kind) (p q : Json.Payload) :
    Prop where
  spec : ∀ key ∈ k.form.fields.keys, p.said? key = q.said? key
  envelope : ∀ key ∈ Envelope.fields.keys, key ≠ "object_meta" → key ∉ owned.top →
    p.said? key = q.said? key
  objectMeta : ∀ key ∈ ObjectMeta.shape.keys, key ∉ owned.objectMeta →
    p.saidOfMeta? key = q.saidOfMeta? key

variable {owned : EnvelopeKeys} {k : Kind} {p q : Json.Payload} {r r' : Resource}

/-- A payload that is decoded says an object, of which the envelope and the fields of the kind are
decoded. -/
theorem exists_of_decodePayload (h : decodePayload k p = .ok r) :
    ∃ members envelope spec, p.value = .ok (.object members) ∧
      (Shape.record "Envelope" {} Envelope.fields).decode (.object members) = .ok envelope ∧
      (Shape.record k.name k.form.blank k.form.fields).decode (.object members) = .ok spec ∧
      r = ⟨k, envelope, spec⟩ := by
  have hpayload : Resource.ofPayload k p = .ok r := eq_ok_of_mapError_eq_ok h
  obtain ⟨v, hv, hdecode⟩ := exists_of_bind_eq_ok hpayload
  cases v with
  | object members =>
    obtain ⟨envelope, henvelope, hdecode⟩ := exists_of_bind_eq_ok hdecode
    obtain ⟨spec, hspec, hdecode⟩ := exists_of_bind_eq_ok hdecode
    cases hdecode
    exact ⟨members, envelope, spec, eq_ok_of_mapError_eq_ok hv, henvelope, hspec, rfl⟩
  | _ => cases hdecode

/-- Each field of the envelope is what the payload says of it, or blank. -/
theorem take_envelope (h : decodePayload k p = .ok r) {f : Field Envelope}
    (hf : f ∈ Envelope.fields.list) : f.take {} (p.said? f.key) = .ok (f.get r.envelope) := by
  obtain ⟨members, envelope, spec, hvalue, henvelope, -, rfl⟩ := exists_of_decodePayload h
  rw [Json.Payload.said?, hvalue]
  exact Envelope.lawful_shape.1.1.take_of_decode hf henvelope

/-- The field of envelopes that holds the object metadata. -/
abbrev Envelope.objectMetaField : Field Envelope :=
  .written .defaulted "object_meta" (·.objectMeta) (fun v e => { e with objectMeta := v })
    ObjectMeta.shape

/-- Each field of the object metadata is what the payload says of it, or blank. -/
theorem take_objectMeta (h : decodePayload k p = .ok r) {f : Field ObjectMeta}
    (hf : f ∈ ObjectMeta.shape.fields.list) :
    f.take {} (p.saidOfMeta? f.key) = .ok (f.get r.objectMeta) := by
  have hmeta : Envelope.objectMetaField.take {} (p.said? "object_meta") = .ok r.objectMeta :=
    take_envelope h (.tail _ (.tail _ (.head _)))
  rw [Json.Payload.saidOfMeta?]
  cases hsaid : p.said? "object_meta" with
  | none =>
    rw [hsaid] at hmeta
    have hblank : {} = r.objectMeta := Except.ok.inj hmeta
    rw [← hblank]
    rfl
  | some v =>
    rw [hsaid] at hmeta
    exact ObjectMeta.lawful_shape.1.1.take_of_decode hf hmeta

namespace Json.Payload.AgreeOutside

/-- Payloads that agree outside some keys agree outside more of them. -/
theorem mono {more : EnvelopeKeys} (h : p.AgreeOutside owned k q)
    (htop : owned.top ⊆ more.top) (hmeta : owned.objectMeta ⊆ more.objectMeta) :
    p.AgreeOutside more k q where
  spec := h.spec
  envelope key hkey hne howned := h.envelope key hkey hne fun hmem => howned (htop hmem)
  objectMeta key hkey howned := h.objectMeta key hkey fun hmem => howned (hmeta hmem)

/-- Whether two payloads agree is told by what they say under the keys in question. -/
theorem of_map_eq (hspec : k.form.fields.keys.map p.said? = k.form.fields.keys.map q.said?)
    (henvelope : (Envelope.fields.keys.filter (· ∉ "object_meta" :: owned.top)).map p.said? =
      (Envelope.fields.keys.filter (· ∉ "object_meta" :: owned.top)).map q.said?)
    (hmeta : (ObjectMeta.shape.keys.filter (· ∉ owned.objectMeta)).map p.saidOfMeta? =
      (ObjectMeta.shape.keys.filter (· ∉ owned.objectMeta)).map q.saidOfMeta?) :
    p.AgreeOutside owned k q where
  spec := List.map_inj_left.mp hspec
  envelope key hkey hne howned :=
    List.map_inj_left.mp henvelope key (List.mem_filter.mpr ⟨hkey, by simp [hne, howned]⟩)
  objectMeta key hkey howned :=
    List.map_inj_left.mp hmeta key (List.mem_filter.mpr ⟨hkey, decide_eq_true howned⟩)

variable (h : p.AgreeOutside owned k q) (hp : decodePayload k p = .ok r)
  (hq : decodePayload k q = .ok r')

include h hp hq

/-- The fields of the kind are the same. -/
theorem spec_eq : (⟨r.kind, r.spec⟩ : (k : Kind) × k.Spec) = ⟨r'.kind, r'.spec⟩ := by
  obtain ⟨members, envelope, spec, hvalue, -, hspec, rfl⟩ := exists_of_decodePayload hp
  obtain ⟨members', envelope', spec', hvalue', -, hspec', rfl⟩ := exists_of_decodePayload hq
  obtain ⟨hcover, -⟩ := k.lawful_form
  refine congrArg (Sigma.mk k) (hcover.ext spec spec' fun f hf => ?_)
  have hsaid := h.spec f.key (Fields.key_mem_keys hf)
  rw [said?, said?, hvalue, hvalue'] at hsaid
  exact hcover.get_eq_of_said hf hspec hspec' hsaid

/-- The fields of the envelope are the same but for the object metadata and those that are owned. -/
theorem get_envelope_eq {f : Field Envelope} (hf : f ∈ Envelope.fields.list)
    (hne : f.key ≠ "object_meta") (howned : f.key ∉ owned.top) :
    f.get r.envelope = f.get r'.envelope := by
  have htake := take_envelope hp hf
  rw [h.envelope f.key (Fields.key_mem_keys hf) hne howned, take_envelope hq hf] at htake
  exact (Except.ok.inj htake).symm

/-- The fields of the object metadata are the same but for those that are owned. -/
theorem get_objectMeta_eq {f : Field ObjectMeta} (hf : f ∈ ObjectMeta.shape.fields.list)
    (howned : f.key ∉ owned.objectMeta) : f.get r.objectMeta = f.get r'.objectMeta := by
  have hkey : f.key ∈ ObjectMeta.shape.fields.keys := Fields.key_mem_keys hf
  have htake := take_objectMeta hp hf
  rw [h.objectMeta f.key hkey howned, take_objectMeta hq hf] at htake
  exact (Except.ok.inj htake).symm

end Json.Payload.AgreeOutside

namespace Resource

/-- Payloads that agree under all keys from which an update takes something are decoded to resources
that agree in what clients write. -/
theorem clientPart_eq_of_agree (h : p.AgreeOutside ownedOnUpdate k q)
    (hp : decodePayload k p = .ok r) (hq : decodePayload k q = .ok r') :
    r.clientPart = r'.clientPart := by
  have hmeta : ∀ f ∈ ObjectMeta.shape.fields.list, f.key ∉ ownedOnUpdate.objectMeta →
      f.get r.objectMeta = f.get r'.objectMeta := fun f => h.get_objectMeta_eq hp hq
  simp only [ObjectMeta.shape, Shape.fields, Fields.list, Field.written,
    List.forall_mem_cons] at hmeta
  obtain ⟨hname, -, hcluster, hlabels, hannotations, howners, -, -, -, -, hinitializers, -⟩ := hmeta
  rw [clientPart, clientPart, h.spec_eq hp hq, hname (by decide), hlabels (by decide),
    hannotations (by decide), howners (by decide), hcluster (by decide), hinitializers (by decide)]

/-- Payloads that agree under all keys from which a create takes something are decoded to resources
with the same account. -/
theorem account_eq_of_agree (h : p.AgreeOutside ownedOnCreate k q)
    (hp : decodePayload k p = .ok r) (hq : decodePayload k q = .ok r') : r.account = r'.account :=
  h.get_objectMeta_eq hp hq (.tail _ (.head _)) (by decide)

theorem status_eq_of_agree (h : p.AgreeOutside ownedOnCreate k q)
    (hp : decodePayload k p = .ok r) (hq : decodePayload k q = .ok r') : r.status = r'.status :=
  h.get_envelope_eq hp hq (.tail _ (.tail _ (.tail _ (.head _)))) (by decide) (by decide)

end Resource

end ClusterRegistry
