import ClusterRegistry.Meta
import ClusterRegistry.Spec.Access
import ClusterRegistry.Spec.Factory
import ClusterRegistry.Spec.Plan
import ClusterRegistry.Spec.Scaling
import ClusterRegistry.Spec.Site
import ClusterRegistry.Spec.Traffic
import ClusterRegistry.Spec.Work
import ClusterRegistry.Status

/-!
# Resources

A resource is an envelope, which all kinds share, and the fields of its kind. In JSON the two
stand side by side in one object. Decoding walks the object once for the envelope and once
for the fields of the kind, and each walk passes over the keys of the other.
-/

namespace ClusterRegistry

/-- The fields that a resource of a kind has of its own. -/
def Kind.Spec : Kind → Type
  | .assembly => Assembly
  | .assemblyFactory => Factory
  | .stacksFactory => Factory
  | .plan => Plan
  | .buildConfig => BuildConfig
  | .build => Build
  | .imageReference => ImageReference
  | .imageMarks => ImageMarks
  | .node => Node
  | .volume => Volume
  | .job => Job
  | .secret => Secret
  | .service => Service
  | .endpoint => Endpoint
  | .ingress => Ingress
  | .horizontalScaling => HorizontalScaling
  | .verticalScaling => VerticalScaling
  | .team => Team
  | .origin => Origin
  | .role => Role
  | .permission => Permission
  | .storagePool => StoragePool
  | .storageConnector => StorageConnector
  | .network => Network
  | .datacenter => Datacenter
  | .license => License
  | .settingsMap => SettingsMap

/-- What the library knows about the fields of a kind. -/
def Kind.form : (k : Kind) → Form k.Spec
  | .assembly => Assembly.form
  | .assemblyFactory => Factory.form
  | .stacksFactory => Factory.form
  | .plan => Plan.form
  | .buildConfig => BuildConfig.form
  | .build => Build.form
  | .imageReference => ImageReference.form
  | .imageMarks => ImageMarks.form
  | .node => Node.form
  | .volume => Volume.form
  | .job => Job.form
  | .secret => Secret.form
  | .service => Service.form
  | .endpoint => Endpoint.form
  | .ingress => Ingress.form
  | .horizontalScaling => HorizontalScaling.form
  | .verticalScaling => VerticalScaling.form
  | .team => Team.form
  | .origin => Origin.form
  | .role => Role.form
  | .permission => Permission.form
  | .storagePool => StoragePool.form
  | .storageConnector => StorageConnector.form
  | .network => Network.form
  | .datacenter => Datacenter.form
  | .license => License.form
  | .settingsMap => SettingsMap.form

/-- What every resource carries, whatever its kind. -/
structure Envelope where
  id : Id := .unassigned
  typeMeta : TypeMeta := {}
  objectMeta : ObjectMeta := {}
  status : Status := {}

/-- The fields of envelopes. -/
def Envelope.fields : Fields Envelope :=
  .field "id" (·.id) (fun v e => { e with id := v }) Id.shape <|
  .field "type_meta" (·.typeMeta) (fun v e => { e with typeMeta := v }) TypeMeta.shape <|
  .field "object_meta" (·.objectMeta) (fun v e => { e with objectMeta := v })
    ObjectMeta.shape <|
  .field "status" (·.status) (fun v e => { e with status := v }) Status.shape
  .none

/-- A resource: its kind, its envelope, and the fields of its kind. -/
structure Resource where
  kind : Kind
  envelope : Envelope
  spec : kind.Spec

namespace Resource

/-- The id of a resource. -/
def id (r : Resource) : Id := r.envelope.id

/-- The object metadata of a resource. -/
def objectMeta (r : Resource) : ObjectMeta := r.envelope.objectMeta

/-- The status of a resource. -/
def status (r : Resource) : Status := r.envelope.status

/-- The account that a resource belongs to. -/
def account (r : Resource) : String := r.objectMeta.account

/-- The references that the fields of a resource hold. -/
def references (r : Resource) : List FieldReference := r.kind.form.references r.spec

/-- The number of replicas that a resource asks for, if its kind is run as replicas. -/
def replicas (r : Resource) : Option UInt32 := r.kind.form.replicas r.spec

/-- The name that the fields of a resource hold, if its kind has one there. -/
def ownName (r : Resource) : Option String := r.kind.form.ownName r.spec

/-- A resource with its object metadata changed. -/
def mapMeta (f : ObjectMeta → ObjectMeta) (r : Resource) : Resource :=
  { r with envelope := { r.envelope with objectMeta := f r.envelope.objectMeta } }

/-- A resource with another status. -/
def withStatus (r : Resource) (s : Status) : Resource :=
  { r with envelope := { r.envelope with status := s } }

/-- The resource with the fields of another one of its kind; none if the kinds differ. -/
def withSpecOf? (r other : Resource) : Option Resource :=
  if other.kind = r.kind then some { other with envelope := r.envelope } else none

/-- The texts in which a resource names its parents: first the owners, then the fields. -/
def parentUids (r : Resource) : List String :=
  r.objectMeta.ownerReferences.map (·.uid) ++ r.references.map (·.uid)

/-- An id put into an ascending list of distinct ids. -/
def insertId (i : Id) : List Id → List Id
  | [] => [i]
  | j :: rest =>
    match compare i j with
    | .lt => i :: j :: rest
    | .eq => j :: rest
    | .gt => j :: insertId i rest

/-- The ids of the parents of a resource, ascending and each once. -/
def parents (r : Resource) : List Id :=
  (r.parentUids.filterMap Id.parse?).foldr insertId []

/-- The resource of a kind that a JSON value says. -/
def decode (k : Kind) : Json → Except Mismatch Resource
  | .object members => do
    let envelope ← (Shape.record "Envelope" {} Envelope.fields).decode (.object members)
    let spec ← (Shape.record k.name k.form.blank k.form.fields).decode (.object members)
    return ⟨k, envelope, spec⟩
  | v => mismatch v (.record "Object")

/-- The JSON value that says a resource. -/
def encode (r : Resource) : Json :=
  .object (Envelope.fields.encode r.envelope ++ r.kind.form.fields.encode r.spec)

/-- The resource of a kind that a payload says. The whole payload is read first, so that a
fault in the text comes before any mismatch in its shape. -/
def ofPayload (k : Kind) (p : Json.Payload) : Except Mismatch Resource := do
  decode k (← orFault p.value)

end Resource

/-- Resources of one kind, as they are listed. -/
structure ResourceList where
  kind : Kind
  apiVersion : String
  items : List Resource

/-- The JSON value that says a list. -/
def ResourceList.encode (l : ResourceList) : Json :=
  .object [("kind", .text l.kind.listName), ("api_version", .text l.apiVersion),
    ("items", .array (l.items.map Resource.encode))]

end ClusterRegistry
