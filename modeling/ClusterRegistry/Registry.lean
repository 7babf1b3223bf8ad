import ClusterRegistry.Admission.Requirements
import ClusterRegistry.Admission.Resolution
import ClusterRegistry.Scaling.Plan
import ClusterRegistry.Scaling.Recommendation

/-!
# The registry

The registry is what clients talk to: it admits, stores, finds and lists resources, replaces
their spec or their status, and answers for the policies that scale them. Each operation is a
script, so what it does to the store is what its calls do.

What a client may write and what the server writes is settled here. A new resource is
stamped with its id, type, time and upkeep; an update takes over the fields of the kind and
of the metadata only the name, labels, annotations, owners, cluster and initializers.
-/

namespace ClusterRegistry

/-- The finalizers of every stored resource. -/
def standardFinalizers : List String := ["orphan"]

/-- The seconds of grace before a resource is deleted. -/
def graceSeconds : UInt32 := 30

/-- How a registry is set up. -/
structure Registry where
  /-- The version stamped into everything the registry writes. -/
  apiVersion : String
  /-- The most replicas that a factory may ask for. -/
  maxReplicas : UInt32
  /-- The readings of a factory. -/
  metrics : Id → Except MetricsFault (Table String Float)
  /-- The present time as it is stamped. -/
  now : String

/-- No readings at all. -/
def noMetrics (factory : Id) : Except MetricsFault (Table String Float) :=
  .error (.unavailable factory)

/-- The same readings for every factory. -/
def fixedMetrics (usage : Table String Float) (_factory : Id) :
    Except MetricsFault (Table String Float) :=
  .ok usage

/-- The id in a path: a text of another form is refused, and digits that no resource can have
as its id lead to nothing. -/
def pathId (kind : Kind) (raw : String) : Except ApiError Id :=
  match Id.parse raw with
  | .assigned id => .ok id
  | .unassignable => .error (.unassignable kind raw)
  | .malformed => .error (.idNotNumeric raw)

/-- The account in a path. -/
def pathAccount (raw : String) : Except ApiError String :=
  if Id.isNumeral raw then .ok raw else .error (.accountNotNumeric raw)

/-- The resource of a kind that a payload says. -/
def decodePayload (kind : Kind) (payload : Json.Payload) : Except ApiError Resource :=
  (Resource.ofPayload kind payload).mapError .malformedBody

namespace Resource

/-- The resource with the account of a route, if there is one. -/
def inAccount (account : Option String) (r : Resource) : Resource :=
  r.mapMeta fun m => { m with account := account.getD m.account }

/-- The resource with a blank account taken from the stored one. -/
def keepAccount (r stored : Resource) : Resource :=
  r.mapMeta fun m => { m with account := if m.account = "" then stored.account else m.account }

/-- A stored resource with what an update replaces taken from the incoming one. -/
def updatedWith (stored incoming : Resource) : Resource :=
  ((stored.withSpecOf? incoming).getD stored).mapMeta fun m =>
    { m with
      name := incoming.objectMeta.name
      labels := incoming.objectMeta.labels
      annotations := incoming.objectMeta.annotations
      ownerReferences := incoming.objectMeta.ownerReferences
      clusterName := incoming.objectMeta.clusterName
      initializers := incoming.objectMeta.initializers }

/-- The id of the factory that a resource belongs to, if it has one. -/
def factory? (r : Resource) : Option Id := do
  let owner ← r.objectMeta.ownerReferences.find? fun o => o.kind == Kind.assemblyFactory.name
  Id.parse? owner.uid

end Resource

/-! ## Expanding factories -/

namespace Script

/-- The assemblies with the given names, each with a new id. -/
def assemblies (envelope : Envelope) (f : Factory) : List String → Script (List Resource)
  | [] => pure []
  | name :: rest => do
    let id ← drawId
    let others ← assemblies envelope f rest
    pure (assemblyOf envelope f name id :: others)

/-- A resource followed by everything it expands into. -/
def expand (r : Resource) : Script (List Resource) :=
  match r with
  | ⟨.assemblyFactory, envelope, f⟩ => do
    let children ← assemblies envelope f (assemblyNames envelope f)
    pure (r :: children)
  | ⟨.stacksFactory, envelope, f⟩ => do
    let id ← drawId
    let inner := innerFactory envelope f id
    let children ← assemblies inner.envelope f (assemblyNames inner.envelope f)
    pure (r :: inner :: children)
  | r => pure [r]

end Script

namespace Registry

variable (reg : Registry)

/-! ## Writing -/

/-- A payload that was decoded, brought into canonical shape, checked and resolved. -/
def accept (kind : Kind) (payload : Json.Payload) : Script Resource := do
  let r ← .ofExcept (decodePayload kind payload)
  let r := r.canonical
  .ofExcept (r.check reg.maxReplicas)
  .resolved r

/-- A new resource with everything that the server writes. -/
def asCreated (r : Resource) (id : Id) : Resource :=
  { r with
    envelope :=
      { id
        typeMeta := ⟨r.kind.name, reg.apiVersion⟩
        objectMeta :=
          { r.objectMeta with
            createdAt := reg.now
            deletedAt := ""
            finalizers := standardFinalizers
            gracePeriodSeconds := graceSeconds }
        status :=
          { r.status with
            phase := if r.status.phase = "" then pendingPhase else r.status.phase } } }

/-- A new resource, stored with everything it expands into. The account of a route wins over
the one in the payload. -/
def create (kind : Kind) (payload : Json.Payload) (account : Option String) :
    Script Resource := do
  let account ← .ofExcept (account.mapM pathAccount)
  let admitted ← reg.accept kind payload
  let id ← .drawId
  let r := reg.asCreated (admitted.inAccount account) id
  let batch ← .expand r
  .insert batch
  return r

/-- The stored resource of a kind with an id, which must be there. -/
def fetch (kind : Kind) (id : Id) : Script Resource := do
  match ← .get? kind id with
  | some r => return r
  | none => .fail (.notStored kind id)

/-- A stored resource with its spec replaced. -/
def update (kind : Kind) (rawId : String) (payload : Json.Payload) : Script Resource := do
  let id ← .ofExcept (pathId kind rawId)
  let stored ← fetch kind id
  let incoming ← .ofExcept (decodePayload kind payload)
  let incoming := incoming.canonical.keepAccount stored
  .ofExcept (incoming.check reg.maxReplicas)
  let incoming ← .resolved incoming
  match ← .setSpec (stored.updatedWith incoming) with
  | some r => return r
  | none => .fail (.notStored kind id)

/-- A stored resource with its status replaced; the new phase must not be blank. -/
def setStatus (kind : Kind) (rawId : String) (payload : Json.Payload) : Script Resource := do
  let id ← .ofExcept (pathId kind rawId)
  let update ← .ofExcept ((StatusUpdate.shape.ofPayload payload).mapError .malformedBody)
  if update.status.phase = "" then .fail (.missingParameters ["status.phase"])
  else
    match ← .setStatus kind id update.status with
    | some r => return r
    | none => .fail (.notStored kind id)

/-! ## Reading -/

/-- The stored resource of a kind with the id in a path. -/
def get (kind : Kind) (rawId : String) : Script Resource := do
  fetch kind (← .ofExcept (pathId kind rawId))

/-- Resources as a list of the registry. -/
def asList (kind : Kind) (items : List Resource) : ResourceList := ⟨kind, reg.apiVersion, items⟩

/-- A list that must not be empty. -/
def nonemptyList (kind : Kind) (otherwise : ApiError) (items : List Resource) :
    Except ApiError ResourceList :=
  if items.isEmpty then .error otherwise else .ok (reg.asList kind items)

/-- All resources of a kind, of which there may be none. -/
def list (kind : Kind) : Script ResourceList := do
  return reg.asList kind (← .list kind {})

/-- All resources of a kind, of which there must be some. -/
def listSome (kind : Kind) : Script ResourceList := do
  .ofExcept (reg.nonemptyList kind (.noneStored kind) (← .list kind {}))

/-- The resources of a kind in an account, of which there must be some. -/
def listInAccount (kind : Kind) (rawAccount : String) : Script ResourceList := do
  let account ← .ofExcept (pathAccount rawAccount)
  let items ← .list kind { account := some account }
  .ofExcept (reg.nonemptyList kind (.noneInAccount kind account) items)

/-- The resources of a kind that refer to a parent, of which there must be some. -/
def listUnder (kind parent : Kind) (rawParentId : String) : Script ResourceList := do
  let id ← .ofExcept (pathId parent rawParentId)
  let items ← .list kind { parent := some id }
  .ofExcept (reg.nonemptyList kind (.noneUnder kind parent id) items)

/-- The children that describe a resource. -/
def describe (kind : Kind) (rawId : String) : Script ResourceList := do
  let r ← get kind rawId
  match r.kind.row.child with
  | some child => return reg.asList child (← .list child { parent := some r.id })
  | none => .fail (.nothingToDescribe kind)

/-! ## Scaling -/

/-- The stored factory that a policy belongs to. -/
def factoryOf (policy : Resource) : Script Resource :=
  match policy.factory? with
  | none => .fail (.noFactoryOwner policy.kind policy.id)
  | some id => fetch .assemblyFactory id

/-- The factory of a horizontal policy, with what the policy would do to it. -/
def planReplicas (rawId : String) : Script ScaledFactory := do
  let policy ← get .horizontalScaling rawId
  let factory ← factoryOf policy
  let assemblies ← .list .assembly { parent := some factory.id }
  match policy with
  | ⟨.horizontalScaling, envelope, spec⟩ =>
    let spec : HorizontalScaling := spec
    return ⟨factory, .ofPolicy spec.spec envelope.status factory assemblies⟩
  | other => .fail (.misfiled other.kind Kind.horizontalScaling.collection)

/-- The resources that a vertical policy recommends for its factory. -/
def recommendResources (rawId : String) : Script Recommendation := do
  let policy ← get .verticalScaling rawId
  let factory ← factoryOf policy
  let usage ← .ofExcept ((reg.metrics factory.id).mapError (.metricsFailed policy.id))
  match policy with
  | ⟨.verticalScaling, _, spec⟩ =>
    let spec : VerticalScaling := spec
    return .ofPolicy spec.spec factory.id usage
  | other => .fail (.misfiled other.kind Kind.verticalScaling.collection)

end Registry

end ClusterRegistry
