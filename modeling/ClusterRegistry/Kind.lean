import ClusterRegistry.Text.Basic

/-!
# The catalogue of kinds

Every resource is of one of twenty-seven kinds. The catalogue has one row per kind: what it
is called, which kinds may own it or be named in its fields, what its envelope must hold, and
which routes it has. Everything else that depends on the kind of a resource is either in this
row or in the form of its own fields.
-/

namespace ClusterRegistry

/-- The kinds of resources, in the order of the catalogue. -/
inductive Kind
  | assembly
  | assemblyFactory
  | stacksFactory
  | plan
  | buildConfig
  | build
  | imageReference
  | imageMarks
  | node
  | volume
  | job
  | secret
  | service
  | endpoint
  | ingress
  | horizontalScaling
  | verticalScaling
  | team
  | origin
  | role
  | permission
  | storagePool
  | storageConnector
  | network
  | datacenter
  | license
  | settingsMap
deriving DecidableEq, Inhabited, Repr

/-- How many owner references a resource must have. -/
inductive OwnerRule
  | optional
  | atLeast (count : Nat)
  | exactlyOne
deriving DecidableEq

/-- How a request without any credentials is turned away. -/
inductive Gate
  | unauthorized
  | notAcceptable
deriving DecidableEq

/-- What the catalogue says about a kind. -/
structure Kind.Row where
  /-- The name in type metadata and messages. -/
  name : String
  /-- The segment of the kind's collection in a path. -/
  collection : String
  /-- The kinds that may stand in owner references. -/
  owners : List Kind := []
  /-- The kinds that are referenced by fields of the resource itself. -/
  fieldParents : List Kind := []
  ownerRule : OwnerRule := .optional
  needsAccount : Bool := true
  needsCluster : Bool := false
  gate : Gate := .notAcceptable
  /-- Whether the kind can be listed and created under an account. -/
  inAccounts : Bool := false
  /-- The kind of the children that describe a resource. -/
  child : Option Kind := none

namespace Kind

/-- The kinds in the order of the catalogue. -/
def all : List Kind :=
  [.assembly, .assemblyFactory, .stacksFactory, .plan, .buildConfig, .build, .imageReference,
    .imageMarks, .node, .volume, .job, .secret, .service, .endpoint, .ingress,
    .horizontalScaling, .verticalScaling, .team, .origin, .role, .permission, .storagePool,
    .storageConnector, .network, .datacenter, .license, .settingsMap]

/-- Every kind stands in the catalogue. -/
theorem mem_all (k : Kind) : k ∈ all := by cases k <;> decide

/-- The row of a kind. -/
def row : Kind → Row
  | .assembly =>
    { name := "Assembly", collection := "assemblys", owners := [.assemblyFactory],
      needsCluster := true, inAccounts := true, child := some .volume }
  | .assemblyFactory =>
    { name := "AssemblyFactory", collection := "assemblyfactorys", owners := [.stacksFactory],
      fieldParents := [.plan, .secret], needsCluster := true, gate := .unauthorized,
      inAccounts := true, child := some .assembly }
  | .stacksFactory =>
    { name := "StacksFactory", collection := "stacksfactorys", fieldParents := [.plan, .secret],
      needsCluster := true, gate := .unauthorized, inAccounts := true,
      child := some .assemblyFactory }
  | .plan => { name := "Plan", collection := "plans", needsAccount := false }
  | .buildConfig =>
    { name := "BuildConfig", collection := "buildconfigs", owners := [.assemblyFactory],
      ownerRule := .atLeast 1, inAccounts := true, child := some .build }
  | .build =>
    { name := "Build", collection := "builds", owners := [.buildConfig],
      ownerRule := .atLeast 1, gate := .unauthorized, inAccounts := true,
      child := some .imageMarks }
  | .imageReference =>
    { name := "ImageReference", collection := "imagereferences", owners := [.buildConfig],
      ownerRule := .atLeast 1 }
  | .imageMarks =>
    { name := "ImageMarks", collection := "imagemarks", owners := [.build],
      ownerRule := .atLeast 1, gate := .unauthorized }
  | .node => { name := "Node", collection := "nodes", needsAccount := false }
  | .volume =>
    { name := "Volume", collection := "volumes", owners := [.assembly, .storagePool],
      inAccounts := true }
  | .job =>
    { name := "Job", collection := "jobs", owners := [.assembly, .assemblyFactory, .node],
      fieldParents := [.node], gate := .unauthorized }
  | .secret =>
    { name := "Secret", collection := "secrets", gate := .unauthorized, inAccounts := true }
  | .service =>
    { name := "Service", collection := "services", owners := [.assemblyFactory],
      ownerRule := .atLeast 1, gate := .unauthorized, inAccounts := true }
  | .endpoint =>
    { name := "Endpoint", collection := "endpoints", owners := [.assembly],
      ownerRule := .atLeast 1, gate := .unauthorized }
  | .ingress =>
    { name := "Ingress", collection := "ingresses", owners := [.assemblyFactory, .service],
      ownerRule := .atLeast 2, gate := .unauthorized }
  | .horizontalScaling =>
    { name := "HorizontalScaling", collection := "horizontalscaling",
      owners := [.assemblyFactory], ownerRule := .exactlyOne }
  | .verticalScaling =>
    { name := "VerticalScaling", collection := "verticalscaling",
      owners := [.assemblyFactory], ownerRule := .exactlyOne }
  | .team => { name := "Team", collection := "teams", needsCluster := true, inAccounts := true }
  | .origin =>
    { name := "Origin", collection := "origins", gate := .unauthorized, inAccounts := true }
  | .role => { name := "Role", collection := "roles", needsAccount := false }
  | .permission =>
    { name := "Permission", collection := "permissions", fieldParents := [.role],
      needsAccount := false }
  | .storagePool =>
    { name := "StoragePool", collection := "storagespool", fieldParents := [.storageConnector],
      needsAccount := false }
  | .storageConnector =>
    { name := "StorageConnector", collection := "storageconnectors", needsAccount := false }
  | .network =>
    { name := "Network", collection := "networks", needsAccount := false,
      gate := .unauthorized }
  | .datacenter =>
    { name := "Datacenter", collection := "datacenters",
      fieldParents := [.node, .network, .storageConnector], needsAccount := false }
  | .license =>
    { name := "License", collection := "licenses", needsAccount := false,
      gate := .unauthorized }
  | .settingsMap =>
    { name := "SettingsMap", collection := "settingsmap", needsAccount := false }

/-- The name of a kind. -/
def name (k : Kind) : String := k.row.name

/-- The path segment of the collection of a kind. -/
def collection (k : Kind) : String := k.row.collection

/-- The kinds that may own a resource of a kind. -/
def owners (k : Kind) : List Kind := k.row.owners

/-- The kinds that fields of a resource of a kind refer to. -/
def fieldParents (k : Kind) : List Kind := k.row.fieldParents

/-- The kinds under which a resource of a kind is listed: its owners, then the others that
its fields refer to. -/
def parents (k : Kind) : List Kind :=
  k.owners ++ k.fieldParents.filter fun p => !k.owners.contains p

/-- The name of a list of resources of a kind. -/
def listName (k : Kind) : String := k.name ++ "List"

/-- The kind that a name belongs to, whatever the case of its letters. -/
def ofName? (name : String) : Option Kind :=
  all.find? fun k => Text.sameIgnoringCase k.name name

/-- A kind is found under its own name. -/
theorem ofName?_name (k : Kind) : ofName? k.name = some k := by cases k <;> decide

/-- The place of a kind in the catalogue. -/
def ordinal (k : Kind) : Nat := k.ctorIdx

theorem ordinal_inj {a b : Kind} (h : a.ordinal = b.ordinal) : a = b := by
  have hall : ∀ k : Kind, all[k.ordinal]? = some k := fun k => by cases k <;> decide
  exact Option.some.inj ((hall a).symm.trans (h ▸ hall b))

instance : Ord Kind := ⟨compareOn Kind.ordinal⟩

instance : Std.TransOrd Kind := inferInstanceAs (Std.TransCmp (compareOn Kind.ordinal))

instance : Std.LawfulEqOrd Kind where
  eq_of_compare {a b} h := by
    have ho : compare a.ordinal b.ordinal = .eq := h
    exact ordinal_inj (Std.compare_eq_iff_eq.mp ho)
  compare_self {a} := Std.compare_self

end Kind

end ClusterRegistry
