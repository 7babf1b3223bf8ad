import ClusterRegistry.Id

/-!
# Metadata that every resource carries

The type metadata says what a resource is, the object metadata what it is called, whom it
belongs to, and how the server handles it. An owner reference links a resource to one that
owns it; clients may leave everything but the `uid` blank, and admission fills in the rest.
-/

namespace ClusterRegistry

/-- The kind of a resource and the version of the interface that wrote it. -/
structure TypeMeta where
  kind : String := ""
  apiVersion : String := ""

/-- A link to a resource that owns this one. -/
structure OwnerReference where
  kind : String := ""
  apiVersion : String := ""
  name : String := ""
  uid : String := ""
  blockOwnerDeletion : Bool := false

/-- A link with neither kind nor name nor `uid` refers to nothing and is dropped. -/
def OwnerReference.isBlank (o : OwnerReference) : Bool :=
  o.kind == "" && o.name == "" && o.uid == ""

/-- Something that has yet to prepare a resource. -/
structure Initializer where
  name : String := ""

/-- What has yet to prepare a resource, and what came of it. -/
structure Initializers where
  pending : List Initializer := []
  result : Option Json := none

/-- Name, place and upkeep of a resource. -/
structure ObjectMeta where
  name : String := ""
  account : String := ""
  clusterName : String := ""
  labels : Table String String := .empty
  annotations : Table String String := .empty
  ownerReferences : List OwnerReference := []
  createdAt : String := ""
  deletedAt : String := ""
  gracePeriodSeconds : UInt32 := 0
  finalizers : List String := []
  initializers : Initializers := {}

/-- Type metadata in JSON. -/
def TypeMeta.shape : Shape TypeMeta :=
  .record "TypeMeta" {} <|
    .field "kind" (·.kind) (fun v m => { m with kind := v }) .text <|
    .field "api_version" (·.apiVersion) (fun v m => { m with apiVersion := v }) .text
    .none

/-- Owner references in JSON. -/
def OwnerReference.shape : Shape OwnerReference :=
  .record "OwnerReference" {} <|
    .field "kind" (·.kind) (fun v o => { o with kind := v }) .text <|
    .field "api_version" (·.apiVersion) (fun v o => { o with apiVersion := v }) .text <|
    .field "name" (·.name) (fun v o => { o with name := v }) .text <|
    .field "uid" (·.uid) (fun v o => { o with uid := v }) .text <|
    .field "block_owner_deletion" (·.blockOwnerDeletion)
      (fun v o => { o with blockOwnerDeletion := v }) .flag
    .none

/-- Initializers in JSON. -/
def Initializer.shape : Shape Initializer :=
  .record "Initializer" {} <| .field "name" (·.name) (fun v i => { i with name := v }) .text .none

/-- The state of preparation in JSON. -/
def Initializers.shape : Shape Initializers :=
  .record "Initializers" {} <|
    .field "pending" (·.pending) (fun v i => { i with pending := v }) (.list Initializer.shape) <|
    .omittable "result" (·.result) (fun v i => { i with result := v }) .json .none

/-- Object metadata in JSON. -/
def ObjectMeta.shape : Shape ObjectMeta :=
  .record "ObjectMeta" {} <|
    .field "name" (·.name) (fun v m => { m with name := v }) .text <|
    .field "account" (·.account) (fun v m => { m with account := v }) .text <|
    .field "cluster_name" (·.clusterName) (fun v m => { m with clusterName := v }) .text <|
    .field "labels" (·.labels) (fun v m => { m with labels := v }) .texts <|
    .field "annotations" (·.annotations) (fun v m => { m with annotations := v }) .texts <|
    .field "owner_references" (·.ownerReferences) (fun v m => { m with ownerReferences := v })
      (.list OwnerReference.shape) <|
    .field "created_at" (·.createdAt) (fun v m => { m with createdAt := v }) .text <|
    .field "deleted_at" (·.deletedAt) (fun v m => { m with deletedAt := v }) .text <|
    .field "deletion_grace_period_seconds" (·.gracePeriodSeconds)
      (fun v m => { m with gracePeriodSeconds := v }) .word32 <|
    .field "finalizers" (·.finalizers) (fun v m => { m with finalizers := v }) (.list .text) <|
    .field "initializers" (·.initializers) (fun v m => { m with initializers := v })
      Initializers.shape
    .none

end ClusterRegistry
