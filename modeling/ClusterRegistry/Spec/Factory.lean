import ClusterRegistry.Spec.Form

/-!
# Factories and what they assemble

A stacks factory stands for one assembly factory, and an assembly factory for as many
assemblies as it has replicas. Both kinds of factories have the same fields: the plan to run,
the resources each replica gets, an optional secret, and how to place the replicas.
-/

namespace ClusterRegistry

/-- One running replica. -/
structure Assembly where
  selector : List String := []
  metadata : Table String String := .empty
  spec : Table String Json := .empty

/-- The secret that a factory uses. -/
structure SecretReference where
  id : String := ""

/-- A taint that replicas put up with. -/
structure Toleration where
  key : String := ""
  operator : String := ""
  value : String := ""
  effect : String := ""

/-- How the replicas of a factory are placed. -/
structure Placement where
  tolerations : List Toleration := []
  nodeSelector : Table String String := .empty
  affinity : Table String String := .empty
  restartPolicy : String := ""

/-- A number of equal replicas. -/
structure Factory where
  replicas : UInt32 := 0
  resources : Table String String := .empty
  secret : SecretReference := {}
  plan : String := ""
  metadata : Table String String := .empty
  spec : Placement := {}

/-- References to secrets in JSON. -/
def SecretReference.shape : Shape SecretReference :=
  .record "SecretReference" {} <|
    .field "id" (·.id) (fun v s => { s with id := v }) .text .none

/-- Tolerations in JSON. -/
def Toleration.shape : Shape Toleration :=
  .record "Toleration" {} <|
    .field "key" (·.key) (fun v t => { t with key := v }) .text <|
    .field "operator" (·.operator) (fun v t => { t with operator := v }) .text <|
    .field "value" (·.value) (fun v t => { t with value := v }) .text <|
    .field "effect" (·.effect) (fun v t => { t with effect := v }) .text
    .none

/-- Placements in JSON. -/
def Placement.shape : Shape Placement :=
  .record "FactorySpec" {} <|
    .field "tolerations" (·.tolerations) (fun v p => { p with tolerations := v })
      (.list Toleration.shape) <|
    .field "node_selector" (·.nodeSelector) (fun v p => { p with nodeSelector := v }) .texts <|
    .field "affinity" (·.affinity) (fun v p => { p with affinity := v }) .texts <|
    .field "restart_policy" (·.restartPolicy) (fun v p => { p with restartPolicy := v }) .text
    .none

/-- The fields of assemblies. -/
def Assembly.form : Form Assembly where
  blank := {}
  fields :=
    .field "selector" (·.selector) (fun v a => { a with selector := v }) (.list .text) <|
    .field "metadata" (·.metadata) (fun v a => { a with metadata := v }) .texts <|
    .field "spec" (·.spec) (fun v a => { a with spec := v }) .members
    .none

/-- The entry of the resources that says how much computing a replica gets. -/
def computeEntry : String := "compute_type"

/-- The entry of the resources that says what storage a replica gets. -/
def storageEntry : String := "storage_type"

/-- The fields of both kinds of factories. -/
def Factory.form : Form Factory where
  blank := {}
  fields :=
    .field "replicas" (·.replicas) (fun v f => { f with replicas := v }) .word32 <|
    .field "resources" (·.resources) (fun v f => { f with resources := v }) .texts <|
    .field "secret" (·.secret) (fun v f => { f with secret := v }) SecretReference.shape <|
    .field "plan" (·.plan) (fun v f => { f with plan := v }) .text <|
    .field "metadata" (·.metadata) (fun v f => { f with metadata := v }) .texts <|
    .field "spec" (·.spec) (fun v f => { f with spec := v }) Placement.shape
    .none
  requirements :=
    [⟨"replicas", fun f => f.replicas != 0⟩, filled "plan" (·.plan),
      entryFilled "resources.compute_type" computeEntry (·.resources),
      entryFilled "resources.storage_type" storageEntry (·.resources)]
  references f := [.must "plan" .plan f.plan, .may "secret.id" .secret f.secret.id]
  replicas f := some f.replicas

end ClusterRegistry
