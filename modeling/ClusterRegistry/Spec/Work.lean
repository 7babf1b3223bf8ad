import ClusterRegistry.Spec.Form

/-!
# Volumes, jobs and builds

Volumes hold the data of an assembly, jobs act on one, and builds turn a configuration into
images that are referenced and marked.
-/

namespace ClusterRegistry

/-- A volume. -/
structure Volume where
  mountPath : String := ""
  allocated : String := ""
  settingMap : Table String Json := .empty
  source : Table String Json := .empty

/-- What a job does, and on which node. -/
structure JobSpec where
  nodeId : String := ""
  group : String := ""
  action : String := ""

/-- A job. -/
structure Job where
  spec : JobSpec := {}

/-- How something is built. -/
structure BuildConfig where
  metaData : Table String String := .empty
  spec : Table String Json := .empty

/-- One run of a build. -/
structure Build where
  spec : Table String Json := .empty

/-- Which marks of an image are looked up. -/
structure ImageReferenceSpec where
  lookupPolicy : Bool := false
  mapMarks : Table String String := .empty

/-- A reference to an image. -/
structure ImageReference where
  spec : ImageReferenceSpec := {}

/-- The marks of an image. -/
structure ImageMarks where
  lookupPolicy : Bool := false
  generation : UInt64 := 0
  image : Table String Json := .empty

/-- The fields of volumes. -/
def Volume.form : Form Volume where
  blank := {}
  fields :=
    .field "mount_path" (·.mountPath) (fun v x => { x with mountPath := v }) .text <|
    .field "allocated" (·.allocated) (fun v x => { x with allocated := v }) .text <|
    .field "setting_map" (·.settingMap) (fun v x => { x with settingMap := v }) .members <|
    .field "source" (·.source) (fun v x => { x with source := v }) .members
    .none
  requirements := [filled "mount_path" (·.mountPath), filled "allocated" (·.allocated)]

/-- What a job does, in JSON. -/
def JobSpec.shape : Shape JobSpec :=
  .record "JobSpec" {} <|
    .field "node_id" (·.nodeId) (fun v s => { s with nodeId := v }) .text <|
    .field "group" (·.group) (fun v s => { s with group := v }) .text <|
    .field "action" (·.action) (fun v s => { s with action := v }) .text
    .none

/-- The fields of jobs. -/
def Job.form : Form Job where
  blank := {}
  fields := .field "spec" (·.spec) (fun v j => { j with spec := v }) JobSpec.shape .none
  requirements := [filled "spec.group" (·.spec.group), filled "spec.action" (·.spec.action)]
  references j := [.may "spec.node_id" .node j.spec.nodeId]

/-- The fields of build configurations. -/
def BuildConfig.form : Form BuildConfig where
  blank := {}
  fields :=
    .field "meta_data" (·.metaData) (fun v b => { b with metaData := v }) .texts <|
    .field "spec" (·.spec) (fun v b => { b with spec := v }) .members
    .none

/-- The fields of builds. -/
def Build.form : Form Build where
  blank := {}
  fields := .field "spec" (·.spec) (fun v b => { b with spec := v }) .members .none

/-- Which marks are looked up, in JSON. -/
def ImageReferenceSpec.shape : Shape ImageReferenceSpec :=
  .record "ImageReferenceSpec" {} <|
    .field "lookup_policy" (·.lookupPolicy) (fun v s => { s with lookupPolicy := v }) .flag <|
    .field "map_marks" (·.mapMarks) (fun v s => { s with mapMarks := v }) .texts
    .none

/-- The fields of image references. -/
def ImageReference.form : Form ImageReference where
  blank := {}
  fields :=
    .field "spec" (·.spec) (fun v i => { i with spec := v }) ImageReferenceSpec.shape .none

/-- The fields of image marks. -/
def ImageMarks.form : Form ImageMarks where
  blank := {}
  fields :=
    .field "lookup_policy" (·.lookupPolicy) (fun v i => { i with lookupPolicy := v }) .flag <|
    .field "generation" (·.generation) (fun v i => { i with generation := v }) .word64 <|
    .field "image" (·.image) (fun v i => { i with image := v }) .members
    .none

end ClusterRegistry
