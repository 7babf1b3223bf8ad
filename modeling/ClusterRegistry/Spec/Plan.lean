import ClusterRegistry.Meta
import ClusterRegistry.Spec.Form
import ClusterRegistry.Status

/-!
# Plans

A plan describes what factories can run. It lists its variants, each with metadata, a status
and a life cycle of its own.
-/

namespace ClusterRegistry

/-- One variant of a plan. -/
structure PlanProperties where
  objectMeta : ObjectMeta := {}
  metadata : Table String String := .empty
  category : String := ""
  version : String := ""
  characteristics : Table String String := .empty
  icon : String := ""
  description : String := ""
  status : Status := {}
  lifecycle : Table String Json := .empty

/-- A plan. -/
structure Plan where
  metaData : Table String String := .empty
  plans : List PlanProperties := []
  category : String := ""
  version : String := ""
  characteristics : Table String String := .empty
  icon : String := ""
  description : String := ""

/-- Variants of plans in JSON. -/
def PlanProperties.shape : Shape PlanProperties :=
  .record "PlanProperties" {} <|
    .field "object_meta" (·.objectMeta) (fun v p => { p with objectMeta := v })
      ObjectMeta.shape <|
    .field "metadata" (·.metadata) (fun v p => { p with metadata := v }) .texts <|
    .field "category" (·.category) (fun v p => { p with category := v }) .text <|
    .field "version" (·.version) (fun v p => { p with version := v }) .text <|
    .field "characteristics" (·.characteristics) (fun v p => { p with characteristics := v })
      .texts <|
    .field "icon" (·.icon) (fun v p => { p with icon := v }) .text <|
    .field "description" (·.description) (fun v p => { p with description := v }) .text <|
    .field "status" (·.status) (fun v p => { p with status := v }) Status.shape <|
    .field "lifecycle" (·.lifecycle) (fun v p => { p with lifecycle := v }) .members
    .none

/-- The fields of plans. -/
def Plan.form : Form Plan where
  blank := {}
  fields :=
    .field "meta_data" (·.metaData) (fun v p => { p with metaData := v }) .texts <|
    .field "plans" (·.plans) (fun v p => { p with plans := v }) (.list PlanProperties.shape) <|
    .field "category" (·.category) (fun v p => { p with category := v }) .text <|
    .field "version" (·.version) (fun v p => { p with version := v }) .text <|
    .field "characteristics" (·.characteristics) (fun v p => { p with characteristics := v })
      .texts <|
    .field "icon" (·.icon) (fun v p => { p with icon := v }) .text <|
    .field "description" (·.description) (fun v p => { p with description := v }) .text
    .none
  requirements := [filled "category" (·.category), filled "version" (·.version)]

end ClusterRegistry
