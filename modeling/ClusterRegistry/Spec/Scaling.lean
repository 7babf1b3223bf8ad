import ClusterRegistry.Spec.Form

/-!
# Scaling policies

A horizontal policy bounds the number of replicas of a factory, a vertical policy the
resources each replica gets.
-/

namespace ClusterRegistry

/-- How long a metric is watched. -/
structure TimeSpec where
  scaleUpBy : String := ""
  scaleDownBy : String := ""

/-- The target of a metric. -/
structure MetricResource where
  name : String := ""
  minTargetValue : String := ""
  maxTargetValue : String := ""
  metricTimeSpec : TimeSpec := {}

/-- A metric that a policy watches. -/
structure Metric where
  metricType : String := ""
  object : Table String Json := .empty
  resource : MetricResource := {}

/-- The bounds of a horizontal policy. -/
structure HorizontalScalingSpec where
  minReplicas : UInt32 := 0
  maxReplicas : UInt32 := 0
  scaleUpWaitTime : Json := .null
  scaleDownWaitTime : Json := .null
  metrics : List Metric := []

/-- A policy for the number of replicas. -/
structure HorizontalScaling where
  scaleType : String := ""
  state : String := ""
  metadata : Table String String := .empty
  spec : HorizontalScalingSpec := {}

/-- How a vertical policy is carried out. -/
structure UpdatePolicy where
  mode : String := ""

/-- The bounds of a vertical policy. -/
structure VerticalScalingSpec where
  scaleUpWaitTime : Json := .null
  scaleDownWaitTime : Json := .null
  minResource : Table String String := .empty
  maxResource : Table String String := .empty
  metrics : List Metric := []

/-- A policy for the resources of each replica. -/
structure VerticalScaling where
  scaleType : String := ""
  state : String := ""
  updatePolicy : UpdatePolicy := {}
  metadata : Table String String := .empty
  spec : VerticalScalingSpec := {}

/-- Times in JSON. -/
def TimeSpec.shape : Shape TimeSpec :=
  .record "TimeSpec" {} <|
    .field "scale_up_by" (·.scaleUpBy) (fun v t => { t with scaleUpBy := v }) .text <|
    .field "scale_down_by" (·.scaleDownBy) (fun v t => { t with scaleDownBy := v }) .text
    .none

/-- Targets in JSON. -/
def MetricResource.shape : Shape MetricResource :=
  .record "MetricResource" {} <|
    .field "name" (·.name) (fun v r => { r with name := v }) .text <|
    .field "min_target_value" (·.minTargetValue) (fun v r => { r with minTargetValue := v })
      .text <|
    .field "max_target_value" (·.maxTargetValue) (fun v r => { r with maxTargetValue := v })
      .text <|
    .field "metric_time_spec" (·.metricTimeSpec) (fun v r => { r with metricTimeSpec := v })
      TimeSpec.shape
    .none

/-- Metrics in JSON. -/
def Metric.shape : Shape Metric :=
  .record "Metric" {} <|
    .field "metric_type" (·.metricType) (fun v m => { m with metricType := v }) .text <|
    .field "object" (·.object) (fun v m => { m with object := v }) .members <|
    .field "resource" (·.resource) (fun v m => { m with resource := v }) MetricResource.shape
    .none

/-- The bounds of a horizontal policy in JSON. -/
def HorizontalScalingSpec.shape : Shape HorizontalScalingSpec :=
  .record "HorizontalScalingSpec" {} <|
    .field "min_replicas" (·.minReplicas) (fun v s => { s with minReplicas := v }) .word32 <|
    .field "max_replicas" (·.maxReplicas) (fun v s => { s with maxReplicas := v }) .word32 <|
    .field "scale_up_wait_time" (·.scaleUpWaitTime) (fun v s => { s with scaleUpWaitTime := v })
      .json <|
    .field "scale_down_wait_time" (·.scaleDownWaitTime)
      (fun v s => { s with scaleDownWaitTime := v }) .json <|
    .field "metrics" (·.metrics) (fun v s => { s with metrics := v }) (.list Metric.shape)
    .none

/-- The fields of horizontal policies. -/
def HorizontalScaling.form : Form HorizontalScaling where
  blank := {}
  fields :=
    .field "scale_type" (·.scaleType) (fun v h => { h with scaleType := v }) .text <|
    .field "state" (·.state) (fun v h => { h with state := v }) .text <|
    .field "metadata" (·.metadata) (fun v h => { h with metadata := v }) .texts <|
    .field "spec" (·.spec) (fun v h => { h with spec := v }) HorizontalScalingSpec.shape
    .none
  requirements :=
    [filled "scale_type" (·.scaleType), filled "state" (·.state),
      ⟨"spec.max_replicas", fun h => decide (h.spec.minReplicas ≤ h.spec.maxReplicas)⟩]

/-- Update policies in JSON. -/
def UpdatePolicy.shape : Shape UpdatePolicy :=
  .record "UpdatePolicy" {} <|
    .field "mode" (·.mode) (fun v u => { u with mode := v }) .text .none

/-- The bounds of a vertical policy in JSON. -/
def VerticalScalingSpec.shape : Shape VerticalScalingSpec :=
  .record "VerticalScalingSpec" {} <|
    .field "scale_up_wait_time" (·.scaleUpWaitTime) (fun v s => { s with scaleUpWaitTime := v })
      .json <|
    .field "scale_down_wait_time" (·.scaleDownWaitTime)
      (fun v s => { s with scaleDownWaitTime := v }) .json <|
    .field "min_resource" (·.minResource) (fun v s => { s with minResource := v }) .texts <|
    .field "max_resource" (·.maxResource) (fun v s => { s with maxResource := v }) .texts <|
    .field "metrics" (·.metrics) (fun v s => { s with metrics := v }) (.list Metric.shape)
    .none

/-- The fields of vertical policies. -/
def VerticalScaling.form : Form VerticalScaling where
  blank := {}
  fields :=
    .field "scale_type" (·.scaleType) (fun v s => { s with scaleType := v }) .text <|
    .field "state" (·.state) (fun v s => { s with state := v }) .text <|
    .field "update_policy" (·.updatePolicy) (fun v s => { s with updatePolicy := v })
      UpdatePolicy.shape <|
    .field "metadata" (·.metadata) (fun v s => { s with metadata := v }) .texts <|
    .field "spec" (·.spec) (fun v s => { s with spec := v }) VerticalScalingSpec.shape
    .none
  requirements := [filled "scale_type" (·.scaleType)]

end ClusterRegistry
