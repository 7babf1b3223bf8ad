import ClusterRegistry.Shape.Read

/-!
# The status of a resource

A status is the phase a resource is in, with a message, a reason and a list of conditions, and
whatever else its kind observes. Clients may write a status as the bare phase or as `null`.
A status update is stricter: its phase must be there.
-/

namespace ClusterRegistry

/-- One observed condition of a resource. -/
structure Condition where
  conditionType : String := ""
  status : String := ""
  reason : String := ""
  message : String := ""
  lastTransitionTime : String := ""
  lastProbeTime : String := ""
  lastUpdateTime : String := ""

/-- The observed state of a resource. -/
structure Status where
  phase : String := ""
  message : String := ""
  reason : String := ""
  conditions : List Condition := []
  /-- What else was observed, under keys of the kind's own choice. -/
  extra : Table String Json := .empty

/-- Conditions in JSON. -/
def Condition.shape : Shape Condition :=
  .record "Condition" {} <|
    .field "condition_type" (·.conditionType) (fun v c => { c with conditionType := v }) .text <|
    .field "status" (·.status) (fun v c => { c with status := v }) .text <|
    .field "reason" (·.reason) (fun v c => { c with reason := v }) .text <|
    .field "message" (·.message) (fun v c => { c with message := v }) .text <|
    .field "last_transition_time" (·.lastTransitionTime)
      (fun v c => { c with lastTransitionTime := v }) .text <|
    .field "last_probe_time" (·.lastProbeTime)
      (fun v c => { c with lastProbeTime := v }) .text <|
    .field "last_update_time" (·.lastUpdateTime)
      (fun v c => { c with lastUpdateTime := v }) .text
    .none

namespace Status

/-- The status that a phase alone makes. -/
def ofPhase (phase : String) : Status := { phase }

/-- The fields of a status; the phase must be given where `presence` says so. -/
def fields (presence : Presence) : Fields Status :=
  .cons presence "phase" (·.phase) (fun v s => { s with phase := v }) .text <|
  .field "message" (·.message) (fun v s => { s with message := v }) .text <|
  .field "reason" (·.reason) (fun v s => { s with reason := v }) .text <|
  .field "conditions" (·.conditions) (fun v s => { s with conditions := v })
    (.list Condition.shape)
  .none

/-- A status as an object, which keeps the keys it does not know. -/
def objectShape (name : String) (presence : Presence) : Shape Status :=
  .extensible name {} (fields presence) (·.extra) fun t s => { s with extra := t }

/-- A status as clients may write it: an object, the bare phase, or `null`. -/
def shape : Shape Status :=
  .abbreviated "StatusRepr" ofPhase {} (objectShape "StatusFields" .defaulted)

/-- The status in an update, whose phase must be given. -/
def patchShape : Shape Status := objectShape "StatusPatch" .required

/-- What was observed under a key. -/
def observation? (s : Status) (key : String) : Option Json := s.extra.get? key

end Status

/-- A request to replace the status of a resource. -/
structure StatusUpdate where
  status : Status

/-- Status updates in JSON. -/
def StatusUpdate.shape : Shape StatusUpdate :=
  .record "StatusUpdate" ⟨{}⟩ <|
    .required "status" (·.status) (fun v u => { u with status := v }) Status.patchShape .none

end ClusterRegistry
