import ClusterRegistry.Expansion

/-!
# Plans for the number of replicas

A plan says what a horizontal policy would do to its factory right now. The number of
replicas asked for, or else the present one, is brought within the bounds of the policy; the
names of the replicas to add follow on from the present ones, and of surplus replicas the
newest go first.
-/

namespace ClusterRegistry

/-- What a horizontal policy would do to a factory. -/
structure ScalingPlan where
  factory : Id
  currentReplicas : UInt32
  desiredReplicas : UInt32
  /-- The names of the replicas to add. -/
  toDeploy : List String
  /-- The ids of the replicas to remove, newest first. -/
  toRetire : List Id

/-- The observation under which a policy says how many replicas are asked for. -/
def desiredReplicasKey : String := "desired_replicas"

/-- The number of replicas that a status asks for. -/
def Status.requestedReplicas (s : Status) : Option UInt32 := do
  (Shape.word32.decode (← s.observation? desiredReplicasKey)).toOption

namespace ScalingPlan

/-- A number brought within bounds; where the bounds cross, the upper one counts. -/
def clamp (lower upper n : UInt32) : UInt32 := min (max n lower) upper

/-- The plan of a policy for a factory with the given assemblies, oldest first. -/
def ofPolicy (policy : HorizontalScalingSpec) (status : Status) (factory : Resource)
    (assemblies : List Resource) : ScalingPlan :=
  let current := UInt32.ofNat assemblies.length
  let requested := status.requestedReplicas.getD current
  let desired := clamp policy.minReplicas policy.maxReplicas requested
  { factory := factory.id
    currentReplicas := current
    desiredReplicas := desired
    toDeploy :=
      if current < desired then
        replicaNames factory.objectMeta.name (current.toNat + 1) desired.toNat desired.toNat
      else []
    toRetire :=
      (assemblies.reverse.take (current.toNat - desired.toNat)).map Resource.id }

/-- The JSON value that says a plan. -/
def encode (p : ScalingPlan) : Json :=
  .object [("factory_id", p.factory.toJson), ("current_replicas", .ofNat p.currentReplicas.toNat),
    ("desired_replicas", .ofNat p.desiredReplicas.toNat),
    ("to_deploy", .array (p.toDeploy.map .text)),
    ("to_retire", .array (p.toRetire.map Id.toJson))]

end ScalingPlan

/-- A factory with the plan for it. -/
structure ScaledFactory where
  factory : Resource
  plan : ScalingPlan

/-- The JSON value that says a factory with its plan among its fields. -/
def ScaledFactory.encode (s : ScaledFactory) : Json :=
  .object ((s.factory.encode.members?.getD []) ++ [("scaling", s.plan.encode)])

end ClusterRegistry
