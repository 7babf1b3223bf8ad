import ClusterRegistry.Resource
import ClusterRegistry.Scaling.Quantity

/-!
# Recommended resources

A vertical policy bounds the resources of each replica per metric. The recommendation brings
every reading within its bounds; a reading without bounds stays as it is. A reading that is
not a number gives way to a bound.
-/

namespace ClusterRegistry

/-- The larger of two numbers; what is not a number gives way. -/
def larger (x y : Float) : Float :=
  if x.isNaN then y else if y.isNaN then x else if x < y then y else x

/-- The smaller of two numbers; what is not a number gives way. -/
def smaller (x y : Float) : Float :=
  if x.isNaN then y else if y.isNaN then x else if y < x then y else x

/-- The resources that the replicas of a factory use and those they should have. -/
structure Recommendation where
  factory : Id
  current : Table String String
  desired : Table String String

namespace Recommendation

/-- The bound that a policy sets for a metric, if it is a quantity. -/
def bound (bounds : Table String String) (metric : String) : Option Quantity := do
  Quantity.parse (← bounds.get? metric)

/-- The unit of a metric: that of its upper bound, or else of its lower bound. -/
def unit (policy : VerticalScalingSpec) (metric : String) : String :=
  match bound policy.maxResource metric, bound policy.minResource metric with
  | some q, _ => q.unit
  | none, some q => q.unit
  | none, none => ""

/-- A reading brought within the bounds of its metric, the upper bound last. -/
def within (policy : VerticalScalingSpec) (metric : String) (reading : Float) : Float :=
  let raised := match bound policy.minResource metric with
    | some q => larger reading q.value
    | none => reading
  match bound policy.maxResource metric with
  | some q => smaller raised q.value
  | none => raised

/-- The recommendation of a policy for a factory with the given readings. -/
def ofPolicy (policy : VerticalScalingSpec) (factory : Id) (usage : Table String Float) :
    Recommendation where
  factory := factory
  current := usage.mapValues fun metric reading =>
    Quantity.print ⟨reading, unit policy metric⟩
  desired := usage.mapValues fun metric reading =>
    Quantity.print ⟨within policy metric reading, unit policy metric⟩

/-- The JSON value that says a recommendation. -/
def encode (r : Recommendation) : Json :=
  .object [("factory_id", r.factory.toJson), ("current_resource", Shape.texts.encode r.current),
    ("desired_resource", Shape.texts.encode r.desired)]

end Recommendation

end ClusterRegistry
