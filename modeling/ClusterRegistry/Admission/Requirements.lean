import ClusterRegistry.Error
import ClusterRegistry.Resource

/-!
# What a payload must hold

Before a payload meets the store it is brought into canonical shape and checked against the
catalogue. All requirements are checked and all that are not met are reported, in one fixed
order: those of the envelope, those of the kind's own fields, and last the limit on replicas.
-/

namespace ClusterRegistry

namespace Resource

/-- Canonical shape: a blank name is taken from the fields, if they hold one, and owner
references that refer to nothing are dropped. -/
def canonical (r : Resource) : Resource :=
  r.mapMeta fun m =>
    { m with
      name := if m.name = "" then r.ownName.getD "" else m.name
      ownerReferences := m.ownerReferences.filter fun o => !o.isBlank }

end Resource

/-- Whether a number of owner references is allowed. -/
def OwnerRule.allows : OwnerRule → Nat → Bool
  | .optional, _ => true
  | .atLeast count, n => decide (count ≤ n)
  | .exactlyOne, n => decide (n = 1)

/-- The requirements that a kind makes on envelopes. -/
def Kind.envelopeRequirements (k : Kind) : List (Requirement ObjectMeta) :=
  [filled "name" (·.name),
    ⟨"account", fun m => !k.row.needsAccount || m.account != ""⟩,
    ⟨"cluster_name", fun m => !k.row.needsCluster || m.clusterName != ""⟩,
    ⟨"owner_references", fun m => k.row.ownerRule.allows m.ownerReferences.length⟩,
    ⟨"owner_references.uid", fun m => m.ownerReferences.all fun o => o.uid != ""⟩]

/-- The paths of the requirements that are not met. -/
def unmet {α : Type} (requirements : List (Requirement α)) (a : α) : List String :=
  (requirements.filter fun q => !q.met a).map (·.path)

namespace Resource

/-- The paths of the requirements of its kind that a resource does not meet. -/
def missing (r : Resource) : List String :=
  unmet r.kind.envelopeRequirements r.objectMeta ++ unmet r.kind.form.requirements r.spec

/-- Whether a resource asks for more replicas than allowed. -/
def exceeds (maxReplicas : UInt32) (r : Resource) : Bool :=
  r.replicas.any fun n => decide (maxReplicas < n)

/-- Everything that is missing or out of bounds. -/
def faults (maxReplicas : UInt32) (r : Resource) : List String :=
  r.missing ++ if r.exceeds maxReplicas then ["replicas"] else []

/-- A resource passes if nothing is missing or out of bounds. -/
def check (maxReplicas : UInt32) (r : Resource) : Except ApiError Unit :=
  match r.faults maxReplicas with
  | [] => .ok ()
  | paths => .error (.missingParameters paths)

end Resource

end ClusterRegistry
