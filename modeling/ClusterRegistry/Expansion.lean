import ClusterRegistry.Resource
import ClusterRegistry.Text.Basic

/-!
# What a resource expands into

A factory is stored together with the assemblies it stands for, and a stack together with
its factory and that factory's assemblies. A child takes account, cluster, labels and upkeep
from its owner and refers back to it. Names of replicas carry their index in the first label:
`web.example.org` becomes `web1.example.org`, `web2.example.org`, and so on; a single replica
keeps the name.
-/

namespace ClusterRegistry

/-! ## Names of replicas -/

/-- The name of the replica with an index among `total` ones. -/
def replicaName (base : String) (index total : Nat) : String :=
  if total ≤ 1 then base
  else
    match Text.splitFirst '.' base.toList with
    | some (label, domain) =>
      String.ofList (label ++ Nat.toDigits 10 index ++ '.' :: domain)
    | none => base ++ toString index

/-- The names of the replicas `first` to `last` among `total` ones. -/
def replicaNames (base : String) (first last total : Nat) : List String :=
  (List.range' first (last + 1 - first)).map fun i => replicaName base i total

/-! ## Children -/

/-- The phase of a resource that nothing has been observed of. -/
def pendingPhase : String := "pending"

/-- The owner reference that links a child to its owner. -/
def Resource.ownerLink (owner : Resource) : OwnerReference where
  kind := owner.kind.name
  apiVersion := owner.envelope.typeMeta.apiVersion
  name := owner.objectMeta.name
  uid := owner.id.digits

/-- The envelope of a child that is created on behalf of its owner. -/
def Resource.envelopeFor (owner : Resource) (kind : Kind) (name : String) (id : Id) :
    Envelope where
  id := id
  typeMeta := ⟨kind.name, owner.envelope.typeMeta.apiVersion⟩
  objectMeta :=
    { name
      account := owner.objectMeta.account
      clusterName := owner.objectMeta.clusterName
      labels := owner.objectMeta.labels
      ownerReferences := [owner.ownerLink]
      createdAt := owner.objectMeta.createdAt
      gracePeriodSeconds := owner.objectMeta.gracePeriodSeconds
      finalizers := owner.objectMeta.finalizers }
  status := .ofPhase pendingPhase

/-- A factory as a resource. -/
def Resource.ofFactory (envelope : Envelope) (f : Factory) : Resource :=
  ⟨.assemblyFactory, envelope, f⟩

/-- One assembly of a factory. -/
def assemblyOf (envelope : Envelope) (f : Factory) (name : String) (id : Id) : Resource :=
  ⟨.assembly, (Resource.ofFactory envelope f).envelopeFor .assembly name id,
    ({ metadata := f.metadata } : Assembly)⟩

/-- The names of the assemblies of a factory. -/
def assemblyNames (envelope : Envelope) (f : Factory) : List String :=
  replicaNames envelope.objectMeta.name 1 f.replicas.toNat f.replicas.toNat

/-- The factory that a stack stands for. -/
def innerFactory (envelope : Envelope) (f : Factory) (id : Id) : Resource :=
  .ofFactory
    ((⟨.stacksFactory, envelope, f⟩ : Resource).envelopeFor .assemblyFactory
      envelope.objectMeta.name id) f

end ClusterRegistry
