import ClusterRegistry.Resource

/-!
# The three parts of a resource

Everything a resource holds is written by one of three hands. Clients write the fields of its
kind and some of its metadata, with a create or an update; a status is written apart; and the
rest is settled by the server when the resource is created. `Resource.eq_of_parts` says that
nothing is left over: two resources that agree in all three parts are equal.
-/

namespace ClusterRegistry

/-- What clients write of a resource. -/
structure ClientPart where
  spec : (k : Kind) × k.Spec
  name : String
  labels : Table String String
  annotations : Table String String
  ownerReferences : List OwnerReference
  clusterName : String
  initializers : Initializers

/-- What the server settles when a resource is created. -/
structure ServerPart where
  id : Id
  typeMeta : TypeMeta
  account : String
  createdAt : String
  deletedAt : String
  finalizers : List String
  gracePeriodSeconds : UInt32

namespace Resource

/-- The part of a resource that clients write. -/
def clientPart (r : Resource) : ClientPart where
  spec := ⟨r.kind, r.spec⟩
  name := r.objectMeta.name
  labels := r.objectMeta.labels
  annotations := r.objectMeta.annotations
  ownerReferences := r.objectMeta.ownerReferences
  clusterName := r.objectMeta.clusterName
  initializers := r.objectMeta.initializers

/-- The part of a resource that the server settles. -/
def serverPart (r : Resource) : ServerPart where
  id := r.id
  typeMeta := r.envelope.typeMeta
  account := r.account
  createdAt := r.objectMeta.createdAt
  deletedAt := r.objectMeta.deletedAt
  finalizers := r.objectMeta.finalizers
  gracePeriodSeconds := r.objectMeta.gracePeriodSeconds

/-- A resource is made of what clients write, what the server settles, and its status. -/
theorem eq_of_parts {r q : Resource} (hclient : r.clientPart = q.clientPart)
    (hserver : r.serverPart = q.serverPart) (hstatus : r.status = q.status) : r = q := by
  obtain ⟨kind, ⟨id, typeMeta, objectMeta, status⟩, spec⟩ := r
  obtain ⟨kind', ⟨id', typeMeta', objectMeta', status'⟩, spec'⟩ := q
  cases objectMeta
  cases objectMeta'
  simp only [clientPart, serverPart, Resource.id, account, Resource.objectMeta, Resource.status,
    ClientPart.mk.injEq, ServerPart.mk.injEq, Sigma.mk.injEq] at hclient hserver hstatus
  obtain ⟨⟨rfl, hspec⟩, rfl, rfl, rfl, rfl, rfl, rfl⟩ := hclient
  obtain ⟨rfl, rfl, rfl, rfl, rfl, rfl, rfl⟩ := hserver
  cases hspec
  cases hstatus
  rfl

/-- A resource of which clients have written the same, with all the rest given. -/
def withRest (r : Resource) (server : ServerPart) (status : Status) : Resource :=
  { r with
    envelope :=
      { id := server.id
        typeMeta := server.typeMeta
        objectMeta :=
          { r.objectMeta with
            account := server.account
            createdAt := server.createdAt
            deletedAt := server.deletedAt
            finalizers := server.finalizers
            gracePeriodSeconds := server.gracePeriodSeconds }
        status } }

/-- Two resources that agree in what clients write differ in the rest alone. -/
theorem exists_withRest {r q : Resource} (h : r.clientPart = q.clientPart) :
    ∃ server status, q = r.withRest server status :=
  ⟨q.serverPart, q.status, eq_of_parts h.symm rfl rfl⟩

end Resource

end ClusterRegistry
