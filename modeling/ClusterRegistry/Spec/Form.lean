import ClusterRegistry.Kind
import ClusterRegistry.Shape.Read

/-!
# What a kind's own fields bring along

Beside its envelope a resource has fields of its own, and what the rest of the library needs
to know about them is their `Form`: how they look in JSON, which of them must be filled in,
which refer to other resources, and whether they ask for replicas. A requirement goes by the
path under which a client is told that it is not met.
-/

namespace ClusterRegistry

/-- Something that must hold of the fields of a resource. -/
structure Requirement (α : Type) where
  path : String
  met : α → Bool

/-- A field that holds the id of another resource. -/
structure FieldReference where
  field : String
  kind : Kind
  uid : String
  /-- Whether the field may not be blank. -/
  required : Bool
deriving DecidableEq

/-- What the rest of the library needs to know about the fields of a kind. -/
structure Form (α : Type) where
  blank : α
  fields : Fields α
  requirements : List (Requirement α) := []
  references : α → List FieldReference := fun _ => []
  /-- The name that the fields themselves hold, for kinds that have one. -/
  ownName : α → Option String := fun _ => none
  /-- The number of replicas asked for, for kinds that are run as replicas. -/
  replicas : α → Option UInt32 := fun _ => none

/-- A text that must not be blank. -/
def filled {α : Type} (path : String) (get : α → String) : Requirement α :=
  ⟨path, fun a => get a != ""⟩

/-- An entry of a table that must be there and not be blank. -/
def entryFilled {α : Type} (path key : String) (get : α → Table String String) :
    Requirement α :=
  ⟨path, fun a => ((get a).get? key).any (· != "")⟩

/-- A list that must have items, each with a text that is not blank. -/
def eachFilled {α β : Type} (path : String) (items : α → List β) (get : β → String) :
    Requirement α :=
  ⟨path, fun a => !(items a).isEmpty && (items a).all fun b => get b != ""⟩

/-- A reference that must be given. -/
def FieldReference.must (field : String) (kind : Kind) (uid : String) : FieldReference :=
  ⟨field, kind, uid, true⟩

/-- A reference that may be blank. -/
def FieldReference.may (field : String) (kind : Kind) (uid : String) : FieldReference :=
  ⟨field, kind, uid, false⟩

end ClusterRegistry
