import ClusterRegistry.Store.Script

/-!
# Resolving references

A payload is admitted only if everything it refers to is stored. An owner reference must lead
to a resource of a kind that may own the payload's kind; one without a kind is looked up under
each of these kinds in turn, and the first match fills in the kind, the version and the name
that were left blank. Then every reference in the fields must lead to a resource of its kind.
-/

namespace ClusterRegistry

/-- The version that is filled in for owners. -/
def ownerVersion : String := "v1"

/-- A payload with its owner references as far as they were resolved, and what went wrong
first. -/
structure Resolution where
  resource : Resource
  fault : Option ApiError

/-- The kinds under which an owner is looked up. -/
def OwnerReference.candidates (o : OwnerReference) (child : Kind) :
    Except ApiError (List Kind) :=
  if o.kind = "" then .ok child.owners
  else
    match Kind.ofName? o.kind with
    | some kind =>
      if kind ∈ child.owners then .ok [kind] else .error (.ownerNotAllowed child o.kind)
    | none => .error (.ownerNotAllowed child o.kind)

/-- The id that a reference names. -/
def referenceId (field uid : String) : Except ApiError Id :=
  match Id.parse uid with
  | .assigned id => .ok id
  | _ => .error (.notAnId field uid)

/-- An owner reference with its blanks filled in from the owner found. -/
def OwnerReference.filledFrom (o : OwnerReference) (kind : Kind) (owner : Resource) :
    OwnerReference where
  kind := kind.name
  apiVersion := if o.apiVersion = "" then ownerVersion else o.apiVersion
  name := if o.name = "" then owner.objectMeta.name else o.name
  uid := o.uid
  blockOwnerDeletion := o.blockOwnerDeletion

namespace Script

/-- The owner reference as resolved under the first kind that has its owner. -/
def findOwner (child : Kind) (o : OwnerReference) (id : Id) :
    List Kind → Script (Except ApiError OwnerReference)
  | [] => pure (.error (.ownerUnresolved o.uid child))
  | kind :: rest => do
    match ← get? kind id with
    | some owner => pure (.ok (o.filledFrom kind owner))
    | none => findOwner child o id rest

/-- One owner reference resolved. -/
def matchOwner (child : Kind) (o : OwnerReference) : Script (Except ApiError OwnerReference) :=
  match o.candidates child with
  | .error e => pure (.error e)
  | .ok kinds =>
    match referenceId "owner_references.uid" o.uid with
    | .error e => pure (.error e)
    | .ok id => findOwner child o id kinds

/-- Owner references resolved in turn up to the first that does not resolve. -/
def matchOwners (child : Kind) :
    List OwnerReference → Script (List OwnerReference × Option ApiError)
  | [] => pure ([], none)
  | o :: rest => do
    match ← matchOwner child o with
    | .error e => pure (o :: rest, some e)
    | .ok resolved => do
      let (others, fault) ← matchOwners child rest
      pure (resolved :: others, fault)

/-- The first reference in the fields that does not resolve. -/
def checkReferences : List FieldReference → Script (Option ApiError)
  | [] => pure none
  | f :: rest =>
    if f.uid = "" then checkReferences rest
    else
      match referenceId f.field f.uid with
      | .error e => pure (some e)
      | .ok id => do
        match ← get? f.kind id with
        | some _ => checkReferences rest
        | none => pure (some (.referenceUnresolved f.field f.kind f.uid))

/-- A payload with its references resolved. -/
def resolution (r : Resource) : Script Resolution := do
  let (owners, fault) ← matchOwners r.kind r.objectMeta.ownerReferences
  let resolved := r.mapMeta fun m => { m with ownerReferences := owners }
  match fault with
  | some e => pure ⟨resolved, some e⟩
  | none => do
    let fault ← checkReferences r.references
    pure ⟨resolved, fault⟩

/-- A payload with its references resolved, or the first fault. -/
def resolved (r : Resource) : Script Resource := do
  let outcome ← resolution r
  match outcome.fault with
  | some e => .fail e
  | none => pure outcome.resource

end Script

end ClusterRegistry
