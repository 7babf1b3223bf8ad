import ClusterRegistry.Error
import ClusterRegistry.Resource

/-!
# The store

The store keeps resources by kind and id, and beside each of them the ids of its parents,
by which children are listed. A batch is inserted as a whole or not at all. Spec and status
are written separately: a write to the one keeps the stored value of the other.
-/

namespace ClusterRegistry

/-- The place of a resource in the store. -/
structure Address where
  kind : Kind
  id : Id
deriving DecidableEq

/-- How the place of a resource compares with another: by kind first and then by id. -/
def Address.order : Address → Address → Ordering :=
  compareLex (compareOn Address.kind) (compareOn Address.id)

instance : Ord Address := ⟨Address.order⟩

instance : Std.TransOrd Address :=
  inferInstanceAs (Std.TransCmp (compareLex (compareOn Address.kind) (compareOn Address.id)))

instance : Std.LawfulEqOrd Address where
  eq_of_compare {a b} h := by
    have hlex : Address.order a b = .eq := h
    rw [Address.order, compareLex_eq_eq] at hlex
    have hk : compare a.kind b.kind = .eq := hlex.1
    have hi : compare a.id b.id = .eq := hlex.2
    cases a; cases b
    exact congr (congrArg Address.mk (Std.compare_eq_iff_eq.mp hk))
      (Std.compare_eq_iff_eq.mp hi)
  compare_self {a} := compareLex_eq_eq.mpr ⟨Std.compare_self, Std.compare_self⟩

/-- A stored resource and the ids of its parents. -/
structure Entry where
  resource : Resource
  parents : List Id

/-- The entry of a resource. -/
def Entry.ofResource (r : Resource) : Entry := ⟨r, r.parents⟩

/-- Which resources of a kind are listed. -/
structure Filter where
  /-- Only those of an account. -/
  account : Option String := none
  /-- Only the children of a parent. -/
  parent : Option Id := none

/-- Whether an entry is listed. -/
def Filter.accepts (f : Filter) (e : Entry) : Bool :=
  f.account.all (· == e.resource.account) && f.parent.all (e.parents.contains ·)

/-- The stored resources. -/
structure Store where
  table : Table Address Entry

/-- The address of a resource. -/
def Resource.address (r : Resource) : Address := ⟨r.kind, r.id⟩

namespace Store

/-- The store without resources. -/
def empty : Store := ⟨.empty⟩

/-- The resource of a kind with an id. -/
def get? (s : Store) (kind : Kind) (id : Id) : Option Resource :=
  (s.table.get? ⟨kind, id⟩).map (·.resource)

/-- The resources of a kind that a filter accepts, in the order of their ids. -/
def list (s : Store) (kind : Kind) (f : Filter) : List Resource :=
  ((s.table.entries.filter fun e => e.1.kind == kind && f.accepts e.2).map (·.2.resource))

/-- The number of resources of a kind. -/
def count (s : Store) (kind : Kind) : Nat :=
  (s.table.entries.filter fun e => e.1.kind == kind).length

/-- The store with a resource put at its address. -/
def put (s : Store) (r : Resource) : Store := ⟨s.table.insert r.address (.ofResource r)⟩

@[simp] theorem get?_empty (kind : Kind) (id : Id) : empty.get? kind id = none := rfl

/-- A resource that is put is found at its address, and all others are as they were. -/
theorem get?_put (s : Store) (r : Resource) (kind : Kind) (id : Id) :
    (s.put r).get? kind id =
      if (⟨kind, id⟩ : Address) = r.address then some r else s.get? kind id := by
  rw [get?, put, Table.get?_insert]
  by_cases h : (⟨kind, id⟩ : Address) = r.address
  · simp [h, Entry.ofResource]
  · have hne : compare (⟨kind, id⟩ : Address) r.address ≠ .eq := fun he =>
      h (Std.LawfulEqOrd.eq_of_compare he)
    simp [h, hne, get?]

/-- Why a batch is refused, `earlier` being the ids of the part that was looked at. -/
def refusal (s : Store) (earlier : List Id) : List Resource → Option StoreError
  | [] => none
  | r :: rest =>
    if !r.id.isAssigned then some (.unassigned r.kind r.objectMeta.name)
    else if (s.get? r.kind r.id).isSome || earlier.contains r.id then
      some (.taken r.kind r.id)
    else s.refusal (r.id :: earlier) rest

/-- All resources of a batch are stored, or none of them is. -/
def insert (s : Store) (batch : List Resource) : Except StoreError Store :=
  match s.refusal [] batch with
  | some e => .error e
  | none => .ok (batch.foldl put s)

/-- Everything about a stored resource is replaced except its status. -/
def setSpec (s : Store) (r : Resource) : Option (Resource × Store) :=
  (s.get? r.kind r.id).map fun stored =>
    let merged := r.withStatus stored.status
    (merged, s.put merged)

/-- Nothing about a stored resource is replaced except its status. -/
def setStatus (s : Store) (kind : Kind) (id : Id) (status : Status) :
    Option (Resource × Store) :=
  (s.table.get? ⟨kind, id⟩).map fun e =>
    let changed := e.resource.withStatus status
    (changed, ⟨s.table.insert ⟨kind, id⟩ ⟨changed, e.parents⟩⟩)

end Store

end ClusterRegistry
