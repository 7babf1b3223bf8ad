import ClusterRegistry.Proofs.Id.Digits
import ClusterRegistry.Resource

/-!
# Parents of a resource

The parents under which a resource is listed are the ids that it names in its owner references and
in its fields, whatever their kinds. Of which kinds they may be says the catalogue, which agrees with
the forms about the fields (`Resource.kind_mem_fieldParents`); no kind is its own parent
(`Kind.not_mem_parents_self`).
-/

namespace ClusterRegistry

namespace Kind

variable {k parent : Kind}

/-- A kind is listed under its owners and under the kinds that its fields refer to. -/
theorem mem_parents_iff : parent ∈ k.parents ↔ parent ∈ k.owners ∨ parent ∈ k.fieldParents := by
  rw [parents, List.mem_append, List.mem_filter]
  by_cases h : parent ∈ k.owners
  · exact iff_of_true (.inl h) (.inl h)
  · simp [h]

/-- A resource is listed under none of its own kind. -/
theorem not_mem_parents_self (k : Kind) : k ∉ k.parents := by
  have hrow : ∀ k ∈ all, k ∉ k.parents := by decide
  exact hrow k (mem_all k)

end Kind

namespace Resource


theorem mem_insertId_iff {i j : Id} {l : List Id} : i ∈ insertId j l ↔ i = j ∨ i ∈ l := by
  induction l with
  | nil => simp [insertId]
  | cons k rest ih =>
    unfold insertId
    split
    · exact List.mem_cons
    · next hequal =>
      obtain rfl : j = k := Std.LawfulEqOrd.eq_of_compare hequal
      simp
    · rw [List.mem_cons, List.mem_cons, ih]
      exact or_left_comm

/-- The parents are the ids that are read in the texts that name them. -/
theorem mem_parents_iff {r : Resource} {i : Id} :
    i ∈ r.parents ↔ ∃ uid ∈ r.parentUids, Id.parse? uid = some i := by
  have hfold : ∀ l : List Id, i ∈ l.foldr insertId [] ↔ i ∈ l := fun l => by
    induction l with
    | nil => rfl
    | cons j rest ih => rw [List.foldr_cons, mem_insertId_iff, ih, List.mem_cons]
  rw [parents, hfold, List.mem_filterMap]

/-- Whether a resource says an id, in an owner reference or in a field. -/
def Mentions (r : Resource) (i : Id) : Prop :=
  (∃ o ∈ r.objectMeta.ownerReferences, Id.parse o.uid = .assigned i) ∨
    ∃ f ∈ r.references, Id.parse f.uid = .assigned i

/-- The parents of a resource are the ids that it says. -/
theorem mem_parents_iff_mentions {r : Resource} {i : Id} : i ∈ r.parents ↔ r.Mentions i := by
  rw [mem_parents_iff]
  simp only [Id.parse?_eq_some_iff, parentUids, List.mem_append, List.mem_map]
  constructor
  · rintro ⟨uid, ⟨o, ho, rfl⟩ | ⟨f, hf, rfl⟩, hparse⟩
    · exact .inl ⟨o, ho, hparse⟩
    · exact .inr ⟨f, hf, hparse⟩
  · rintro (⟨o, ho, hparse⟩ | ⟨f, hf, hparse⟩)
    · exact ⟨o.uid, .inl ⟨o, ho, rfl⟩, hparse⟩
    · exact ⟨f.uid, .inr ⟨f, hf, rfl⟩, hparse⟩

/-- What a field refers to is of a kind that the catalogue names for it. -/
theorem kind_mem_fieldParents {r : Resource} {f : FieldReference} (hf : f ∈ r.references) :
    f.kind ∈ r.kind.fieldParents := by
  obtain ⟨kind, envelope, spec⟩ := r
  have hfactory : ∀ f' : Factory, ∀ f ∈ Factory.form.references f',
      f.kind = .plan ∨ f.kind = .secret := fun f' f hf => by
    rcases List.mem_cons.mp hf with rfl | hf
    · exact .inl rfl
    · rw [List.mem_singleton.mp hf]
      exact .inr rfl
  cases kind
  case assemblyFactory | stacksFactory =>
    simpa [Kind.fieldParents, Kind.row] using hfactory spec f hf
  case job | permission | storagePool =>
    rw [List.mem_singleton.mp hf]
    exact List.mem_singleton_self _
  case datacenter =>
    rcases List.mem_append.mp hf with hf | hf
    · rcases List.mem_append.mp hf with hf | hf
      · obtain ⟨node, -, rfl⟩ := List.mem_map.mp hf
        exact List.mem_cons_self
      · obtain ⟨network, -, rfl⟩ := List.mem_map.mp hf
        exact List.mem_cons_of_mem _ List.mem_cons_self
    · rw [List.mem_singleton.mp hf]
      exact List.mem_cons_of_mem _ (List.mem_cons_of_mem _ List.mem_cons_self)
  -- the fields of the other kinds refer to nothing
  all_goals exact absurd hf List.not_mem_nil

end Resource

end ClusterRegistry
