import ClusterRegistry.Proofs.Http.Gated
import ClusterRegistry.Proofs.Id.Digits

/-!
# Where the lists of children are found

The resources of a kind under a parent are listed at two paths. In one the parent comes first, with
its id, and in the other the kind of the children. Where the segment for the id is the name of a
collection, the first of these paths may be one of the second form; any other segment leads to the
list of the children (`findRoute_parentFirst`). The second path leads there with every segment but
an empty one, which no path may end with (`findRoute_childFirst`, `findRoute_append_empty`).
-/

namespace ClusterRegistry.Http

variable {kind parent : Kind} {t : String}

/-- A route that lists the resources of a kind under a parent. -/
structure Route.ListsUnder (r : Route) (kind parent : Kind) : Prop where
  kind : r.kind = some kind
  get : r.actions.lookup .get = some (.listUnder parent)

theorem mem_routes_of_mem_childRoutes (h : parent ∈ kind.parents) {r : Route}
    (hr : r ∈ childRoutes kind parent) : r ∈ routes :=
  List.mem_cons_of_mem _ (List.mem_flatMap.mpr ⟨kind, Kind.mem_all kind,
    mem_kindRoutes_iff.mpr (.inr (.inr (.inl ⟨parent, h, hr⟩)))⟩)

/-- A route of three segments that starts with two fixed ones has a collection as its second
segment, but for the one at which a policy is scaled. -/
theorem collection_of_registered {a b : String} {segment : Segment}
    (h : Registered [.fixed a, .fixed b, segment]) :
    a = Kind.verticalScaling.collection ∨ ∃ k : Kind, b = k.collection := by
  rcases h with hhealth | ⟨method, kind, ask, hmounted⟩
  · cases hhealth
  · cases hmounted with
    | listUnder hparent => exact .inr ⟨_, rfl⟩
    | recommendResourcesOf => exact .inl rfl

/-- Nothing belongs to a policy that scales resources. -/
theorem collection_ne_of_mem_parents (h : parent ∈ kind.parents) :
    parent.collection ≠ Kind.verticalScaling.collection := by
  have hall : ∀ kind ∈ Kind.all, ∀ parent ∈ kind.parents,
      parent.collection ≠ Kind.verticalScaling.collection := by
    decide
  exact hall kind (Kind.mem_all kind) parent h

/-- With the parent first, a segment that is no collection stands for the id of the parent. -/
theorem findRoute_parentFirst (h : parent ∈ kind.parents) (ht : ∀ k : Kind, k.collection ≠ t) :
    ∃ r, findRoute [parent.collection, t, kind.collection] = some ⟨r, [⟨"id", t⟩]⟩ ∧
      r.ListsUnder kind parent := by
  refine ⟨_, findRoute_eq_some (mem_routes_of_mem_childRoutes h
    (List.mem_cons_of_mem _ List.mem_cons_self)) ?_ ?_, rfl, rfl⟩
  · exact ⟨rfl, fun hlast => List.cons_ne_nil _ _ hlast.2, rfl, trivial⟩
  · intro q hq hfits hlt
    have hregistered : Registered q.pattern := registered_iff.mpr ⟨q, hq, rfl⟩
    generalize q.pattern = pattern at hregistered hfits hlt
    -- a pattern that precedes has the segment fixed where this one has its parameter
    cases hlt with
    | fixed _ hlt =>
      cases hlt with
      | here text _ rest =>
        obtain ⟨-, rfl, hrest⟩ := hfits
        obtain ⟨segment, rfl⟩ : ∃ segment, rest = [segment] := by
          rcases exists_of_fits_cons hrest with ⟨rest, rfl, hnil⟩ | ⟨name, rest, rfl, -, hnil⟩
          · exact ⟨_, congrArg _ (fits_nil_iff.mp hnil)⟩
          · exact ⟨_, congrArg _ (fits_nil_iff.mp hnil)⟩
        rcases collection_of_registered hregistered with hscaling | ⟨k, hcollection⟩
        · exact collection_ne_of_mem_parents h hscaling
        · exact ht k hcollection.symm
      | parameter _ _ hlt =>
        cases hlt with
        | fixed _ hlt => cases hlt

/-- With the children first, every segment but an empty one stands for the id of the parent. -/
theorem findRoute_childFirst (h : parent ∈ kind.parents) (hne : t ≠ "") :
    ∃ r, findRoute [kind.collection, parent.collection, t] = some ⟨r, [⟨"parent_id", t⟩]⟩ ∧
      r.ListsUnder kind parent := by
  refine ⟨_, findRoute_eq_some (mem_routes_of_mem_childRoutes h List.mem_cons_self) ?_ ?_, rfl, rfl⟩
  · exact ⟨rfl, rfl, fun hlast => hne hlast.1, trivial⟩
  · intro q hq hfits hlt
    have hregistered : Registered q.pattern := registered_iff.mpr ⟨q, hq, rfl⟩
    generalize q.pattern = pattern at hregistered hfits hlt
    -- only a pattern without any parameter could precede
    cases hlt with
    | fixed _ hlt =>
      cases hlt with
      | fixed _ hlt =>
        cases hlt with
        | here text _ rest =>
          obtain rfl : rest = [] := fits_nil_iff.mp hfits.2.2.2
          exact not_registered_of_fixed _ _ _ hregistered
        | parameter _ _ hlt => cases hlt

/-- A path that ends with an empty segment fits only patterns that fix it. -/
theorem fixed_mem_of_fits_append {pattern : List Segment} {path : List String}
    (h : Fits pattern (path ++ [""])) : .fixed "" ∈ pattern := by
  induction path generalizing pattern with
  | nil =>
    rcases exists_of_fits_cons h with ⟨rest, rfl, -⟩ | ⟨name, rest, rfl, hne, -⟩
    · exact List.mem_cons_self
    · exact absurd ⟨rfl, rfl⟩ hne
  | cons s path ih =>
    rcases exists_of_fits_cons h with ⟨rest, rfl, hrest⟩ | ⟨name, rest, rfl, -, hrest⟩ <;>
      exact List.mem_cons_of_mem _ (ih hrest)

/-- No path that ends with an empty segment leads to a route. -/
theorem findRoute_append_empty (path : List String) : findRoute (path ++ [""]) = none := by
  have hfixed : ∀ r ∈ routes, .fixed "" ∉ r.pattern := by decide +kernel
  cases h : findRoute (path ++ [""]) with
  | none => rfl
  | some m =>
    obtain ⟨hr, hfits, -⟩ := fits_of_findRoute h
    exact absurd (fixed_mem_of_fits_append hfits) (hfixed m.route hr)

/-- Whichever of the two comes first in a path, a kind and the id of one of its parents lead to the
list of its resources under the parent. -/
theorem findRoute_children (h : parent ∈ kind.parents) {raw : String}
    (hraw : Id.isNumeral raw = true) :
    (∃ r, findRoute [kind.collection, parent.collection, raw] = some ⟨r, [⟨"parent_id", raw⟩]⟩ ∧
      r.ListsUnder kind parent) ∧
    ∃ r, findRoute [parent.collection, raw, kind.collection] = some ⟨r, [⟨"id", raw⟩]⟩ ∧
      r.ListsUnder kind parent := by
  have hcollection : ∀ k : Kind, k.collection ≠ raw := by
    rintro k rfl
    cases k <;> cases hraw
  have hne : raw ≠ "" := Id.ne_empty_of_isNumeral hraw
  exact ⟨findRoute_childFirst h hne, findRoute_parentFirst h hcollection⟩

end ClusterRegistry.Http
