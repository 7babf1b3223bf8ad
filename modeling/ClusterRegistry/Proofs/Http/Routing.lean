import Mathlib.Data.List.Nodup
import ClusterRegistry.Http.Route

/-!
# Which route a path leads to

A path fits a pattern if it has the segments that the pattern fixes (`Fits`). Of two patterns that
a path fits, the one precedes the other that fixes the first segment in which they differ
(`Precedes`). The routes are searched segment by segment with all of them in hand, and what is
found is told without a word about the search: a path leads to a route that it fits and that no
other one precedes (`wins_of_matchAmong`), and to none if it fits none
(`not_fits_of_matchAmong_eq_none`). Since no two patterns are alike but for the names of their
parameters, there is at most one such route (`findRoute_eq_some`).
-/

namespace ClusterRegistry.Http

/-! ## Patterns and paths -/

/-- Whether a path has the segments that a pattern fixes. Any segment will do as a parameter, but
for an empty one at the end. -/
def Fits : List Segment → List String → Prop
  | [], [] => True
  | .fixed text :: pattern, s :: path => text = s ∧ Fits pattern path
  | .parameter _ :: pattern, s :: path => ¬ (s = "" ∧ path = []) ∧ Fits pattern path
  | _, _ => False

/-- The segments of a path that stand for the parameters of a pattern. -/
def parametersOf : List Segment → List String → List Parameter
  | .parameter name :: pattern, s :: path => ⟨name, s⟩ :: parametersOf pattern path
  | .fixed _ :: pattern, _ :: path => parametersOf pattern path
  | _, _ => []

/-- A pattern precedes another if it fixes the first segment in which they differ. -/
inductive Precedes : List Segment → List Segment → Prop
  | here (text name : String) (p q : List Segment) :
    Precedes (.fixed text :: p) (.parameter name :: q)
  | fixed (text : String) {p q : List Segment} (h : Precedes p q) :
    Precedes (.fixed text :: p) (.fixed text :: q)
  | parameter (name name' : String) {p q : List Segment} (h : Precedes p q) :
    Precedes (.parameter name :: p) (.parameter name' :: q)

/-- The text that a segment fixes, if it fixes one. -/
def Segment.text? : Segment → Option String
  | .fixed text => some text
  | .parameter _ => none

theorem fits_nil_iff {pattern : List Segment} : Fits pattern [] ↔ pattern = [] := by
  cases pattern with
  | nil => exact iff_of_true trivial rfl
  | cons segment rest => cases segment <;> simp [Fits]

/-- A path of which a pattern is left has a segment for the first one of the pattern. -/
theorem exists_of_fits_cons {pattern : List Segment} {s : String} {path : List String}
    (h : Fits pattern (s :: path)) :
    (∃ rest, pattern = .fixed s :: rest ∧ Fits rest path) ∨
      ∃ name rest, pattern = .parameter name :: rest ∧ ¬ (s = "" ∧ path = []) ∧ Fits rest path := by
  match pattern, h with
  | .fixed text :: rest, ⟨htext, hrest⟩ => exact .inl ⟨rest, htext ▸ rfl, hrest⟩
  | .parameter name :: rest, ⟨hnonempty, hrest⟩ => exact .inr ⟨name, rest, rfl, hnonempty, hrest⟩

/-- Of two patterns that a path fits one precedes the other, or they are alike but for the names of
their parameters. -/
theorem precedes_or_alike {p q : List Segment} {path : List String} (hp : Fits p path)
    (hq : Fits q path) :
    Precedes p q ∨ Precedes q p ∨ p.map Segment.text? = q.map Segment.text? := by
  induction path generalizing p q with
  | nil =>
    rw [fits_nil_iff.mp hp, fits_nil_iff.mp hq]
    exact .inr (.inr rfl)
  | cons s path ih =>
    rcases exists_of_fits_cons hp with ⟨p, rfl, hp'⟩ | ⟨name, p, rfl, -, hp'⟩ <;>
      rcases exists_of_fits_cons hq with ⟨q, rfl, hq'⟩ | ⟨name', q, rfl, -, hq'⟩
    · rcases ih hp' hq' with h | h | h
      · exact .inl (.fixed s h)
      · exact .inr (.inl (.fixed s h))
      · exact .inr (.inr (congrArg (some s :: ·) h))
    · exact .inl (.here s name' p q)
    · exact .inr (.inl (.here s name q p))
    · rcases ih hp' hq' with h | h | h
      · exact .inl (.parameter name name' h)
      · exact .inr (.inl (.parameter name' name h))
      · exact .inr (.inr (congrArg (none :: ·) h))

/-! ## The search -/

/-- A candidate that a path leads to: the path fits the rest of its pattern, and the rest of no
other candidate that it fits precedes this one. -/
structure Candidate.Wins (c : Candidate) (candidates : List Candidate) (path : List String) :
    Prop where
  mem : c ∈ candidates
  fits : Fits c.pattern path
  first : ∀ d ∈ candidates, Fits d.pattern path → ¬ Precedes d.pattern c.pattern

/-- What is left of the candidates after a fixed segment. -/
theorem mem_filterMap_fixed {candidates : List Candidate} {s : String} {c : Candidate} :
    c ∈ candidates.filterMap (·.fixed s) ↔
      { c with pattern := .fixed s :: c.pattern } ∈ candidates := by
  rw [List.mem_filterMap]
  constructor
  · rintro ⟨⟨pattern, route, parameters⟩, hd, heq⟩
    unfold Candidate.fixed at heq
    split at heq
    · next hpattern =>
      split at heq
      · next htext =>
        obtain rfl : pattern = _ := hpattern
        cases heq
        exact htext ▸ hd
      · cases heq
    · cases heq
  · intro h
    exact ⟨_, h, if_pos rfl⟩

/-- What is left of the candidates after a parameter. -/
theorem mem_filterMap_parameter {candidates : List Candidate} {s : String} {c : Candidate} :
    c ∈ candidates.filterMap (·.parameter s) ↔
      ∃ name parameters, c.parameters = parameters ++ [⟨name, s⟩] ∧
        ⟨.parameter name :: c.pattern, c.route, parameters⟩ ∈ candidates := by
  rw [List.mem_filterMap]
  constructor
  · rintro ⟨⟨pattern, route, parameters⟩, hd, heq⟩
    unfold Candidate.parameter at heq
    split at heq
    · next name rest hpattern =>
      obtain rfl : pattern = _ := hpattern
      cases heq
      exact ⟨name, parameters, rfl, hd⟩
    · cases heq
  · rintro ⟨name, parameters, hparameters, hd⟩
    refine ⟨_, hd, ?_⟩
    show some { c with parameters := parameters ++ [⟨name, s⟩] } = some c
    rw [← hparameters]

/-- A path that leads nowhere fits no candidate. -/
theorem not_fits_of_matchAmong_eq_none {candidates : List Candidate} {path : List String}
    (h : matchAmong candidates path = none) : ∀ c ∈ candidates, ¬ Fits c.pattern path := by
  induction path generalizing candidates with
  | nil =>
    rw [matchAmong, Option.map_eq_none_iff, List.find?_eq_none] at h
    exact fun c hc hfits => h c hc (List.isEmpty_iff.mpr (fits_nil_iff.mp hfits))
  | cons s path ih =>
    rintro ⟨pattern, route, parameters⟩ hc hfits
    rw [matchAmong] at h
    split at h
    · cases h
    · next hfixed =>
      rcases exists_of_fits_cons hfits with ⟨rest, rfl, hrest⟩ | ⟨name, rest, rfl, hsome, hrest⟩
      · exact ih hfixed ⟨rest, route, parameters⟩ (mem_filterMap_fixed.mpr hc) hrest
      · rw [if_neg hsome] at h
        exact ih h ⟨rest, route, parameters ++ [⟨name, s⟩]⟩
          (mem_filterMap_parameter.mpr ⟨name, parameters, rfl, hc⟩) hrest

/-- A path leads to the route of a candidate that wins, with the segments that stand for its
parameters. -/
theorem wins_of_matchAmong {candidates : List Candidate} {path : List String} {m : Match}
    (h : matchAmong candidates path = some m) :
    ∃ c : Candidate, c.Wins candidates path ∧
      m = ⟨c.route, c.parameters ++ parametersOf c.pattern path⟩ := by
  induction path generalizing candidates with
  | nil =>
    obtain ⟨c, hfind, rfl⟩ := Option.map_eq_some_iff.mp h
    have hpattern : c.pattern = [] := List.isEmpty_iff.mp (List.find?_some hfind :)
    refine ⟨c, ⟨List.mem_of_find?_eq_some hfind, fits_nil_iff.mpr hpattern, ?_⟩, ?_⟩
    · intro d _ hfits hlt
      rw [fits_nil_iff.mp hfits] at hlt
      cases hlt
    · simp [hpattern, parametersOf]
  | cons s path ih =>
    rw [matchAmong] at h
    split at h
    · next m' hfixed =>
      cases h
      obtain ⟨c, hwins, rfl⟩ := ih hfixed
      refine ⟨_, ⟨mem_filterMap_fixed.mp hwins.mem, ⟨rfl, hwins.fits⟩, ?_⟩, rfl⟩
      rintro ⟨pattern, route, parameters⟩ hd hfits hlt
      -- only a pattern that fixes the same segment could come before
      cases hlt with
      | fixed _ hlt =>
        exact hwins.first ⟨_, route, parameters⟩ (mem_filterMap_fixed.mpr hd) hfits.2 hlt
    · next hfixed =>
      split at h
      · cases h
      · next hsome =>
        obtain ⟨c, hwins, rfl⟩ := ih h
        obtain ⟨name, parameters, hparameters, hmem⟩ := mem_filterMap_parameter.mp hwins.mem
        refine ⟨_, ⟨hmem, ⟨hsome, hwins.fits⟩, ?_⟩, ?_⟩
        · rintro ⟨pattern, route, others⟩ hd hfits hlt
          cases hlt with
          | here text _ rest _ =>
            -- the segment would have been found among the fixed ones
            obtain ⟨rfl, hrest⟩ := hfits
            exact not_fits_of_matchAmong_eq_none hfixed ⟨rest, route, others⟩
              (mem_filterMap_fixed.mpr hd) hrest
          | parameter name' _ hlt =>
            exact hwins.first ⟨_, route, others ++ [⟨name', s⟩]⟩
              (mem_filterMap_parameter.mpr ⟨name', others, rfl, hd⟩) hfits.2 hlt
        · rw [hparameters, List.append_assoc]
          rfl

/-! ## The table of routes -/

/-- No two routes have patterns that are alike but for the names of their parameters. -/
theorem nodup_texts_routes : (routes.map fun r => r.pattern.map Segment.text?).Nodup := by
  decide +kernel

/-- A path leads to a route that it fits and that no other route which it fits precedes. -/
theorem findRoute_eq_some {path : List String} {r : Route} (hr : r ∈ routes)
    (hfits : Fits r.pattern path)
    (hfirst : ∀ q ∈ routes, Fits q.pattern path → ¬ Precedes q.pattern r.pattern) :
    findRoute path = some ⟨r, parametersOf r.pattern path⟩ := by
  have hmem : ∀ q ∈ routes, (⟨q.pattern, q, []⟩ : Candidate) ∈
      routes.map fun r => (⟨r.pattern, r, []⟩ : Candidate) :=
    fun q hq => List.mem_map.mpr ⟨q, hq, rfl⟩
  cases h : findRoute path with
  | none => exact absurd hfits (not_fits_of_matchAmong_eq_none h _ (hmem r hr))
  | some m =>
    obtain ⟨c, hwins, rfl⟩ := wins_of_matchAmong h
    obtain ⟨q, hq, rfl⟩ := List.mem_map.mp hwins.mem
    rcases precedes_or_alike hfits hwins.fits with hlt | hlt | halike
    · exact absurd hlt (hwins.first _ (hmem r hr) hfits)
    · exact absurd hlt (hfirst q hq hwins.fits)
    · obtain rfl : r = q := List.inj_on_of_nodup_map nodup_texts_routes hr hq halike
      rfl

/-- A route that a path leads to is one that it fits and that no other precedes. -/
theorem fits_of_findRoute {path : List String} {m : Match} (h : findRoute path = some m) :
    m.route ∈ routes ∧ Fits m.route.pattern path ∧
      (∀ q ∈ routes, Fits q.pattern path → ¬ Precedes q.pattern m.route.pattern) ∧
      m.parameters = parametersOf m.route.pattern path := by
  obtain ⟨c, hwins, rfl⟩ := wins_of_matchAmong h
  obtain ⟨q, hq, rfl⟩ := List.mem_map.mp hwins.mem
  exact ⟨hq, hwins.fits, fun r hr => hwins.first _ (List.mem_map.mpr ⟨r, hr, rfl⟩), rfl⟩

end ClusterRegistry.Http
