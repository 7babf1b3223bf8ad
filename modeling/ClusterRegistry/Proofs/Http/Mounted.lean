import ClusterRegistry.Http.Service
import ClusterRegistry.Proofs.Http.Routing
import ClusterRegistry.Proofs.Registry.Requests

/-!
# What the routes stand for

Every route stands for one request to the registry. `Mounted` says which: under a method, a pattern
of paths stands for a request about a kind, with the parameter of the path and the body put in
their places. The table of routes holds these and the one for the server's health, and no others
(`stands_of_mem_kindRoutes`, `exists_of_mounted`).
-/

namespace ClusterRegistry

/-- The JSON value that says an answer. -/
def Answer.encode : Answer → Json
  | .resource r => r.encode
  | .list l => l.encode
  | .scaled s => s.encode
  | .recommendation r => r.encode

namespace Http

/-- A request to the registry that lacks the parameter of the path and the body. -/
abbrev Ask := String → Json.Payload → ClusterRegistry.Request

/-- The methods and patterns that stand for requests, each with the kind that it is about. -/
inductive Mounted : Method → List Segment → Kind → Ask → Prop
  | list (k : Kind) : Mounted .get [.fixed k.collection] k fun _ _ => .list k
  | create (k : Kind) :
    Mounted .post [.fixed k.collection] k fun _ body => .create k body none
  | listSome (k : Kind) :
    Mounted .get [.fixed k.collection, .fixed "all"] k fun _ _ => .listSome k
  | get (k : Kind) :
    Mounted .get [.fixed k.collection, .parameter "id"] k fun id _ => .get k id
  | update (k : Kind) :
    Mounted .put [.fixed k.collection, .parameter "id"] k fun id body => .update k id body
  | setStatus (k : Kind) :
    Mounted .put [.fixed k.collection, .parameter "id", .fixed "status"] k fun id body =>
      .setStatus k id body
  | describe {k : Kind} (h : k.row.child.isSome = true) :
    Mounted .get [.fixed k.collection, .parameter "id", .fixed "describe"] k fun id _ =>
      .describe k id
  | listUnder {k parent : Kind} (h : parent ∈ k.parents) :
    Mounted .get [.fixed k.collection, .fixed parent.collection, .parameter "parent_id"] k
      fun id _ => .listUnder k parent id
  /-- The parent may also come first. -/
  | listOf {k parent : Kind} (h : parent ∈ k.parents) :
    Mounted .get [.fixed parent.collection, .parameter "id", .fixed k.collection] k
      fun id _ => .listUnder k parent id
  | listInAccount {k : Kind} (h : k.row.inAccounts = true) :
    Mounted .get [.fixed "accounts", .parameter "account_id", .fixed k.collection] k
      fun account _ => .listInAccount k account
  | createInAccount {k : Kind} (h : k.row.inAccounts = true) :
    Mounted .post [.fixed "accounts", .parameter "account_id", .fixed k.collection] k
      fun account body => .create k body (some account)
  | planReplicas :
    Mounted .get [.fixed Kind.horizontalScaling.collection, .parameter "id", .fixed "scale"]
      .horizontalScaling fun id _ => .planReplicas id
  | recommendResources :
    Mounted .get [.fixed Kind.verticalScaling.collection, .parameter "id", .fixed "scale"]
      .verticalScaling fun id _ => .recommendResources id
  /-- The id may also come last. -/
  | recommendResourcesOf :
    Mounted .get [.fixed Kind.verticalScaling.collection, .fixed "scale", .parameter "id"]
      .verticalScaling fun id _ => .recommendResources id

/-! ## Actions -/

/-- The request that an action of a route about a kind asks for. -/
def Action.ask? (kind : Kind) : Action → Option Ask
  | .health => none
  | .list => some fun _ _ => .list kind
  | .listSome => some fun _ _ => .listSome kind
  | .create => some fun _ body => .create kind body none
  | .get => some fun id _ => .get kind id
  | .update => some fun id body => .update kind id body
  | .setStatus => some fun id body => .setStatus kind id body
  | .describe => some fun id _ => .describe kind id
  | .listUnder parent => some fun id _ => .listUnder kind parent id
  | .listInAccount => some fun account _ => .listInAccount kind account
  | .createInAccount => some fun account body => .create kind body (some account)
  | .planReplicas => some fun id _ => .planReplicas id
  | .recommendResources => some fun id _ => .recommendResources id

/-- A route is about a kind, and under each of its methods it does what it stands for. -/
structure Route.Stands (r : Route) (kind : Kind) : Prop where
  kind_eq : r.kind = some kind
  nonempty : r.actions ≠ []
  mounted : ∀ a ∈ r.actions, ∃ ask, Mounted a.1 r.pattern kind ask ∧ a.2.ask? kind = some ask

variable {kind : Kind} {r : Route}

/-- The routes of a kind: four that every kind has, and those that its row in the catalogue asks
for. -/
theorem mem_kindRoutes_iff :
    r ∈ kindRoutes kind ↔
      (r = ⟨[.fixed kind.collection], some kind, [(.get, .list), (.post, .create)]⟩ ∨
        r = ⟨[.fixed kind.collection, .fixed "all"], some kind, [(.get, .listSome)]⟩ ∨
        r = ⟨[.fixed kind.collection, .parameter "id"], some kind, [(.get, .get), (.put, .update)]⟩ ∨
        r = ⟨[.fixed kind.collection, .parameter "id", .fixed "status"], some kind,
          [(.put, .setStatus)]⟩) ∨
      (kind.row.child.isSome = true ∧
        r = ⟨[.fixed kind.collection, .parameter "id", .fixed "describe"], some kind,
          [(.get, .describe)]⟩) ∨
      (∃ parent ∈ kind.parents, r ∈ childRoutes kind parent) ∨
      (kind.row.inAccounts = true ∧
        r = ⟨[.fixed "accounts", .parameter "account_id", .fixed kind.collection], some kind,
          [(.get, .listInAccount), (.post, .createInAccount)]⟩) ∨
      r ∈ scaleRoutes kind := by
  have hite : ∀ (b : Bool) (q : Route), (r ∈ if b then [q] else []) ↔ b = true ∧ r = q := by
    intro b q
    cases b <;> simp
  simp only [kindRoutes, List.mem_append, List.mem_cons, List.not_mem_nil, or_false,
    List.mem_flatMap, hite, or_assoc]

theorem stands_of_mem_childRoutes {parent : Kind} (h : parent ∈ kind.parents)
    (hr : r ∈ childRoutes kind parent) : r.Stands kind := by
  simp only [childRoutes, List.mem_cons, List.not_mem_nil, or_false] at hr
  rcases hr with rfl | rfl
  · exact ⟨rfl, List.cons_ne_nil _ _, List.forall_mem_singleton.mpr
      ⟨_, .listUnder h, rfl⟩⟩
  · exact ⟨rfl, List.cons_ne_nil _ _, List.forall_mem_singleton.mpr
      ⟨_, .listOf h, rfl⟩⟩

theorem stands_of_mem_scaleRoutes (hr : r ∈ scaleRoutes kind) : r.Stands kind := by
  cases kind
  case horizontalScaling =>
    rw [scaleRoutes, List.mem_singleton] at hr
    subst hr
    exact ⟨rfl, List.cons_ne_nil _ _, List.forall_mem_singleton.mpr
      ⟨_, .planReplicas, rfl⟩⟩
  case verticalScaling =>
    simp only [scaleRoutes, List.mem_cons, List.not_mem_nil, or_false] at hr
    rcases hr with rfl | rfl
    · exact ⟨rfl, List.cons_ne_nil _ _, List.forall_mem_singleton.mpr
        ⟨_, .recommendResources, rfl⟩⟩
    · exact ⟨rfl, List.cons_ne_nil _ _, List.forall_mem_singleton.mpr
        ⟨_, .recommendResourcesOf, rfl⟩⟩
  -- no other kind scales anything
  all_goals cases hr

/-- Every route of a kind stands for requests about the kind. -/
theorem stands_of_mem_kindRoutes (hr : r ∈ kindRoutes kind) : r.Stands kind := by
  rcases mem_kindRoutes_iff.mp hr with
    (rfl | rfl | rfl | rfl) | ⟨hchild, rfl⟩ | ⟨parent, hparent, hr⟩ | ⟨haccounts, rfl⟩ | hr
  · exact ⟨rfl, List.cons_ne_nil _ _, List.forall_mem_cons.mpr ⟨⟨_, .list kind, rfl⟩,
      List.forall_mem_singleton.mpr ⟨_, .create kind, rfl⟩⟩⟩
  · exact ⟨rfl, List.cons_ne_nil _ _, List.forall_mem_singleton.mpr ⟨_, .listSome kind, rfl⟩⟩
  · exact ⟨rfl, List.cons_ne_nil _ _, List.forall_mem_cons.mpr ⟨⟨_, .get kind, rfl⟩,
      List.forall_mem_singleton.mpr ⟨_, .update kind, rfl⟩⟩⟩
  · exact ⟨rfl, List.cons_ne_nil _ _, List.forall_mem_singleton.mpr ⟨_, .setStatus kind, rfl⟩⟩
  · exact ⟨rfl, List.cons_ne_nil _ _, List.forall_mem_singleton.mpr ⟨_, .describe hchild, rfl⟩⟩
  · exact stands_of_mem_childRoutes hparent hr
  · exact ⟨rfl, List.cons_ne_nil _ _, List.forall_mem_cons.mpr
      ⟨⟨_, .listInAccount haccounts, rfl⟩,
        List.forall_mem_singleton.mpr ⟨_, .createInAccount haccounts, rfl⟩⟩⟩
  · exact stands_of_mem_scaleRoutes hr

/-- A route is that of the server's health, or stands for requests about some kind. -/
theorem health_or_stands (hr : r ∈ routes) :
    (r.pattern = [.fixed "health"] ∧ r.kind = none) ∨ ∃ kind, r.Stands kind := by
  rcases List.mem_cons.mp hr with rfl | hr
  · exact .inl ⟨rfl, rfl⟩
  · obtain ⟨kind, -, hr⟩ := List.mem_flatMap.mp hr
    exact .inr ⟨kind, stands_of_mem_kindRoutes hr⟩

/-- Everything that is mounted has a route that does it. -/
theorem exists_of_mounted {method : Method} {pattern : List Segment} {ask : Ask}
    (h : Mounted method pattern kind ask) :
    ∃ r ∈ routes, r.pattern = pattern ∧ r.kind = some kind ∧
      ∃ action, r.actions.lookup method = some action ∧ action.ask? kind = some ask := by
  have hroute : ∀ {k : Kind} {r : Route}, r ∈ kindRoutes k → r ∈ routes := fun hr =>
    List.mem_cons_of_mem _ (List.mem_flatMap.mpr ⟨_, Kind.mem_all _, hr⟩)
  have hown := @mem_kindRoutes_iff
  cases h with
  | list => exact ⟨_, hroute (hown.mpr (.inl (.inl rfl))), rfl, rfl, _, rfl, rfl⟩
  | create => exact ⟨_, hroute (hown.mpr (.inl (.inl rfl))), rfl, rfl, _, rfl, rfl⟩
  | listSome => exact ⟨_, hroute (hown.mpr (.inl (.inr (.inl rfl)))), rfl, rfl, _, rfl, rfl⟩
  | get => exact ⟨_, hroute (hown.mpr (.inl (.inr (.inr (.inl rfl))))), rfl, rfl, _, rfl, rfl⟩
  | update => exact ⟨_, hroute (hown.mpr (.inl (.inr (.inr (.inl rfl))))), rfl, rfl, _, rfl, rfl⟩
  | setStatus =>
    exact ⟨_, hroute (hown.mpr (.inl (.inr (.inr (.inr rfl))))), rfl, rfl, _, rfl, rfl⟩
  | describe hchild =>
    exact ⟨_, hroute (hown.mpr (.inr (.inl ⟨hchild, rfl⟩))), rfl, rfl, _, rfl, rfl⟩
  | listUnder hparent =>
    exact ⟨_, hroute (hown.mpr (.inr (.inr (.inl ⟨_, hparent, List.mem_cons_self⟩)))), rfl, rfl, _,
      rfl, rfl⟩
  | listOf hparent =>
    exact ⟨_, hroute (hown.mpr (.inr (.inr (.inl ⟨_, hparent,
      List.mem_cons_of_mem _ List.mem_cons_self⟩)))), rfl, rfl, _, rfl, rfl⟩
  | listInAccount haccounts =>
    exact ⟨_, hroute (hown.mpr (.inr (.inr (.inr (.inl ⟨haccounts, rfl⟩))))), rfl, rfl, _, rfl, rfl⟩
  | createInAccount haccounts =>
    exact ⟨_, hroute (hown.mpr (.inr (.inr (.inr (.inl ⟨haccounts, rfl⟩))))), rfl, rfl, _, rfl, rfl⟩
  | planReplicas =>
    exact ⟨_, hroute (k := .horizontalScaling) (hown.mpr (.inr (.inr (.inr (.inr
      List.mem_cons_self))))), rfl, rfl, _, rfl, rfl⟩
  | recommendResources =>
    exact ⟨_, hroute (k := .verticalScaling) (hown.mpr (.inr (.inr (.inr (.inr
      List.mem_cons_self))))), rfl, rfl, _, rfl, rfl⟩
  | recommendResourcesOf =>
    exact ⟨_, hroute (k := .verticalScaling) (hown.mpr (.inr (.inr (.inr (.inr
      (List.mem_cons_of_mem _ List.mem_cons_self)))))), rfl, rfl, _, rfl, rfl⟩

end Http

end ClusterRegistry
