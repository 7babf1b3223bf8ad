import ClusterRegistry.Http.Path
import ClusterRegistry.Kind

/-!
# Routes

Every kind has the same routes under its collection, and some more as its row in the
catalogue says. The routes are data: a pattern of segments, the kind whose gate is applied,
and an action per method. Where a segment matches both a fixed text and a parameter, the
fixed text wins unless nothing follows that matches the rest of the path.
-/

namespace ClusterRegistry.Http

/-- What a route does, apart from the parameter in its path. -/
inductive Action
  | health
  | list
  | listSome
  | create
  | get
  | update
  | setStatus
  | describe
  | listUnder (parent : Kind)
  | listInAccount
  | createInAccount
  | planReplicas
  | recommendResources
deriving DecidableEq

/-- Whether an action takes the body of the request. -/
def Action.readsBody : Action → Bool
  | .create | .update | .setStatus | .createInAccount => true
  | _ => false

/-- A segment of a pattern. -/
inductive Segment
  | fixed (text : String)
  | parameter (name : String)
deriving DecidableEq

/-- The methods that some route answers. -/
inductive Method
  | get
  | post
  | put
deriving DecidableEq

/-- A pattern of paths with what is done under each method. -/
structure Route where
  pattern : List Segment
  /-- The kind that the route is about. -/
  kind : Option Kind
  actions : List (Method × Action)

/-- The routes that list the children of a kind under a parent, in both path orders. -/
def childRoutes (kind parent : Kind) : List Route :=
  [{ pattern := [.fixed kind.collection, .fixed parent.collection, .parameter "parent_id"]
     kind := some kind
     actions := [(.get, .listUnder parent)] },
   { pattern := [.fixed parent.collection, .parameter "id", .fixed kind.collection]
     kind := some kind
     actions := [(.get, .listUnder parent)] }]

/-- The routes that only policies have. -/
def scaleRoutes : Kind → List Route
  | .horizontalScaling =>
    let c := Kind.horizontalScaling.collection
    [{ pattern := [.fixed c, .parameter "id", .fixed "scale"]
       kind := some .horizontalScaling
       actions := [(.get, .planReplicas)] }]
  | .verticalScaling =>
    let c := Kind.verticalScaling.collection
    [{ pattern := [.fixed c, .parameter "id", .fixed "scale"]
       kind := some .verticalScaling
       actions := [(.get, .recommendResources)] },
     { pattern := [.fixed c, .fixed "scale", .parameter "id"]
       kind := some .verticalScaling
       actions := [(.get, .recommendResources)] }]
  | _ => []

/-- The routes of a kind. -/
def kindRoutes (kind : Kind) : List Route :=
  let c := kind.collection
  [{ pattern := [.fixed c], kind := some kind, actions := [(.get, .list), (.post, .create)] },
   { pattern := [.fixed c, .fixed "all"], kind := some kind, actions := [(.get, .listSome)] },
   { pattern := [.fixed c, .parameter "id"], kind := some kind
     actions := [(.get, .get), (.put, .update)] },
   { pattern := [.fixed c, .parameter "id", .fixed "status"], kind := some kind
     actions := [(.put, .setStatus)] }] ++
  (if kind.row.child.isSome then
    [{ pattern := [.fixed c, .parameter "id", .fixed "describe"], kind := some kind
       actions := [(.get, .describe)] }]
  else []) ++
  kind.parents.flatMap (childRoutes kind) ++
  (if kind.row.inAccounts then
    [{ pattern := [.fixed "accounts", .parameter "account_id", .fixed c], kind := some kind
       actions := [(.get, .listInAccount), (.post, .createInAccount)] }]
  else []) ++
  scaleRoutes kind

/-- All routes. -/
def routes : List Route :=
  { pattern := [.fixed "health"], kind := none, actions := [(.get, .health)] } ::
    Kind.all.flatMap kindRoutes

/-- A parameter of a path with its name. -/
structure Parameter where
  name : String
  raw : String

/-- A route that a path was found to match, with the parameters of the path. -/
structure Match where
  route : Route
  parameters : List Parameter

/-- A route with the part of its pattern that is still to be matched. -/
structure Candidate where
  pattern : List Segment
  route : Route
  parameters : List Parameter

/-- The candidate after a segment that its pattern fixes. -/
def Candidate.fixed (s : String) (c : Candidate) : Option Candidate :=
  match c.pattern with
  | .fixed text :: rest => if text = s then some { c with pattern := rest } else none
  | _ => none

/-- The candidate after a segment that stands for a parameter. -/
def Candidate.parameter (s : String) (c : Candidate) : Option Candidate :=
  match c.pattern with
  | .parameter name :: rest =>
    some { c with pattern := rest, parameters := c.parameters ++ [⟨name, s⟩] }
  | _ => none

/-- The match among some candidates: at each segment the fixed texts come first. A parameter
at the end of a path is not empty. -/
def matchAmong (candidates : List Candidate) : List String → Option Match
  | [] => (candidates.find? fun c => c.pattern.isEmpty).map fun c => ⟨c.route, c.parameters⟩
  | s :: rest =>
    match matchAmong (candidates.filterMap (·.fixed s)) rest with
    | some m => some m
    | none =>
      if s = "" ∧ rest = [] then none
      else matchAmong (candidates.filterMap (·.parameter s)) rest

/-- The route that the segments of a path lead to. -/
def findRoute (path : List String) : Option Match :=
  matchAmong (routes.map fun r => ⟨r.pattern, r, []⟩) path

end ClusterRegistry.Http
