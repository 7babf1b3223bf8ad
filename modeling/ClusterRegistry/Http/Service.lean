import ClusterRegistry.Credential
import ClusterRegistry.Http.Route
import ClusterRegistry.Json.Reader
import ClusterRegistry.Registry

/-!
# Answering requests

A request is routed, its path parameter is decoded, its credentials are checked, its body is
measured, and only then the registry is asked: whatever fails first answers the request and
nothing after it happens. Reading without a body in the answer is done like reading, and the
body left out.
-/

namespace ClusterRegistry.Http

/-- A request. -/
structure Request where
  method : String
  target : String
  /-- The names and values of the headers, in order. -/
  headers : List (String × String)
  body : List UInt8

/-- An answer. -/
inductive Response
  | json (status : Nat) (body : Json)
  | text (status : Nat) (body : String)

/-- A registry with the table of tokens that it is open to. -/
structure Service where
  registry : Registry
  tokens : Table String String

/-- The answer that reports a failure. -/
def Response.ofError (e : ApiError) : Response :=
  .json e.category.code (.object [("code", .ofNat e.category.code),
    ("error", .text e.category.phrase), ("reason", .text e.category.name),
    ("message", .text e.fullMessage)])

/-- The answer with its body left out. -/
def Response.withoutBody : Response → Response
  | .json status _ => .text status ""
  | .text status _ => .text status ""

/-- Whether a character may stand in the value of a header. -/
def isHeaderChar (c : Char) : Bool := c == '\t' || (0x20 ≤ c.toNat && c.toNat < 0x7F)

/-- The value of the first header of a name, whatever its case; a value that is not readable
counts as empty. -/
def header? (headers : List (String × String)) (name : String) : Option String :=
  (headers.find? fun h => Text.sameIgnoringCase h.1 name).map fun h =>
    if h.2.toList.all isHeaderChar then h.2 else ""

/-- The credentials in the headers of a request. -/
def credentials (headers : List (String × String)) : Credentials where
  authorization := header? headers "authorization"
  email := header? headers "x-auth-rioos-email"

/-- The method that a text names, and whether the body of the answer is left out. -/
def readMethod : String → Option (Method × Bool)
  | "GET" => some (.get, false)
  | "HEAD" => some (.get, true)
  | "POST" => some (.post, false)
  | "PUT" => some (.put, false)
  | _ => none

/-- The answer when the server is asked for its health. -/
def healthBody (now : String) : Json :=
  .object [("status", .text "healthy"), ("timestamp", .text now)]

/-- The registry operation that an action stands for. -/
def operation (reg : Registry) (kind : Kind) (argument : String) (payload : Json.Payload) :
    Action → Script Json
  | .health => return healthBody reg.now
  | .list => return (← reg.list kind).encode
  | .listSome => return (← reg.listSome kind).encode
  | .create => return (← reg.create kind payload none).encode
  | .get => return (← Registry.get kind argument).encode
  | .update => return (← reg.update kind argument payload).encode
  | .setStatus => return (← Registry.setStatus kind argument payload).encode
  | .describe => return (← reg.describe kind argument).encode
  | .listUnder parent => return (← reg.listUnder kind parent argument).encode
  | .listInAccount => return (← reg.listInAccount kind argument).encode
  | .createInAccount => return (← reg.create kind payload (some argument)).encode
  | .planReplicas => return (← Registry.planReplicas argument).encode
  | .recommendResources => return (← reg.recommendResources argument).encode

/-- The answer when a parameter of a path is no text. -/
def unreadableParameter (name : String) : Response :=
  .text 400 ("Invalid URL: Invalid UTF-8 in `" ++ name ++ "`")

/-- How many bytes the body of a request may have. -/
def bodyLimit : Nat := 2097152

/-- The answer when a body is too long. -/
def oversizedBody : Response :=
  .text 413 "Failed to buffer the request body: length limit exceeded"

/-- The parameter of a path: there is at most one, and without one the blank text will do. -/
def argument : List Parameter → Except Response String
  | [] => .ok ""
  | p :: _ =>
    match decodeSegment p.raw with
    | some s => .ok s
    | none => .error (unreadableParameter p.name)

/-- The answer of the registry as a response. -/
def Response.ofAnswer : Except ApiError Json → Response
  | .ok body => .json 200 body
  | .error e => .ofError e

/-- The answer to an action of a route that was found. -/
def Service.act (service : Service) (m : Match) (action : Action) (request : Request)
    (s : State) : Response × State :=
  match m.route.kind with
  | none => (.json 200 (healthBody service.registry.now), s)
  | some kind =>
    match argument m.parameters with
    | .error response => (response, s)
    | .ok arg =>
      match authenticate service.tokens (some kind) (credentials request.headers) with
      | .error e => (.ofError e, s)
      | .ok _ =>
        if action.readsBody && bodyLimit < request.body.length then (oversizedBody, s)
        else
          let script := operation service.registry kind arg (.ofBytes request.body) action
          let (answer, s) := script.run s
          (.ofAnswer answer, s)

/-- The answer to a request, and the state after it. -/
def Service.answer (service : Service) (request : Request) (s : State) : Response × State :=
  match findRoute (segments request.target) with
  | none => (.ofError .noSuchRoute, s)
  | some m =>
    match readMethod request.method with
    | none => (.text 405 "", s)
    | some (method, bodiless) =>
      match m.route.actions.lookup method with
      | none => (.text 405 "", s)
      | some action =>
        let (response, s) := service.act m action request s
        (if bodiless then response.withoutBody else response, s)

end ClusterRegistry.Http
