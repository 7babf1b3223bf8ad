import ClusterRegistry.Config.Basic
import ClusterRegistry.Config.Setting
import ClusterRegistry.Json.Reader
import ClusterRegistry.Text.Basic

/-!
# Loading a configuration

A configuration is loaded from three sources, each a list of assignments: the defaults, a file
if there is one, and the variables of the environment whose names start with `RIOOS__`. The
keys at the top of a file are paths, and so is the rest of such a name, where two underscores
stand for a point. Letter case does not matter in either.
-/

namespace ClusterRegistry.Config

open Setting

/-- The setting of an optional value. -/
def settingOf {α : Type} (f : α → Setting) : Option α → Setting
  | none => .nothing
  | some a => f a

/-- The assignment of a setting to a path of keys. -/
def assignment (keys : List String) (v : Setting) : Assignment := ⟨keys.map .key, v⟩

/-- The assignments that make a configuration. -/
def assignments (c : Config) : List Assignment := [
    assignment ["server", "host"] (.text c.server.host),
    assignment ["server", "port"] (.integer c.server.port.toNat),
    assignment ["database", "connection_string"]
      (settingOf .text c.database.connectionString),
    assignment ["database", "max_connections"]
      (settingOf (fun n => .integer n.toNat) c.database.maxConnections),
    assignment ["storage", "backend"] (.text c.storage.backend.name),
    assignment ["api", "version"] (.text c.api.version),
    assignment ["api", "aggregate_timeout_ms"] (.integer c.api.aggregateTimeoutMs.toNat),
    assignment ["api", "max_replicas"] (.integer c.api.maxReplicas.toNat)] ++
  c.auth.tokens.entries.map fun e => assignment ["auth", "tokens", Text.lower e.1] (.text e.2)

/-- What the names of variables start with, in lower case. -/
def variableStart : String := "rioos__"

/-- Two underscores in a row made a point, from the left. -/
def pointSeparators : List Char → List Char
  | '_' :: '_' :: rest => '.' :: pointSeparators rest
  | c :: rest => c :: pointSeparators rest
  | [] => []

/-- The path of the setting that a variable is about, if it is about one. -/
def variablePath (name : String) : Option Path :=
  let cs := (Text.lower name).toList
  if variableStart.toList.isPrefixOf cs then
    some (.ofKey (String.ofList (pointSeparators (cs.drop variableStart.length))))
  else none

/-- The assignment that a variable makes. -/
def ofVariable (entry : String × String) : Option Assignment :=
  (variablePath entry.1).map fun path => ⟨path, .text entry.2⟩

/-- The assignments that a file makes: one per key at its top. -/
def ofFile (content : String) : Option (List Assignment) :=
  match (Json.Payload.ofText content).value with
  | .ok (.object members) =>
    some (members.map fun m => ⟨.ofKey (Text.lower m.1), .ofJson m.2⟩)
  | _ => none

/-- The backend of a name, whatever its case. -/
def backendOf (name : String) : Option StorageBackend :=
  (StorageBackend.known.find? fun k => k.1 == Text.lower name).map (·.2)

/-- The backend that a setting says, a name or a table with a name as its only key. -/
def backend? : Setting → Option StorageBackend
  | .text s => backendOf s
  | .table [(name, _)] => backendOf name
  | _ => none

/-- A setting read with a default where it is absent. -/
def optional {α : Type} (es : List (String × Setting)) (key : String)
    (read : Setting → Option α) : Option (Option α) :=
  match find? key es with
  | none => some none
  | some s => orNothing read s

/-- A setting that must be there. -/
def needed {α : Type} (es : List (String × Setting)) (key : String)
    (read : Setting → Option α) : Option α := do
  read (← find? key es)

/-- The configuration that settings say. -/
def ofSettings (s : Setting) : Option Config := do
  let server ← needed s.entries "server" (record? ServerConfig.shape.keys)
  let database ← needed s.entries "database" (record? DatabaseConfig.shape.keys)
  let storage ← needed s.entries "storage" (record? StorageConfig.shape.keys)
  let api ← needed s.entries "api" (record? ApiConfig.shape.keys)
  let auth ← needed s.entries "auth" (record? AuthConfig.shape.keys)
  let tokens ← needed auth "tokens" table?
  let tokens ← tokens.mapM fun e => (text? e.2).map fun t => (e.1, t)
  return {
    server :=
      { host := ← needed server "host" text?
        port := .ofNat (← needed server "port" (word? 16)) }
    database :=
      { connectionString := ← optional database "connection_string" text?
        maxConnections := (← optional database "max_connections" (word? 32)).map .ofNat }
    storage := { backend := ← needed storage "backend" backend? }
    api :=
      { version := ← needed api "version" text?
        aggregateTimeoutMs := .ofNat (← needed api "aggregate_timeout_ms" (word? 64))
        maxReplicas := .ofNat (← needed api "max_replicas" (word? 32)) }
    auth := { tokens := .ofList tokens } }

/-- The configuration of the defaults, a file and the environment, if they make one. -/
def load (environment : List (String × String)) (file : Option String) : Option Config := do
  let fromFile ← match file with
    | none => some []
    | some content => ofFile content
  ofSettings (← ofAssignments
    (assignments {} ++ fromFile ++ environment.filterMap ofVariable))

end ClusterRegistry.Config
