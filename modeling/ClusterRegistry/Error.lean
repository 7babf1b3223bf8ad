import ClusterRegistry.Id
import ClusterRegistry.Kind

/-!
# Why a request fails

An `ApiError` names the cause of a failure. Its category, status code and wording are
functions of the cause, so that no other place decides what a client is told.
-/

namespace ClusterRegistry

/-- Why the store refuses a batch. -/
inductive StoreError
  | unassigned (kind : Kind) (name : String)
  | taken (kind : Kind) (id : Id)
deriving DecidableEq

/-- The wording of a refusal. -/
def StoreError.message : StoreError → String
  | .unassigned kind name => kind.name ++ " '" ++ name ++ "' has no id"
  | .taken kind id => kind.name ++ " " ++ id.digits ++ " already exists"

/-- Why there are no readings for a factory. -/
inductive MetricsFault
  | unavailable (factory : Id)
deriving DecidableEq

/-- The wording of missing readings. -/
def MetricsFault.message : MetricsFault → String
  | .unavailable factory => "no metrics source available for factory " ++ factory.digits

/-- What is wrong with the credentials of a request. -/
inductive CredentialFault
  | absent
  | noAuthorization
  | noEmail
  | notBearer
  | emptyEmail
  | invalid
deriving DecidableEq

/-- The wording of a fault in the credentials. -/
def CredentialFault.message : CredentialFault → String
  | .absent => "credential headers required"
  | .noAuthorization => "missing Authorization header"
  | .noEmail => "missing X-AUTH-RIOOS-EMAIL header"
  | .notBearer => "expected a bearer token"
  | .emptyEmail => "empty X-AUTH-RIOOS-EMAIL header"
  | .invalid => "invalid credentials"

/-- Why a request fails. -/
inductive ApiError
  | malformedBody (cause : Mismatch)
  /-- Requirements that a payload does not meet, by their paths. -/
  | missingParameters (paths : List String)
  | ownerNotAllowed (child : Kind) (named : String)
  | notAnId (field uid : String)
  | ownerUnresolved (uid : String) (child : Kind)
  | referenceUnresolved (field : String) (kind : Kind) (uid : String)
  | noFactoryOwner (policy : Kind) (id : Id)
  | idNotNumeric (raw : String)
  | accountNotNumeric (raw : String)
  /-- Well-formed digits that no resource can have as its id. -/
  | unassignable (kind : Kind) (raw : String)
  | notStored (kind : Kind) (id : Id)
  | noneStored (kind : Kind)
  | noneInAccount (kind : Kind) (account : String)
  | noneUnder (kind parent : Kind) (id : Id)
  | nothingToDescribe (kind : Kind)
  | noSuchRoute
  /-- Credentials that are refused, and the way in which they are. -/
  | refused (gate : Gate) (fault : CredentialFault)
  | storeRefused (cause : StoreError)
  /-- A resource of one kind that the store keeps under another one. -/
  | misfiled (found : Kind) (collection : String)
  | metricsFailed (policy : Id) (cause : MetricsFault)

/-- The kinds of failures that clients tell apart. -/
inductive ErrorCategory
  | malformedBody
  | badRequest
  | mustBeNumeric
  | notFound
  | unauthorized
  | notAcceptable
  | internal
deriving DecidableEq

/-- The name of a category. -/
def ErrorCategory.name : ErrorCategory → String
  | .malformedBody => "MalformedBody"
  | .badRequest => "BadRequest"
  | .mustBeNumeric => "MustBeNumeric"
  | .notFound => "NotFound"
  | .unauthorized => "Unauthorized"
  | .notAcceptable => "NotAcceptable"
  | .internal => "InternalError"

/-- The status code of a category. -/
def ErrorCategory.code : ErrorCategory → Nat
  | .malformedBody | .badRequest | .mustBeNumeric => 400
  | .notFound => 404
  | .unauthorized => 401
  | .notAcceptable => 406
  | .internal => 500

/-- The phrase that goes with the status code of a category. -/
def ErrorCategory.phrase : ErrorCategory → String
  | .malformedBody | .badRequest | .mustBeNumeric => "Bad Request"
  | .notFound => "Not Found"
  | .unauthorized => "Unauthorized"
  | .notAcceptable => "Not Acceptable"
  | .internal => "Internal Server Error"

/-- The category in which requests without credentials are turned away. -/
def Gate.category : Gate → ErrorCategory
  | .unauthorized => .unauthorized
  | .notAcceptable => .notAcceptable

namespace ApiError

/-- The category of a failure. -/
def category : ApiError → ErrorCategory
  | .malformedBody _ => .malformedBody
  | .missingParameters _ | .ownerNotAllowed _ _ | .notAnId _ _ | .ownerUnresolved _ _
  | .referenceUnresolved _ _ _ | .noFactoryOwner _ _ => .badRequest
  | .idNotNumeric _ | .accountNotNumeric _ => .mustBeNumeric
  | .unassignable _ _ | .notStored _ _ | .noneStored _ | .noneInAccount _ _
  | .noneUnder _ _ _ | .nothingToDescribe _ | .noSuchRoute => .notFound
  | .refused gate _ => gate.category
  | .storeRefused _ | .misfiled _ _ | .metricsFailed _ _ => .internal

/-- The wording of a failure. -/
def message : ApiError → String
  | .malformedBody cause => "Malformed body: " ++ cause.message
  | .missingParameters paths => "Missing parameter: " ++ Text.quotedList paths
  | .ownerNotAllowed child named => child.name ++ " cannot be owned by " ++ named
  | .notAnId field uid => field ++ " is not a valid id: " ++ uid
  | .ownerUnresolved uid child =>
    "owner reference " ++ uid ++ " does not resolve for " ++ child.name
  | .referenceUnresolved field kind uid =>
    field ++ " references unknown " ++ kind.name ++ " " ++ uid
  | .noFactoryOwner policy id =>
    policy.name ++ " " ++ id.digits ++ " has no AssemblyFactory owner"
  | .idNotNumeric raw => "Must be numeric: id " ++ raw
  | .accountNotNumeric raw => "Must be numeric: account " ++ raw
  | .unassignable kind raw => kind.name ++ " " ++ raw ++ " not found"
  | .notStored kind id => kind.name ++ " " ++ id.digits ++ " not found"
  | .noneStored kind => "no " ++ kind.name ++ " found"
  | .noneInAccount kind account => "no " ++ kind.name ++ " in account " ++ account
  | .noneUnder kind parent id => "no " ++ kind.name ++ " for " ++ parent.name ++ " " ++ id.digits
  | .nothingToDescribe kind => kind.name ++ " has nothing to describe"
  | .noSuchRoute => "no such route"
  | .refused _ fault => fault.message
  | .storeRefused cause => cause.message
  | .misfiled found collection => "stored " ++ found.name ++ " under " ++ collection
  | .metricsFailed policy _ => "Failed to read metrics for " ++ policy.digits

/-- The wording of a failure with everything that led to it. -/
def fullMessage : ApiError → String
  | .metricsFailed policy cause =>
    (metricsFailed policy cause).message ++ ": " ++ cause.message
  | e => e.message

end ApiError

end ClusterRegistry
