import ClusterRegistry.Error
import ClusterRegistry.Fingerprint
import ClusterRegistry.Text.Basic

/-!
# Credentials

A request proves who it comes from by a bearer token and an email address. With a table of
tokens, the token must be in it and belong to that address; without one, any token will do.
How a request without both headers is turned away depends on the kind it is about; every
other fault is answered as unauthorized.
-/

namespace ClusterRegistry

/-- Who a request comes from. -/
structure Identity where
  email : String
  tokenFingerprint : String
deriving DecidableEq

/-- The texts of the two headers that carry credentials, where they are present. -/
structure Credentials where
  authorization : Option String
  email : Option String

/-- The token in an authorization text: what follows the scheme, if the scheme is `bearer`. -/
def bearerToken? (authorization : String) : Option String :=
  match Text.splitFirst ' ' (Text.trimChars authorization.toList) with
  | none => none
  | some (scheme, rest) =>
    let token := Text.trimChars rest
    if Text.sameIgnoringCase (String.ofList scheme) "bearer" && !token.isEmpty then
      some (String.ofList token)
    else none

/-- Whether a table of tokens lets a token be used with an address. -/
def permits (tokens : Table String String) (token email : String) : Bool :=
  tokens.isEmpty || (tokens.get? token).any (Text.sameIgnoringCase · email)

/-- The fault in credentials that are refused as unauthorized. -/
def refuse {α : Type} (fault : CredentialFault) : Except ApiError α :=
  .error (.refused .unauthorized fault)

/-- Who a request about a kind comes from. -/
def authenticate (tokens : Table String String) (kind : Option Kind) (c : Credentials) :
    Except ApiError Identity :=
  match c.authorization, c.email with
  | none, none => .error (.refused ((kind.map (·.row.gate)).getD .unauthorized) .absent)
  | none, some _ => refuse .noAuthorization
  | some _, none => refuse .noEmail
  | some authorization, some rawEmail =>
    let email := Text.trim rawEmail
    match bearerToken? authorization with
    | none => refuse .notBearer
    | some token =>
      if email = "" then refuse .emptyEmail
      else if permits tokens token email then .ok ⟨email, Fingerprint.ofToken token⟩
      else refuse .invalid

end ClusterRegistry
