/-
# Why a request is not served

`Rejection` says why a token is not accepted, `Failure` why the bridge as a whole does not do
what it was asked for.  Only a refusal by a hook gives its reason to the client; every other
wording is for the operator.
-/
namespace BearerBridge

/-- Why a token is not accepted. -/
inductive Rejection where
  | signatureInvalid
  | expired
  | notYetValid
  | issuerMismatch
  | audienceMismatch
  | malformed
  deriving DecidableEq, Repr

namespace Rejection

/-- The wording for the operator. -/
def message : Rejection → String
  | signatureInvalid => "token signature is invalid"
  | expired => "token has expired"
  | notYetValid => "token is not yet valid"
  | issuerMismatch => "token issuer does not match"
  | audienceMismatch => "token audience does not match"
  | malformed => "token is malformed"

/-- The label in counters and logs. -/
def label : Rejection → String
  | signatureInvalid => "signature_invalid"
  | expired => "expired"
  | notYetValid => "not_yet_valid"
  | issuerMismatch => "issuer_mismatch"
  | audienceMismatch => "audience_mismatch"
  | malformed => "malformed"

end Rejection

/-- Why the bridge does not do what it was asked for. -/
inductive Failure where
  /-- The request carries no bearer token. -/
  | missingToken
  /-- The bearer token is not accepted. -/
  | invalidToken (why : Rejection)
  /-- The request carries no handshake identity. -/
  | handshakeRequired
  /-- A hook refuses the request. -/
  | forbidden (reason : String)
  /-- The bridge is set up wrongly. -/
  | configuration (reason : String)
  /-- Signing or encoding failed. -/
  | crypto (reason : String)
  /-- A fault inside the bridge. -/
  | internal
  deriving DecidableEq, Repr

namespace Failure

/-- The wording for the operator. -/
def message : Failure → String
  | missingToken => "Missing bearer token"
  | invalidToken why => "Invalid token: " ++ why.message
  | handshakeRequired => "Handshake authentication required"
  | forbidden reason => "Forbidden: " ++ reason
  | configuration reason => "Configuration error: " ++ reason
  | crypto reason => "Cryptographic error: " ++ reason
  | internal => "Internal server error"

/-- The status with which a client is answered. -/
def status : Failure → Nat
  | missingToken => 401
  | invalidToken _ => 401
  | handshakeRequired => 401
  | forbidden _ => 403
  | configuration _ => 500
  | crypto _ => 500
  | internal => 500

end Failure

end BearerBridge
