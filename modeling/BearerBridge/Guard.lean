/-
# Guards

A guarded page is reached with a bearer token or with a handshake.  The guard finds out who the
client is, or why it is turned away.

* `admitBearer` : the identity of a request's bearer token;
* `admitHandshake` : the principal that the handshake verified for a request.
-/
import BearerBridge.Handshake
import BearerBridge.Validator

namespace BearerBridge

/-! ## Bearer tokens -/

/-- The token of a bearer header, the scheme in any case. -/
def bearerToken (hs : Http.Headers) : Traced (Except Failure String) := do
  match hs.text? "authorization" with
  | none =>
    Traced.event .authorizationMissing
    return .error .missingToken
  | some value =>
    match splitOnce? ' ' value with
    | none =>
      Traced.event .authorizationUnreadable
      return .error .missingToken
    | some (scheme, rest) =>
      let token := trim rest
      if Ascii.sameWord scheme "bearer" && token != "" then return .ok token
      else
        Traced.event .authorizationNotBearer
        return .error .missingToken

/-- The identity of a request's bearer token. -/
def admitBearer (v : Validator) (now : Int64) (r : Http.Request) :
    Traced (Except Failure Identity) := do
  match ← bearerToken r.headers with
  | .error f => return .error f
  | .ok token =>
    Traced.consult .validator
    v.validate token now

/-! ## Handshakes -/

/-- The principal that the handshake verified for a request. -/
def admitHandshake (authenticator : Authenticator) (r : Http.Request) :
    Traced (Except Failure Principal) := do
  Traced.consult .authenticator
  match ← authenticator r with
  | .ok (some p) =>
    Traced.measure (.handshake "success")
    Traced.event (.handshakeAccepted (correlation p.name) p.authenticationType)
    return .ok p
  | .ok none =>
    Traced.measure (.handshake "challenged")
    Traced.event .handshakeRequired
    return .error .handshakeRequired
  | .error f =>
    Traced.measure (.handshake "error")
    Traced.event (.handshakeFailed f)
    return .error f

end BearerBridge
