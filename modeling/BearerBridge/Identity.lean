/-
# Identities

An identity is who a token says the client is.  It is rebuilt from the claims of the token in
one step, and hooks may add to it or refuse it.
-/
import BearerBridge.Failure
import BearerBridge.Text.Blank
import BearerBridge.Token.Claims

namespace BearerBridge

/-- Who a token says the client is. -/
structure Identity where
  canonicalName : String
  authenticationType : String
  /-- The claims that came from the principal, without the reserved one. -/
  claims : ClaimSet
  /-- Every claim of the token. -/
  tokenClaims : ClaimSet
  expiresAt : Int64
  deriving DecidableEq, Repr

namespace Identity

/-- The authentication type that claims state: the first value of the reserved kind, or else the
default; an empty text states none. -/
def authenticationType? (claims : ClaimSet) (reserved : String) (default : Option String) :
    Option String :=
  ((claims.first? reserved).or default).filter (· != "")

/-- The identity that the claims of a token state. -/
def ofTokenClaims (token : TokenClaims) (reserved : String) (default : Option String) :
    Except Rejection Identity :=
  if isBlank token.subject then .error .malformed
  else
    match authenticationType? token.claims reserved default with
    | none => .error .malformed
    | some authenticationType =>
      .ok {
        canonicalName := token.subject
        authenticationType
        claims := token.claims.withoutKind reserved
        tokenClaims := token.allClaims
        expiresAt := token.expiry }

/-- The identity with one more claim. -/
def addClaim (i : Identity) (c : Claim) : Identity :=
  { i with claims := i.claims ++ [c] }

end Identity

end BearerBridge
