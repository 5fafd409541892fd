/-
# Credentials

A client keeps the token that the bridge issued to it together with the instant at which it
expires.  The client reads that instant without verifying anything: the bridge decides whether
the token is good.

* `Credential.ofToken` : the credential of a token, or why the token is of no use;
* `Credential.attach` : a request's headers with the credential, unless they carry one already.
-/
import BearerBridge.Http.Message
import BearerBridge.Secret
import BearerBridge.Text.Span
import BearerBridge.Token.Signature

namespace BearerBridge

/-! ## Faults -/

/-- Why a client gets no credential, or no response. -/
inductive ClientFault where
  /-- The token page cannot be reached. -/
  | transport (reason : String)
  /-- The token page refuses the client. -/
  | rejected (status : Nat)
  /-- The token page answers with something that is of no use. -/
  | invalidToken (reason : String)
  /-- The token page answers with a token of the past. -/
  | alreadyExpired (expiresAt : Int64)
  /-- The token page takes longer than so many milliseconds. -/
  | timedOut (millis : Nat)
  /-- The request itself fails. -/
  | requestFailed (reason : String)
  | configuration (reason : String)
  deriving DecidableEq, Repr

/-- The wording of a fault. -/
def ClientFault.message : ClientFault → String
  | transport reason => "Token endpoint request failed: " ++ reason
  | rejected status => "Token endpoint rejected the request with status " ++ toString status
  | invalidToken reason => "Token endpoint returned an invalid token: " ++ reason
  | alreadyExpired expiresAt =>
    "Token endpoint returned a token that expired at " ++ toString expiresAt.toInt
  | timedOut millis => "Token refresh timed out after " ++ describeMillis millis
  | requestFailed reason => "Request failed: " ++ reason
  | configuration reason => "Configuration error: " ++ reason

/-! ## Credentials -/

/-- A token and the instant at which it expires. -/
structure Credential where
  token : Secret
  expiresAt : Int64
  deriving DecidableEq

namespace Credential

/-- The value of the header that carries a token. -/
def headerOf (token : String) : String :=
  "Bearer " ++ token

/-- The value of the header that carries the credential. -/
def header (c : Credential) : String :=
  headerOf c.token.reveal

/-- A credential expires at its instant, not after it. -/
def isExpired (c : Credential) (now : Int64) : Bool :=
  c.expiresAt ≤ now

/-- The credential of a token: its expiry has to be readable, and a header has to carry it. -/
def ofToken (token : String) : Except ClientFault Credential :=
  match Token.expiry token with
  | .error fault => .error (.invalidToken fault.message)
  | .ok expiresAt =>
    if (Utf8.ofString (headerOf token)).all Http.isValueByte then .ok ⟨⟨token⟩, expiresAt⟩
    else .error (.invalidToken "token is not a valid header value")

/-- The headers of a request with the credential, unless they carry one already. -/
def attach (c : Credential) (hs : Http.Headers) : Http.Headers :=
  match hs.get? "authorization" with
  | some _ => hs
  | none => hs ++ [("authorization", Utf8.ofString c.header)]

/-- The headers of a request after a call for a credential: unchanged when the call failed. -/
def headersAfter (outcome : Except ClientFault Credential) (hs : Http.Headers) : Http.Headers :=
  match outcome with
  | .ok c => c.attach hs
  | .error _ => hs

/-- The description of a credential, its token withheld. -/
def describe (c : Credential) : String :=
  describedRecord "CachedCredential" [
    ("header", quoted "[REDACTED]"), ("expires_at", toString c.expiresAt.toInt),
    ("raw_token", quoted "[REDACTED]")]

end Credential

end BearerBridge
