/-
# Failures as responses

What a client is told when it is not served: a word and a sentence that depend on the kind of
failure only, and how to authenticate when that would help.

* `Failure.response` : the response that a failure is answered with.
-/
import BearerBridge.Failure
import BearerBridge.Http.Message

namespace BearerBridge.Failure

/-- The word for a failure that a client is told. -/
def code : Failure → String
  | missingToken => "MISSING_TOKEN"
  | invalidToken _ => "INVALID_TOKEN"
  | handshakeRequired => "HANDSHAKE_REQUIRED"
  | forbidden _ => "FORBIDDEN"
  | configuration _ => "CONFIGURATION_ERROR"
  | crypto _ => "CRYPTO_ERROR"
  | internal => "INTERNAL_ERROR"

/-- The wording for the client: only a refusal by a hook gives its reason. -/
def clientMessage : Failure → String
  | missingToken => "A bearer token is required"
  | invalidToken _ => "The bearer token is invalid"
  | handshakeRequired => "Negotiate authentication is required"
  | forbidden reason => reason
  | configuration _ => "The service is misconfigured"
  | crypto _ => "An internal cryptographic error occurred"
  | internal => "An internal error occurred"

/-- The status of the answer, in a table of its own beside `status`. -/
def answerStatus : Failure → Nat
  | missingToken => 401
  | invalidToken _ => 401
  | handshakeRequired => 401
  | forbidden _ => 403
  | configuration _ => 500
  | crypto _ => 500
  | internal => 500

/-- How the client is asked to authenticate. -/
def challenge? : Failure → Option String
  | missingToken => some "Bearer realm=\"token-bridge\""
  | invalidToken _ => some "Bearer realm=\"token-bridge\", error=\"invalid_token\""
  | handshakeRequired => some "Negotiate"
  | _ => none

/-- The response that a failure is answered with. -/
def response (f : Failure) : Http.Response :=
  let r := Http.Response.json f.answerStatus
    [("error", .object [("code", .text f.code), ("message", .text f.clientMessage)])]
  match f.challenge? with
  | some challenge => r.withHeader "www-authenticate" challenge
  | none => r

end BearerBridge.Failure
