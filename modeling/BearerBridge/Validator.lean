/-
# Validating tokens

A token is accepted when its algorithm is the policy's, its signature is right, issuer and
audience are the expected ones and the instant lies in its window.  The first of these that fails
is the one reported.

* `Policy.identify` : the identity that a token states at an instant, or why it is rejected;
* `Validator.validate` : the same with hooks, and with what is reported on the way.
-/
import BearerBridge.Identity
import BearerBridge.Principal
import BearerBridge.Token.Signature
import BearerBridge.Trace

namespace BearerBridge

/-! ## The check -/

namespace Policy

/-- The claims of a token whose algorithm and signature are what the policy asks for. -/
def authenticate (policy : Policy) (token : String) (header : Header) :
    Traced (Except Rejection TokenClaims) := do
  match policy.signing? with
  | some (key, algorithm) =>
    if header.isUnsecured || header.algorithm != algorithm.name then
      Traced.event (.otherAlgorithm header.algorithm algorithm)
      return .error .signatureInvalid
    else return Token.verify token key algorithm
  | none =>
    if !header.isUnsecured then
      Traced.event (.unexpectedSignature header.algorithm)
      return .error .signatureInvalid
    else return (Token.readUnsecured token).mapError (fun _ => .malformed)

/-- The identity that authenticated claims state at an instant. -/
def accept (policy : Policy) (c : TokenClaims) (now : Int64) : Except Rejection Identity :=
  if policy.issuer.isSome && c.issuer != policy.issuer then .error .issuerMismatch
  else if policy.audience.isSome && c.audience != policy.audience then .error .audienceMismatch
  else if c.expiry ≤ now then .error .expired
  else if now < c.notBefore then .error .notYetValid
  else Identity.ofTokenClaims c policy.authenticationTypeClaim policy.defaultAuthenticationType

/-- The identity that a token states at an instant, with the reports about its algorithm. -/
def check (policy : Policy) (token : String) (now : Int64) :
    Traced (Except Rejection Identity) := do
  match Token.header token with
  | .error _ => return .error .malformed
  | .ok header =>
    let claims ← policy.authenticate token header
    return claims >>= (policy.accept · now)

/-- The identity that a token states at an instant. -/
def identify (policy : Policy) (token : String) (now : Int64) : Except Rejection Identity :=
  (policy.check token now).value

end Policy

/-! ## Validators -/

/-- A step that runs on every identity: it may replace it or refuse the request. -/
abbrev Validator.Hook := Identity → Except Failure Identity

/-- A policy with hooks. -/
structure Validator where
  policy : Policy
  hooks : List Validator.Hook

namespace Validator

/-- A validator without hooks. -/
def ofPolicy (policy : Policy) : Validator := ⟨policy, []⟩

/-- The validator with one more hook, which runs last. -/
def addHook (v : Validator) (hook : Hook) : Validator :=
  { v with hooks := v.hooks ++ [hook] }

/-- The identity after all hooks. -/
def runHooks (hooks : List Hook) (i : Identity) : Except Failure Identity :=
  hooks.foldlM (fun i hook => hook i) i

/-- Validates a token and passes its identity through every hook. -/
def validate (v : Validator) (token : String) (now : Int64) :
    Traced (Except Failure Identity) := do
  let result ← v.policy.check token now
  match result with
  | .ok i =>
    Traced.measure (.validation "success" none)
    Traced.event (.tokenValidated (correlation i.canonicalName) i.authenticationType)
    return runHooks v.hooks i
  | .error why =>
    Traced.measure (.validation "error" (some why.label))
    Traced.event (.tokenRejected why)
    return .error (.invalidToken why)

/-- The description of a validator. -/
def describe (v : Validator) : String :=
  describedRecord "TokenValidator"
    [("policy", v.policy.describe), ("hooks", toString v.hooks.length)]

end Validator

end BearerBridge
