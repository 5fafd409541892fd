/-
# Issuing tokens

An issuer turns a principal into a token under a policy.  Hooks may shape the claims on the way,
but the reserved claim has to come out as it went in.

* `Policy.claimsFor` : the claims of the token for a principal;
* `Policy.issue` : the token, no hook run;
* `Issuer.issue` : the token after all hooks, with what is reported on the way.
-/
import BearerBridge.Principal
import BearerBridge.Token.Signature
import BearerBridge.Trace

namespace BearerBridge

/-! ## One token -/

/-- Whether a principal lacks what every token states. -/
def Principal.isNameless (p : Principal) : Bool :=
  isBlank p.name || p.authenticationType == ""

namespace Policy

/-- The claims of the token for a principal that has all that a token states. -/
def statedClaims (policy : Policy) (p : Principal) (now : Int64) : TokenClaims where
  issuer := policy.issuer
  audience := policy.audience
  subject := canonicalName p.name
  notBefore := now
  issuedAt := now
  expiry := Instant.after now policy.lifetime
  claims := p.outgoing ++ [⟨policy.authenticationTypeClaim, p.authenticationType⟩]

/-- The claims of the token for a principal. -/
def claimsFor (policy : Policy) (p : Principal) (now : Int64) : Except Failure TokenClaims :=
  if p.isNameless then .error .internal
  else
    match reservedClaimFault? policy.authenticationTypeClaim with
    | some reason => .error (.configuration ("authentication type claim " ++ reason))
    | none => .ok (policy.statedClaims p now)

/-- Claims as a token, signed when the policy has key and algorithm. -/
def encode (policy : Policy) (c : TokenClaims) : String :=
  match policy.signing? with
  | some (key, algorithm) => Token.sign c key algorithm
  | none => Token.writeUnsecured c

/-- The token for a principal. -/
def issue (policy : Policy) (p : Principal) (now : Int64) : Except Failure String :=
  (policy.claimsFor p now).map policy.encode

end Policy

/-! ## Issuers -/

/-- A step that shapes the claims of every token: it may replace them or refuse issuance. -/
abbrev Issuer.Hook := Principal → TokenClaims → Except Failure TokenClaims

/-- A policy with hooks. -/
structure Issuer where
  policy : Policy
  hooks : List Issuer.Hook

namespace Issuer

/-- An issuer without hooks. -/
def ofPolicy (policy : Policy) : Traced Issuer := do
  Traced.eventIf (!policy.isSigned) .unsignedIssuer
  return ⟨policy, []⟩

/-- The issuer with one more hook, which runs last. -/
def addHook (issuer : Issuer) (hook : Hook) : Issuer :=
  { issuer with hooks := issuer.hooks ++ [hook] }

/-- The claims after all hooks. -/
def shape (hooks : List Hook) (p : Principal) (c : TokenClaims) :
    Except Failure TokenClaims :=
  hooks.foldlM (fun c hook => hook p c) c

/-- Whether the reserved claim is there once, with the principal's authentication type. -/
def keepsReserved (reserved : String) (p : Principal) (c : TokenClaims) : Bool :=
  c.claims.count reserved == 1 && c.claims.first? reserved == some p.authenticationType

/-- The claims of the token for a principal, after all hooks. -/
def shapedClaims (issuer : Issuer) (p : Principal) (now : Int64) : Except Failure TokenClaims :=
  issuer.policy.claimsFor p now >>= shape issuer.hooks p

/-- The token after all hooks, and the reports of faults. -/
def encode (issuer : Issuer) (p : Principal) (now : Int64) : Traced (Except Failure String) := do
  Traced.eventIf p.isNameless .namelessPrincipal
  match issuer.shapedClaims p now with
  | .error why => return .error why
  | .ok c =>
    if keepsReserved issuer.policy.authenticationTypeClaim p c then
      return .ok (issuer.policy.encode c)
    else
      Traced.event .alteredReservedClaim
      return .error .internal

/-- Issues a token; `micros` is how long that took. -/
def issue (issuer : Issuer) (p : Principal) (now : Int64) (micros : Nat) :
    Traced (Except Failure String) := do
  let result ← issuer.encode p now
  match result with
  | .ok _ =>
    Traced.measure (.issuance "success" micros)
    Traced.event (.tokenIssued (correlation p.name) p.authenticationType
      (Instant.after now issuer.policy.lifetime) issuer.policy.isSigned)
  | .error why =>
    Traced.measure (.issuance "error" micros)
    Traced.event (.issuanceFailed (correlation p.name) why)
  return result

/-- The description of an issuer. -/
def describe (issuer : Issuer) : String :=
  describedRecord "TokenIssuer"
    [("policy", issuer.policy.describe), ("hooks", toString issuer.hooks.length)]

end Issuer

end BearerBridge
