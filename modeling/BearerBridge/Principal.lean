/-
# Principals

A principal is who the handshake says the client is.  Its name has the form `DOMAIN\user`; in
tokens it appears in the canonical form `user@DOMAIN`.

* `canonicalName` : the canonical form of a name;
* `Principal.outgoing` : the claims that travel inside a token.
-/
import BearerBridge.Claim
import BearerBridge.Crypto.Sha2
import BearerBridge.Text.Quoted
import BearerBridge.Text.Split
import BearerBridge.Text.Utf8

namespace BearerBridge

/-! ## Names -/

/-- The canonical form of a name: what stands after the first backslash, an at sign, and what
stands before it.  A name without a part on either side is canonical already. -/
def canonicalName (name : String) : String :=
  match atFirst? '\\' name.toList with
  | some (domain, user) =>
    if domain = [] ∨ user = [] then name else String.ofList (user ++ '@' :: domain)
  | none => name

/-- A text that stands for a name in logs: the first four bytes of its digest. -/
def correlation (name : String) : String :=
  String.ofList (Ascii.hex ((Sha2.Algorithm.sha256.digest (Utf8.ofString name)).take 4))

/-! ## Principals -/

/-- Who the handshake says the client is. -/
structure Principal where
  name : String
  authenticationType : String
  claims : ClaimSet
  deriving DecidableEq, Repr

namespace Principal

/-- The claims that travel inside a token. -/
def outgoing (p : Principal) : ClaimSet :=
  p.claims.keepKinds Kind.isBridged

/-- A description that tells neither the name nor any claim. -/
def describe (p : Principal) : String :=
  describedRecord "Principal" [
    ("name", quoted "[REDACTED]"), ("authentication_type", quoted p.authenticationType),
    ("claims", toString p.claims.length)]

end Principal

/-- The claims that a summary shows: group memberships are left out unless they are asked
for. -/
def ClaimSet.shown (cs : ClaimSet) (keepGroups : Bool) : ClaimSet :=
  if keepGroups then cs else cs.withoutKind Kind.group

end BearerBridge
