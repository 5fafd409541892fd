/-
# Handshakes

The exchange with the client happens outside; the bridge asks an authenticator whom the
handshake verified.  The authenticator in use trusts headers that a fronting proxy adds, and
only when the request comes from the proxy's address.

* `Proxy.authenticate` : the principal that a trusted proxy asserts;
* `Proxy.trusts_mapped` : trust depends on canonical addresses only.
-/
import BearerBridge.Http.Message
import BearerBridge.Principal
import BearerBridge.Trace

namespace BearerBridge

/-- Tells whom the handshake verified: nobody, a principal, or a fault of the infrastructure. -/
abbrev Authenticator := Http.Request → Traced (Except Failure (Option Principal))

/-! ## Asserted identities -/

/-- The names of the headers that a proxy adds. -/
structure AssertionHeaders where
  user : String
  authenticationType : String
  groups : String
  deriving DecidableEq, Repr

namespace AssertionHeaders

/-- The usual names. -/
def usual : AssertionHeaders := ⟨"x-remote-user", "x-remote-auth-type", "x-remote-groups"⟩

/-- A header name from the settings, blanks and case aside. -/
def parseName (s : String) : Except Failure String :=
  match Http.headerName? (trim s) with
  | some name => .ok name
  | none =>
    .error (.configuration
      ("invalid handshake header name '" ++ s ++ "': invalid HTTP header name"))

/-- The three names from the settings; the first that is none decides the failure. -/
def parse (user authenticationType groups : String) : Except Failure AssertionHeaders := do
  return ⟨← parseName user, ← parseName authenticationType, ← parseName groups⟩

/-- The description of the names. -/
def describe (h : AssertionHeaders) : String :=
  describedRecord "ProxyHeaders" [("user", quoted h.user),
    ("authentication_type", quoted h.authenticationType), ("groups", quoted h.groups)]

end AssertionHeaders

/-- A proxy that is trusted on certain addresses. -/
structure Proxy where
  trusted : List Address
  headers : AssertionHeaders
  deriving DecidableEq, Repr

namespace Proxy

/-- Whether an address is one of the proxy's, in canonical form. -/
def trusts (proxy : Proxy) (peer : Address) : Bool :=
  proxy.trusted.any (·.canonical == peer.canonical)

/-- The authentication type of a proxy that states none. -/
def defaultAuthenticationType : String := "Negotiate"

/-- A header trimmed, when it reads as text and is not blank. -/
def header? (hs : Http.Headers) (name : String) : Option String :=
  (hs.text? name).bind nonBlank?

/-- The principal that the headers assert for a user. -/
def asserted (proxy : Proxy) (hs : Http.Headers) (user : String) : Principal where
  name := user
  authenticationType :=
    (header? hs proxy.headers.authenticationType).getD defaultAuthenticationType
  claims := ⟨Kind.name, user⟩
    :: ((header? hs proxy.headers.groups).map commaList |>.getD []).map (Claim.mk Kind.group)

/-- The principal that a trusted proxy asserts.  An assertion by anybody else is reported and
ignored. -/
def authenticate (proxy : Proxy) : Authenticator := fun r => do
  match header? r.headers proxy.headers.user with
  | none => return .ok none
  | some user =>
    if r.peer.any proxy.trusts then return .ok (some (proxy.asserted r.headers user))
    else
      Traced.event (.untrustedPeer r.peer)
      return .ok none

/-- **Trust depends on canonical addresses only.** -/
theorem trusts_mapped (proxy : Proxy) (peer : Address) :
    proxy.trusts peer.mapped = proxy.trusts peer := by
  simp [trusts, Address.canonical_mapped]

end Proxy

/-! ## A handshake for tests -/

namespace TestHandshake

/-- The header that names the principal. -/
def userHeader : String := "x-test-handshake"

/-- The header that lists the groups. -/
def groupsHeader : String := "x-test-groups"

/-- The groups of a list with commas, empty ones left out. -/
def groupsOf (list : String) : List String :=
  ((splitAll ',' list.toList).filter (· ≠ [])).map String.ofList

/-- Takes a header's word for it, whoever sends it. -/
def authenticate : Authenticator := fun r =>
  return .ok ((r.headers.text? userHeader).map fun name => {
    name
    authenticationType := "Negotiate"
    claims := ⟨Kind.name, name⟩
      :: ((r.headers.text? groupsHeader).map groupsOf |>.getD []).map (Claim.mk Kind.group) })

end TestHandshake

end BearerBridge
