/-
# Fixtures

Keys, policies and principals for tests, the same on every run.
-/
import BearerBridge.Policy
import BearerBridge.Principal

namespace BearerBridge.Fixture

/-! ## Keys and policies -/

/-- The issuer and the audience of the signing policy. -/
def party : String := "https://bridge.test"

/-- A key of 32 bytes, another one for each seed. -/
def key (seed : UInt8) : List UInt8 :=
  (List.range 32).map (fun i => seed * 31 + UInt8.ofNat i * 7)

/-- A policy that signs. -/
def policy : Policy :=
  { Policy.usual with
    issuer := some party
    audience := some party
    signingKey := some (key 1)
    signingAlgorithm := some .hs256 }

/-- A policy that does not sign. -/
def keylessPolicy : Policy := Policy.usual

/-! ## Principals -/

/-- A name without its domain. -/
def shortName (name : String) : String :=
  ((splitOnce? '\\' name).map (·.2)).getD name

/-- A principal whose only claim is its short name. -/
def principal (name : String) : Principal :=
  ⟨name, "Negotiate", [⟨Kind.name, shortName name⟩]⟩

/-- The principal with another authentication type. -/
def setAuthenticationType (type : String) (p : Principal) : Principal :=
  { p with authenticationType := type }

/-- The principal with a claim more. -/
def addClaim (kind value : String) (p : Principal) : Principal :=
  { p with claims := p.claims ++ [⟨kind, value⟩] }

/-- The principal in more groups. -/
def addGroups (groups : List String) (p : Principal) : Principal :=
  { p with claims := p.claims ++ groups.map (Claim.mk Kind.group) }

end BearerBridge.Fixture
